/-!
# Character data

What the folding of texts has to know about single characters. The rules of folding are stated for
any such data; the tables of the Unicode standard are one instance.
-/

namespace RecordQuery

class CharData where
  isMark : Char → Bool
  /-- The place of a mark among the marks after one base; zero for a character that starts anew. -/
  combiningClass : Char → Nat
  decompose : Char → List Char
  compose : Char → Char → Option Char
  lowercase : Char → List Char
  isCased : Char → Bool
  isCaseIgnorable : Char → Bool
  isAlphabetic : Char → Bool
  /-- The spelling in ASCII that a character has when a text is transliterated, if it has one. -/
  asciiSpelling : Char → Option (List Char)

end RecordQuery
