import RecordQuery.Insensitivity
import RecordQuery.Text.Lowercase
import RecordQuery.Text.Normal

/-!
# Folding

Folding replaces a text by one that no longer shows the differences to be ignored: first the
diacritics, then the case. ASCII text has no diacritics and its letters have lower-case forms of
their own, so the tables are consulted for other text only.
-/

namespace RecordQuery.Text

variable [CharData]

open CharData

def isAscii (s : List Char) : Bool := s.all fun c => c.toNat < 128

def isExtendedLatin (c : Char) : Bool :=
  ((0xC0 ≤ c.toNat && c.toNat ≤ 0x24F) || (0x1E00 ≤ c.toNat && c.toNat ≤ 0x1EFF)) && isAlphabetic c

/-- The base letter of a Latin letter that is spelt with one ASCII letter. Ligatures are spelt with
several and have none. -/
def latinBase (c : Char) : Option Char :=
  if isExtendedLatin c then
    match asciiSpelling c with
    | some [letter] => if letter.isAlpha then some letter else none
    | _ => none
  else none

/-- Removes diacritics and keeps each letter in its script: marks are dropped from the decomposed
form, the rest is composed again, and a Latin letter with a stroke or hook becomes its base
letter. -/
def stripDiacritics (s : List Char) : List Char :=
  (composed ((decomposed s).filter fun c => !isMark c)).map fun c => (latinBase c).getD c

def foldDiacritics (s : List Char) : List Char := if isAscii s then s else stripDiacritics s

def foldCase (s : List Char) : List Char := if isAscii s then s.map Char.toLower else lower s

def foldChars (flags : Insensitivity) (s : List Char) : List Char :=
  let plain := if flags.ignoresDiacritics then foldDiacritics s else s
  if flags.ignoresCase then foldCase plain else plain

def fold (flags : Insensitivity) (s : String) : String := .ofList (foldChars flags s.toList)

end RecordQuery.Text
