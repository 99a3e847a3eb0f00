import RecordQuery.Schema.Token

/-!
# Names of constants

A field's descriptor is a constant named after the field in capitals, with underscores between the
words of the name.
-/

namespace RecordQuery.Schema

open Unicode (CodeIndex)

namespace ConstantName

def uppercaseIndex : CodeIndex := .ofSet Unicode.Property.uppercase

def isUpper (c : Char) : Bool :=
  if c.toNat < 128 then c.isUpper else uppercaseIndex.contains c

/-- The characters that become underscores. -/
def isSeparator (c : Char) : Bool := c == '_' || c == '-' || c == ' ' || c == '.'

/-- The capitals for what follows a character; `afterLower` says whether that one was neither a
separator nor upper-case, so that a capital begins a new word. -/
def capitalize (afterLower : Bool) : List Char → List Char
  | [] => []
  | c :: rest =>
    if isUpper c then (if afterLower then ['_', c] else [c]) ++ capitalize false rest
    else if isSeparator c then '_' :: capitalize false rest
    else c.toUpper :: capitalize true rest

def ofField (name : String) : String := .ofList (capitalize false name.toList)

def isIdentifier (name : String) : Bool :=
  match name.toList with
  | [] => false
  | c :: rest => Lexeme.isStart c && rest.all Lexeme.isContinue

end ConstantName

end RecordQuery.Schema
