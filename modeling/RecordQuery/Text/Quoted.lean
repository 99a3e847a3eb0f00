/-!
# Quoted text

A text between quotation marks, in which quotation marks, backslashes and control characters are
escaped. Characters outside ASCII stand for themselves.
-/

namespace RecordQuery.Text

def numberEscape (n : Nat) : List Char :=
  ['\\', 'u', '\x7b'] ++ Nat.toDigits 16 n ++ ['\x7d']

def quoteChar (c : Char) : List Char :=
  if c = '"' then ['\\', '"']
  else if c = '\\' then ['\\', '\\']
  else if c = '\n' then ['\\', 'n']
  else if c = '\r' then ['\\', 'r']
  else if c = '\t' then ['\\', 't']
  else if c.toNat = 0 then ['\\', '0']
  else if c.toNat < 32 ∨ c.toNat = 127 then numberEscape c.toNat
  else [c]

def quote (s : String) : String := .ofList ('"' :: s.toList.flatMap quoteChar ++ ['"'])

end RecordQuery.Text
