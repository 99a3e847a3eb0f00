/-!
# Engines for regular expressions

What queries ask of an engine for regular expressions: to compile one, to search a string with what
was compiled, and to write a text so that it stands for itself. Queries are stated for any engine.
-/

namespace RecordQuery.Pattern

inductive Fault where
  | malformed (text : String)
  | tooLarge (limit : Nat)
deriving DecidableEq

namespace Fault

def text : Fault → String
  | .malformed text => text
  | .tooLarge limit => "Compiled regex exceeds size limit of " ++ toString limit ++ " bytes."

def message (f : Fault) : String := "invalid pattern: " ++ f.text

end Fault

/-- A compiled expression, of which only the search is used. -/
structure Program where
  isMatch : String → Bool

class Engine where
  compile : String → Except Fault Program
  escape : String → String

end RecordQuery.Pattern
