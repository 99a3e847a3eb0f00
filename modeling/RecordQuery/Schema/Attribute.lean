import RecordQuery.Schema.Token

/-!
# Attributes

An attribute is a path, alone or with a list of tokens in brackets or with a value. Which tokens
make up attributes is for a grammar to say.
-/

namespace RecordQuery.Schema

def keywords : List String :=
  ["_", "abstract", "as", "async", "await", "become", "box", "break", "const", "continue", "crate",
    "do", "dyn", "else", "enum", "extern", "false", "final", "fn", "for", "if", "impl", "in", "let",
    "loop", "macro", "match", "mod", "move", "mut", "override", "priv", "pub", "ref", "return",
    "Self", "self", "static", "struct", "super", "trait", "true", "try", "type", "typeof", "unsafe",
    "unsized", "use", "virtual", "where", "while", "yield"]

def pathKeywords : List String := ["super", "self", "Self", "crate"]

def isSegment (name : String) : Bool := !keywords.contains name || pathKeywords.contains name

structure Path where
  fromRoot : Bool
  segments : List String

def Path.isName (p : Path) (name : String) : Bool := !p.fromRoot && p.segments == [name]

inductive Attribute where
  | word (p : Path)
  | list (p : Path) (tokens : List Token)
  /-- A path with a value, which is kept if it is a string literal. -/
  | value (p : Path) (text : Option String)

def Attribute.path : Attribute → Path
  | .word p => p
  | .list p _ => p
  | .value p _ => p

/-- How attributes are read off their tokens. Where this fails a message says why. -/
class Grammar where
  item : List Token → Except String (Attribute × List Token)
  list : List Token → Except String (List Attribute)

end RecordQuery.Schema
