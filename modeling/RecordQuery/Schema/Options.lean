import RecordQuery.Schema.Attribute

/-!
# Field options

The first attribute of a field that is named `record` says how the field takes part in queries:
`skip` leaves it out, and `rename` gives it another name.
-/

namespace RecordQuery.Schema

inductive OptionsFault where
  | noArguments
  | noParentheses
  | misplaced (message : String)
  | renameNotText
  | renameEmpty
  | unknown

def OptionsFault.message : OptionsFault → String
  | .noArguments => "expected attribute arguments in parentheses: #[record(...)]"
  | .noParentheses => "expected parentheses: #[record(...)]"
  | .misplaced message => message
  | .renameNotText => "rename must be a string literal"
  | .renameEmpty => "rename must not be empty"
  | .unknown => "unknown record attribute. Expected: skip or rename = \"...\""

structure Options where
  skip : Bool
  rename : Option String
deriving DecidableEq

namespace Options

def default : Options := ⟨false, none⟩

def apply (o : Options) : Attribute → Except OptionsFault Options
  | .word p => if p.isName "skip" then .ok { o with skip := true } else .error .unknown
  | .value p text =>
    if p.isName "rename" then
      match text with
      | none => .error .renameNotText
      | some name =>
        if name.isEmpty then .error .renameEmpty else .ok { o with rename := some name }
    else .error .unknown
  | .list _ _ => .error .unknown

def applyAll (o : Options) : List Attribute → Except OptionsFault Options
  | [] => .ok o
  | a :: rest =>
    match o.apply a with
    | .error e => .error e
    | .ok o => o.applyAll rest

variable [Grammar]

/-- The options in a list of tokens. The whole list is read before any item is looked at. -/
def ofTokens (ts : List Token) : Except OptionsFault Options :=
  match Grammar.list ts with
  | .error message => .error (.misplaced message)
  | .ok items => default.applyAll items

def ofAttribute : Attribute → Except OptionsFault Options
  | .word _ => .error .noArguments
  | .value _ _ => .error .noParentheses
  | .list _ ts => ofTokens ts

def ofAttributes (attributes : List Attribute) : Except OptionsFault Options :=
  match attributes.find? (·.path.isName "record") with
  | none => .ok default
  | some a => ofAttribute a

end Options

end RecordQuery.Schema
