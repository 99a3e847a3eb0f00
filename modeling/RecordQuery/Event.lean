import RecordQuery.Operator

/-!
# Log events

What building, rendering and evaluating report besides their results. A `Logged` value carries the
events that arose on the way to it, in order.
-/

namespace RecordQuery

inductive Connective where
  | and
  | or
  | not
deriving DecidableEq

def Connective.keyword : Connective → String
  | .and => "AND"
  | .or => "OR"
  | .not => "NOT"

namespace Connective

def name : Connective → String
  | .and => "And"
  | .or => "Or"
  | .not => "Not"

def ofName? (name : String) : Option Connective := [and, or, not].find? (·.name == name)

end Connective

inductive Level where
  | trace
  | debug
  | warn

def Level.name : Level → String
  | .trace => "TRACE"
  | .debug => "DEBUG"
  | .warn => "WARN"

inductive Fallback where
  | missingSelection
  | missingOperator (field : String)
deriving DecidableEq

inductive Event where
  | operatorIgnored (op : Operator) (position : Nat)
  | compileFallback (reason : Fallback)
  | compoundEvaluated (connective : Connective) (verdict : Bool)
  | likePatternInvalid (glob : String)
deriving DecidableEq

namespace Event

def level : Event → Level
  | .operatorIgnored .. => .debug
  | .compileFallback _ => .trace
  | .compoundEvaluated .. => .trace
  | .likePatternInvalid _ => .warn

def name : Event → String
  | .operatorIgnored .. => "operator_ignored"
  | .compileFallback _ => "compile_fallback"
  | .compoundEvaluated .. => "compound_evaluated"
  | .likePatternInvalid _ => "like_pattern_invalid"

inductive Detail where
  | text (s : String)
  | count (n : Nat)
  | flag (b : Bool)

def details : Event → List (String × Detail)
  | .operatorIgnored op position =>
    [("op", .text ("Some(" ++ op.name ++ ")")), ("position", .count position)]
  | .compileFallback .missingSelection => [("reason", .text "missing_selection")]
  | .compileFallback (.missingOperator field) =>
    [("reason", .text "missing_operator"), ("field", .text field)]
  | .compoundEvaluated connective verdict =>
    [("connective", .text connective.keyword), ("matched", .flag verdict)]
  | .likePatternInvalid glob => [("pattern", .text glob)]

end Event

/-- A value with the events that arose on the way to it. -/
structure Logged (α : Type) where
  value : α
  events : List Event

namespace Logged

variable {α β : Type}

def pure (a : α) : Logged α := ⟨a, []⟩

def bind (x : Logged α) (f : α → Logged β) : Logged β :=
  ⟨(f x.value).value, x.events ++ (f x.value).events⟩

instance : Monad Logged where
  pure := Logged.pure
  bind := Logged.bind

def report (e : Event) : Logged Unit := ⟨(), [e]⟩

end Logged

end RecordQuery
