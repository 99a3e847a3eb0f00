import RecordQuery.Operator
import RecordQuery.Text.Fold
import RecordQuery.Value.Basic

/-!
# Operators on values

When an operator holds of a field's value and an operand. Ordering operators go by the order of the
two values, text operators compare strings after folding them, and lists element by element.
-/

namespace RecordQuery

def occursIn {α : Type} [BEq α] (needle : List α) : List α → Bool
  | [] => needle.isEmpty
  | a :: rest => needle.isPrefixOf (a :: rest) || occursIn needle rest

def runs {α : Type} (length : Nat) (items : List α) : List (List α) :=
  (List.range (items.length + 1 - length)).map fun i => (items.drop i).take length

namespace Value

/-- Ordering operators. Two values without an order are unequal, and no other operator holds of
them. -/
def satisfies (op : Operator) (subject operand : Value) : Bool :=
  match op with
  | .equal => subject.sameAs operand
  | .notEqual => !subject.sameAs operand
  | op => (subject.compare operand).any op.accepts

variable [CharData]

def matchChars (op : Operator) (subject operand : List Char) : Bool :=
  match op with
  | .beginsWith => operand.isPrefixOf subject
  | .endsWith => operand.isSuffixOf subject
  | .contains => occursIn operand subject
  | _ => false

/-- Whether two list elements count as the same under the flags. -/
def alike (flags : Insensitivity) : Value → Value → Bool
  | .string a, .string b =>
    if flags.isEmpty then (Value.string a).sameAs (.string b)
    else Text.fold flags a == Text.fold flags b
  | a, b => a.sameAs b

def matchRun (flags : Insensitivity) (needle run : List Value) : Bool :=
  (run.zip needle).all fun (a, b) => alike flags a b

def matchItems (op : Operator) (flags : Insensitivity) (items needle : List Value) : Bool :=
  if items.length < needle.length then false
  else
    match op with
    | .beginsWith => matchRun flags needle (items.take needle.length)
    | .endsWith => matchRun flags needle (items.drop (items.length - needle.length))
    | .contains => needle.isEmpty || (runs needle.length items).any (matchRun flags needle)
    | _ => false

def matchText (op : Operator) (flags : Insensitivity) : Value → Value → Bool
  | .string subject, .string operand =>
    matchChars op (Text.foldChars flags subject.toList) (Text.foldChars flags operand.toList)
  | .list items, .list needle => matchItems op flags items needle
  | _, _ => false

end Value

end RecordQuery
