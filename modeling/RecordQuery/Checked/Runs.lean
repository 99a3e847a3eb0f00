import RecordQuery.Value.Match

/-!
# Runs by positions

The text operators on lists with runs that are cut from the subject by positions. They have no
verdict where a position is out of range or a window empty.
-/

namespace RecordQuery

section

variable {α : Type}

/-- The elements from one position up to another. There are none to give if the positions are out
of order or out of range. -/
def slice? (items : List α) (first last : Nat) : Option (List α) :=
  if first ≤ last ∧ last ≤ items.length then some ((items.drop first).take (last - first)) else none

def windows? (length : Nat) (items : List α) : Option (List (List α)) :=
  if length = 0 then none else some (runs length items)

def difference? (m n : Nat) : Option Nat := if n ≤ m then some (m - n) else none

end

/-- Text operators on lists, where a run that cannot be cut leaves no verdict. -/
def Value.matchItems? [CharData] (op : Operator) (flags : Insensitivity)
    (items needle : List Value) : Option Bool :=
  if items.length < needle.length then some false
  else
    match op with
    | .beginsWith => (slice? items 0 needle.length).map (matchRun flags needle)
    | .endsWith =>
      (difference? items.length needle.length).bind fun first =>
        (slice? items first items.length).map (matchRun flags needle)
    | .contains =>
      if needle.isEmpty then some true
      else (windows? needle.length items).map fun all => all.any (matchRun flags needle)
    | _ => some false

end RecordQuery
