import RecordQuery.Predicate

/-!
# Verdicts under quantifiers

The quantifier of a selection goes with its access, so that the verdict of an operation is that of
the quantifier on the value that is reached.
-/

namespace RecordQuery

variable {ρ : Type}

/-- What is reached in a record. The elements of a collection make up a list. -/
def Access.value (r : ρ) : Access ρ → Value
  | .single get => get r
  | .each get => .list (get r)

namespace Quantifier

/-- The verdict on the value of a field, given for which values the operator holds. -/
def verdict (q : Quantifier) (holds : Value → Bool) (v : Value) : Bool :=
  match q with
  | .plain => holds v
  | .negated => !holds v
  | .any => v.elements.any holds
  | .all => v.elements.all holds
  | .noneOf => !v.elements.any holds

theorem verdict_negated (holds : Value → Bool) (v : Value) :
    negated.verdict holds v = !plain.verdict holds v := rfl

theorem verdict_noneOf (holds : Value → Bool) (v : Value) :
    noneOf.verdict holds v = !any.verdict holds v := rfl

theorem verdict_value_of (q : Quantifier) (holds : Value → Bool) (f : Field ρ) (r : ρ) :
    q.verdict holds ((Selector.of f q).access.value r) = q.verdict holds (f.get r) := by
  cases q <;> rfl

end Quantifier

variable [CharData]

theorem Operation.evaluate_of_selector {o : Operation ρ} {s : Selector ρ}
    (h : o.selector? = some s) (r : ρ) :
    o.evaluate r = s.quantifier.verdict o.holds (s.access.value r) := by
  obtain ⟨field, q, access, fits⟩ := s
  rw [evaluate, h]
  cases access with
  | single get =>
    cases q with
    | plain | negated => rfl
    | any | all | noneOf => cases fits
  | each get =>
    cases q with
    | plain | negated => cases fits
    | any | all | noneOf => rfl

end RecordQuery
