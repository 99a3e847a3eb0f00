import RecordQuery.Proofs.Draft.Chain

/-!
# Membership

To be one of several values is to be equal to one of them. Under a quantifier that asks for some
element the two choices, of the element and of the candidate, can be made in either order, so that
the test splits into one test for each candidate. Under ALL it does not split.
-/

namespace RecordQuery

variable {ρ : Type}

namespace Quantifier

variable {α : Type}

theorem any_any_swap (xs : List Value) (ys : List α) (p : Value → α → Bool) :
    (xs.any fun x => ys.any fun y => p x y) = ys.any fun y => xs.any fun x => p x y := by
  rw [Bool.eq_iff_iff]
  simp only [List.any_eq_true]
  constructor
  · rintro ⟨x, hx, y, hy, h⟩
    exact ⟨y, hy, x, hx, h⟩
  · rintro ⟨y, hy, x, hx, h⟩
    exact ⟨x, hx, y, hy, h⟩

/-- A quantifier whose verdict on a disjunction is the disjunction of the verdicts. -/
def Distributes (q : Quantifier) : Prop :=
  ∀ {α : Type} (ys : List α) (p : α → Value → Bool) (v : Value),
    q.verdict (fun u => ys.any fun y => p y u) v = ys.any fun y => q.verdict (p y) v

theorem distributes_plain : plain.Distributes := fun _ _ _ => rfl

theorem distributes_any : any.Distributes := by
  intro α ys p v
  exact any_any_swap v.elements ys fun u y => p y u

theorem not_distributes_all : ¬ all.Distributes := by
  intro h
  have hsplit := h [Value.bool false, .bool true] (fun v u => u.sameAs v)
    (.list [.bool false, .bool true])
  exact absurd hsplit (by decide)

theorem Distributes.negation {q q' : Quantifier} (hq : q.Distributes)
    (h : ∀ holds v, q'.verdict holds v = !q.verdict holds v) (ys : List α)
    (p : α → Value → Bool) (v : Value) :
    q'.verdict (fun u => ys.any fun y => p y u) v = ys.all fun y => q'.verdict (p y) v := by
  rw [h, hq, List.not_any_eq_all_not]
  simp only [h]

end Quantifier

namespace Combination

variable [CharData] [Pattern.Engine]

theorem agree_anyOf {q : Quantifier} (hq : q.Distributes) (f : Field ρ) (vs : List Value) :
    Agree (.leaf (.chain q f [.oneOf vs]))
      (.anyOf (vs.map fun v => .leaf (.chain q f [.equalTo v]))) := by
  refine ⟨_, verdict_isOneOf q f vs, ?_⟩
  rw [verdict_anyOf_map fun v _ => verdict_equalTo q f v]
  simp only [hq vs fun v u => u.sameAs v]

theorem agree_allOf {q q' : Quantifier} (hq : q.Distributes)
    (h : ∀ holds v, q'.verdict holds v = !q.verdict holds v) (f : Field ρ) (vs : List Value) :
    Agree (.leaf (.chain q' f [.oneOf vs]))
      (.allOf (vs.map fun v => .leaf (.chain q' f [.equalTo v]))) := by
  refine ⟨_, verdict_isOneOf q' f vs, ?_⟩
  rw [verdict_allOf_map fun v _ => verdict_equalTo q' f v]
  simp only [hq.negation h vs fun v u => u.sameAs v]

/-- Membership is a disjunction of equalities for plain selections and ANY, and a conjunction for
their negations. Under ALL it asks of each element that it be equal to some candidate. -/
theorem verdict_oneOf (f : Field ρ) (vs : List Value) :
    Agree (.leaf (.chain .plain f [.oneOf vs]))
      (.anyOf (vs.map fun v => .leaf (.chain .plain f [.equalTo v]))) ∧
    Agree (.leaf (.chain .any f [.oneOf vs]))
      (.anyOf (vs.map fun v => .leaf (.chain .any f [.equalTo v]))) ∧
    Agree (.leaf (.chain .negated f [.oneOf vs]))
      (.allOf (vs.map fun v => .leaf (.chain .negated f [.equalTo v]))) ∧
    Agree (.leaf (.chain .noneOf f [.oneOf vs]))
      (.allOf (vs.map fun v => .leaf (.chain .noneOf f [.equalTo v]))) ∧
    ∃ p, verdict (.leaf (.chain .all f [.oneOf vs])) = .ok p ∧
      ∀ r, p r = true ↔ ∀ u ∈ (f.get r).elements, ∃ v ∈ vs, u.sameAs v = true := by
  refine ⟨?_, ?_, ?_, ?_, _, verdict_isOneOf .all f vs, fun r => ?_⟩
  · exact agree_anyOf Quantifier.distributes_plain f vs
  · exact agree_anyOf Quantifier.distributes_any f vs
  · exact agree_allOf Quantifier.distributes_plain Quantifier.verdict_negated f vs
  · exact agree_allOf Quantifier.distributes_any Quantifier.verdict_noneOf f vs
  · change (f.get r).elements.all (fun u => vs.any u.sameAs) = true ↔ _
    simp only [List.all_eq_true, List.any_eq_true]

end Combination

end RecordQuery
