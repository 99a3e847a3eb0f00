import RecordQuery.Operation
import RecordQuery.Proofs.Value.Order

/-!
# Duality of comparisons

Comparing the other way round gives the reverse, also where lists are compared and where there is
no order at all. So each ordering operator has a dual one that takes subject and operand in the
other order. A value fails to be equal to itself only for a NaN somewhere in it.
-/

namespace RecordQuery

theorem Double.compare_self (x : Double) : x.compare x = if x.isNaN then none else some .eq := by
  cases hx : x.isNaN <;> simp [compare, hx]

namespace Value

inductive HoldsNaN : Value → Prop where
  | number {x : Double} (hx : x.isNaN = true) : HoldsNaN (.number (.float x))
  | element {v : Value} {items : List Value} (hv : v ∈ items) (h : HoldsNaN v) :
    HoldsNaN (.list items)

theorem holdsNaN_number_iff {n : Number} :
    HoldsNaN (.number n) ↔ ∃ x : Double, n = .float x ∧ x.isNaN = true := by
  constructor
  · intro h
    cases h with
    | number hx => exact ⟨_, rfl, hx⟩
  · rintro ⟨x, rfl, hx⟩
    exact .number hx

theorem holdsNaN_list_iff {items : List Value} :
    HoldsNaN (.list items) ↔ ∃ v ∈ items, v.HoldsNaN := by
  constructor
  · intro h
    cases h with
    | element hv h => exact ⟨_, hv, h⟩
  · rintro ⟨v, hv, h⟩
    exact .element hv h

/-! ### Comparing a value with itself -/

theorem compareLists_self_iff {items : List Value} :
    compareLists items items = some .eq ↔ ∀ v ∈ items, v.compare v = some .eq := by
  induction items with
  | nil => simp [compareLists]
  | cons v rest ih =>
    rw [List.forall_mem_cons, ← ih, compareLists]
    cases hv : v.compare v with
    | none => simp
    | some o => cases o <;> simp

theorem compare_self_iff (v : Value) : v.compare v = some .eq ↔ ¬ v.HoldsNaN := by
  induction v with
  | number n =>
    rw [holdsNaN_number_iff, compare]
    cases n with
    | signed n => simp [Number.compare]
    | unsigned n => simp [Number.compare]
    | float x => simp [Number.compare, Number.toDouble, Double.compare_self]
  | list items ih =>
    rw [holdsNaN_list_iff, compare, compareLists_self_iff]
    push Not
    exact forall₂_congr ih
  | _ =>
    refine iff_of_true ?_ fun h => by cases h
    simp [compare]

end Value

/-! ### Dual operators -/

/-- The operator that says of operand and subject what this one says of subject and operand. -/
def Operator.dual : Operator → Operator
  | .greater => .less
  | .greaterOrEqual => .lessOrEqual
  | .less => .greater
  | .lessOrEqual => .greaterOrEqual
  | op => op

theorem Operator.accepts_swap (op : Operator) (o : Ordering) :
    op.accepts o.swap = op.dual.accepts o := by
  cases op <;> cases o <;> rfl

namespace Value

theorem sameAs_comm (a b : Value) : a.sameAs b = b.sameAs a := by
  rw [Bool.eq_iff_iff, sameAs_iff, sameAs_iff, compare_swap a b]
  cases a.compare b with
  | none => simp
  | some o => cases o <;> simp

theorem satisfies_dual (op : Operator) (u v : Value) :
    satisfies op u v = satisfies op.dual v u := by
  have hsame := sameAs_comm u v
  have hany : (u.compare v).any op.accepts = (v.compare u).any op.dual.accepts := by
    rw [compare_swap v u, Option.any_map]
    exact congrArg (Option.any · _) (funext (op.accepts_swap))
  cases op with
  | equal => exact hsame
  | notEqual => exact congrArg (!·) hsame
  | _ => exact hany

/-- Comparisons are dual to each other and reflexive on values without NaN, so that subject and
operand of an ordering operator may change places together with its direction. -/
theorem compare_dual [CharData] {ρ : Type} (s : Selector ρ) (a b : Value) :
    b.compare a = (a.compare b).map Ordering.swap ∧
    (b.compare a = none ↔ a.compare b = none) ∧
    (a.sameAs a = true ↔ ¬ a.HoldsNaN) ∧
    (Operation.resolve s (.greaterThan b)).holds a =
      (Operation.resolve s (.lessThan a)).holds b ∧
    (Operation.resolve s (.greaterOrEqual b)).holds a =
      (Operation.resolve s (.lessOrEqual a)).holds b ∧
    (Operation.resolve s (.equalTo b)).holds a = (Operation.resolve s (.equalTo a)).holds b := by
  refine ⟨compare_swap a b, ?_, ?_, ?_, ?_, ?_⟩
  · rw [compare_swap a b, Option.map_eq_none_iff]
  · rw [sameAs_iff, compare_self_iff]
  · exact satisfies_dual .greater a b
  · exact satisfies_dual .greaterOrEqual a b
  · exact satisfies_dual .equal a b

end Value

end RecordQuery
