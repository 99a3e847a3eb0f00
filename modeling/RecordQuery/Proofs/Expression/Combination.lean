import RecordQuery.Combination
import RecordQuery.Proofs.Expression.Tree

/-!
# Verdicts of combinations

However the combinators flatten what they build, the expression holds of a record exactly if the
formula does that the calls spell out. Flattening happens in two places only, a conjunction that
takes one more child and a disjunction that does.
-/

namespace RecordQuery

namespace Expression

variable {ρ : Type} [CharData]

@[simp] theorem evaluate_and (e f : Expression ρ) (r : ρ) :
    (e.and f).evaluate r = (e.evaluate r && f.evaluate r) := by
  cases e with
  | all cs => simp [Expression.and]
  | leaf p => simp [Expression.and]
  | any cs => simp [Expression.and]
  | negation c => simp [Expression.and]

@[simp] theorem evaluate_or (e f : Expression ρ) (r : ρ) :
    (e.or f).evaluate r = (e.evaluate r || f.evaluate r) := by
  cases e with
  | any cs => simp [Expression.or]
  | leaf p => simp [Expression.or]
  | all cs => simp [Expression.or]
  | negation c => simp [Expression.or]

@[simp] theorem evaluate_not (e : Expression ρ) (r : ρ) :
    e.not.evaluate r = !e.evaluate r := by
  rw [Expression.not, evaluate_negation]

end Expression

namespace Combination

variable {α ρ : Type}

/-- A property of all combinations, where each part of a call may be taken to have it. -/
@[elab_as_elim, induction_eliminator]
theorem induction {motive : Combination α → Prop} (leaf : ∀ a, motive (.leaf a))
    (allOf : ∀ parts, (∀ c ∈ parts, motive c) → motive (.allOf parts))
    (anyOf : ∀ parts, (∀ c ∈ parts, motive c) → motive (.anyOf parts))
    (negate : ∀ part, motive part → motive (.negate part))
    (and : ∀ first second, motive first → motive second → motive (.and first second))
    (or : ∀ first second, motive first → motive second → motive (.or first second))
    (not : ∀ part, motive part → motive (.not part)) (c : Combination α) : motive c :=
  match c with
  | .leaf a => leaf a
  | .allOf parts => allOf parts fun c _ => induction leaf allOf anyOf negate and or not c
  | .anyOf parts => anyOf parts fun c _ => induction leaf allOf anyOf negate and or not c
  | .negate part => negate part (induction leaf allOf anyOf negate and or not part)
  | .and first second =>
    and first second (induction leaf allOf anyOf negate and or not first)
      (induction leaf allOf anyOf negate and or not second)
  | .or first second =>
    or first second (induction leaf allOf anyOf negate and or not first)
      (induction leaf allOf anyOf negate and or not second)
  | .not part => not part (induction leaf allOf anyOf negate and or not part)

theorem expressions_eq_map (parts : List (Combination (Predicate ρ))) :
    expressions parts = parts.map expression := by
  induction parts with
  | nil => rfl
  | cons c cs ih => simp [expressions, ih]

theorem conjunction_eq_all (verdict : α → Bool) (parts : List (Combination α)) :
    conjunction verdict parts = parts.all (formula verdict) := by
  induction parts with
  | nil => rfl
  | cons c cs ih => simp [conjunction, ih]

theorem disjunction_eq_any (verdict : α → Bool) (parts : List (Combination α)) :
    disjunction verdict parts = parts.any (formula verdict) := by
  induction parts with
  | nil => rfl
  | cons c cs ih => simp [disjunction, ih]

/-- The expression that calls of the combinators produce holds of a record exactly if the formula
that they spell out does. -/
theorem evaluate_expression [CharData] (c : Combination (Predicate ρ)) (r : ρ) :
    c.expression.evaluate r = c.formula (·.evaluate r) := by
  induction c with
  | leaf p => simp [expression, formula]
  | allOf parts ih =>
    simp only [expression, formula, expressions_eq_map, conjunction_eq_all,
      Expression.evaluate_all, List.all_map]
    rw [Bool.eq_iff_iff, List.all_eq_true, List.all_eq_true]
    exact forall₂_congr fun c hc => by rw [Function.comp_apply, ih c hc]
  | anyOf parts ih =>
    simp only [expression, formula, expressions_eq_map, disjunction_eq_any,
      Expression.evaluate_any, List.any_map]
    rw [Bool.eq_iff_iff, List.any_eq_true, List.any_eq_true]
    refine exists_congr fun c => and_congr_right fun hc => ?_
    rw [Function.comp_apply, ih c hc]
  | negate part ih => rw [expression, formula, Expression.evaluate_negation, ih]
  | and first second ih₁ ih₂ => rw [expression, formula, Expression.evaluate_and, ih₁, ih₂]
  | or first second ih₁ ih₂ => rw [expression, formula, Expression.evaluate_or, ih₁, ih₂]
  | not part ih => rw [expression, formula, Expression.evaluate_not, ih]

end Combination

end RecordQuery
