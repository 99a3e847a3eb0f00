import Mathlib.Data.List.Basic
import RecordQuery.Expression.Canonical
import RecordQuery.Expression.Evaluate
import RecordQuery.Expression.Walk

/-!
# Expressions as trees

Induction over expressions with one hypothesis for each child, and what the functions on lists of
children are in terms of core's list functions.
-/

namespace RecordQuery

def Visit.leaf? {ρ : Type} : Visit ρ → Option (Predicate ρ)
  | .compound .. => none
  | .leaf _ p => some p

@[simp] theorem Visit.leaf?_compound {ρ : Type} (depth : Nat) (k : Connective) (n : Nat) :
    (compound depth k n : Visit ρ).leaf? = none := rfl

@[simp] theorem Visit.leaf?_leaf {ρ : Type} (depth : Nat) (p : Predicate ρ) :
    (leaf depth p).leaf? = some p := rfl

namespace Expression

variable {ρ : Type}

/-- A property of all expressions, where each child of a node may be taken to have it. -/
@[elab_as_elim, induction_eliminator]
theorem induction {motive : Expression ρ → Prop} (leaf : ∀ p, motive (.leaf p))
    (all : ∀ cs, (∀ c ∈ cs, motive c) → motive (.all cs))
    (any : ∀ cs, (∀ c ∈ cs, motive c) → motive (.any cs))
    (negation : ∀ c, motive c → motive (.negation c)) (e : Expression ρ) : motive e :=
  match e with
  | .leaf p => leaf p
  | .all cs => all cs fun c _ => induction leaf all any negation c
  | .any cs => any cs fun c _ => induction leaf all any negation c
  | .negation c => negation c (induction leaf all any negation c)

theorem leavesList_eq_flatMap (cs : List (Expression ρ)) :
    leavesList cs = cs.flatMap leaves := by
  induction cs with
  | nil => rfl
  | cons c cs ih => simp [leavesList, ih]

theorem walkListAt_eq_flatMap (depth : Nat) (cs : List (Expression ρ)) :
    walkListAt depth cs = cs.flatMap (walkAt depth) := by
  induction cs with
  | nil => rfl
  | cons c cs ih => simp [walkListAt, ih]

@[simp] theorem leaves_leaf (p : Predicate ρ) : (leaf p).leaves = [p] := by
  rw [leaves]

@[simp] theorem leaves_all (cs : List (Expression ρ)) : (all cs).leaves = cs.flatMap leaves := by
  rw [leaves, leavesList_eq_flatMap]

@[simp] theorem leaves_any (cs : List (Expression ρ)) : (any cs).leaves = cs.flatMap leaves := by
  rw [leaves, leavesList_eq_flatMap]

@[simp] theorem leaves_negation (c : Expression ρ) : (negation c).leaves = c.leaves := by
  rw [leaves]

section Evaluate

variable [CharData]

theorem evaluateAll_eq_all (r : ρ) (cs : List (Expression ρ)) :
    evaluateAll r cs = cs.all (evaluate r) := by
  induction cs with
  | nil => rfl
  | cons c cs ih => simp [evaluateAll, ih]

theorem evaluateAny_eq_any (r : ρ) (cs : List (Expression ρ)) :
    evaluateAny r cs = cs.any (evaluate r) := by
  induction cs with
  | nil => rfl
  | cons c cs ih => simp [evaluateAny, ih]

@[simp] theorem evaluate_leaf (r : ρ) (p : Predicate ρ) :
    evaluate r (.leaf p) = p.evaluate r := by
  rw [evaluate]

@[simp] theorem evaluate_all (r : ρ) (cs : List (Expression ρ)) :
    evaluate r (.all cs) = cs.all (evaluate r) := by
  rw [evaluate, evaluateAll_eq_all]

@[simp] theorem evaluate_any (r : ρ) (cs : List (Expression ρ)) :
    evaluate r (.any cs) = cs.any (evaluate r) := by
  rw [evaluate, evaluateAny_eq_any]

@[simp] theorem evaluate_negation (r : ρ) (c : Expression ρ) :
    evaluate r (.negation c) = !evaluate r c := by
  rw [evaluate]

end Evaluate

theorem leaf?_walkAt (e : Expression ρ) (depth : Nat) :
    (e.walkAt depth).filterMap Visit.leaf? = e.leaves := by
  induction e generalizing depth with
  | leaf p => simp [walkAt]
  | all cs ih =>
    simp only [walkAt, walkListAt_eq_flatMap, List.filterMap_cons, Visit.leaf?_compound,
      leaves_all, List.filterMap_flatMap]
    exact List.flatMap_congr fun c hc => ih c hc _
  | any cs ih =>
    simp only [walkAt, walkListAt_eq_flatMap, List.filterMap_cons, Visit.leaf?_compound,
      leaves_any, List.filterMap_flatMap]
    exact List.flatMap_congr fun c hc => ih c hc _
  | negation c ih =>
    simp only [walkAt, List.filterMap_cons, Visit.leaf?_compound, leaves_negation, ih]

theorem leaf?_walk (e : Expression ρ) : e.walk.filterMap Visit.leaf? = e.leaves :=
  leaf?_walkAt e 0

end Expression

end RecordQuery
