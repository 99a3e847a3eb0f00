import RecordQuery.Draft
import RecordQuery.Expression.Evaluate

/-!
# Combinations

A combination is a nest of calls of the combinators, over leaves of any kind. It says how an
expression is put together, which is more than the expression shows: combinators flatten what they
build.
-/

namespace RecordQuery

inductive Combination (α : Type) where
  | leaf (a : α)
  | allOf (parts : List (Combination α))
  | anyOf (parts : List (Combination α))
  | negate (part : Combination α)
  | and (first second : Combination α)
  | or (first second : Combination α)
  | not (part : Combination α)

namespace Combination

variable {α ρ : Type}

instance : Inhabited (Combination α) := ⟨.allOf []⟩

mutual

def expression : Combination (Predicate ρ) → Expression ρ
  | .leaf p => .leaf p
  | .allOf parts => .all (expressions parts)
  | .anyOf parts => .any (expressions parts)
  | .negate part => .negation part.expression
  | .and first second => first.expression.and second.expression
  | .or first second => first.expression.or second.expression
  | .not part => part.expression.not

def expressions : List (Combination (Predicate ρ)) → List (Expression ρ)
  | [] => []
  | c :: cs => c.expression :: expressions cs

end

mutual

/-- The Boolean formula that the calls spell out, over verdicts on the leaves. -/
def formula (verdict : α → Bool) : Combination α → Bool
  | .leaf a => verdict a
  | .allOf parts => conjunction verdict parts
  | .anyOf parts => disjunction verdict parts
  | .negate part => !part.formula verdict
  | .and first second => first.formula verdict && second.formula verdict
  | .or first second => first.formula verdict || second.formula verdict
  | .not part => !part.formula verdict

def conjunction (verdict : α → Bool) : List (Combination α) → Bool
  | [] => true
  | c :: cs => c.formula verdict && conjunction verdict cs

def disjunction (verdict : α → Bool) : List (Combination α) → Bool
  | [] => false
  | c :: cs => c.formula verdict || disjunction verdict cs

end

variable [Pattern.Engine]

mutual

def build : Combination (Draft ρ) → Build (Expression ρ)
  | .leaf d => return .leaf (← d.build)
  | .allOf parts => return .all (← buildList parts)
  | .anyOf parts => return .any (← buildList parts)
  | .negate part => return .negation (← part.build)
  | .and first second => do
    let e ← first.build
    return e.and (← second.build)
  | .or first second => do
    let e ← first.build
    return e.or (← second.build)
  | .not part => return (← part.build).not

def buildList : List (Combination (Draft ρ)) → Build (List (Expression ρ))
  | [] => return []
  | c :: cs => do
    let e ← c.build
    return e :: (← buildList cs)

end

end Combination

end RecordQuery
