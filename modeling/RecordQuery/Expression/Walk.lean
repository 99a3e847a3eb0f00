import RecordQuery.Expression.Basic

/-!
# Walking expressions

A walk visits every node of a tree, a compound node before its children and children from left to
right.
-/

namespace RecordQuery

/-- A node as a walk reports it, with the number of its ancestors. -/
inductive Visit (ρ : Type) where
  | compound (depth : Nat) (connective : Connective) (children : Nat)
  | leaf (depth : Nat) (p : Predicate ρ)

namespace Expression

variable {ρ : Type}

mutual

def walkAt (depth : Nat) : Expression ρ → List (Visit ρ)
  | .leaf p => [.leaf depth p]
  | .all cs => .compound depth .and cs.length :: walkListAt (depth + 1) cs
  | .any cs => .compound depth .or cs.length :: walkListAt (depth + 1) cs
  | .negation c => .compound depth .not 1 :: c.walkAt (depth + 1)

def walkListAt (depth : Nat) : List (Expression ρ) → List (Visit ρ)
  | [] => []
  | c :: cs => c.walkAt depth ++ walkListAt depth cs

end

def walk (e : Expression ρ) : List (Visit ρ) := e.walkAt 0

end Expression

end RecordQuery
