import RecordQuery.Predicate

/-!
# Expressions

An expression is a tree of predicates under AND, OR and NOT. The combinators keep trees flat on the
left: combining a conjunction with another expression under AND adds a child to it, and likewise
for OR.
-/

namespace RecordQuery

inductive Expression (ρ : Type) where
  | leaf (p : Predicate ρ)
  | all (children : List (Expression ρ))
  | any (children : List (Expression ρ))
  | negation (child : Expression ρ)

namespace Expression

variable {ρ : Type}

instance : Inhabited (Expression ρ) := ⟨.all []⟩

def connective? : Expression ρ → Option Connective
  | .leaf _ => none
  | .all _ => some .and
  | .any _ => some .or
  | .negation _ => some .not

def isCompound (e : Expression ρ) : Bool := e.connective?.isSome

def children : Expression ρ → List (Expression ρ)
  | .leaf _ => []
  | .all cs => cs
  | .any cs => cs
  | .negation c => [c]

/-- Both expressions. A conjunction takes the other one as a new last child. -/
def and (e f : Expression ρ) : Expression ρ :=
  match e with
  | .all cs => .all (cs ++ [f])
  | e => .all [e, f]

def or (e f : Expression ρ) : Expression ρ :=
  match e with
  | .any cs => .any (cs ++ [f])
  | e => .any [e, f]

def not (e : Expression ρ) : Expression ρ := .negation e

mutual

def leaves : Expression ρ → List (Predicate ρ)
  | .leaf p => [p]
  | .all cs => leavesList cs
  | .any cs => leavesList cs
  | .negation c => c.leaves

def leavesList : List (Expression ρ) → List (Predicate ρ)
  | [] => []
  | c :: cs => c.leaves ++ leavesList cs

end

end Expression

end RecordQuery
