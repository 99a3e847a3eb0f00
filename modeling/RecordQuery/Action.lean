import RecordQuery.Field
import RecordQuery.Insensitivity
import RecordQuery.Operator
import RecordQuery.Pattern

/-!
# Actions

A predicate is built by actions: first the selection of a field, then operators with their
operands.
-/

namespace RecordQuery

inductive Access (ρ : Type) where
  | single (get : ρ → Value)
  | each (get : ρ → List Value)

def Access.isEach {ρ : Type} : Access ρ → Bool
  | .single _ => false
  | .each _ => true

/-- The selection of a field, of which the name is kept, under a quantifier. -/
structure Selector (ρ : Type) where
  field : String
  quantifier : Quantifier
  access : Access ρ
  fits : access.isEach = quantifier.isCollection

namespace Selector

variable {ρ : Type}

def plain (f : Field ρ) : Selector ρ := ⟨f.name, .plain, .single f.get, rfl⟩

def negated (f : Field ρ) : Selector ρ := ⟨f.name, .negated, .single f.get, rfl⟩

def each (f : Field ρ) (q : Quantifier) (h : q.isCollection = true) : Selector ρ :=
  ⟨f.name, q, .each fun r => (f.get r).elements, h.symm⟩

def any (f : Field ρ) : Selector ρ := each f .any rfl

def all (f : Field ρ) : Selector ρ := each f .all rfl

def noneOf (f : Field ρ) : Selector ρ := each f .noneOf rfl

def of (f : Field ρ) : Quantifier → Selector ρ
  | .plain => plain f
  | .negated => negated f
  | .any => any f
  | .all => all f
  | .noneOf => noneOf f

@[simp] theorem field_of (f : Field ρ) (q : Quantifier) : (of f q).field = f.name := by
  cases q <;> rfl

@[simp] theorem quantifier_of (f : Field ρ) (q : Quantifier) : (of f q).quantifier = q := by
  cases q <;> rfl

end Selector

inductive Action (ρ : Type) where
  | select (s : Selector ρ)
  | equalTo (v : Value)
  | notEqualTo (v : Value)
  | greaterThan (v : Value)
  | greaterOrEqual (v : Value)
  | lessThan (v : Value)
  | lessOrEqual (v : Value)
  | beginsWith (v : Value) (flags : Insensitivity)
  | endsWith (v : Value) (flags : Insensitivity)
  | contains (v : Value) (flags : Insensitivity)
  | like (p : Pattern)
  | matchesRegex (p : Pattern)
  | oneOf (vs : List Value)

namespace Action

variable {ρ : Type}

def operator? : Action ρ → Option Operator
  | .select _ => none
  | .equalTo _ => some .equal
  | .notEqualTo _ => some .notEqual
  | .greaterThan _ => some .greater
  | .greaterOrEqual _ => some .greaterOrEqual
  | .lessThan _ => some .less
  | .lessOrEqual _ => some .lessOrEqual
  | .beginsWith .. => some .beginsWith
  | .endsWith .. => some .endsWith
  | .contains .. => some .contains
  | .like _ => some .like
  | .matchesRegex _ => some .matchesRegex
  | .oneOf _ => some .oneOf

def isOperator (a : Action ρ) : Bool := a.operator?.isSome

def selector? : Action ρ → Option (Selector ρ)
  | .select s => some s
  | _ => none

end Action

end RecordQuery
