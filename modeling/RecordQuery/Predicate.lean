import RecordQuery.Event
import RecordQuery.Operation

/-!
# Predicates

A predicate is a list of actions. It compiles to the first operator after a selection that begins
the list; without these two it holds of every record. Later operators are kept but have no effect.
-/

namespace RecordQuery

structure Predicate (ρ : Type) where
  actions : List (Action ρ)

namespace Predicate

variable {ρ : Type}

def select (quantifier : Quantifier) (field : Field ρ) : Predicate ρ :=
  ⟨[.select (.of field quantifier)]⟩

def append (p : Predicate ρ) (a : Action ρ) : Predicate ρ := ⟨p.actions ++ [a]⟩

/-- What adding an action reports: an operator that comes after another one will be ignored. -/
def appendEvents (p : Predicate ρ) (a : Action ρ) : List Event :=
  match a.operator? with
  | some op =>
    if p.actions.any Action.isOperator then [.operatorIgnored op p.actions.length] else []
  | none => []

def extend (p : Predicate ρ) (a : Action ρ) : Logged (Predicate ρ) :=
  ⟨p.append a, p.appendEvents a⟩

def compile (p : Predicate ρ) : Operation ρ :=
  match p.actions with
  | .select s :: rest =>
    match rest.find? Action.isOperator with
    | some a => .resolve s a
    | none => .universal
  | _ => .universal

def fallback? (p : Predicate ρ) : Option Fallback :=
  match p.actions with
  | .select s :: rest =>
    if rest.any Action.isOperator then none else some (.missingOperator s.field)
  | _ => some .missingSelection

def compileEvents (p : Predicate ρ) : List Event := (p.fallback?.map .compileFallback).toList

def compileLogged (p : Predicate ρ) : Logged (Operation ρ) := ⟨p.compile, p.compileEvents⟩

def canonical (p : Predicate ρ) : CanonicalForm := p.compile.canonical

def evaluate [CharData] (p : Predicate ρ) (r : ρ) : Bool := p.compile.evaluate r

end Predicate

end RecordQuery
