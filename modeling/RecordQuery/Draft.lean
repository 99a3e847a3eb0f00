import RecordQuery.Predicate

/-!
# Drafts

A draft is a predicate as it is asked for, with globs and regular expressions still as texts.
Turning it into a predicate compiles them, which can fail, and reports operators without effect and
globs that cannot be compiled.
-/

namespace RecordQuery

/-- The outcome of building something: a fault of a pattern, or the result with a report. -/
abbrev Build := ExceptT Pattern.Fault Logged

inductive Step where
  | equalTo (v : Value)
  | notEqualTo (v : Value)
  | greaterThan (v : Value)
  | greaterOrEqual (v : Value)
  | lessThan (v : Value)
  | lessOrEqual (v : Value)
  | beginsWith (v : Value) (flags : Insensitivity)
  | endsWith (v : Value) (flags : Insensitivity)
  | contains (v : Value) (flags : Insensitivity)
  | like (glob : String)
  | matchesRegex (source : String)
  | oneOf (vs : List Value)

namespace Step

variable {ρ : Type}

variable [Pattern.Engine]

def action : Step → Except Pattern.Fault (Action ρ)
  | .equalTo v => .ok (.equalTo v)
  | .notEqualTo v => .ok (.notEqualTo v)
  | .greaterThan v => .ok (.greaterThan v)
  | .greaterOrEqual v => .ok (.greaterOrEqual v)
  | .lessThan v => .ok (.lessThan v)
  | .lessOrEqual v => .ok (.lessOrEqual v)
  | .beginsWith v flags => .ok (.beginsWith v flags)
  | .endsWith v flags => .ok (.endsWith v flags)
  | .contains v flags => .ok (.contains v flags)
  | .like glob => (Pattern.like glob).map .like
  | .matchesRegex source => (Pattern.regex source).map .matchesRegex
  | .oneOf vs => .ok (.oneOf vs)

def patternEvents : Step → List Event
  | .like glob =>
    match Pattern.like glob with
    | .ok _ => []
    | .error _ => [.likePatternInvalid glob]
  | _ => []

/-- The action of a step in a chain, where a glob that does not compile matches nothing. -/
def chainAction (s : Step) : Except Pattern.Fault (Action ρ) :=
  match s with
  | .like glob => .ok (.like (.likeOrNever glob))
  | s => s.action

end Step

namespace Predicate

variable {ρ : Type} [Pattern.Engine]

def extendBy (p : Predicate ρ) (s : Step) : Build (Predicate ρ) :=
  match s.chainAction with
  | .error f => throw f
  | .ok a => ExceptT.lift do
    let _ ← (⟨(), s.patternEvents⟩ : Logged Unit)
    p.extend a

def extendByAll (p : Predicate ρ) : List Step → Build (Predicate ρ)
  | [] => return p
  | s :: rest => do (← p.extendBy s).extendByAll rest

end Predicate

inductive Item (ρ : Type) where
  | select (s : Selector ρ)
  | step (s : Step)

namespace Item

variable {ρ : Type} [Pattern.Engine]

def action : Item ρ → Except Pattern.Fault (Action ρ)
  | .select s => .ok (.select s)
  | .step s => s.action

end Item

inductive Draft (ρ : Type) where
  | chain (quantifier : Quantifier) (field : Field ρ) (steps : List Step)
  | actions (items : List (Item ρ))

namespace Draft

variable {ρ : Type} [Pattern.Engine]

/-- The predicate that a draft describes. Actions that are given as a list are not reported. -/
def build : Draft ρ → Build (Predicate ρ)
  | .chain quantifier field steps => (Predicate.select quantifier field).extendByAll steps
  | .actions items =>
    match items.mapM Item.action with
    | .ok list => return ⟨list⟩
    | .error f => throw f

end Draft

end RecordQuery
