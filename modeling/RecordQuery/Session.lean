import RecordQuery.Combination
import RecordQuery.Selection

/-!
# Sessions

A session keeps a stack of expressions and a working list of records. Commands build expressions on
the stack and remove records that the top one does not select. A command that asks for more
expressions than there are, or for a leaf where there is none, changes nothing.
-/

namespace RecordQuery

/-- The state of a session. The stack has its top first. -/
structure Session (ρ : Type) where
  stack : List (Expression ρ)
  records : List ρ

inductive Command (ρ : Type) where
  | push (c : Combination (Draft ρ))
  | extend (s : Step)
  | dup
  | swap
  | drop
  | not
  | and
  | or
  | allOf (n : Nat)
  | anyOf (n : Nat)
  | retain

namespace Session

variable {ρ : Type}

def pop? (s : Session ρ) (n : Nat) : Option (List (Expression ρ) × List (Expression ρ)) :=
  if n ≤ s.stack.length then some ((s.stack.take n).reverse, s.stack.drop n) else none

def gather (s : Session ρ) (n : Nat) (f : List (Expression ρ) → Expression ρ) : Session ρ :=
  match s.pop? n with
  | some (es, rest) => { s with stack := f es :: rest }
  | none => s

def run [CharData] [Pattern.Engine] (s : Session ρ) : Command ρ → Build (Session ρ)
  | .push c => return { s with stack := (← c.build) :: s.stack }
  | .extend step =>
    match s.stack with
    | .leaf p :: rest => return { s with stack := .leaf (← p.extendBy step) :: rest }
    | _ => return s
  | .dup => return { s with stack := s.stack.take 1 ++ s.stack }
  | .swap =>
    match s.stack with
    | e :: f :: rest => return { s with stack := f :: e :: rest }
    | _ => return s
  | .drop => return { s with stack := s.stack.drop 1 }
  | .not =>
    match s.stack with
    | e :: rest => return { s with stack := e.not :: rest }
    | [] => return s
  | .and =>
    match s.stack with
    | f :: e :: rest => return { s with stack := e.and f :: rest }
    | _ => return s
  | .or =>
    match s.stack with
    | f :: e :: rest => return { s with stack := e.or f :: rest }
    | _ => return s
  | .allOf n => return s.gather n .all
  | .anyOf n => return s.gather n .any
  | .retain =>
    match s.stack with
    | e :: _ => return { s with records := e.retain s.records }
    | [] => return s

end Session

end RecordQuery
