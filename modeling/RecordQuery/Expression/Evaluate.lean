import RecordQuery.Expression.Basic

/-!
# Evaluating expressions

The verdict of an expression on a record, once as plain Boolean semantics and once with a report of
every compound expression that was looked at. Children are looked at from left to right until the
verdict is settled.
-/

namespace RecordQuery.Expression

variable {ρ : Type} [CharData]

mutual

def evaluate (r : ρ) : Expression ρ → Bool
  | .leaf p => p.evaluate r
  | .all cs => evaluateAll r cs
  | .any cs => evaluateAny r cs
  | .negation c => !c.evaluate r

def evaluateAll (r : ρ) : List (Expression ρ) → Bool
  | [] => true
  | c :: cs => c.evaluate r && evaluateAll r cs

def evaluateAny (r : ρ) : List (Expression ρ) → Bool
  | [] => false
  | c :: cs => c.evaluate r || evaluateAny r cs

end

/-- Reports the verdict of a compound expression after everything else. -/
def reportVerdict (connective : Connective) (verdict : Logged Bool) : Logged Bool := do
  let b ← verdict
  Logged.report (.compoundEvaluated connective b)
  return b

mutual

def evaluateLogged (r : ρ) : Expression ρ → Logged Bool
  | .leaf p => do return (← p.compileLogged).evaluate r
  | .all cs => reportVerdict .and (evaluateAllLogged r cs)
  | .any cs => reportVerdict .or (evaluateAnyLogged r cs)
  | .negation c => reportVerdict .not do return !(← c.evaluateLogged r)

def evaluateAllLogged (r : ρ) : List (Expression ρ) → Logged Bool
  | [] => return true
  | c :: cs => do if ← c.evaluateLogged r then evaluateAllLogged r cs else return false

def evaluateAnyLogged (r : ρ) : List (Expression ρ) → Logged Bool
  | [] => return false
  | c :: cs => do if ← c.evaluateLogged r then return true else evaluateAnyLogged r cs

end

end RecordQuery.Expression
