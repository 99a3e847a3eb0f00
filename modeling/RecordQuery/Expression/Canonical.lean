import RecordQuery.Expression.Basic

/-!
# Canonical text of expressions

Children are joined by their connective; a conjunction or disjunction among them stands in
parentheses, and a negation always puts its child in parentheses. Placeholders are numbered through
the whole tree. Rendering compiles each leaf, which is all that it has to report.
-/

namespace RecordQuery.Expression

variable {ρ : Type}

/-- Whether the expression needs parentheses among the children of another one. -/
def needsParens : Expression ρ → Bool
  | .all _ | .any _ => true
  | .leaf _ | .negation _ => false

def enclose (parens : Bool) (inner : CanonicalForm → CanonicalForm) (form : CanonicalForm) :
    CanonicalForm :=
  if parens then (inner (form.push "(")).push ")" else inner form

mutual

def write : Expression ρ → CanonicalForm → CanonicalForm
  | .leaf p, form => p.compile.write form
  | .all [], form => form.push "TRUEPREDICATE"
  | .all (c :: cs), form => writeRest " AND " cs (enclose c.needsParens c.write form)
  | .any [], form => form.push "FALSEPREDICATE"
  | .any (c :: cs), form => writeRest " OR " cs (enclose c.needsParens c.write form)
  | .negation c, form => enclose true c.write (form.push "NOT ")

def writeRest (separator : String) : List (Expression ρ) → CanonicalForm → CanonicalForm
  | [], form => form
  | c :: cs, form =>
    writeRest separator cs (enclose c.needsParens c.write (form.push separator))

end

def canonical (e : Expression ρ) : CanonicalForm := e.write .empty

def text (e : Expression ρ) : String := e.canonical.text

def encloseLogged (parens : Bool) (inner : CanonicalForm → Logged CanonicalForm)
    (form : CanonicalForm) : Logged CanonicalForm :=
  if parens then do return (← inner (form.push "(")).push ")" else inner form

mutual

def writeLogged : Expression ρ → CanonicalForm → Logged CanonicalForm
  | .leaf p, form => do return (← p.compileLogged).write form
  | .all [], form => return form.push "TRUEPREDICATE"
  | .all (c :: cs), form => do
    writeRestLogged " AND " cs (← encloseLogged c.needsParens c.writeLogged form)
  | .any [], form => return form.push "FALSEPREDICATE"
  | .any (c :: cs), form => do
    writeRestLogged " OR " cs (← encloseLogged c.needsParens c.writeLogged form)
  | .negation c, form => encloseLogged true c.writeLogged (form.push "NOT ")

def writeRestLogged (separator : String) :
    List (Expression ρ) → CanonicalForm → Logged CanonicalForm
  | [], form => return form
  | c :: cs, form => do
    writeRestLogged separator cs
      (← encloseLogged c.needsParens c.writeLogged (form.push separator))

end

def canonicalLogged (e : Expression ρ) : Logged CanonicalForm := e.writeLogged .empty

end RecordQuery.Expression
