import RecordQuery.Glob

/-!
# String patterns

The operand of `LIKE` and `MATCHES`: a glob or a regular expression, compiled, together with the
text it was written as.
-/

namespace RecordQuery

/-- A pattern. Without a program it matches nothing. -/
structure Pattern where
  source : String
  program : Option Pattern.Program

namespace Pattern

def accepts (p : Pattern) (subject : String) : Bool := p.program.any (·.isMatch subject)

variable [Engine]

def regex (source : String) : Except Fault Pattern :=
  (Engine.compile source).map fun r => ⟨source, some r⟩

def like (glob : String) : Except Fault Pattern :=
  (Engine.compile (Glob.pattern glob)).map fun r => ⟨glob, some r⟩

def likeOrNever (glob : String) : Pattern :=
  match like glob with
  | .ok p => p
  | .error _ => ⟨glob, none⟩

end Pattern

end RecordQuery
