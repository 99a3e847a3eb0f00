import RecordQuery.Expression.Canonical
import RecordQuery.Number.Decimal
import RecordQuery.Text.Quoted

/-!
# Diagnostics

The text that shows how a value, a predicate or an expression is put together. A compound thing is
written as its name followed by its parts: in parentheses when they have no names, in braces when
they have.
-/

namespace RecordQuery

namespace Diagnostics

def sequence (parts : List String) : String := "[" ++ String.intercalate ", " parts ++ "]"

def tuple (name : String) (parts : List String) : String :=
  name ++ "(" ++ String.intercalate ", " parts ++ ")"

def fields (name : String) (parts : List (String × String)) : String :=
  name ++ " \x7b " ++ String.intercalate ", " (parts.map fun (n, t) => n ++ ": " ++ t) ++ " \x7d"

def optional : Option String → String
  | none => "None"
  | some t => tuple "Some" [t]

end Diagnostics

open Diagnostics

namespace Number

def diagnostic : Number → String
  | .signed n => tuple "I64" [toString n.toInt]
  | .unsigned n => tuple "U64" [toString n.toNat]
  | .float x => tuple "F64" [x.text]

end Number

namespace Value

mutual

def diagnostic : Value → String
  | .string s => tuple "String" [Text.quote s]
  | .number n => tuple "Number" [n.diagnostic]
  | .timestamp t => tuple "Timestamp" [tuple "Timestamp" [toString t.millis.toInt]]
  | .enumerant n => tuple "Enum" [toString n.toNat]
  | .bool b => tuple "Bool" [if b then "true" else "false"]
  | .list items => tuple "List" [sequence (diagnostics items)]
  | .absent => "None"

def diagnostics : List Value → List String
  | [] => []
  | v :: vs => v.diagnostic :: diagnostics vs

end

end Value

namespace Insensitivity

def diagnostic (s : Insensitivity) : String :=
  let flag (b : Bool) := if b then "true" else "false"
  fields "Insensitivity" [("case", flag s.ignoresCase), ("diacritic", flag s.ignoresDiacritics)]

end Insensitivity

namespace Pattern

def diagnostic (p : Pattern) : String := tuple "Pattern" [Text.quote p.source]

end Pattern

namespace CanonicalForm

def diagnostic (c : CanonicalForm) : String :=
  fields "CanonicalForm" [("text", Text.quote c.text),
    ("params", sequence (c.params.map Value.diagnostic))]

end CanonicalForm

variable {ρ : Type}

namespace Field

def diagnostic (f : Field ρ) : String := tuple "Field" [Text.quote f.name]

end Field

namespace Selector

def diagnostic (s : Selector ρ) : String :=
  fields "Selector" [("field", Text.quote s.field), ("quantifier", s.quantifier.name)]

end Selector

namespace Action

def diagnostic : Action ρ → String
  | .select s => tuple "Select" [s.diagnostic]
  | .equalTo v => tuple "EqualTo" [v.diagnostic]
  | .notEqualTo v => tuple "NotEqualTo" [v.diagnostic]
  | .greaterThan v => tuple "GreaterThan" [v.diagnostic]
  | .greaterOrEqual v => tuple "GreaterOrEqual" [v.diagnostic]
  | .lessThan v => tuple "LessThan" [v.diagnostic]
  | .lessOrEqual v => tuple "LessOrEqual" [v.diagnostic]
  | .beginsWith v flags => tuple "BeginsWith" [v.diagnostic, flags.diagnostic]
  | .endsWith v flags => tuple "EndsWith" [v.diagnostic, flags.diagnostic]
  | .contains v flags => tuple "Contains" [v.diagnostic, flags.diagnostic]
  | .like p => tuple "Like" [p.diagnostic]
  | .matchesRegex p => tuple "Matches" [p.diagnostic]
  | .oneOf vs => tuple "In" [sequence (vs.map Value.diagnostic)]

end Action

namespace Operand

def diagnostic : Operand → String
  | .none => "None"
  | .value v => tuple "Value" [v.diagnostic]
  | .set vs => tuple "Set" [sequence (vs.map Value.diagnostic)]
  | .pattern p => tuple "Pattern" [p.diagnostic]

end Operand

namespace Operation

def diagnostic (o : Operation ρ) : String :=
  fields "ResolvedOperation"
    [("field", optional (o.selector?.map fun s => Text.quote s.field)),
    ("quantifier", optional (o.selector?.map (·.quantifier.name))), ("op", o.operator.name),
    ("insensitivity", o.insensitivity.diagnostic)]

end Operation

namespace Predicate

def diagnostic (p : Predicate ρ) : String :=
  fields "Predicate" [("actions", sequence (p.actions.map Action.diagnostic))]

end Predicate

namespace Expression

def diagnostic (e : Expression ρ) : String := tuple "Expression" [Text.quote e.text]

def compoundDiagnostic? (e : Expression ρ) : Option String :=
  e.connective?.map fun c => tuple c.name [sequence (e.children.map diagnostic)]

end Expression

end RecordQuery
