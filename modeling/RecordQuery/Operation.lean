import RecordQuery.Action
import RecordQuery.CanonicalForm
import RecordQuery.Value.Match

/-!
# Operations

An operation is what a predicate compiles to: one operator with its operand, applied to one
selected field, or the operation that holds of every record.
-/

namespace RecordQuery

inductive Operand where
  | none
  | value (v : Value)
  | set (vs : List Value)
  | pattern (p : Pattern)

def Operand.param : Operand → Value
  | .none => .absent
  | .value v => v
  | .set vs => .list vs
  | .pattern p => .string p.source

/-- A compiled predicate. Without a selector it holds of every record. -/
structure Operation (ρ : Type) where
  selector? : Option (Selector ρ)
  operator : Operator
  operand : Operand
  insensitivity : Insensitivity

namespace Operation

variable {ρ : Type}

def universal : Operation ρ := ⟨none, .always, .none, .exact⟩

def resolve (s : Selector ρ) : Action ρ → Operation ρ
  | .select _ => universal
  | .equalTo v => ⟨some s, .equal, .value v, .exact⟩
  | .notEqualTo v => ⟨some s, .notEqual, .value v, .exact⟩
  | .greaterThan v => ⟨some s, .greater, .value v, .exact⟩
  | .greaterOrEqual v => ⟨some s, .greaterOrEqual, .value v, .exact⟩
  | .lessThan v => ⟨some s, .less, .value v, .exact⟩
  | .lessOrEqual v => ⟨some s, .lessOrEqual, .value v, .exact⟩
  | .beginsWith v flags => ⟨some s, .beginsWith, .value v, flags⟩
  | .endsWith v flags => ⟨some s, .endsWith, .value v, flags⟩
  | .contains v flags => ⟨some s, .contains, .value v, flags⟩
  | .like p => ⟨some s, .like, .pattern p, .exact⟩
  | .matchesRegex p => ⟨some s, .matchesRegex, .pattern p, .exact⟩
  | .oneOf vs => ⟨some s, .oneOf, .set vs, .exact⟩

def isUniversal (o : Operation ρ) : Bool := o.selector?.isNone

def write (o : Operation ρ) (c : CanonicalForm) : CanonicalForm :=
  match o.selector? with
  | none => c.push Operator.always.symbol
  | some s =>
    let quantifier :=
      if s.quantifier.keyword.isEmpty then "" else s.quantifier.keyword ++ " "
    let flags :=
      if o.operator.isText && !o.insensitivity.isEmpty then "[" ++ o.insensitivity.letters ++ "]"
      else ""
    (c.push (quantifier ++ s.field ++ " " ++ o.operator.symbol ++ flags ++ " ")).bind
      o.operand.param

def canonical (o : Operation ρ) : CanonicalForm := o.write .empty

variable [CharData]

/-- Whether the operator holds of one value. A pattern holds only of strings. -/
def holds (o : Operation ρ) (subject : Value) : Bool :=
  match o.operand with
  | .none => true
  | .value v =>
    if o.operator.isText then Value.matchText o.operator o.insensitivity subject v
    else Value.satisfies o.operator subject v
  | .set vs => vs.any subject.sameAs
  | .pattern p => subject.string?.any p.accepts

def evaluate (o : Operation ρ) (r : ρ) : Bool :=
  match o.selector? with
  | none => true
  | some s =>
    match s.access, s.quantifier with
    | .single get, .negated => !o.holds (get r)
    | .single get, _ => o.holds (get r)
    | .each get, .all => (get r).all o.holds
    | .each get, .noneOf => !(get r).any o.holds
    | .each get, _ => (get r).any o.holds

end Operation

end RecordQuery
