import RecordQuery.Predicate

/-!
# Evaluation with its branches checked

The evaluation of an operation once more. It gives no verdict where it comes to a branch for an
operator, or for an operand, that does not belong there.
-/

namespace RecordQuery.Dispatch

variable {ρ : Type}

def accepts : Operator → Ordering → Option Bool
  | .equal, o => some (o == .eq)
  | .notEqual, o => some (o != .eq)
  | .greater, o => some (o == .gt)
  | .greaterOrEqual, o => some (o != .lt)
  | .less, o => some (o == .lt)
  | .lessOrEqual, o => some (o != .gt)
  | _, _ => none

def satisfies (op : Operator) (subject operand : Value) : Option Bool :=
  match op with
  | .equal => some (subject.sameAs operand)
  | .notEqual => some (!subject.sameAs operand)
  | op => (subject.compare operand).elim (some false) (accepts op)

def matchChars (op : Operator) (subject operand : List Char) : Option Bool :=
  match op with
  | .beginsWith => some (operand.isPrefixOf subject)
  | .endsWith => some (operand.isSuffixOf subject)
  | .contains => some (occursIn operand subject)
  | _ => none

variable [CharData]

def matchItems (op : Operator) (flags : Insensitivity) (items needle : List Value) : Option Bool :=
  if items.length < needle.length then some false
  else
    match op with
    | .beginsWith => some (Value.matchRun flags needle (items.take needle.length))
    | .endsWith => some (Value.matchRun flags needle (items.drop (items.length - needle.length)))
    | .contains =>
      some (needle.isEmpty || (runs needle.length items).any (Value.matchRun flags needle))
    | _ => none

def matchText (op : Operator) (flags : Insensitivity) : Value → Value → Option Bool
  | .string subject, .string operand =>
    matchChars op (Text.foldChars flags subject.toList) (Text.foldChars flags operand.toList)
  | .list items, .list needle => matchItems op flags items needle
  | _, _ => some false

def holds (o : Operation ρ) (subject : Value) : Option Bool :=
  match o.operand with
  | .none => none
  | .value v =>
    if o.operator.isText then matchText o.operator o.insensitivity subject v
    else satisfies o.operator subject v
  | .set vs => some (vs.any subject.sameAs)
  | .pattern p => some (subject.string?.any p.accepts)

def evaluate (o : Operation ρ) (r : ρ) : Option Bool :=
  match o.selector? with
  | none => some true
  | some s =>
    match s.access, s.quantifier with
    | .single get, .negated => (holds o (get r)).map (!·)
    | .single get, _ => holds o (get r)
    | .each get, .all => (get r).allM (holds o)
    | .each get, .noneOf => ((get r).anyM (holds o)).map (!·)
    | .each get, _ => (get r).anyM (holds o)

end RecordQuery.Dispatch
