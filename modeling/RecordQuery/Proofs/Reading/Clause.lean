import RecordQuery.Proofs.Expression.Layout
import RecordQuery.Proofs.Predicate.Access
import RecordQuery.Proofs.Reading.Token
import RecordQuery.Proofs.Value.Identical

/-!
# Reading clauses

A clause is the canonical text of one operation. Its words tell its quantifier, field, operator and
flags even where a field is named like a keyword, and its parameter tells the operand. So an
operation can be rebuilt from its clause, up to the difference between identical values.
-/

namespace RecordQuery

variable {ρ : Type}

/-- Two values that are one and the same or at least identical. -/
def Value.Agrees (v w : Value) : Prop := v = w ∨ v.identical w = true

section

variable [Pattern.Engine]

def Pattern.regexOrNever (source : String) : Pattern :=
  match regex source with
  | .ok p => p
  | .error _ => ⟨source, none⟩

omit [Pattern.Engine] in
theorem Pattern.source_of_map {source : String} {x : Except Pattern.Fault Pattern.Program}
    {p : Pattern}
    (h : (x.map fun r => (⟨source, some r⟩ : Pattern)) = .ok p) : p.source = source := by
  cases x with
  | error f => simp [Except.map] at h
  | ok r =>
    simp only [Except.map, Except.ok.injEq] at h
    rw [← h]

theorem Pattern.likeOrNever_of_like {glob : String} {p : Pattern} (h : like glob = .ok p) :
    likeOrNever p.source = p := by
  rw [source_of_map h, likeOrNever, h]

theorem Pattern.regexOrNever_of_regex {source : String} {p : Pattern}
    (h : regex source = .ok p) : regexOrNever p.source = p := by
  rw [source_of_map h, regexOrNever, h]

theorem Pattern.likeOrNever_source (glob : String) : (likeOrNever glob).source = glob := by
  cases h : like glob with
  | error f => simp [likeOrNever, h]
  | ok p => simp [likeOrNever, h, source_of_map h]

def Operator.operandOf : Operator → Value → Operand
  | .always, _ => .none
  | .like, v => .pattern (.likeOrNever (v.string?.getD ""))
  | .matchesRegex, v => .pattern (.regexOrNever (v.string?.getD ""))
  | .oneOf, v => .set v.elements
  | _, v => .value v

end

namespace Operation

variable [CharData] [Pattern.Engine]

theorem holds_operandOf_eq {σ : Type} {v w : Value} (h : v.Agrees w) (s : Option (Selector ρ))
    (t : Option (Selector σ)) (op : Operator) (flags : Insensitivity) (a : Value) :
    (⟨s, op, op.operandOf v, flags⟩ : Operation ρ).holds a =
      (⟨t, op, op.operandOf w, flags⟩ : Operation σ).holds a := by
  obtain rfl | h := h
  · rfl
  have hcompare := Value.compare_eq_of_identical h a
  have hsame := Value.sameAs_eq_of_identical h a
  have htext := Value.matchText_eq_of_identical h op flags a
  cases op with
  | like => simp only [holds, Operator.operandOf, Value.string?_eq_of_identical h]
  | matchesRegex => simp only [holds, Operator.operandOf, Value.string?_eq_of_identical h]
  | oneOf => simpa only [holds, Operator.operandOf] using Value.any_elements_eq_of_identical h a
  | always => rfl
  | beginsWith => simpa [holds, Operator.operandOf, Operator.isText] using htext
  | endsWith => simpa [holds, Operator.operandOf, Operator.isText] using htext
  | contains => simpa [holds, Operator.operandOf, Operator.isText] using htext
  | _ => simp [holds, Operator.operandOf, Operator.isText, Value.satisfies, hcompare, hsame]

end Operation

namespace Reading

def operatorWord (op : Operator) (flags : Insensitivity) : List Char :=
  op.symbol.toList ++
    if op.isText && !flags.isEmpty then '[' :: flags.letters.toList ++ [']'] else []

def operators : List (Operator × Insensitivity) :=
  Operator.all.flatMap fun op =>
    [(op, ⟨false, false⟩), (op, ⟨true, false⟩), (op, ⟨false, true⟩), (op, ⟨true, true⟩)]

def operator? (w : List Char) : Option (Operator × Insensitivity) :=
  operators.find? fun x => operatorWord x.1 x.2 = w

def quantifier? (w : List Char) : Option Quantifier :=
  [.negated, .any, .all, .noneOf].find? fun q => q.keyword.toList = w

theorem operator?_operatorWord (op : Operator) (flags : Insensitivity)
    (h : op.isText = false → flags = .exact) :
    operator? (operatorWord op flags) = some (op, flags) := by
  obtain ⟨c, d⟩ := flags
  cases op with
  | beginsWith => cases c <;> cases d <;> decide
  | endsWith => cases c <;> cases d <;> decide
  | contains => cases c <;> cases d <;> decide
  | _ =>
    rw [h rfl]
    decide

theorem isWord_operatorWord (op : Operator) (flags : Insensitivity) :
    IsWord (operatorWord op flags) := by
  obtain ⟨c, d⟩ := flags
  cases op <;> cases c <;> cases d <;> decide

theorem operator?_of_head {w : List Char} (h : w.head? = some '$') : operator? w = none := by
  refine List.find?_eq_none.mpr fun x hx hw => ?_
  have hhead : ∀ x ∈ operators, (operatorWord x.1 x.2).head? ≠ some '$' := by decide
  have hword : operatorWord x.1 x.2 = w := by simpa using hw
  exact hhead x hx (hword ▸ h)

theorem quantifier?_keyword {q : Quantifier} (h : q ≠ .plain) :
    quantifier? q.keyword.toList = some q := by
  cases q with
  | plain => exact absurd rfl h
  | _ => decide

theorem isWord_keyword {q : Quantifier} (h : q ≠ .plain) : IsWord q.keyword.toList := by
  cases q with
  | plain => exact absurd rfl h
  | _ => decide

theorem isWord_placeholder (n : Nat) : IsWord (CanonicalForm.placeholder n).toList := by
  refine ⟨by simp [CanonicalForm.placeholder], fun c hc => ?_⟩
  obtain rfl | hdigit : c = '$' ∨ c ∈ Nat.toDigits 10 n := by
    simpa [CanonicalForm.placeholder, Nat.toString_eq_ofList_toDigits] using hc
  · decide
  · have hc := Nat.isDigit_of_mem_toDigits (by decide) (by decide) hdigit
    refine ⟨?_, ?_, ?_⟩ <;> rintro rfl <;> revert hc <;> decide

theorem operator?_placeholder (n : Nat) :
    operator? (CanonicalForm.placeholder n).toList = none :=
  operator?_of_head (by simp [CanonicalForm.placeholder])

/-- The values of fields by name, apart for single values and for the elements of collections. -/
abbrev Values := Bool → String → Value

structure Clause where
  quantifier : Quantifier
  field : List Char
  operator : Operator
  flags : Insensitivity
  more : Nat

/-- The clause that begins with the word `w`. A third word that is no operator is a placeholder, so
that the first one is a field even if it looks like a quantifier. -/
def clause? (w : List Char) : List Token → Option Clause
  | .word u :: .word v :: _ =>
    match quantifier? w, operator? v with
    | some q, some (op, flags) => some ⟨q, u, op, flags, 3⟩
    | _, _ => (operator? u).map fun (op, flags) => ⟨.plain, w, op, flags, 2⟩
  | _ => none

theorem clause?_plain (name : List Char) (n : Nat) {op : Operator} {flags : Insensitivity}
    (h : op.isText = false → flags = .exact) (rest : List Token) :
    clause? name (.word (operatorWord op flags) ::
      .word (CanonicalForm.placeholder n).toList :: rest) =
        some ⟨.plain, name, op, flags, 2⟩ := by
  simp [clause?, operator?_placeholder, operator?_operatorWord op flags h]

theorem clause?_quantified (name : List Char) {q : Quantifier} (hq : q ≠ .plain) {op : Operator}
    {flags : Insensitivity} (h : op.isText = false → flags = .exact) (rest : List Token) :
    clause? q.keyword.toList (.word name :: .word (operatorWord op flags) :: rest) =
      some ⟨q, name, op, flags, 3⟩ := by
  simp [clause?, quantifier?_keyword hq, operator?_operatorWord op flags h]

theorem clause?_fixed {w rest : List Char} (hw : quantifier? w = none) (h : Follows rest) :
    clause? w (scan [] rest) = none := by
  have hword (k : List Char) (hk : operator? k = none) (ts : List Token) :
      clause? w (.word k :: ts) = none := by
    cases ts with
    | nil => rfl
    | cons t ts => cases t <;> simp [clause?, hw, hk]
  cases h with
  | nothing => rfl
  | closing rest => rw [scan_closing]; rfl
  | and rest => rw [scan_and]; exact hword _ (by decide) _
  | or rest => rw [scan_or]; exact hword _ (by decide) _

end Reading

namespace Operation

open Reading

/-- Whether an operation can be rebuilt from its clause, on a record where `read` gives the values
of the fields by name. -/
structure Legible [Pattern.Engine] (read : Values) (r : ρ) (o : Operation ρ) : Prop where
  field : ∀ s, o.selector? = some s →
    IsWord s.field.toList ∧ read s.access.isEach s.field = s.access.value r
  flags : o.operator.isText = false → o.insensitivity = .exact
  operand : o.isUniversal = false → o.operand = o.operator.operandOf o.operand.param

theorem toList_heading (o : Operation ρ) (s : Selector ρ) :
    (o.heading s).toList =
      (if s.quantifier = .plain then [] else s.quantifier.keyword.toList ++ [' ']) ++
        s.field.toList ++ ' ' :: operatorWord o.operator o.insensitivity ++ [' '] := by
  have hquantifier :
      (if s.quantifier.keyword.isEmpty then "" else s.quantifier.keyword ++ " ").toList =
        if s.quantifier = .plain then [] else s.quantifier.keyword.toList ++ [' '] := by
    cases s.quantifier <;> decide
  have hflags :
      (if o.operator.isText && !o.insensitivity.isEmpty then
        "[" ++ o.insensitivity.letters ++ "]" else "").toList =
        if o.operator.isText && !o.insensitivity.isEmpty then
          '[' :: o.insensitivity.letters.toList ++ [']'] else [] := by
    split <;> simp
  simp only [heading, String.toList_append, hquantifier, hflags, operatorWord]
  simp

theorem scan_plain (o : Operation ρ) {s : Selector ρ} (hq : s.quantifier = .plain)
    (hname : IsWord s.field.toList) (n : Nat) {rest : List Char} (hrest : Follows rest) :
    scan [] ((o.heading s).toList ++ ((CanonicalForm.placeholder n).toList ++ rest)) =
      .word s.field.toList :: .word (operatorWord o.operator o.insensitivity) ::
        .word (CanonicalForm.placeholder n).toList :: scan [] rest := by
  rw [toList_heading, if_pos hq]
  simp only [List.nil_append, List.append_assoc, List.cons_append]
  rw [scan_word_space hname, scan_word_space (isWord_operatorWord _ _),
    scan_word_follows (isWord_placeholder n) hrest]

theorem scan_quantified (o : Operation ρ) {s : Selector ρ} (hq : s.quantifier ≠ .plain)
    (hname : IsWord s.field.toList) (n : Nat) {rest : List Char} (hrest : Follows rest) :
    scan [] ((o.heading s).toList ++ ((CanonicalForm.placeholder n).toList ++ rest)) =
      .word s.quantifier.keyword.toList :: .word s.field.toList ::
        .word (operatorWord o.operator o.insensitivity) ::
          .word (CanonicalForm.placeholder n).toList :: scan [] rest := by
  rw [toList_heading, if_neg hq]
  simp only [List.nil_append, List.append_assoc, List.cons_append]
  rw [scan_word_space (isWord_keyword hq), scan_word_space hname,
    scan_word_space (isWord_operatorWord _ _), scan_word_follows (isWord_placeholder n) hrest]

end Operation

namespace Reading

variable [CharData] [Pattern.Engine]

def Clause.verdict (read : Values) (c : Clause) (v : Value) : Bool :=
  let name : String := .ofList c.field
  let field : Field Unit := ⟨name, fun _ => read c.quantifier.isCollection name⟩
  let o : Operation Unit :=
    ⟨some (.of field c.quantifier), c.operator, c.operator.operandOf v, c.flags⟩
  o.evaluate ()

/-- A clause has the verdict of the operation that it was written for. -/
theorem Clause.verdict_eq_evaluate {read : Values} {r : ρ} {o : Operation ρ}
    (ho : o.Legible read r) {s : Selector ρ} (hs : o.selector? = some s) {v : Value}
    (hv : v.Agrees o.operand.param) (more : Nat) :
    verdict read ⟨s.quantifier, s.field.toList, o.operator, o.insensitivity, more⟩ v =
      o.evaluate r := by
  have hread : read s.quantifier.isCollection s.field = s.access.value r := by
    rw [← s.fits]
    exact (ho.field s hs).2
  have hoperand := ho.operand (by simp [Operation.isUniversal, hs])
  obtain ⟨selector, op, operand, flags⟩ := o
  simp only at hs hv hoperand
  subst hs
  rw [hoperand]
  have hholds (t : Option (Selector Unit)) :
      (⟨t, op, op.operandOf v, flags⟩ : Operation Unit).holds =
        (⟨some s, op, op.operandOf operand.param, flags⟩ : Operation ρ).holds :=
    funext fun a => Operation.holds_operandOf_eq hv t (some s) op flags a
  rw [verdict, Operation.evaluate_of_selector rfl, Operation.evaluate_of_selector rfl, hholds,
    Selector.quantifier_of, Quantifier.verdict_value_of, String.ofList_toList, hread]

end Reading

end RecordQuery
