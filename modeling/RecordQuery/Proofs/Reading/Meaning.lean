import RecordQuery.Proofs.Reading.Verdict
import RecordQuery.Regex.Engine
import RecordQuery.Unicode.Standard

/-!
# Canonical form determines the meaning

Two expressions whose canonical texts are equal and whose parameters are identical hold of the
same records, provided that field names are words, that a name stands for one value of a record,
and that patterns are what their operators make of a text.
-/

namespace RecordQuery

open Reading

variable {ρ : Type}

section

variable [Pattern.Engine]

/-- Whether an action is written so that it can be read again. -/
def Action.Readable : Action ρ → Prop
  | .select s => IsWord s.field.toList
  | .like q => ∃ glob, Pattern.like glob = .ok q ∨ Pattern.likeOrNever glob = q
  | .matchesRegex q => ∃ source, Pattern.regex source = .ok q
  | _ => True

omit [Pattern.Engine] in
theorem Action.flags_of_not_isText {a : Action ρ} {op : Operator} (hop : a.operator? = some op)
    (h : op.isText = false) : a.flags = .exact := by
  cases a with
  | select s => rfl
  | beginsWith v flags => cases hop; simp [Operator.isText] at h
  | endsWith v flags => cases hop; simp [Operator.isText] at h
  | contains v flags => cases hop; simp [Operator.isText] at h
  | _ => rfl

theorem Action.operand_eq_operandOf {a : Action ρ} {op : Operator} (hop : a.operator? = some op)
    (ha : a.Readable) : a.operand = op.operandOf a.operand.param := by
  cases a with
  | select s => simp [operator?] at hop
  | like q =>
    cases hop
    obtain ⟨glob, hq⟩ := ha
    have hsource : Pattern.likeOrNever q.source = q := by
      cases hq with
      | inl hq => exact Pattern.likeOrNever_of_like hq
      | inr hq => rw [← hq, Pattern.likeOrNever_source]
    simp [operand, Operand.param, Operator.operandOf, Value.string?, hsource]
  | matchesRegex q =>
    cases hop
    obtain ⟨source, hq⟩ := ha
    simp [operand, Operand.param, Operator.operandOf, Value.string?,
      Pattern.regexOrNever_of_regex hq]
  | _ => cases hop; rfl

theorem Predicate.legible {p : Predicate ρ} (hp : ∀ a ∈ p.actions, a.Readable)
    {read : Values} {r : ρ}
    (hread : ∀ s, .select s ∈ p.actions → read s.access.isEach s.field = s.access.value r) :
    p.compile.Legible read r := by
  cases incomplete_or_honors p with
  | inl h =>
    rw [compile_of_incomplete h]
    exact ⟨fun s hs => by simp [Operation.universal] at hs, fun _ => rfl, fun _ => rfl⟩
  | inr h =>
    obtain ⟨s, a, hsa⟩ := h
    obtain ⟨op, hop, hcompile⟩ := hsa.exists_operation
    obtain ⟨skipped, later, hactions, -, -⟩ := hsa
    rw [hcompile]
    have hs : Action.select s ∈ p.actions := by simp [hactions]
    have hmem : a ∈ p.actions := by simp [hactions]
    refine ⟨fun t ht => ?_, fun h => Action.flags_of_not_isText hop h,
      fun _ => Action.operand_eq_operandOf hop (hp a hmem)⟩
    obtain rfl : s = t := by simpa using ht
    exact ⟨hp _ hs, hread s hs⟩

end

namespace Expression

def selectors (e : Expression ρ) : List (Selector ρ) :=
  e.leaves.flatMap fun p => p.actions.filterMap Action.selector?

def Readable [Pattern.Engine] (e : Expression ρ) : Prop :=
  ∀ p ∈ e.leaves, ∀ a ∈ p.actions, a.Readable

theorem mem_selectors {e : Expression ρ} {p : Predicate ρ} {s : Selector ρ} (hp : p ∈ e.leaves)
    (hs : .select s ∈ p.actions) : s ∈ e.selectors :=
  List.mem_flatMap.mpr ⟨p, hp, List.mem_filterMap.mpr ⟨.select s, hs, rfl⟩⟩

def valuesOf (selectors : List (Selector ρ)) (r : ρ) : Values := fun isEach name =>
  ((selectors.find? fun s => s.field = name ∧ s.access.isEach = isEach).map
    fun s => s.access.value r).getD .absent

/-- Whether a name that is selected twice in the same way stands for one value of a record. -/
def NamesDetermine (selectors : List (Selector ρ)) (r : ρ) : Prop :=
  ∀ s ∈ selectors, ∀ t ∈ selectors, s.field = t.field →
    s.access.isEach = t.access.isEach → s.access.value r = t.access.value r

theorem NamesDetermine.valuesOf_eq {selectors : List (Selector ρ)} {r : ρ}
    (h : NamesDetermine selectors r) {s : Selector ρ} (hs : s ∈ selectors) :
    valuesOf selectors r s.access.isEach s.field = s.access.value r := by
  cases hfind : selectors.find? fun t =>
      t.field = s.field ∧ t.access.isEach = s.access.isEach with
  | none =>
    have hnone := List.find?_eq_none.mp hfind s hs
    simp at hnone
  | some t =>
    obtain ⟨hname, heach⟩ : t.field = s.field ∧ t.access.isEach = s.access.isEach := by
      simpa using List.find?_some hfind
    rw [valuesOf, hfind]
    exact h t (List.mem_of_find?_eq_some hfind) s hs hname heach

section

variable [CharData] [Pattern.Engine]

theorem expectOperand_text {e : Expression ρ} {read : Values} {r : ρ}
    (he : ∀ p ∈ e.leaves, p.compile.Legible read r) {params : List Value}
    (hparams : List.Forall₂ Value.Agrees params e.canonical.params) :
    expectOperand read id [] params (scan [] e.text.toList) = e.evaluate r := by
  have hread := reads_layout e he id fun _ => rfl
  have hchars : Part.chars 0 e.layout = e.text.toList := by
    rw [Part.chars, Expression.text, canonical_eq]
  have h := hread 0 [] params [] [] (by rwa [canonical_params] at hparams) .nothing
  rw [hchars, List.append_nil, List.append_nil] at h
  rw [h]
  simp [scan, flush, afterOperand]

/-- Expressions with the same canonical text and identical parameters hold of the same records. -/
theorem evaluate_eq_of_canonical {e f : Expression ρ} (he : e.Readable) (hf : f.Readable) {r : ρ}
    (hnames : NamesDetermine (e.selectors ++ f.selectors) r)
    (htext : e.canonical.text = f.canonical.text)
    (hparams : List.Forall₂ Value.Agrees e.canonical.params f.canonical.params) :
    e.evaluate r = f.evaluate r := by
  have hle : ∀ p ∈ e.leaves, p.compile.Legible (valuesOf (e.selectors ++ f.selectors) r) r :=
    fun p hp => Predicate.legible (he p hp) fun s hs =>
      hnames.valuesOf_eq (List.mem_append_left _ (mem_selectors hp hs))
  have hlf : ∀ p ∈ f.leaves, p.compile.Legible (valuesOf (e.selectors ++ f.selectors) r) r :=
    fun p hp => Predicate.legible (hf p hp) fun s hs =>
      hnames.valuesOf_eq (List.mem_append_right _ (mem_selectors hp hs))
  have hself : List.Forall₂ Value.Agrees e.canonical.params e.canonical.params :=
    List.forall₂_same.mpr fun v _ => .inl rfl
  have hsametext : e.text = f.text := htext
  rw [← expectOperand_text hle hself, hsametext, expectOperand_text hlf hparams]

end

/-- Two fields named like keywords and something that always holds. The canonical text is
`(AND == $1 OR NOT NOT LIKE $2) AND NOT (TRUEPREDICATE)`. -/
def keywordFields (zero : Double) (always : Expression Record) : Expression Record :=
  .all [.any [.leaf ⟨[.select (.plain (.named "AND")), .equalTo (.number (.float zero))]⟩,
    .leaf ⟨[.select (.negated (.named "NOT")), .like (.likeOrNever "a*")]⟩], .negation always]

theorem keywordFields_readable (zero : Double) {always : Expression Record}
    (h : always.Readable) : (keywordFields zero always).Readable := by
  intro p hp
  have hleaves : p = ⟨[.select (.plain (.named "AND")), .equalTo (.number (.float zero))]⟩ ∨
      p = ⟨[.select (.negated (.named "NOT")), .like (.likeOrNever "a*")]⟩ ∨
      p ∈ always.leaves := by
    simpa [keywordFields] using hp
  rcases hleaves with rfl | rfl | hp
  · intro a ha
    obtain rfl | rfl : a = .select (.plain (.named "AND")) ∨
        a = .equalTo (.number (.float zero)) := by simpa using ha
    · show IsWord "AND".toList
      decide
    · trivial
  · intro a ha
    obtain rfl | rfl : a = .select (.negated (.named "NOT")) ∨
        a = .like (.likeOrNever "a*") := by simpa using ha
    · show IsWord "NOT".toList
      decide
    · exact ⟨"a*", .inr rfl⟩
  · exact h p hp

theorem keywordFields_selectors (zero : Double) (always : Expression Record) :
    (keywordFields zero always).selectors =
      .plain (.named "AND") :: .negated (.named "NOT") :: always.selectors := by
  simp [selectors, keywordFields, List.filterMap_cons, Action.selector?]

theorem evaluate_eq_of_canonical_keywords :
    (keywordFields ⟨0⟩ (.leaf ⟨[]⟩)).canonical.text =
        (keywordFields ⟨0x8000000000000000⟩ (.all [])).canonical.text ∧
      ∀ r, (keywordFields ⟨0⟩ (.leaf ⟨[]⟩)).evaluate r =
        (keywordFields ⟨0x8000000000000000⟩ (.all [])).evaluate r := by
  have htext : (keywordFields ⟨0⟩ (.leaf ⟨[]⟩)).canonical.text =
      (keywordFields ⟨0x8000000000000000⟩ (.all [])).canonical.text := by decide
  have hparams : List.Forall₂ Value.Agrees (keywordFields ⟨0⟩ (.leaf ⟨[]⟩)).canonical.params
      (keywordFields ⟨0x8000000000000000⟩ (.all [])).canonical.params :=
    .cons (.inr (by decide)) (.cons (.inl rfl) .nil)
  have he : (keywordFields ⟨0⟩ (.leaf ⟨[]⟩)).Readable :=
    keywordFields_readable _ (by simp [Readable])
  have hf : (keywordFields ⟨0x8000000000000000⟩ (.all [])).Readable :=
    keywordFields_readable _ (by simp [Readable])
  refine ⟨htext, fun r => evaluate_eq_of_canonical he hf ?_ htext hparams⟩
  have hsingle : ∀ s ∈ (keywordFields ⟨0⟩ (.leaf ⟨[]⟩)).selectors ++
      (keywordFields ⟨0x8000000000000000⟩ (.all [])).selectors,
      s.access.value r = Record.read s.field r := by
    simp only [keywordFields_selectors]
    simp [selectors, Field.named, Selector.plain, Selector.negated, Access.value]
  intro s hs t ht hname _
  rw [hsingle s hs, hsingle t ht, hname]

end Expression

end RecordQuery
