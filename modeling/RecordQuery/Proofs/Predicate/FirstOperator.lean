import Mathlib.Logic.Relation
import RecordQuery.Predicate
import RecordQuery.Unicode.Standard

/-!
# The first operator decides

A predicate amounts to the selection that begins its list of actions together with the first
operator after it. What is appended later and where further selections stand makes no difference
to it, however often the list is changed.
-/

namespace RecordQuery

variable {ρ : Type}

namespace Action

def operand : Action ρ → Operand
  | .select _ => .none
  | .equalTo v | .notEqualTo v | .greaterThan v | .greaterOrEqual v | .lessThan v
  | .lessOrEqual v => .value v
  | .beginsWith v _ | .endsWith v _ | .contains v _ => .value v
  | .like p | .matchesRegex p => .pattern p
  | .oneOf vs => .set vs

def flags : Action ρ → Insensitivity
  | .beginsWith _ flags | .endsWith _ flags | .contains _ flags => flags
  | _ => .exact

@[simp] theorem isOperator_select (s : Selector ρ) : (select s).isOperator = false := rfl

theorem exists_operator {a : Action ρ} (h : a.isOperator = true) :
    ∃ op, a.operator? = some op :=
  Option.isSome_iff_exists.mp h

theorem eq_select_of_not_isOperator {a : Action ρ} (h : a.isOperator = false) :
    ∃ s, a = .select s := by
  cases a with
  | select s => exact ⟨s, rfl⟩
  | _ => simp [isOperator, operator?] at h

end Action

theorem Operation.resolve_eq {a : Action ρ} {op : Operator} (s : Selector ρ)
    (h : a.operator? = some op) : resolve s a = ⟨some s, op, a.operand, a.flags⟩ := by
  cases a with
  | select t => simp [Action.operator?] at h
  | _ => cases h; rfl

/-- A list of actions that says nothing about any record. -/
inductive Incomplete : List (Action ρ) → Prop where
  | empty : Incomplete []
  | unselected (a : Action ρ) (rest : List (Action ρ)) (h : a.isOperator = true) :
    Incomplete (a :: rest)
  | undecided (s : Selector ρ) (rest : List (Action ρ)) (h : ∀ a ∈ rest, a.isOperator = false) :
    Incomplete (.select s :: rest)

/-- A change to a list of actions: more is appended, or a selection after the first action comes
or goes. -/
inductive Edit : List (Action ρ) → List (Action ρ) → Prop where
  | append (as more : List (Action ρ)) : Edit as (as ++ more)
  | insert (a : Action ρ) (before after : List (Action ρ)) (s : Selector ρ) :
    Edit (a :: (before ++ after)) (a :: (before ++ .select s :: after))
  | delete (a : Action ρ) (before after : List (Action ρ)) (s : Selector ρ) :
    Edit (a :: (before ++ .select s :: after)) (a :: (before ++ after))

namespace Predicate

/-- The selection that begins a predicate and the first operator after it. -/
def Honors (p : Predicate ρ) (s : Selector ρ) (a : Action ρ) : Prop :=
  ∃ skipped later, p.actions = .select s :: (skipped ++ a :: later) ∧
    (∀ b ∈ skipped, b.isOperator = false) ∧ a.isOperator = true

theorem honors_iff_find? (p : Predicate ρ) (s : Selector ρ) (a : Action ρ) :
    p.Honors s a ↔
      ∃ rest, p.actions = .select s :: rest ∧ rest.find? Action.isOperator = some a := by
  constructor
  · rintro ⟨skipped, later, hp, hskip, ha⟩
    refine ⟨skipped ++ a :: later, hp, ?_⟩
    exact List.find?_eq_some_iff_append.mpr
      ⟨ha, skipped, later, rfl, fun b hb => by simp [hskip b hb]⟩
  · rintro ⟨rest, hp, hfind⟩
    obtain ⟨ha, skipped, later, rfl, hskip⟩ := List.find?_eq_some_iff_append.mp hfind
    exact ⟨skipped, later, hp, fun b hb => by simpa using hskip b hb, ha⟩

theorem compile_of_honors {p : Predicate ρ} {s : Selector ρ} {a : Action ρ}
    (h : p.Honors s a) : p.compile = .resolve s a := by
  obtain ⟨rest, hp, hfind⟩ := (honors_iff_find? p s a).mp h
  simp only [compile, hp, hfind]

theorem Honors.isOperator {p : Predicate ρ} {s : Selector ρ} {a : Action ρ} (h : p.Honors s a) :
    a.isOperator = true := by
  obtain ⟨_, _, _, _, ha⟩ := h
  exact ha

theorem Honors.exists_operation {p : Predicate ρ} {s : Selector ρ} {a : Action ρ}
    (h : p.Honors s a) :
    ∃ op, a.operator? = some op ∧ p.compile = ⟨some s, op, a.operand, a.flags⟩ := by
  obtain ⟨op, hop⟩ := Action.exists_operator h.isOperator
  exact ⟨op, hop, by rw [compile_of_honors h, Operation.resolve_eq s hop]⟩

theorem compile_of_incomplete {p : Predicate ρ} (h : Incomplete p.actions) :
    p.compile = .universal := by
  obtain ⟨as⟩ := p
  cases h with
  | empty => rfl
  | unselected a rest ha =>
    cases a with
    | select s => simp at ha
    | _ => rfl
  | undecided s rest hrest =>
    have hnone : rest.find? Action.isOperator = none :=
      List.find?_eq_none.mpr fun a ha => by simp [hrest a ha]
    simp only [compile, hnone]

/-- A predicate either says nothing or has a selection and an operator that decide it. -/
theorem incomplete_or_honors (p : Predicate ρ) :
    Incomplete p.actions ∨ ∃ s a, p.Honors s a := by
  obtain ⟨as⟩ := p
  cases as with
  | nil => exact .inl .empty
  | cons a rest =>
    cases ha : a.isOperator with
    | true => exact .inl (.unselected a rest ha)
    | false =>
      obtain ⟨s, rfl⟩ := Action.eq_select_of_not_isOperator ha
      cases hfind : rest.find? Action.isOperator with
      | none =>
        have hrest := List.find?_eq_none.mp hfind
        exact .inl (.undecided s rest fun b hb => by simpa using hrest b hb)
      | some b => exact .inr ⟨s, b, (honors_iff_find? _ s b).mpr ⟨rest, rfl, hfind⟩⟩

theorem honors_of_not_isUniversal {p : Predicate ρ} (h : p.compile.isUniversal = false) :
    ∃ s a, p.Honors s a := by
  refine (incomplete_or_honors p).resolve_left fun hp => ?_
  simp [compile_of_incomplete hp, Operation.isUniversal, Operation.universal] at h

theorem find?_isOperator_insert (before after : List (Action ρ)) (s : Selector ρ) :
    (before ++ .select s :: after).find? Action.isOperator =
      (before ++ after).find? Action.isOperator := by
  simp [List.find?_append]

theorem Honors.edit {p q : Predicate ρ} {s : Selector ρ} {a : Action ρ} (h : p.Honors s a)
    (hedit : Edit p.actions q.actions) : q.Honors s a := by
  rw [honors_iff_find?] at h ⊢
  obtain ⟨rest, hp, hfind⟩ := h
  rw [hp] at hedit
  generalize hq : q.actions = bs at hedit ⊢
  cases hedit with
  | append _ more =>
    refine ⟨rest ++ more, rfl, ?_⟩
    rw [List.find?_append, hfind, Option.some_or]
  | insert _ before after t =>
    exact ⟨_, rfl, by rw [find?_isOperator_insert, hfind]⟩
  | delete _ before after t =>
    exact ⟨_, rfl, by rw [← find?_isOperator_insert before after t, hfind]⟩

theorem Honors.edits {p q : Predicate ρ} {s : Selector ρ} {a : Action ρ} (h : p.Honors s a)
    (hedits : Relation.ReflTransGen Edit p.actions q.actions) : q.Honors s a := by
  obtain ⟨bs⟩ := q
  simp only at hedits
  induction hedits with
  | refl => exact h
  | @tail bs cs _ hstep ih => exact ih.edit (q := ⟨cs⟩) hstep

section

variable [CharData]

/-- A predicate that says nothing is universal. Any other one compiles to its leading selection
and the first operator after it, and stays what it is under every run of changes. -/
theorem compile_eq_first_operator (p : Predicate ρ) :
    (Incomplete p.actions → p.compile = .universal ∧ (∀ r, p.evaluate r = true) ∧
      p.canonical = ⟨"TRUEPREDICATE", []⟩) ∧
    (¬ Incomplete p.actions → ∃ s a op, p.Honors s a ∧ a.operator? = some op ∧
      p.compile = ⟨some s, op, a.operand, a.flags⟩) ∧
    ∀ q : Predicate ρ, p.compile.isUniversal = false →
      Relation.ReflTransGen Edit p.actions q.actions →
        q.compile = p.compile ∧ q.canonical = p.canonical ∧
          ∀ r, q.evaluate r = p.evaluate r := by
  refine ⟨fun h => ?_, fun h => ?_, fun q hp hedits => ?_⟩
  · have huniv := compile_of_incomplete h
    refine ⟨huniv, fun r => ?_, ?_⟩
    · rw [evaluate, huniv]; rfl
    · rw [canonical, huniv]; rfl
  · obtain ⟨s, a, hsa⟩ := (incomplete_or_honors p).resolve_left h
    obtain ⟨op, hop, hcompile⟩ := hsa.exists_operation
    exact ⟨s, a, op, hsa, hop, hcompile⟩
  · obtain ⟨s, a, hsa⟩ := honors_of_not_isUniversal hp
    have hsame : q.compile = p.compile := by
      rw [compile_of_honors hsa, compile_of_honors (hsa.edits hedits)]
    refine ⟨hsame, by rw [canonical, canonical, hsame], fun r => ?_⟩
    rw [evaluate, evaluate, hsame]

end

theorem compile_eq_first_operator_stray :
    let age : Selector Record := .plain (.named "age")
    let older : Action Record := .greaterThan (.number (.signed 60))
    let tags : Selector Record := .any (.named "tags")
    let p : Predicate Record := ⟨[.select age, older]⟩
    let q : Predicate Record := ⟨[.select age, .select tags, older, .equalTo .absent]⟩
    p.compile.isUniversal = false ∧ q.compile = p.compile ∧ q.canonical = p.canonical ∧
      ∀ r, q.evaluate r = p.evaluate r := by
  intro age older tags p q
  have hp : p.compile.isUniversal = false := rfl
  have hinsert : Edit p.actions [.select age, .select tags, older] :=
    .insert (.select age) [] [older] tags
  have happend : Edit [.select age, .select tags, older] q.actions :=
    .append _ [.equalTo .absent]
  have hedits : Relation.ReflTransGen Edit p.actions q.actions :=
    .tail (.single hinsert) happend
  exact ⟨hp, (compile_eq_first_operator p).2.2 q hp hedits⟩

end Predicate

end RecordQuery
