import RecordQuery.Proofs.Expression.Combination
import RecordQuery.Proofs.Predicate.Access
import RecordQuery.Proofs.Predicate.FirstOperator

/-!
# Verdicts of drafts

What a draft or a combination of drafts amounts to when everything in it compiles: a verdict on
every record. A chain of steps is built exactly if its regular expressions compile, and its verdict
is that of its first step under the quantifier of the selection.
-/

namespace RecordQuery

variable {ρ : Type}

namespace Build

variable {α β : Type}

/-- What a build comes to, apart from its report. -/
def result (x : Build α) : Except Pattern.Fault α := x.run.value

theorem result_bind (x : Build α) (g : α → Build β) :
    result (x >>= g) = (result x).bind fun a => result (g a) := by
  -- the report of a build is put together beside its value and never looked at
  change (ExceptT.bindCont g x.run.value).value = x.run.value.bind _
  cases x.run.value <;> rfl

theorem result_map (x : Build α) (g : α → β) :
    result (x >>= fun a => pure (g a)) = (result x).map g := by
  rw [result_bind]
  cases result x <;> rfl

end Build

/-! ### Chains of actions -/

namespace Predicate

def chain (q : Quantifier) (f : Field ρ) (as : List (Action ρ)) : Predicate ρ :=
  ⟨.select (.of f q) :: as⟩

theorem honors_chain_cons (q : Quantifier) (f : Field ρ) {a : Action ρ}
    (ha : a.isOperator = true) (later : List (Action ρ)) :
    (chain q f (a :: later)).Honors (.of f q) a :=
  ⟨[], later, rfl, by simp, ha⟩

end Predicate

section

variable [CharData]

def Action.holds (a : Action ρ) (v : Value) : Bool :=
  (⟨none, a.operator?.getD .always, a.operand, a.flags⟩ : Operation ρ).holds v

theorem Action.holds_equalTo (v : Value) :
    (equalTo v : Action ρ).holds = fun u => u.sameAs v := rfl

theorem Action.holds_notEqualTo (v : Value) :
    (notEqualTo v : Action ρ).holds = fun u => !u.sameAs v := rfl

theorem Action.holds_oneOf (vs : List Value) :
    (oneOf vs : Action ρ).holds = fun u => vs.any u.sameAs := rfl

theorem Predicate.evaluate_chain (q : Quantifier) (f : Field ρ) {a : Action ρ}
    (ha : a.isOperator = true) (later : List (Action ρ)) (r : ρ) :
    (chain q f (a :: later)).evaluate r = q.verdict a.holds (f.get r) := by
  obtain ⟨op, hop, hcompile⟩ := (honors_chain_cons q f ha later).exists_operation
  have hholds : Operation.holds ⟨some (.of f q), op, a.operand, a.flags⟩ = a.holds := by
    funext v
    rw [Action.holds, hop]
    rfl
  rw [evaluate, hcompile, Operation.evaluate_of_selector rfl, hholds, Selector.quantifier_of]
  exact q.verdict_value_of a.holds f r

end

/-! ### Chains of steps -/

variable [Pattern.Engine]

namespace Step

def chainActions (steps : List Step) : Except Pattern.Fault (List (Action ρ)) :=
  steps.mapM chainAction

theorem chainActions_cons_of_ok {s : Step} {a : Action ρ} (h : s.chainAction = .ok a)
    (rest : List Step) : chainActions (s :: rest) = (chainActions rest).map (a :: ·) := by
  rw [chainActions, List.mapM_cons, h, chainActions]
  cases rest.mapM (chainAction (ρ := ρ)) <;> rfl

theorem chainActions_cons_of_error {s : Step} {f : Pattern.Fault}
    (h : s.chainAction (ρ := ρ) = .error f) (rest : List Step) :
    chainActions (ρ := ρ) (s :: rest) = .error f := by
  rw [chainActions, List.mapM_cons, h]
  rfl

theorem isOperator_chainAction {s : Step} {a : Action ρ} (h : s.chainAction = .ok a) :
    a.isOperator = true := by
  cases s with
  | like glob => cases h; rfl
  | matchesRegex source =>
    change (Pattern.regex source).map .matchesRegex = .ok a at h
    cases hp : Pattern.regex source with
    | error f => rw [hp] at h; cases h
    | ok p => rw [hp] at h; cases h; rfl
  | _ => cases h; rfl

theorem exists_chainAction_iff {s : Step} :
    (∃ a : Action ρ, s.chainAction = .ok a) ↔
      ∀ source, s = .matchesRegex source → ∃ p, Pattern.regex source = .ok p := by
  cases s with
  | matchesRegex source =>
    have hmap : (chainAction (ρ := ρ) (.matchesRegex source)) =
        (Pattern.regex source).map .matchesRegex := rfl
    rw [hmap]
    cases hp : Pattern.regex source with
    | error f => simp [Except.map, hp]
    | ok p => simp [Except.map, hp]
  | like glob => exact iff_of_true ⟨_, rfl⟩ (by simp)
  | _ => exact iff_of_true ⟨_, rfl⟩ (by simp)

theorem exists_chainActions_iff {steps : List Step} :
    (∃ as : List (Action ρ), chainActions steps = .ok as) ↔
      ∀ source, .matchesRegex source ∈ steps → ∃ p, Pattern.regex source = .ok p := by
  induction steps with
  | nil => exact iff_of_true ⟨[], rfl⟩ (by simp)
  | cons s rest ih =>
    have hcons : (∃ as : List (Action ρ), chainActions (s :: rest) = .ok as) ↔
        (∃ a : Action ρ, s.chainAction = .ok a) ∧
          ∃ as : List (Action ρ), chainActions rest = .ok as := by
      cases hs : s.chainAction (ρ := ρ) with
      | error f => simp [chainActions_cons_of_error hs]
      | ok a =>
        rw [chainActions_cons_of_ok hs]
        cases chainActions (ρ := ρ) rest <;> simp [Except.map]
    rw [hcons, ih, exists_chainAction_iff]
    simp only [List.mem_cons, or_imp, forall_and, eq_comm]

end Step

namespace Predicate

theorem result_extendBy (p : Predicate ρ) (s : Step) :
    Build.result (p.extendBy s) = s.chainAction.map p.append := by
  rw [extendBy]
  cases s.chainAction (ρ := ρ) <;> rfl

theorem result_extendByAll (p : Predicate ρ) (steps : List Step) :
    Build.result (p.extendByAll steps) =
      (Step.chainActions steps).map fun as => ⟨p.actions ++ as⟩ := by
  induction steps generalizing p with
  | nil =>
    change Except.ok p = .ok ⟨p.actions ++ []⟩
    rw [List.append_nil]
  | cons s rest ih =>
    rw [extendByAll, Build.result_bind, result_extendBy]
    cases ha : s.chainAction (ρ := ρ) with
    | error f => rw [Step.chainActions_cons_of_error ha]; rfl
    | ok a =>
      change Build.result ((p.append a).extendByAll rest) = _
      rw [ih, Step.chainActions_cons_of_ok ha]
      cases Step.chainActions (ρ := ρ) rest with
      | error f => rfl
      | ok as => simp [Except.map, append]

end Predicate

theorem Draft.result_chain (q : Quantifier) (f : Field ρ) (steps : List Step) :
    Build.result (Draft.chain q f steps).build =
      (Step.chainActions steps).map (Predicate.chain q f) :=
  Predicate.result_extendByAll (.select q f) steps

/-! ### The first step decides -/

variable [CharData]

def Step.chainHolds (ρ : Type) (s : Step) (rest : List Step) :
    Except Pattern.Fault (Value → Bool) :=
  match s.chainAction (ρ := ρ) with
  | .error f => .error f
  | .ok a => (chainActions (ρ := ρ) rest).map fun _ => a.holds

namespace Combination

/-- The verdicts of what a combination of drafts is built to, or the first fault in it. -/
def verdict (c : Combination (Draft ρ)) : Except Pattern.Fault (ρ → Bool) :=
  (Build.result c.build).map fun e r => e.evaluate r

def Agree (c d : Combination (Draft ρ)) : Prop :=
  ∃ p, verdict c = .ok p ∧ verdict d = .ok p

theorem verdict_chain (q : Quantifier) (f : Field ρ) (steps : List Step) :
    verdict (.leaf (.chain q f steps)) =
      (Step.chainActions steps).map fun as r => (Predicate.chain q f as).evaluate r := by
  rw [verdict, build, Build.result_map, Draft.result_chain]
  cases Step.chainActions (ρ := ρ) steps with
  | error g => rfl
  | ok as => simp [Except.map]

theorem verdict_chain_nil (q : Quantifier) (f : Field ρ) :
    verdict (.leaf (.chain q f [])) = .ok fun _ => true := by
  rw [verdict_chain]
  rfl

/-- The quantifier applies to the first step, whatever steps come after it. -/
theorem verdict_chain_cons (q : Quantifier) (f : Field ρ) (s : Step) (rest : List Step) :
    verdict (.leaf (.chain q f (s :: rest))) =
      (Step.chainHolds ρ s rest).map fun holds r => q.verdict holds (f.get r) := by
  rw [verdict_chain, Step.chainHolds]
  cases hs : s.chainAction (ρ := ρ) with
  | error g => rw [Step.chainActions_cons_of_error hs]; rfl
  | ok a =>
    rw [Step.chainActions_cons_of_ok hs]
    -- later steps may have a fault, but what they are makes no difference
    cases Step.chainActions (ρ := ρ) rest with
    | error g => rfl
    | ok later =>
      have heval := Predicate.evaluate_chain q f (Step.isOperator_chainAction hs) later
      simp only [Except.map, heval]

theorem verdict_single (q : Quantifier) (f : Field ρ) {s : Step} {a : Action ρ}
    (h : s.chainAction = .ok a) :
    verdict (.leaf (.chain q f [s])) = .ok fun r => q.verdict a.holds (f.get r) := by
  rw [verdict_chain_cons, Step.chainHolds, h]
  rfl

theorem verdict_equalTo (q : Quantifier) (f : Field ρ) (v : Value) :
    verdict (.leaf (.chain q f [.equalTo v])) =
      .ok fun r => q.verdict (fun u => u.sameAs v) (f.get r) := by
  rw [verdict_single q f (a := .equalTo v) rfl, Action.holds_equalTo]

theorem verdict_notEqualTo (q : Quantifier) (f : Field ρ) (v : Value) :
    verdict (.leaf (.chain q f [.notEqualTo v])) =
      .ok fun r => q.verdict (fun u => !u.sameAs v) (f.get r) := by
  rw [verdict_single q f (a := .notEqualTo v) rfl, Action.holds_notEqualTo]

theorem verdict_isOneOf (q : Quantifier) (f : Field ρ) (vs : List Value) :
    verdict (.leaf (.chain q f [.oneOf vs])) =
      .ok fun r => q.verdict (fun u => vs.any u.sameAs) (f.get r) := by
  rw [verdict_single q f (a := .oneOf vs) rfl, Action.holds_oneOf]

theorem verdict_chain_cases {q : Quantifier} {f : Field ρ} {steps : List Step} {p : ρ → Bool}
    (h : verdict (.leaf (.chain q f steps)) = .ok p) :
    (∀ r, p r = true) ∨ ∃ holds, ∀ r, p r = q.verdict holds (f.get r) := by
  cases steps with
  | nil =>
    rw [verdict_chain_nil] at h
    cases h
    exact .inl fun _ => rfl
  | cons s rest =>
    rw [verdict_chain_cons] at h
    cases hholds : Step.chainHolds ρ s rest with
    | error g => rw [hholds] at h; cases h
    | ok holds =>
      rw [hholds] at h
      cases h
      exact .inr ⟨holds, fun _ => rfl⟩

theorem exists_verdict_chain_iff {q : Quantifier} {f : Field ρ} {steps : List Step} :
    (∃ p, verdict (.leaf (.chain q f steps)) = .ok p) ↔
      ∀ source, .matchesRegex source ∈ steps → ∃ p, Pattern.regex source = .ok p := by
  rw [← Step.exists_chainActions_iff (ρ := ρ), verdict_chain]
  cases Step.chainActions (ρ := ρ) steps <;> simp [Except.map]

theorem verdict_negate (c : Combination (Draft ρ)) :
    verdict (.negate c) = (verdict c).map fun p r => !p r := by
  rw [verdict, verdict, build, Build.result_map]
  cases Build.result c.build with
  | error g => rfl
  | ok e => simp [Except.map]

/-! ### Lists of parts -/

theorem exists_of_verdict {c : Combination (Draft ρ)} {p : ρ → Bool} (h : verdict c = .ok p) :
    ∃ e, Build.result c.build = .ok e ∧ ∀ r, e.evaluate r = p r := by
  rw [verdict] at h
  cases he : Build.result c.build with
  | error g => rw [he] at h; cases h
  | ok e =>
    rw [he] at h
    cases h
    exact ⟨e, rfl, fun _ => rfl⟩

theorem exists_buildList {α : Type} {xs : List α} {c : α → Combination (Draft ρ)}
    {p : α → ρ → Bool} (h : ∀ x ∈ xs, verdict (c x) = .ok (p x)) :
    ∃ es, Build.result (buildList (xs.map c)) = .ok es ∧
      ∀ r, es.map (Expression.evaluate r) = xs.map (p · r) := by
  induction xs with
  | nil => exact ⟨[], rfl, fun _ => rfl⟩
  | cons x rest ih =>
    obtain ⟨es, hes, heval⟩ := ih fun y hy => h y (by simp [hy])
    obtain ⟨e, he, hp⟩ := exists_of_verdict (h x (by simp))
    refine ⟨e :: es, ?_, fun r => ?_⟩
    · rw [List.map_cons, buildList, Build.result_bind, he]
      change Build.result (buildList (rest.map c) >>= fun es => pure (e :: es)) = _
      rw [Build.result_map, hes]
      rfl
    · rw [List.map_cons, List.map_cons, heval, hp]

theorem verdict_anyOf_map {α : Type} {xs : List α} {c : α → Combination (Draft ρ)}
    {p : α → ρ → Bool} (h : ∀ x ∈ xs, verdict (c x) = .ok (p x)) :
    verdict (.anyOf (xs.map c)) = .ok fun r => xs.any (p · r) := by
  obtain ⟨es, hes, heval⟩ := exists_buildList h
  have hany : ∀ r, (Expression.any es).evaluate r = xs.any (p · r) := by
    intro r
    have hmap := congrArg (List.any · id) (heval r)
    simpa [List.any_map, Function.comp_def] using hmap
  rw [verdict, build, Build.result_map, hes]
  simp only [Except.map, hany]

theorem verdict_allOf_map {α : Type} {xs : List α} {c : α → Combination (Draft ρ)}
    {p : α → ρ → Bool} (h : ∀ x ∈ xs, verdict (c x) = .ok (p x)) :
    verdict (.allOf (xs.map c)) = .ok fun r => xs.all (p · r) := by
  obtain ⟨es, hes, heval⟩ := exists_buildList h
  have hall : ∀ r, (Expression.all es).evaluate r = xs.all (p · r) := by
    intro r
    have hmap := congrArg (List.all · id) (heval r)
    simpa [List.all_map, Function.comp_def] using hmap
  rw [verdict, build, Build.result_map, hes]
  simp only [Except.map, hall]

end Combination

end RecordQuery
