import Mathlib.Data.List.Forall2
import RecordQuery.Proofs.Draft.Chain
import RecordQuery.Regex.Engine
import RecordQuery.Unicode.Standard

/-!
# Operators without effect

While a chain is built, each of its operators after the first one is reported at the position that
it takes. Only compiling decides which operator counts, and it looks for it in another way. The two
agree: what was reported can be taken out again, and the one operator that is added without a
report is the one that compiling finds.
-/

namespace RecordQuery

variable {ρ : Type}

def Event.ignored? : Event → Option (Operator × Nat)
  | .operatorIgnored op position => some (op, position)
  | _ => none

namespace Build

variable {α β : Type}

def ignored (x : Build α) : List (Operator × Nat) := x.run.events.filterMap Event.ignored?

theorem ignored_bind {x : Build α} {a : α} (h : result x = .ok a) (g : α → Build β) :
    ignored (x >>= g) = ignored x ++ ignored (g a) := by
  have hevents : (x >>= g).run.events = x.run.events ++ (g a).run.events := by
    change x.run.events ++ (ExceptT.bindCont g x.run.value).events = _
    rw [show x.run.value = .ok a from h]
    rfl
  rw [ignored, hevents, List.filterMap_append, ignored, ignored]

end Build

def Action.positioned? (x : Action ρ × Nat) : Option (Operator × Nat) := x.1.operator?.map (·, x.2)

section

variable [Pattern.Engine]

theorem Step.ignored?_patternEvents (s : Step) : s.patternEvents.filterMap Event.ignored? = [] := by
  cases s with
  | like glob =>
    rw [patternEvents]
    cases Pattern.like glob <;> rfl
  | _ => rfl

theorem Step.forall₂_of_chainActions {steps : List Step} {as : List (Action ρ)}
    (h : chainActions steps = .ok as) :
    List.Forall₂ (fun s (a : Action ρ) => s.chainAction = .ok a) steps as := by
  induction steps generalizing as with
  | nil =>
    cases h
    exact .nil
  | cons s rest ih =>
    cases hs : s.chainAction (ρ := ρ) with
    | error g => rw [chainActions_cons_of_error hs] at h; cases h
    | ok a =>
      rw [chainActions_cons_of_ok hs] at h
      cases hrest : chainActions (ρ := ρ) rest with
      | error g => rw [hrest] at h; cases h
      | ok later =>
        rw [hrest] at h
        cases h
        exact .cons hs (ih hrest)

theorem Step.isOperator_of_chainActions {steps : List Step} {as : List (Action ρ)}
    (h : chainActions steps = .ok as) : ∀ a ∈ as, a.isOperator = true := by
  have hsteps := forall₂_of_chainActions h
  clear h
  induction hsteps with
  | nil => simp
  | cons hs _ ih => simpa [isOperator_chainAction hs] using ih

end

namespace Predicate

/-! ### One append -/

theorem appendEvents_of_any {p : Predicate ρ} (hp : p.actions.any Action.isOperator = true)
    {a : Action ρ} {op : Operator} (ha : a.operator? = some op) :
    p.appendEvents a = [.operatorIgnored op p.actions.length] := by
  rw [appendEvents, ha]
  exact if_pos hp

theorem appendEvents_of_not_any {p : Predicate ρ}
    (hp : p.actions.any Action.isOperator = false) (a : Action ρ) : p.appendEvents a = [] := by
  rw [appendEvents]
  split
  · exact if_neg (by simp [hp])
  · rfl

theorem any_isOperator_chain_cons (q : Quantifier) (f : Field ρ) {a : Action ρ}
    (ha : a.isOperator = true) (later : List (Action ρ)) :
    (chain q f (a :: later)).actions.any Action.isOperator = true := by
  simp [chain, ha]

section

variable [Pattern.Engine]

theorem result_extendBy_of_ok (p : Predicate ρ) {s : Step} {a : Action ρ}
    (h : s.chainAction = .ok a) : Build.result (p.extendBy s) = .ok (p.append a) := by
  rw [result_extendBy, h]
  rfl

theorem ignored_extendBy (p : Predicate ρ) {s : Step} {a : Action ρ} (h : s.chainAction = .ok a) :
    Build.ignored (p.extendBy s) = (p.appendEvents a).filterMap Event.ignored? := by
  have hevents : (p.extendBy s).run.events = s.patternEvents ++ p.appendEvents a := by
    rw [extendBy, h]
    change s.patternEvents ++ p.appendEvents a ++ [] = _
    rw [List.append_nil]
  rw [Build.ignored, hevents, List.filterMap_append, s.ignored?_patternEvents, List.nil_append]

/-! ### A run of appends -/

theorem ignored_extendByAll {steps : List Step} {as : List (Action ρ)}
    (h : List.Forall₂ (fun s (a : Action ρ) => s.chainAction = .ok a) steps as)
    {p : Predicate ρ} (hp : p.actions.any Action.isOperator = true) :
    Build.ignored (p.extendByAll steps) =
      (as.zipIdx p.actions.length).filterMap Action.positioned? := by
  induction h generalizing p with
  | nil => rfl
  | @cons s a rest later hs _ ih =>
    obtain ⟨op, hop⟩ := Action.exists_operator (Step.isOperator_chainAction hs)
    have hany : (p.append a).actions.any Action.isOperator = true := by
      rw [append, List.any_append, hp, Bool.true_or]
    have hlen : (p.append a).actions.length = p.actions.length + 1 := by
      rw [append, List.length_append, List.length_singleton]
    rw [extendByAll, Build.ignored_bind (result_extendBy_of_ok p hs), ignored_extendBy p hs,
      appendEvents_of_any hp hop, ih hany, hlen]
    simp [List.zipIdx_cons, Action.positioned?, hop, Event.ignored?]

/-- The actions of a chain from the second operator on are reported, with their positions. -/
theorem ignored_chain (q : Quantifier) (f : Field ρ) {steps : List Step} {as : List (Action ρ)}
    (h : List.Forall₂ (fun s (a : Action ρ) => s.chainAction = .ok a) steps as) :
    Build.ignored (Draft.chain q f steps).build =
      ((chain q f as).actions.zipIdx.drop 2).filterMap Action.positioned? := by
  cases h with
  | nil => rfl
  | @cons s a rest later hs hrest =>
    have hresult : Build.result ((select q f).extendBy s) = .ok (chain q f [a]) :=
      result_extendBy_of_ok _ hs
    have hany := any_isOperator_chain_cons q f (Step.isOperator_chainAction hs) []
    have hfirst : Build.ignored ((select q f).extendBy s) = [] := by
      rw [ignored_extendBy _ hs, appendEvents_of_not_any rfl]
      rfl
    change Build.ignored ((select q f).extendByAll (s :: rest)) = _
    rw [extendByAll, Build.ignored_bind hresult, hfirst, ignored_extendByAll hrest hany]
    rfl

end

theorem positions_zipIdx {as : List (Action ρ)} (h : ∀ a ∈ as, a.isOperator = true) (n : Nat) :
    ((as.zipIdx n).filterMap Action.positioned?).map Prod.snd = List.range' n as.length := by
  induction as generalizing n with
  | nil => rfl
  | cons a as ih =>
    obtain ⟨op, hop⟩ := Action.exists_operator (h a (by simp))
    have hrest := ih (fun b hb => h b (by simp [hb])) (n + 1)
    simp [List.zipIdx_cons, Action.positioned?, hop, List.range'_succ, hrest]

theorem positions_ignored {as : List (Action ρ)} (h : ∀ a ∈ as, a.isOperator = true)
    (q : Quantifier) (f : Field ρ) :
    (((chain q f as).actions.zipIdx.drop 2).filterMap Action.positioned?).map Prod.snd =
      List.range' 2 (as.length - 1) := by
  cases as with
  | nil => rfl
  | cons a later => exact positions_zipIdx (fun b hb => h b (by simp [hb])) 2

theorem operator_of_mem_positioned {as : List (Action ρ)} {op : Operator} {i n : Nat}
    (h : (op, i) ∈ (as.zipIdx.drop n).filterMap Action.positioned?) :
    ∃ a, as[i]? = some a ∧ a.operator? = some op := by
  obtain ⟨⟨a, j⟩, hmem, hop⟩ := List.mem_filterMap.mp h
  obtain ⟨op', hop', heq⟩ := Option.map_eq_some_iff.mp hop
  obtain ⟨rfl, rfl⟩ := Prod.mk.inj heq
  exact ⟨a, List.mem_zipIdx_iff_getElem?.mp (List.mem_of_mem_drop hmem), hop'⟩

/-! ### What is left without them -/

def without (p : Predicate ρ) (positions : List Nat) : Predicate ρ :=
  ⟨(p.actions.zipIdx.filter fun x => x.2 ∉ positions).map Prod.fst⟩

theorem without_range' (q : Quantifier) (f : Field ρ) (as : List (Action ρ)) :
    (chain q f as).without (List.range' 2 (as.length - 1)) = chain q f (as.take 1) := by
  cases as with
  | nil => rfl
  | cons a later =>
    have hsplit : (chain q f (a :: later)).actions.zipIdx =
        [(.select (.of f q), 0), (a, 1)] ++ later.zipIdx 2 := rfl
    have hrest : (later.zipIdx 2).filter (fun x => x.2 ∉ List.range' 2 later.length) = [] := by
      refine List.filter_eq_nil_iff.mpr fun x hx => ?_
      have hsnd : x.2 ∈ (later.zipIdx 2).map Prod.snd := List.mem_map_of_mem hx
      rw [List.zipIdx_map_snd] at hsnd
      exact fun hkeep => of_decide_eq_true hkeep hsnd
    rw [without, hsplit, List.filter_append, List.length_cons, Nat.add_sub_cancel, hrest]
    simp [chain]

theorem compile_chain_cons (q : Quantifier) (f : Field ρ) {a : Action ρ}
    (ha : a.isOperator = true) (later : List (Action ρ)) :
    (chain q f (a :: later)).compile = .resolve (.of f q) a :=
  compile_of_honors (honors_chain_cons q f ha later)

theorem compile_chain_take_one (q : Quantifier) (f : Field ρ) {as : List (Action ρ)}
    (h : ∀ a ∈ as, a.isOperator = true) :
    (chain q f (as.take 1)).compile = (chain q f as).compile := by
  cases as with
  | nil => rfl
  | cons a later =>
    have ha := h a (by simp)
    rw [compile_chain_cons q f ha later]
    exact compile_chain_cons q f ha []

theorem isUniversal_resolve (s : Selector ρ) {a : Action ρ} (ha : a.isOperator = true) :
    (Operation.resolve s a).isUniversal = false := by
  obtain ⟨op, hop⟩ := Action.exists_operator ha
  rw [Operation.resolve_eq s hop]
  rfl

def Decides (p : Predicate ρ) (a : Action ρ) : Prop :=
  p.compile = .universal ∧ (p.append a).compile.isUniversal = false ∧
    ∃ s, (p.append a).compile = .resolve s a

theorem decides_iff {as : List (Action ρ)} (h : ∀ a ∈ as, a.isOperator = true) {a : Action ρ}
    (ha : a.isOperator = true) (q : Quantifier) (f : Field ρ) :
    (chain q f as).Decides a ↔ as = [] := by
  cases as with
  | nil =>
    have hcompile : ((chain q f []).append a).compile = .resolve (.of f q) a :=
      compile_chain_cons q f ha []
    have huniversal : ((chain q f []).append a).compile.isUniversal = false := by
      rw [hcompile, isUniversal_resolve (.of f q) ha]
    exact iff_of_true ⟨rfl, huniversal, .of f q, hcompile⟩ rfl
  | cons b later =>
    refine iff_of_false (fun hdecides => ?_) (List.cons_ne_nil b later)
    have hb := h b (by simp)
    have hresolve := isUniversal_resolve (.of f q) hb
    rw [← compile_chain_cons q f hb later, hdecides.1] at hresolve
    cases hresolve

theorem appendEvents_eq_nil_iff {as : List (Action ρ)} (h : ∀ a ∈ as, a.isOperator = true)
    {a : Action ρ} (ha : a.isOperator = true) (q : Quantifier) (f : Field ρ) :
    (chain q f as).appendEvents a = [] ↔ as = [] := by
  cases as with
  | nil => exact iff_of_true (appendEvents_of_not_any rfl a) rfl
  | cons b later =>
    obtain ⟨op, hop⟩ := Action.exists_operator ha
    have hany := any_isOperator_chain_cons q f (h b (by simp)) later
    rw [appendEvents_of_any hany hop]
    exact iff_of_false (List.cons_ne_nil _ _) (List.cons_ne_nil b later)

section

variable [CharData]

/-- What it means for a predicate that operators are reported as ignored at some positions. -/
structure ReportsIgnored (p : Predicate ρ) (ignored : List (Operator × Nat)) : Prop where
  operators : ∀ op i, (op, i) ∈ ignored → ∃ a, p.actions[i]? = some a ∧ a.operator? = some op
  compile : (p.without (ignored.map Prod.snd)).compile = p.compile
  canonical : (p.without (ignored.map Prod.snd)).canonical = p.canonical
  evaluate : ∀ r, (p.without (ignored.map Prod.snd)).evaluate r = p.evaluate r

theorem reportsIgnored_chain {as : List (Action ρ)} (h : ∀ a ∈ as, a.isOperator = true)
    (q : Quantifier) (f : Field ρ) :
    (chain q f as).ReportsIgnored
      (((chain q f as).actions.zipIdx.drop 2).filterMap Action.positioned?) := by
  have hcompile := compile_chain_take_one q f h
  rw [← without_range', ← positions_ignored h q f] at hcompile
  refine ⟨fun op i => operator_of_mem_positioned, hcompile, ?_, fun r => ?_⟩
  · rw [canonical, canonical, hcompile]
  · rw [Predicate.evaluate, Predicate.evaluate, hcompile]

/-- A chain whose regular expressions compile is built, and every step after the first one is
reported at the position of its action, which starts at 2 after the selection and the first
operator. What is reported has no effect. The append to the selection alone is the only one that
is not reported, and the only one that turns the universal operation into its own. -/
theorem ignored_steps [Pattern.Engine] (q : Quantifier) (f : Field ρ) (steps : List Step)
    (h : ∀ source, .matchesRegex source ∈ steps → ∃ p, Pattern.regex source = .ok p) :
    ∃ as : List (Action ρ),
      List.Forall₂ (fun s a => s.chainAction = .ok a) steps as ∧
      Build.result (Draft.chain q f steps).build = .ok (chain q f as) ∧
      (Build.ignored (Draft.chain q f steps).build).map Prod.snd =
        List.range' 2 (steps.length - 1) ∧
      (chain q f as).ReportsIgnored (Build.ignored (Draft.chain q f steps).build) ∧
      ∀ k a, as[k]? = some a →
        (((chain q f (as.take k)).extend a).events = [] ↔ k = 0) ∧
        ((chain q f (as.take k)).Decides a ↔ k = 0) := by
  obtain ⟨as, has⟩ := Step.exists_chainActions_iff.mpr h
  have hsteps := Step.forall₂_of_chainActions has
  have hop := Step.isOperator_of_chainActions has
  refine ⟨as, hsteps, ?_, ?_, ?_, fun k a hk => ?_⟩
  · rw [Draft.result_chain, has]
    rfl
  · rw [ignored_chain q f hsteps, positions_ignored hop, hsteps.length_eq]
  · rw [ignored_chain q f hsteps]
    exact reportsIgnored_chain hop q f
  · have hbefore : ∀ b ∈ as.take k, b.isOperator = true :=
      fun b hb => hop b (List.mem_of_mem_take hb)
    have ha := hop a (List.mem_of_getElem? hk)
    have hnil : as.take k = [] ↔ k = 0 := by
      have hlt := (List.getElem?_eq_some_iff.mp hk).1
      rw [← List.length_eq_zero_iff, List.length_take]
      omega
    exact ⟨(appendEvents_eq_nil_iff hbefore ha q f).trans hnil,
      (decides_iff hbefore ha q f).trans hnil⟩

end

theorem ignored_steps_late :
    let name : Field Record := .named "name"
    let steps : List Step := [.equalTo (.string "Eden"), .matchesRegex "^E", .like "Eden",
      .contains (.string "x") .caseOnly]
    (∀ source, .matchesRegex source ∈ steps → ∃ p, Pattern.regex source = .ok p) ∧
      Build.ignored (Draft.chain .negated name steps).build =
        [(.matchesRegex, 2), (.like, 3), (.contains, 4)] ∧
      ∃ p : Predicate Record, Build.result (Draft.chain .negated name steps).build = .ok p ∧
        p.ReportsIgnored [(.matchesRegex, 2), (.like, 3), (.contains, 4)] := by
  intro name steps
  have hregex : ∀ source, .matchesRegex source ∈ steps → ∃ p, Pattern.regex source = .ok p := by
    intro source hsource
    obtain rfl : source = "^E" := by simpa [steps] using hsource
    exact ⟨_, rfl⟩
  have hignored : Build.ignored (Draft.chain .negated name steps).build =
      [(.matchesRegex, 2), (.like, 3), (.contains, 4)] := rfl
  obtain ⟨as, -, hresult, -, hreports, -⟩ := ignored_steps .negated name steps hregex
  rw [hignored] at hreports
  exact ⟨hregex, hignored, _, hresult, hreports⟩

end Predicate

end RecordQuery
