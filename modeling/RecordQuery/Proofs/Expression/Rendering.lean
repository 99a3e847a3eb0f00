import RecordQuery.Proofs.Expression.Placeholders
import RecordQuery.Proofs.Expression.Report

/-!
# What rendering reports

Rendering compiles every leaf once, from left to right, and a leaf that is universal is reported
in place of binding a parameter. So events and parameters together account for all leaves.
Evaluating may pass leaves over, but it looks at none twice, so that it has no more of them to
report.
-/

namespace RecordQuery

variable {ρ : Type}

def Event.isFallback : Event → Bool
  | .compileFallback _ => true
  | _ => false

theorem Event.filter_isFallback_concat (us : List Event) (k : Connective) (b : Bool) :
    (us ++ [compoundEvaluated k b]).filter isFallback = us.filter isFallback := by
  rw [List.filter_append]
  exact List.append_nil _

namespace Predicate

theorem shortfall_eq_missingSelection_iff {p : Predicate ρ} :
    p.shortfall = .missingSelection ↔ ∀ s, p.actions.head? ≠ some (.select s) := by
  obtain ⟨as⟩ := p
  cases as with
  | nil => simp [shortfall]
  | cons a rest => cases a <;> simp [shortfall]

theorem shortfall_eq_missingOperator_iff {p : Predicate ρ} {name : String} :
    p.shortfall = .missingOperator name ↔
      ∃ s, p.actions.head? = some (.select s) ∧ s.field = name := by
  obtain ⟨as⟩ := p
  cases as with
  | nil => simp [shortfall]
  | cons a rest => cases a <;> simp [shortfall]

end Predicate

namespace Expression

def fallbacks (e : Expression ρ) : List Event := e.leaves.flatMap Predicate.compileEvents

theorem fallbacks_eq (e : Expression ρ) :
    e.fallbacks =
      (e.leaves.filter (·.compile.isUniversal)).map fun p => .compileFallback p.shortfall := by
  rw [fallbacks]
  induction e.leaves with
  | nil => rfl
  | cons p ps ih =>
    rw [List.flatMap_cons, ih, Predicate.compileEvents_eq, List.filter_cons]
    split <;> rfl

theorem length_fallbacks (e : Expression ρ) :
    e.fallbacks.length = e.leaves.countP (·.compile.isUniversal) := by
  rw [fallbacks_eq, List.length_map, List.countP_eq_length_filter]

/-! ### Rendering -/

/-- A way of writing with a report that writes as `g` does and always reports the same events. -/
def Reports (f : CanonicalForm → Logged CanonicalForm) (g : CanonicalForm → CanonicalForm)
    (events : List Event) : Prop :=
  ∀ form, f form = ⟨g form, events⟩

theorem Reports.plain (g : CanonicalForm → CanonicalForm) :
    Reports (fun form => Pure.pure (g form)) g [] := fun _ => rfl

theorem Reports.bind {f f' : CanonicalForm → Logged CanonicalForm}
    {g g' : CanonicalForm → CanonicalForm} {us vs : List Event} (h : Reports f g us)
    (h' : Reports f' g' vs) :
    Reports (fun form => f form >>= f') (fun form => g' (g form)) (us ++ vs) := by
  intro form
  change Logged.bind (f form) f' = _
  rw [h form, Logged.bind, h' (g form)]

theorem Reports.enclose {f : CanonicalForm → Logged CanonicalForm}
    {g : CanonicalForm → CanonicalForm} {us : List Event} (h : Reports f g us) (parens : Bool) :
    Reports (encloseLogged parens f) (Expression.enclose parens g) us := by
  cases parens with
  | false => exact h
  | true =>
    intro form
    have hclosed := h.bind (.plain (CanonicalForm.push · ")")) (form.push "(")
    rwa [List.append_nil] at hclosed

theorem Reports.rest {cs : List (Expression ρ)}
    (h : ∀ c ∈ cs, Reports c.writeLogged c.write c.fallbacks) (separator : String) :
    Reports (writeRestLogged separator cs) (writeRest separator cs) (cs.flatMap fallbacks) := by
  induction cs with
  | nil => exact .plain id
  | cons c cs ih =>
    have hc := (h c (by simp)).enclose c.needsParens
    have hcs := ih fun d hd => h d (by simp [hd])
    exact fun form => hc.bind hcs (form.push separator)

theorem Reports.children {c : Expression ρ} {cs : List (Expression ρ)}
    (h : ∀ d ∈ c :: cs, Reports d.writeLogged d.write d.fallbacks) (separator : String) :
    Reports
      (fun form => encloseLogged c.needsParens c.writeLogged form >>=
        writeRestLogged separator cs)
      (fun form => writeRest separator cs (Expression.enclose c.needsParens c.write form))
      ((c :: cs).flatMap fallbacks) :=
  ((h c (by simp)).enclose c.needsParens).bind
    (.rest (fun d hd => h d (List.mem_cons_of_mem c hd)) separator)

theorem fallbacks_leaf (p : Predicate ρ) : (leaf p).fallbacks = p.compileEvents := by
  rw [fallbacks, leaves_leaf, List.flatMap_singleton]

theorem fallbacks_all (cs : List (Expression ρ)) :
    (all cs).fallbacks = cs.flatMap fallbacks := by
  rw [fallbacks, leaves_all, List.flatMap_assoc]
  rfl

theorem fallbacks_any (cs : List (Expression ρ)) :
    (any cs).fallbacks = cs.flatMap fallbacks := by
  rw [fallbacks, leaves_any, List.flatMap_assoc]
  rfl

theorem fallbacks_negation (c : Expression ρ) : (negation c).fallbacks = c.fallbacks := by
  rw [fallbacks, leaves_negation, fallbacks]

theorem reports_write (e : Expression ρ) : Reports e.writeLogged e.write e.fallbacks := by
  induction e with
  | leaf p =>
    intro form
    rw [fallbacks_leaf, ← List.append_nil p.compileEvents]
    rfl
  | all cs ih =>
    rw [fallbacks_all]
    cases cs with
    | nil => exact .plain (CanonicalForm.push · "TRUEPREDICATE")
    | cons c cs => exact .children ih " AND "
  | any cs ih =>
    rw [fallbacks_any]
    cases cs with
    | nil => exact .plain (CanonicalForm.push · "FALSEPREDICATE")
    | cons c cs => exact .children ih " OR "
  | negation c ih =>
    rw [fallbacks_negation]
    exact fun form => ih.enclose true (form.push "NOT ")

theorem canonicalLogged_eq (e : Expression ρ) : e.canonicalLogged = ⟨e.canonical, e.fallbacks⟩ :=
  e.reports_write .empty

theorem length_params (e : Expression ρ) :
    e.canonical.params.length = e.leaves.countP fun p => !p.compile.isUniversal := by
  rw [canonical_params, Part.length_allParams, binding_layout, binding, leaf?_walk,
    ← List.countP_eq_length_filter]
  rfl

theorem length_params_add_length_fallbacks (e : Expression ρ) :
    e.canonical.params.length + e.fallbacks.length = e.leaves.length := by
  have hsplit := List.length_eq_length_filter_add (l := e.leaves)
    fun p => p.compile.isUniversal
  rw [length_params, length_fallbacks, List.countP_eq_length_filter, List.countP_eq_length_filter]
  omega

/-! ### Evaluating -/

section Evaluate

variable [CharData]

theorem sublist_flatMap_fallbacks {r : ρ} {cs : List (Expression ρ)}
    (h : ∀ c ∈ cs, ((c.events r).filter Event.isFallback).Sublist c.fallbacks) (stop : Bool) :
    (((lookedAt r stop cs).flatMap (events r)).filter Event.isFallback).Sublist
      (cs.flatMap fallbacks) := by
  induction cs with
  | nil => exact .slnil
  | cons c cs ih =>
    have hc := h c (by simp)
    rw [List.flatMap_cons]
    by_cases hv : c.evaluate r = stop
    · rw [lookedAt_cons_of_eq cs hv, List.flatMap_singleton]
      exact hc.trans (List.sublist_append_left _ _)
    · rw [lookedAt_cons_of_ne cs hv, List.flatMap_cons, List.filter_append]
      exact hc.append (ih fun d hd => h d (by simp [hd]))

theorem sublist_fallbacks (e : Expression ρ) (r : ρ) :
    ((e.events r).filter Event.isFallback).Sublist e.fallbacks := by
  induction e with
  | leaf p =>
    rw [events_leaf, ← Predicate.compileEvents_eq, fallbacks_leaf]
    exact List.filter_sublist
  | all cs ih =>
    rw [events_all, Event.filter_isFallback_concat, fallbacks_all]
    exact sublist_flatMap_fallbacks ih false
  | any cs ih =>
    rw [events_any, Event.filter_isFallback_concat, fallbacks_any]
    exact sublist_flatMap_fallbacks ih true
  | negation c ih =>
    rw [events_negation, Event.filter_isFallback_concat, fallbacks_negation]
    exact ih

/-- Rendering reports the leaves that are universal, as a walk comes upon them and with what they
lack, and nothing else. Together with the parameters the events are as many as the leaves, and no
evaluation reports more leaves than rendering does. -/
theorem canonicalLogged_report (e : Expression ρ) :
    e.canonicalLogged.value = e.canonical ∧
      e.canonicalLogged.events =
        ((e.walk.filterMap Visit.leaf?).filter (·.compile.isUniversal)).map
          (fun p => .compileFallback p.shortfall) ∧
      (∀ p : Predicate ρ,
        (p.shortfall = .missingSelection ↔ ∀ s, p.actions.head? ≠ some (.select s)) ∧
        ∀ name, p.shortfall = .missingOperator name ↔
          ∃ s, p.actions.head? = some (.select s) ∧ s.field = name) ∧
      e.canonical.params.length + e.canonicalLogged.events.length =
        (e.walk.filterMap Visit.leaf?).length ∧
      ∀ r, (e.evaluateLogged r).events.countP Event.isFallback ≤
        e.canonicalLogged.events.length := by
  rw [canonicalLogged_eq, leaf?_walk]
  refine ⟨rfl, e.fallbacks_eq, fun p => ⟨?_, fun name => ?_⟩,
    e.length_params_add_length_fallbacks, fun r => ?_⟩
  · exact Predicate.shortfall_eq_missingSelection_iff
  · exact Predicate.shortfall_eq_missingOperator_iff
  · rw [List.countP_eq_length_filter]
    exact (e.sublist_fallbacks r).length_le

end Evaluate

end Expression

end RecordQuery
