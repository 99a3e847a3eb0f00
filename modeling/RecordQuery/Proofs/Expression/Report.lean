import RecordQuery.Proofs.Expression.Tree
import RecordQuery.Proofs.Predicate.FirstOperator

/-!
# What evaluating reports

Evaluating looks at the children of a node from left to right until one of them settles the
verdict, and reports the node after them. The report is laid out here along the plain Boolean
verdicts: which children are looked at, what each of them reports, and the verdict that closes the
report of a compound expression.
-/

namespace RecordQuery

variable {ρ : Type}

namespace Logged

variable {α β : Type}

@[simp] theorem value_pure (a : α) : (Pure.pure a : Logged α).value = a := rfl

@[simp] theorem events_pure (a : α) : (Pure.pure a : Logged α).events = [] := rfl

@[simp] theorem value_bind (x : Logged α) (f : α → Logged β) :
    (x >>= f).value = (f x.value).value := rfl

@[simp] theorem events_bind (x : Logged α) (f : α → Logged β) :
    (x >>= f).events = x.events ++ (f x.value).events := rfl

@[simp] theorem events_report (e : Event) : (report e).events = [e] := rfl

end Logged

namespace Predicate

def shortfall (p : Predicate ρ) : Fallback :=
  match p.actions with
  | .select s :: _ => .missingOperator s.field
  | _ => .missingSelection

theorem fallback?_eq (p : Predicate ρ) :
    p.fallback? = if p.compile.isUniversal then some p.shortfall else none := by
  obtain hp | ⟨s, a, h⟩ := p.incomplete_or_honors
  · have huniversal : p.compile.isUniversal = true := by rw [compile_of_incomplete hp]; rfl
    rw [huniversal, if_pos rfl]
    obtain ⟨as⟩ := p
    cases hp with
    | empty => rfl
    | unselected a rest ha =>
      cases a with
      | select s => simp at ha
      | _ => rfl
    | undecided s rest hrest => simpa [fallback?, shortfall] using hrest
  · obtain ⟨op, -, hcompile⟩ := h.exists_operation
    have huniversal : p.compile.isUniversal = false := by rw [hcompile]; rfl
    obtain ⟨skipped, later, hactions, -, ha⟩ := h
    rw [huniversal]
    simp [fallback?, hactions, ha]

theorem compileEvents_eq (p : Predicate ρ) :
    p.compileEvents = if p.compile.isUniversal then [.compileFallback p.shortfall] else [] := by
  rw [compileEvents, fallback?_eq]
  split <;> rfl

end Predicate

namespace Expression

variable [CharData]

/-- The children that are looked at when the verdict `stop` settles the matter: all before the
first one with that verdict, and this one too. -/
def lookedAt (r : ρ) (stop : Bool) (cs : List (Expression ρ)) : List (Expression ρ) :=
  cs.takeWhile (fun c => c.evaluate r != stop) ++ (cs.find? fun c => c.evaluate r == stop).toList

theorem lookedAt_cons_of_eq {r : ρ} {stop : Bool} {c : Expression ρ} (cs : List (Expression ρ))
    (h : c.evaluate r = stop) : lookedAt r stop (c :: cs) = [c] := by
  simp [lookedAt, h]

theorem lookedAt_cons_of_ne {r : ρ} {stop : Bool} {c : Expression ρ} (cs : List (Expression ρ))
    (h : c.evaluate r ≠ stop) : lookedAt r stop (c :: cs) = c :: lookedAt r stop cs := by
  simp [lookedAt, h]

def events (r : ρ) (e : Expression ρ) : List Event := (e.evaluateLogged r).events

/-! ### Verdicts -/

theorem value_evaluateAllLogged {r : ρ} {cs : List (Expression ρ)}
    (h : ∀ c ∈ cs, (c.evaluateLogged r).value = c.evaluate r) :
    (evaluateAllLogged r cs).value = cs.all (evaluate r) := by
  induction cs with
  | nil => rfl
  | cons c cs ih =>
    have hc := h c (by simp)
    have hcs := ih fun d hd => h d (by simp [hd])
    cases hv : c.evaluate r with
    | true => simp [evaluateAllLogged, hc, hcs, hv]
    | false => simp [evaluateAllLogged, hc, hv]

theorem value_evaluateAnyLogged {r : ρ} {cs : List (Expression ρ)}
    (h : ∀ c ∈ cs, (c.evaluateLogged r).value = c.evaluate r) :
    (evaluateAnyLogged r cs).value = cs.any (evaluate r) := by
  induction cs with
  | nil => rfl
  | cons c cs ih =>
    have hc := h c (by simp)
    have hcs := ih fun d hd => h d (by simp [hd])
    cases hv : c.evaluate r with
    | true => simp [evaluateAnyLogged, hc, hv]
    | false => simp [evaluateAnyLogged, hc, hcs, hv]

theorem value_evaluateLogged (e : Expression ρ) (r : ρ) :
    (e.evaluateLogged r).value = e.evaluate r := by
  induction e with
  | leaf p => simp [evaluateLogged, Predicate.compileLogged, Predicate.evaluate]
  | all cs ih => simp [evaluateLogged, reportVerdict, value_evaluateAllLogged ih]
  | any cs ih => simp [evaluateLogged, reportVerdict, value_evaluateAnyLogged ih]
  | negation c ih => simp [evaluateLogged, reportVerdict, ih]

/-! ### Events -/

theorem events_evaluateAllLogged (r : ρ) (cs : List (Expression ρ)) :
    (evaluateAllLogged r cs).events = (lookedAt r false cs).flatMap (events r) := by
  induction cs with
  | nil => rfl
  | cons c cs ih =>
    cases hv : c.evaluate r with
    | true =>
      rw [lookedAt_cons_of_ne cs (by simp [hv])]
      simp [evaluateAllLogged, value_evaluateLogged, hv, ih, events]
    | false =>
      rw [lookedAt_cons_of_eq cs hv]
      simp [evaluateAllLogged, value_evaluateLogged, hv, events]

theorem events_evaluateAnyLogged (r : ρ) (cs : List (Expression ρ)) :
    (evaluateAnyLogged r cs).events = (lookedAt r true cs).flatMap (events r) := by
  induction cs with
  | nil => rfl
  | cons c cs ih =>
    cases hv : c.evaluate r with
    | true =>
      rw [lookedAt_cons_of_eq cs hv]
      simp [evaluateAnyLogged, value_evaluateLogged, hv, events]
    | false =>
      rw [lookedAt_cons_of_ne cs (by simp [hv])]
      simp [evaluateAnyLogged, value_evaluateLogged, hv, ih, events]

theorem events_leaf (r : ρ) (p : Predicate ρ) :
    events r (.leaf p) =
      if p.compile.isUniversal then [.compileFallback p.shortfall] else [] := by
  simp [events, evaluateLogged, Predicate.compileLogged, Predicate.compileEvents_eq]

theorem events_all (r : ρ) (cs : List (Expression ρ)) :
    events r (.all cs) = (lookedAt r false cs).flatMap (events r) ++
      [.compoundEvaluated .and ((all cs).evaluate r)] := by
  have hvalue := value_evaluateAllLogged fun c (_ : c ∈ cs) => c.value_evaluateLogged r
  simp [events, evaluateLogged, reportVerdict, hvalue, ← events_evaluateAllLogged]

theorem events_any (r : ρ) (cs : List (Expression ρ)) :
    events r (.any cs) = (lookedAt r true cs).flatMap (events r) ++
      [.compoundEvaluated .or ((any cs).evaluate r)] := by
  have hvalue := value_evaluateAnyLogged fun c (_ : c ∈ cs) => c.value_evaluateLogged r
  simp [events, evaluateLogged, reportVerdict, hvalue, ← events_evaluateAnyLogged]

theorem events_negation (r : ρ) (c : Expression ρ) :
    events r (.negation c) =
      events r c ++ [.compoundEvaluated .not ((negation c).evaluate r)] := by
  simp [events, evaluateLogged, reportVerdict, value_evaluateLogged]

theorem getLast?_events (r : ρ) {e : Expression ρ} {k : Connective} (h : e.connective? = some k) :
    (e.events r).getLast? = some (.compoundEvaluated k (e.evaluate r)) := by
  cases e with
  | leaf p => cases h
  | all cs => cases h; rw [events_all, List.getLast?_concat]
  | any cs => cases h; rw [events_any, List.getLast?_concat]
  | negation c => cases h; rw [events_negation, List.getLast?_concat]

/-- Evaluating gives the plain verdict. It reports the leaves that fall back and the compound
expressions that were looked at, each after its children and with its own verdict. -/
theorem evaluateLogged_report (e : Expression ρ) (r : ρ) :
    (e.evaluateLogged r).value = e.evaluate r ∧
      (e.evaluateLogged r).events =
        (match e with
          | .leaf p => if p.compile.isUniversal then [.compileFallback p.shortfall] else []
          | .all cs => (lookedAt r false cs).flatMap (events r) ++
              [.compoundEvaluated .and (e.evaluate r)]
          | .any cs => (lookedAt r true cs).flatMap (events r) ++
              [.compoundEvaluated .or (e.evaluate r)]
          | .negation c => events r c ++ [.compoundEvaluated .not (e.evaluate r)]) ∧
      ∀ k, e.connective? = some k → (e.evaluateLogged r).events.getLast? =
        some (.compoundEvaluated k (e.evaluateLogged r).value) := by
  refine ⟨e.value_evaluateLogged r, ?_, fun k hk => ?_⟩
  · cases e with
    | leaf p => exact events_leaf r p
    | all cs => exact events_all r cs
    | any cs => exact events_any r cs
    | negation c => exact events_negation r c
  · rw [value_evaluateLogged]
    exact getLast?_events r hk

theorem evaluateLogged_report_settled :
    let age : Selector Record := .plain (.named "age")
    let blank : Expression Record := .leaf ⟨[]⟩
    let undecided : Expression Record := .leaf ⟨[.select age]⟩
    let e : Expression Record :=
      .any [.all [blank, .any [], undecided], .negation undecided, blank, undecided]
    e.connective? = some .or ∧ (e.evaluateLogged []).events =
        [.compileFallback .missingSelection, .compoundEvaluated .or false,
          .compoundEvaluated .and false, .compileFallback (.missingOperator "age"),
          .compoundEvaluated .not false, .compileFallback .missingSelection,
          .compoundEvaluated .or true] ∧
      (e.evaluateLogged []).events.getLast? =
        some (.compoundEvaluated .or (e.evaluateLogged []).value) := by
  intro age blank undecided e
  exact ⟨rfl, rfl, (evaluateLogged_report e []).2.2 .or rfl⟩

end Expression

end RecordQuery
