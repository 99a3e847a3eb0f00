import RecordQuery.Proofs.Expression.Tree
import RecordQuery.Selection
import RecordQuery.Unicode.Standard

/-!
# Retaining by several expressions

Retaining by one expression after another leaves the records that all of them hold of. In which
order they come and how often makes no difference, as little as it does to their conjunction.
-/

namespace RecordQuery.Expression

variable {ρ : Type}

section

variable [CharData]

/-- What remains of the records when the expressions are retained one after another. -/
def retainEach : List (Expression ρ) → List ρ → List ρ
  | [], records => records
  | e :: es, records => retainEach es (e.retain records)

theorem retain_eq_filter (e : Expression ρ) (records : List ρ) :
    e.retain records = records.filter (e.evaluate ·) :=
  congrFun List.filterMap_eq_filter records

theorem retainEach_eq_filter_all (es : List (Expression ρ)) (records : List ρ) :
    retainEach es records = records.filter fun r => es.all (evaluate r) := by
  induction es generalizing records with
  | nil => exact (List.filter_true records).symm
  | cons e es ih =>
    rw [retainEach, ih, retain_eq_filter, List.filter_filter]
    exact List.filter_congr fun r _ => by rw [List.all_cons, Bool.and_comm]

theorem retainEach_congr {es fs : List (Expression ρ)} (h : ∀ e, e ∈ fs ↔ e ∈ es)
    (records : List ρ) : retainEach fs records = retainEach es records := by
  rw [retainEach_eq_filter_all, retainEach_eq_filter_all]
  refine List.filter_congr fun r _ => ?_
  rw [Bool.eq_iff_iff, List.all_eq_true, List.all_eq_true]
  exact forall_congr' fun e => by rw [h]

theorem retainEach_eq_retain_all (es : List (Expression ρ)) (records : List ρ) :
    retainEach es records = (all es).retain records := by
  rw [retainEach_eq_filter_all, retain_eq_filter]
  exact List.filter_congr fun r _ => (evaluate_all r es).symm

/-- Exactly the records that every expression holds of remain, in their order and as often as they
were there. So another order or further repetitions of the expressions leave the same, and so does
their conjunction, whether it is retained or filters the records or copies of them. -/
theorem retainEach_eq_allOf (es : List (Expression ρ)) (records : List ρ) :
    retainEach es records = records.filter (fun r => decide (∀ e ∈ es, e.evaluate r = true)) ∧
      (∀ fs, (∀ e, e ∈ fs ↔ e ∈ es) → retainEach fs records = retainEach es records) ∧
      retainEach es records = (all es).retain records ∧
      retainEach es records = (all es).filter records ∧
      ∀ copy, (∀ r, copy r = r) →
        retainEach es records = (all es).filterCopies copy records := by
  have hretain := retainEach_eq_retain_all es records
  have hfilter : retainEach es records = (all es).filter records :=
    hretain.trans (retain_eq_filter _ _)
  refine ⟨?_, fun fs h => retainEach_congr h records, hretain, hfilter, fun copy h => ?_⟩
  · rw [retainEach_eq_filter_all]
    refine List.filter_congr fun r _ => ?_
    rw [Bool.eq_iff_iff, List.all_eq_true, decide_eq_true_iff]
  · have hcopy : copy = id := funext h
    rw [hfilter, filterCopies, hcopy, List.map_id]
    rfl

end

theorem retainEach_eq_allOf_repeated :
    let age (n : UInt64) : Record := [("age", .number (.unsigned n))]
    let older (n : UInt64) : Expression Record :=
      .leaf ⟨[.select (.plain (.named "age")), .greaterThan (.number (.unsigned n))]⟩
    let es : List (Expression Record) := [older 20, (older 60).not]
    let fs : List (Expression Record) := [(older 60).not, older 20, (older 60).not]
    let records : List Record := [age 25, age 70, age 18, age 25, age 60]
    (∀ e, e ∈ fs ↔ e ∈ es) ∧ (∀ r : Record, id r = r) ∧
      retainEach es records = [age 25, age 25, age 60] ∧
      retainEach fs records = retainEach es records ∧
      retainEach es records = (all es).filterCopies id records := by
  intro age older es fs records
  have hmem : ∀ e, e ∈ fs ↔ e ∈ es := by
    intro e
    simp only [fs, es, List.mem_cons, List.not_mem_nil, or_false]
    tauto
  obtain ⟨-, hcongr, -, -, hcopies⟩ := retainEach_eq_allOf es records
  exact ⟨hmem, fun _ => rfl, rfl, hcongr fs hmem, hcopies id fun _ => rfl⟩

end RecordQuery.Expression
