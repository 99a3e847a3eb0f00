import Mathlib.Order.Bounds.Basic
import RecordQuery.Proofs.Expression.Combination
import RecordQuery.Proofs.Selection.Retaining

/-!
# One selection

Whatever is asked of an expression and a list of records, the answer goes by the positions of the
records that the expression holds of: the records there, how many they are, the first of them,
whether there are any, and whether there are no others. The negation has the other positions.
-/

namespace RecordQuery.Expression

variable {ρ : Type} [CharData]

def positions (e : Expression ρ) (records : List ρ) : List Nat :=
  records.findIdxs fun r => e.evaluate r

theorem positions_cons (e : Expression ρ) (r : ρ) (records : List ρ) :
    e.positions (r :: records) =
      if e.evaluate r then 0 :: (e.positions records).map (· + 1)
      else (e.positions records).map (· + 1) := by
  rw [positions, List.findIdxs_cons, List.findIdxs_start]
  rfl

theorem mem_positions {e : Expression ρ} {records : List ρ} {i : Nat} :
    i ∈ e.positions records ↔ ∃ r, records[i]? = some r ∧ e.evaluate r = true := by
  rw [positions, List.mem_findIdxs_iff_exists_getElem_pos]
  simp [List.getElem?_eq_some_iff]

theorem pairwise_positions (e : Expression ρ) (records : List ρ) :
    (e.positions records).Pairwise (· < ·) := List.pairwise_findIdxs

theorem filter_eq_positions (e : Expression ρ) (records : List ρ) :
    e.filter records = (e.positions records).filterMap (records[·]?) := by
  induction records with
  | nil => rfl
  | cons r records ih =>
    have hrest : ((e.positions records).map (· + 1)).filterMap ((r :: records)[·]?) =
        e.filter records := by
      rw [ih, List.filterMap_map]
      rfl
    rw [positions_cons]
    by_cases h : e.evaluate r = true
    · rw [if_pos h, List.filterMap_cons_some (by rfl), hrest]
      exact List.filter_cons_of_pos h
    · rw [if_neg h, hrest]
      exact List.filter_cons_of_neg h

theorem position?_eq_head? (e : Expression ρ) (records : List ρ) :
    e.position? records = (e.positions records).head? := by
  induction records with
  | nil => rfl
  | cons r records ih =>
    rw [positions_cons]
    by_cases h : e.evaluate r = true
    · simp [position?, List.findIdx?_cons, h]
    · rw [if_neg h, List.head?_map, ← ih]
      simp [position?, List.findIdx?_cons, h]

theorem position?_eq_some_iff {e : Expression ρ} {records : List ρ} {i : Nat} :
    e.position? records = some i ↔ IsLeast {j | j ∈ e.positions records} i := by
  have hsorted := pairwise_positions e records
  rw [position?_eq_head?]
  cases hpositions : e.positions records with
  | nil => simp [IsLeast]
  | cons j js =>
    rw [hpositions, List.pairwise_cons] at hsorted
    have hleast : IsLeast {k | k ∈ j :: js} j := by
      refine ⟨List.mem_cons_self, fun k hk => ?_⟩
      obtain rfl | hk := List.mem_cons.mp hk
      · exact Nat.le_refl k
      · exact Nat.le_of_lt (hsorted.1 k hk)
    rw [List.head?_cons, Option.some.injEq]
    constructor
    · intro h
      rw [← h]
      exact hleast
    · exact hleast.unique

/-- All that is said of the records that the expression selects comes from one selection. -/
structure Consistent (e : Expression ρ) (records : List ρ) : Prop where
  filter_eq : e.filter records = (e.positions records).filterMap (records[·]?)
  filterBy_eq : filterBy records e = e.filter records
  filterCopies_eq (copy : ρ → ρ) : e.filterCopies copy records = (e.filter records).map copy
  retain_eq : e.retain records = e.filter records
  count_eq : e.count records = (e.filter records).length
  find?_eq : e.find? records = (e.filter records).head?
  position?_eq_some_iff (i : Nat) :
    e.position? records = some i ↔ IsLeast {j | j ∈ e.positions records} i
  position?_eq_none_iff : e.position? records = none ↔ e.count records = 0
  matchesAny_iff : e.matchesAny records = true ↔ 0 < e.count records
  matchesAll_iff : e.matchesAll records = true ↔ e.count records = records.length

theorem consistent (e : Expression ρ) (records : List ρ) : e.Consistent records where
  filter_eq := filter_eq_positions e records
  filterBy_eq := rfl
  filterCopies_eq _ := rfl
  retain_eq := retain_eq_filter e records
  count_eq := List.countP_eq_length_filter
  find?_eq := List.head?_filter.symm
  position?_eq_some_iff _ := position?_eq_some_iff
  position?_eq_none_iff := by
    have hlength : (e.positions records).length = e.count records := List.length_findIdxs
    rw [position?_eq_head?, List.head?_eq_none_iff, ← hlength, List.length_eq_zero_iff]
  matchesAny_iff := by rw [matchesAny, List.any_eq_true, count, List.countP_pos_iff]
  matchesAll_iff := by rw [matchesAll, List.all_eq_true, count, List.countP_eq_length]

/-- Every way to ask for the records that an expression holds of describes the same selection, and
its negation selects exactly the others. -/
theorem selections_agree (e : Expression ρ) (records : List ρ) :
    e.Consistent records ∧ (e.positions records).Pairwise (· < ·) ∧
      (∀ i, i ∈ e.positions records ↔ ∃ r, records[i]? = some r ∧ e.evaluate r = true) ∧
      (e.positions records).Disjoint (e.not.positions records) ∧
      ∀ i, i ∈ e.positions records ∨ i ∈ e.not.positions records ↔ i < records.length := by
  refine ⟨consistent e records, pairwise_positions e records, fun i => mem_positions, ?_,
    fun i => ?_⟩
  · intro i h hnot
    obtain ⟨r, hr, hholds⟩ := mem_positions.mp h
    obtain ⟨r', hr', hfails⟩ := mem_positions.mp hnot
    obtain rfl : r = r' := by simpa [hr] using hr'
    simp [evaluate_not, hholds] at hfails
  · have hlength : i < records.length ↔ ∃ r, records[i]? = some r := by
      simp [List.getElem?_eq_some_iff]
    rw [mem_positions, mem_positions, hlength]
    constructor
    · intro h
      obtain ⟨r, hr, -⟩ | ⟨r, hr, -⟩ := h
      · exact ⟨r, hr⟩
      · exact ⟨r, hr⟩
    · intro h
      obtain ⟨r, hr⟩ := h
      cases hholds : e.evaluate r with
      | true => exact .inl ⟨r, hr, hholds⟩
      | false => exact .inr ⟨r, hr, by rw [evaluate_not, hholds]; rfl⟩

end RecordQuery.Expression
