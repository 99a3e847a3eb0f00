import Mathlib.Data.List.Forall2
import Mathlib.Data.List.Infix
import RecordQuery.Checked.Runs

/-!
# Text operators on lists

On two lists the text operators look for a run of the subject whose elements count pairwise as the
same as those of the operand: at the beginning, at the end or anywhere. The runs are cut from the
subject by positions; none of these is out of range, and no window is empty.
-/

namespace RecordQuery

theorem Insensitivity.isEmpty_iff {flags : Insensitivity} : flags.isEmpty = true ↔ flags = ∅ := by
  obtain ⟨c, d⟩ := flags
  cases c <;> cases d <;> decide

section Runs

variable {α : Type}

theorem mem_runs {n : Nat} {items run : List α} :
    run ∈ runs n items ↔ run.length = n ∧ ∃ h t, items = h ++ run ++ t := by
  simp only [runs, List.mem_map, List.mem_range]
  constructor
  · intro h
    obtain ⟨i, hi, rfl⟩ := h
    have hlength : ((items.drop i).take n).length = n := by
      rw [List.length_take, List.length_drop]
      omega
    refine ⟨hlength, items.take i, (items.drop i).drop n, ?_⟩
    rw [List.append_assoc, List.take_append_drop, List.take_append_drop]
  · intro h
    obtain ⟨hlength, before, after, rfl⟩ := h
    refine ⟨before.length, ?_, ?_⟩
    · simp only [List.length_append]
      omega
    · rw [List.append_assoc, List.drop_left, ← hlength, List.take_left]

end Runs

namespace Value

section

variable [CharData] {flags : Insensitivity} {items needle run : List Value}

/-- Whether two elements count as the same: strings that fold alike if there are flags, and
otherwise values that are equal. -/
def CountsAs (flags : Insensitivity) (a b : Value) : Prop :=
  (∃ s t, a = .string s ∧ b = .string t ∧ flags ≠ ∅ ∧ Text.fold flags s = Text.fold flags t) ∨
    ((a.isString && b.isString) = false ∨ flags = ∅) ∧ a.sameAs b = true

theorem alike_iff {a b : Value} : alike flags a b = true ↔ CountsAs flags a b := by
  cases a with
  | string s =>
    cases b with
    | string t =>
      by_cases h : flags.isEmpty = true
      · obtain rfl := Insensitivity.isEmpty_iff.mp h
        simp [alike, CountsAs, isString, h]
      · have hne : flags ≠ ∅ := fun hflags => h (Insensitivity.isEmpty_iff.mpr hflags)
        simp [alike, CountsAs, isString, h, hne]
    | _ => simp [alike, CountsAs, isString]
  | _ => simp [alike, CountsAs, isString]

theorem matchRun_iff (h : run.length = needle.length) :
    matchRun flags needle run = true ↔ List.Forall₂ (CountsAs flags) run needle := by
  simp only [matchRun, List.all_eq_true, Prod.forall, alike_iff, List.forall₂_iff_zip, h, true_and]

theorem matchItems_of_lt (op : Operator) (h : items.length < needle.length) :
    matchItems op flags items needle = false := by
  unfold matchItems
  rw [if_pos h]

theorem matchItems_beginsWith_iff : matchItems .beginsWith flags items needle = true ↔
    ∃ r t, items = r ++ t ∧ List.Forall₂ (CountsAs flags) r needle := by
  constructor
  · intro h
    by_cases hlt : items.length < needle.length
    · simp [matchItems_of_lt _ hlt] at h
    · rw [matchItems, if_neg hlt] at h
      have hlength : (items.take needle.length).length = needle.length := by
        rw [List.length_take]
        omega
      exact ⟨items.take needle.length, items.drop needle.length,
        (List.take_append_drop _ _).symm, (matchRun_iff hlength).mp h⟩
  · intro h
    obtain ⟨r, t, rfl, hr⟩ := h
    have hlength := hr.length_eq
    have hle : ¬ (r ++ t).length < needle.length := by
      rw [List.length_append]
      omega
    rw [matchItems, if_neg hle, ← hlength, List.take_left]
    exact (matchRun_iff hlength).mpr hr

theorem matchItems_endsWith_iff : matchItems .endsWith flags items needle = true ↔
    ∃ h r, items = h ++ r ∧ List.Forall₂ (CountsAs flags) r needle := by
  constructor
  · intro h
    by_cases hlt : items.length < needle.length
    · simp [matchItems_of_lt _ hlt] at h
    · rw [matchItems, if_neg hlt] at h
      have hlength : (items.drop (items.length - needle.length)).length = needle.length := by
        rw [List.length_drop]
        omega
      exact ⟨items.take (items.length - needle.length), _, (List.take_append_drop _ _).symm,
        (matchRun_iff hlength).mp h⟩
  · intro h
    obtain ⟨before, r, rfl, hr⟩ := h
    have hlength := hr.length_eq
    have hle : ¬ (before ++ r).length < needle.length := by
      rw [List.length_append]
      omega
    have hstart : (before ++ r).length - needle.length = before.length := by
      rw [List.length_append]
      omega
    rw [matchItems, if_neg hle]
    simp only [hstart, List.drop_left]
    exact (matchRun_iff hlength).mpr hr

theorem matchItems_contains_iff : matchItems .contains flags items needle = true ↔
    ∃ h r t, items = h ++ r ++ t ∧ List.Forall₂ (CountsAs flags) r needle := by
  constructor
  · intro h
    by_cases hlt : items.length < needle.length
    · simp [matchItems_of_lt _ hlt] at h
    · rw [matchItems, if_neg hlt] at h
      simp only [Bool.or_eq_true, List.isEmpty_iff, List.any_eq_true, mem_runs] at h
      obtain rfl | ⟨r, ⟨hlength, before, after, hitems⟩, hr⟩ := h
      · exact ⟨[], [], items, rfl, .nil⟩
      · exact ⟨before, r, after, hitems, (matchRun_iff hlength).mp hr⟩
  · intro h
    obtain ⟨before, r, after, rfl, hr⟩ := h
    have hlength := hr.length_eq
    have hle : ¬ (before ++ r ++ after).length < needle.length := by
      rw [List.length_append, List.length_append]
      omega
    rw [matchItems, if_neg hle]
    simp only [Bool.or_eq_true, List.any_eq_true, mem_runs]
    exact .inr ⟨r, ⟨hlength, before, after, rfl⟩, (matchRun_iff hlength).mpr hr⟩

theorem matchItems_nil (op : Operator) : matchItems op flags items [] = op.isText := by
  cases op <;> simp [matchItems, matchRun, Operator.isText]

theorem matchItems?_eq (op : Operator) :
    matchItems? op flags items needle = some (matchItems op flags items needle) := by
  by_cases hlt : items.length < needle.length
  · unfold matchItems?
    rw [matchItems_of_lt op hlt, if_pos hlt]
  have hle : needle.length ≤ items.length := Nat.le_of_not_lt hlt
  unfold matchItems? matchItems
  rw [if_neg hlt, if_neg hlt]
  cases op with
  | beginsWith => simp [slice?, hle]
  | endsWith =>
    have hrest : (items.drop (items.length - needle.length)).take needle.length =
        items.drop (items.length - needle.length) := by
      rw [List.take_of_length_le]
      rw [List.length_drop]
      omega
    have hcount : items.length - (items.length - needle.length) = needle.length := by omega
    simp [difference?, slice?, hle, hcount, hrest]
  | contains =>
    by_cases hempty : needle = []
    · simp [hempty]
    · simp [windows?, hempty]
  | _ => rfl

end

/-- On lists the text operators search for a contiguous run, which may be empty, and always cut
their runs within the subject. -/
theorem matchText_lists [CharData] (flags : Insensitivity) (xs ys : List Value) :
    (matchText .beginsWith flags (.list xs) (.list ys) = true ↔
      ∃ r t, xs = r ++ t ∧ List.Forall₂ (CountsAs flags) r ys) ∧
    (matchText .endsWith flags (.list xs) (.list ys) = true ↔
      ∃ h r, xs = h ++ r ∧ List.Forall₂ (CountsAs flags) r ys) ∧
    (matchText .contains flags (.list xs) (.list ys) = true ↔
      ∃ h r t, xs = h ++ r ++ t ∧ List.Forall₂ (CountsAs flags) r ys) ∧
    (∀ op, matchText op flags (.list xs) (.list []) = op.isText) ∧
    ∀ op, matchItems? op flags xs ys = some (matchText op flags (.list xs) (.list ys)) := by
  simp only [matchText]
  exact ⟨matchItems_beginsWith_iff, matchItems_endsWith_iff, matchItems_contains_iff,
    matchItems_nil, matchItems?_eq⟩

end Value

end RecordQuery
