import Mathlib.Data.List.Forall2
import RecordQuery.Value.Match

/-!
# Identical values

Two identical values may still differ as data, by the sign of a zero. No operator tells them apart
as operands.
-/

namespace RecordQuery

theorem Double.compare_eq_of_equal {x y : Double} (h : x.equal y = true) (z : Double) :
    z.compare x = z.compare y := by
  simp only [equal, compare, beq_iff_eq] at h
  split at h
  · simp at h
  · rename_i hnan
    have hx : x.isNaN = false := by simp_all
    have hy : y.isNaN = false := by simp_all
    have hkey : x.orderKey = y.orderKey := by simpa [Int.compare_eq_eq] using h
    simp only [compare, hx, hy, hkey]

theorem Number.compare_eq_of_identical {n m : Number} (h : n.identical m = true) (k : Number) :
    k.compare n = k.compare m := by
  cases n with
  | signed a =>
    cases m with
    | signed b =>
      obtain rfl : a = b := by simpa [identical] using h
      rfl
    | _ => simp [identical] at h
  | unsigned a =>
    cases m with
    | unsigned b =>
      obtain rfl : a = b := by simpa [identical] using h
      rfl
    | _ => simp [identical] at h
  | float x =>
    cases m with
    | float y =>
      have hxy : x.equal y = true := h
      cases k <;> exact Double.compare_eq_of_equal hxy _
    | _ => simp [identical] at h

namespace Value

@[elab_as_elim, induction_eliminator]
theorem induction {motive : Value → Prop} (string : ∀ s, motive (.string s))
    (number : ∀ n, motive (.number n)) (timestamp : ∀ t, motive (.timestamp t))
    (enumerant : ∀ n, motive (.enumerant n)) (bool : ∀ b, motive (.bool b))
    (list : ∀ items, (∀ v ∈ items, motive v) → motive (.list items)) (absent : motive .absent)
    (v : Value) : motive v :=
  match v with
  | .string s => string s
  | .number n => number n
  | .timestamp t => timestamp t
  | .enumerant n => enumerant n
  | .bool b => bool b
  | .list items =>
    list items fun v _ => induction string number timestamp enumerant bool list absent v
  | .absent => absent

theorem forall₂_of_identicalLists {bs cs : List Value} (h : identicalLists bs cs = true) :
    List.Forall₂ (fun b c => b.identical c = true) bs cs := by
  induction bs generalizing cs with
  | nil =>
    cases cs with
    | nil => exact .nil
    | cons c cs => simp [identicalLists] at h
  | cons b bs ih =>
    cases cs with
    | nil => simp [identicalLists] at h
    | cons c cs =>
      simp only [identicalLists, Bool.and_eq_true] at h
      exact .cons h.1 (ih h.2)

/-- Only numbers, and lists for their elements, are identical without being one and the same. -/
theorem identical_cases {b c : Value} (h : b.identical c = true) :
    b = c ∨ (∃ n m, b = .number n ∧ c = .number m ∧ n.identical m = true) ∨
      ∃ bs cs, b = .list bs ∧ c = .list cs ∧
        List.Forall₂ (fun b c => b.identical c = true) bs cs := by
  cases b with
  | number n =>
    cases c with
    | number m => exact .inr (.inl ⟨n, m, rfl, rfl, by simpa [identical] using h⟩)
    | _ => simp [identical] at h
  | list bs =>
    cases c with
    | list cs =>
      have hlists : identicalLists bs cs = true := by simpa [identical] using h
      exact .inr (.inr ⟨bs, cs, rfl, rfl, forall₂_of_identicalLists hlists⟩)
    | _ => simp [identical] at h
  | _ => cases c <;> simp_all [identical]

theorem compareLists_eq_of_identical {bs cs : List Value}
    (h : List.Forall₂ (fun b c => b.identical c = true) bs cs)
    (hbs : ∀ b ∈ bs, ∀ c, b.identical c = true → ∀ a : Value, a.compare b = a.compare c)
    (as : List Value) : compareLists as bs = compareLists as cs := by
  induction h generalizing as with
  | nil => rfl
  | @cons b c bs cs hbc _ ih =>
    cases as with
    | nil => rfl
    | cons a as =>
      have hb := hbs b (by simp) c hbc a
      have hrest := ih (fun d hd => hbs d (by simp [hd])) as
      simp only [compareLists, hb, hrest]

theorem compare_eq_of_identical {b c : Value} (h : b.identical c = true) (a : Value) :
    a.compare b = a.compare c := by
  induction b generalizing c a with
  | list bs ih =>
    obtain rfl | ⟨n, m, hn, -⟩ | ⟨bs, cs, hbs, rfl, hlists⟩ := identical_cases h
    · rfl
    · cases hn
    · cases hbs
      cases a with
      | list as =>
        simp only [compare]
        exact compareLists_eq_of_identical hlists (fun b hb c => ih b hb) as
      | _ => simp [compare]
  | _ =>
    obtain rfl | ⟨n, m, hn, rfl, hnm⟩ | ⟨bs, cs, hbs, -⟩ := identical_cases h
    · rfl
    · rw [hn]
      cases a with
      | number k => simpa [compare] using Number.compare_eq_of_identical hnm k
      | _ => simp [compare]
    · cases hbs

theorem sameAs_eq_of_identical {b c : Value} (h : b.identical c = true) (a : Value) :
    a.sameAs b = a.sameAs c := by
  rw [sameAs, sameAs, compare_eq_of_identical h]

theorem any_sameAs_eq_of_identical {bs cs : List Value}
    (h : List.Forall₂ (fun b c => b.identical c = true) bs cs) (a : Value) :
    bs.any a.sameAs = cs.any a.sameAs := by
  induction h with
  | nil => rfl
  | cons hbc _ ih => simp only [List.any_cons, ih, sameAs_eq_of_identical hbc]

theorem string?_eq_of_identical {b c : Value} (h : b.identical c = true) :
    b.string? = c.string? := by
  obtain rfl | ⟨n, m, rfl, rfl, -⟩ | ⟨bs, cs, rfl, rfl, -⟩ := identical_cases h
  · rfl
  · rfl
  · rfl

theorem any_elements_eq_of_identical {b c : Value} (h : b.identical c = true) (a : Value) :
    b.elements.any a.sameAs = c.elements.any a.sameAs := by
  obtain rfl | ⟨n, m, rfl, rfl, -⟩ | ⟨bs, cs, rfl, rfl, hlists⟩ := identical_cases h
  · rfl
  · rfl
  · exact any_sameAs_eq_of_identical hlists a

section Match

variable [CharData]

theorem alike_eq_of_identical {b c : Value} (h : b.identical c = true) (flags : Insensitivity)
    (a : Value) : alike flags a b = alike flags a c := by
  have hsame := sameAs_eq_of_identical h a
  obtain rfl | ⟨n, m, rfl, rfl, -⟩ | ⟨bs, cs, rfl, rfl, -⟩ := identical_cases h
  · rfl
  · simp only [alike, hsame]
  · simp only [alike, hsame]

theorem matchRun_eq_of_identical {bs cs : List Value}
    (h : List.Forall₂ (fun b c => b.identical c = true) bs cs) (flags : Insensitivity)
    (run : List Value) : matchRun flags bs run = matchRun flags cs run := by
  induction h generalizing run with
  | nil => rfl
  | cons hbc _ ih =>
    cases run with
    | nil => rfl
    | cons a run =>
      have hrest := ih run
      simp only [matchRun] at hrest ⊢
      simp [hrest, alike_eq_of_identical hbc]

theorem matchText_eq_of_identical {b c : Value} (h : b.identical c = true) (op : Operator)
    (flags : Insensitivity) (a : Value) : matchText op flags a b = matchText op flags a c := by
  obtain rfl | ⟨n, m, rfl, rfl, -⟩ | ⟨bs, cs, rfl, rfl, hlists⟩ := identical_cases h
  · rfl
  · simp [matchText]
  · have hlength : bs.length = cs.length := hlists.length_eq
    have hrun : matchRun flags bs = matchRun flags cs :=
      funext (matchRun_eq_of_identical hlists flags)
    have hempty : bs.isEmpty = cs.isEmpty := by
      rw [Bool.eq_iff_iff, List.isEmpty_iff_length_eq_zero, List.isEmpty_iff_length_eq_zero,
        hlength]
    cases a with
    | list as => simp only [matchText, matchItems, hlength, hrun, hempty]
    | _ => simp [matchText]

end Match

end Value

end RecordQuery
