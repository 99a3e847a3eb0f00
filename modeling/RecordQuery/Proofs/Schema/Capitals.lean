import RecordQuery.Proofs.Schema.ConstantName

/-!
# Capitals and underscores

What the name of a constant has for a character of a field's name depends on that character and on
the one before it. So the name keeps all characters but the separators, with ASCII letters in
capitals, and an underscore in it stands for a separator or before a capital that begins a word.
-/

namespace RecordQuery.Schema.ConstantName

def withPrevious (before : Option Char) : List Char → List (Option Char × Char)
  | [] => []
  | c :: rest => (before, c) :: withPrevious (some c) rest

def isAfterLower (before : Option Char) : Bool :=
  before.any fun b => !isSeparator b && !isUpper b

/-- Whether a character is a capital directly after one that is neither a separator nor a
capital. -/
def beginsWord (before : Option Char) (c : Char) : Bool := isUpper c && isAfterLower before

def spelled (before : Option Char) (c : Char) : List Char :=
  if isSeparator c then ['_'] else if beginsWord before c then ['_', c] else [c.toUpper]

theorem map_withPrevious (before : Option Char) (s : List Char) :
    (withPrevious before s).map Prod.snd = s := by
  induction s generalizing before with
  | nil => rfl
  | cons c rest ih => rw [withPrevious, List.map_cons, ih]

theorem capitalize_eq_flatMap (before : Option Char) (s : List Char) :
    capitalize (isAfterLower before) s =
      (withPrevious before s).flatMap fun p => spelled p.1 p.2 := by
  -- what is read so far counts only through the last character
  induction s generalizing before with
  | nil => rfl
  | cons c rest ih =>
    have hnext := ih (some c)
    rw [capitalize, withPrevious, List.flatMap_cons, ← hnext, spelled, beginsWord]
    by_cases hu : isUpper c = true
    · have hs := isSeparator_of_isUpper hu
      have hafter : isAfterLower (some c) = false := by simp [isAfterLower, hu]
      rw [if_pos hu, hafter, hs, hu, toUpper_of_isUpper hu]
      cases isAfterLower before <;> rfl
    · rw [if_neg hu]
      by_cases hs : isSeparator c = true
      · have hafter : isAfterLower (some c) = false := by simp [isAfterLower, hs]
        rw [if_pos hs, if_pos hs, hafter]
        rfl
      · have hafter : isAfterLower (some c) = true := by simp [isAfterLower, hs, hu]
        rw [if_neg hs, if_neg hs, hafter]
        simp [hu]

/-! ### One character -/

theorem isUpper_of_beginsWord {before : Option Char} {c : Char} (h : beginsWord before c = true) :
    isUpper c = true := by
  rw [beginsWord, Bool.and_eq_true] at h
  exact h.1

theorem spelled_of_not_isSeparator {before : Option Char} {c : Char} (h : isSeparator c = false) :
    spelled before c = if beginsWord before c then ['_', c.toUpper] else [c.toUpper] := by
  rw [spelled, h]
  cases hword : beginsWord before c with
  | true => simp [toUpper_of_isUpper (isUpper_of_beginsWord hword)]
  | false => simp

theorem toUpper_ne_of_not_isSeparator {c d : Char} (hc : isSeparator c = false)
    (hd : isSeparator d = true) : c.toUpper ≠ d := by
  apply toUpper_ne
  · intro hcode
    simp only [isSeparator, Bool.or_eq_true, beq_iff_eq] at hd
    obtain ((rfl | rfl) | rfl) | rfl := hd <;> exact absurd hcode (by decide)
  · intro heq
    rw [heq, hd] at hc
    cases hc

theorem filter_spelled (before : Option Char) (c : Char) :
    (spelled before c).filter (· != '_') = if isSeparator c then [] else [c.toUpper] := by
  cases hs : isSeparator c with
  | true => simp [spelled, hs]
  | false =>
    have hne : c.toUpper ≠ '_' := toUpper_ne_of_not_isSeparator hs rfl
    rw [spelled_of_not_isSeparator hs]
    cases beginsWord before c <;> simp [hne]

theorem count_spelled (before : Option Char) (c : Char) :
    (spelled before c).count '_' =
      (if isSeparator c then 1 else 0) + if beginsWord before c then 1 else 0 := by
  cases hs : isSeparator c with
  | true =>
    have hword : beginsWord before c = false := by
      by_contra h
      rw [Bool.not_eq_false] at h
      rw [isSeparator_of_isUpper (isUpper_of_beginsWord h)] at hs
      cases hs
    simp [spelled, hs, hword]
  | false =>
    have hne : c.toUpper ≠ '_' := toUpper_ne_of_not_isSeparator hs rfl
    rw [spelled_of_not_isSeparator hs]
    cases beginsWord before c <;> simp [hne]

theorem mem_spelled {before : Option Char} {c x : Char} (h : x ∈ spelled before c) :
    x = '_' ∨ isSeparator c = false ∧ x = c.toUpper := by
  cases hs : isSeparator c with
  | true =>
    rw [spelled, if_pos hs] at h
    exact .inl (List.mem_singleton.mp h)
  | false =>
    rw [spelled_of_not_isSeparator hs] at h
    cases hword : beginsWord before c with
    | true => simpa [hword] using h
    | false =>
      simp only [hword] at h
      exact .inr ⟨rfl, List.mem_singleton.mp h⟩

/-! ### All characters -/

theorem filter_flatMap_spelled (l : List (Option Char × Char)) :
    (l.flatMap fun p => spelled p.1 p.2).filter (· != '_') =
      ((l.map Prod.snd).filter fun c => !isSeparator c).map Char.toUpper := by
  induction l with
  | nil => rfl
  | cons p rest ih =>
    rw [List.flatMap_cons, List.filter_append, filter_spelled, ih, List.map_cons]
    cases hs : isSeparator p.2 <;> simp [hs]

theorem count_flatMap_spelled (l : List (Option Char × Char)) :
    (l.flatMap fun p => spelled p.1 p.2).count '_' =
      (l.map Prod.snd).countP isSeparator + l.countP fun p => beginsWord p.1 p.2 := by
  induction l with
  | nil => rfl
  | cons p rest ih =>
    rw [List.flatMap_cons, List.count_append, count_spelled, ih, List.map_cons, List.countP_cons,
      List.countP_cons]
    omega

theorem toList_ofField (name : String) :
    (ofField name).toList = (withPrevious none name.toList).flatMap fun p => spelled p.1 p.2 := by
  rw [ofField, String.toList_ofList, ← capitalize_eq_flatMap]
  rfl

theorem isLower_toUpper (c : Char) : c.toUpper.isLower = false := by
  by_contra h
  rw [Bool.not_eq_false] at h
  obtain ⟨hlow, hhigh⟩ := Bool.and_eq_true_iff.mp h
  have hcode : 97 ≤ c.toUpper.toNat ∧ c.toUpper.toNat ≤ 122 :=
    ⟨of_decide_eq_true hlow, of_decide_eq_true hhigh⟩
  rw [toNat_toUpper] at hcode
  split at hcode <;> omega

theorem shape_of_mem_ofField {name : String} {c : Char} (h : c ∈ (ofField name).toList) :
    c.isLower = false ∧ c ∉ ['-', ' ', '.'] := by
  rw [toList_ofField, List.mem_flatMap] at h
  obtain ⟨p, -, hc⟩ := h
  obtain rfl | ⟨hs, rfl⟩ := mem_spelled hc
  · decide
  · refine ⟨isLower_toUpper _, ?_⟩
    have hne : ∀ d ∈ ['-', ' ', '.'], p.2.toUpper ≠ d := by
      intro d hd
      have hsep : isSeparator d = true := by
        simp only [List.mem_cons, List.not_mem_nil, or_false] at hd
        obtain rfl | rfl | rfl := hd <;> rfl
      exact toUpper_ne_of_not_isSeparator hs hsep
    intro hmem
    exact hne _ hmem rfl

/-- The name of a constant keeps the characters of the field's name but its separators, in order and
with ASCII letters in capitals. It has nothing to put in their place but underscores: one for each
separator and one before each capital that begins a word. -/
theorem ofField_keeps (name : String) :
    (ofField name).toList.filter (· != '_') =
      (name.toList.filter fun c => !isSeparator c).map Char.toUpper ∧
    (∀ c ∈ (ofField name).toList, c.isLower = false ∧ c ∉ ['-', ' ', '.']) ∧
    (ofField name).toList = ((withPrevious none name.toList).flatMap fun p => spelled p.1 p.2) ∧
    (ofField name).toList.count '_' = name.toList.countP isSeparator +
      (withPrevious none name.toList).countP fun p => beginsWord p.1 p.2 := by
  refine ⟨?_, ?_, toList_ofField name, ?_⟩
  · rw [toList_ofField, filter_flatMap_spelled, map_withPrevious]
  · intro c hc
    exact shape_of_mem_ofField hc
  · rw [toList_ofField, count_flatMap_spelled, map_withPrevious]

theorem ofField_keeps_mixed :
    'X' ∈ (ofField "v2Total-XMLname. A").toList ∧ 'X'.isLower = false ∧ 'X' ∉ ['-', ' ', '.'] ∧
      (ofField "v2Total-XMLname. A").toList.count '_' = 4 := by
  obtain ⟨-, hshape, -, hcount⟩ := ofField_keeps "v2Total-XMLname. A"
  have hmem : 'X' ∈ (ofField "v2Total-XMLname. A").toList := by decide
  refine ⟨hmem, (hshape 'X' hmem).1, (hshape 'X' hmem).2, ?_⟩
  rw [hcount]
  decide

end RecordQuery.Schema.ConstantName
