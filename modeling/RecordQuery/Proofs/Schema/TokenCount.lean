import RecordQuery.Schema.AttributeReader

/-!
# Counting tokens

What is read off the front of a list of tokens leaves fewer of them: the value of an attribute never
leaves more than there were, and an attribute, which begins with a name, leaves at least one less.
-/

namespace RecordQuery.Schema

theorem exists_of_map_eq_ok {ε α β : Type} {x : Except ε α} {f : α → β} {b : β}
    (h : x.map f = .ok b) : ∃ a, x = .ok a ∧ f a = b := by
  cases x with
  | error e => cases h
  | ok a => exact ⟨a, rfl, Except.ok.inj h⟩

namespace ValueTerm

theorem length_skipMarks_le {cs : List Char} {ts rest : List Token}
    (h : skipMarks cs ts = some rest) : rest.length ≤ ts.length := by
  fun_induction skipMarks cs ts with
  | case1 ts =>
    cases h
    exact Nat.le_refl _
  | case2 ts c =>
    cases h
    simp
  | case4 ts c cs hcs ih => exact Nat.le_succ_of_le (ih h)
  | _ => cases h

theorem length_skipOperator?_le {ts rest : List Token} (h : skipOperator? ts = some rest) :
    rest.length ≤ ts.length := by
  unfold skipOperator? at h
  split at h
  · cases h
  · obtain ⟨cs, -, hcs⟩ := List.exists_of_findSome?_eq_some h
    exact length_skipMarks_le hcs

theorem length_skipOpenRange?_le {ts rest : List Token} (h : skipOpenRange? ts = some rest) :
    rest.length ≤ ts.length := by
  obtain ⟨hmarks, -⟩ := Option.filter_eq_some_iff.mp h
  exact length_skipMarks_le hmarks

theorem length_skipBlock_le {start ts rest : List Token} (h : skipBlock start ts = .ok rest) :
    rest.length ≤ ts.length := by
  fun_induction skipBlock start ts with
  | case1 => cases h
  | case2 inner ts ih =>
    have hrest := ih h
    simp only [List.length_cons]
    omega
  | case3 inner ts =>
    cases h
    simp
  | case4 t ts _ _ ih => exact Nat.le_succ_of_le (ih h)

theorem length_skipParameters_le (ts : List Token) : (skipParameters ts).length ≤ ts.length := by
  fun_induction skipParameters ts with
  | case1 => exact Nat.le_refl _
  | case2 => simp
  | case3 t ts _ ih => exact Nat.le_succ_of_le ih

theorem length_skipArguments_le (depth : Nat) (ts : List Token) :
    (skipArguments depth ts).length ≤ ts.length := by
  fun_induction skipArguments depth ts with
  | case1 => exact Nat.le_refl _
  | case2 => simp
  | case3 depth joined ts ih | case4 depth joined ts ih => exact Nat.le_succ_of_le ih
  | case5 depth t ts _ _ _ ih => exact Nat.le_succ_of_le ih

theorem length_skipSegments_le (fuel : Nat) (ts : List Token) :
    (skipSegments fuel ts).length ≤ ts.length := by
  fun_induction skipSegments fuel ts with
  | case1 => exact Nat.le_refl _
  | case2 fuel ts name rest hmarks ih =>
    have hle := length_skipMarks_le hmarks
    rw [List.length_cons] at hle
    omega
  | case3 fuel ts joined rest hmarks ih =>
    have hle := length_skipMarks_le hmarks
    have hargs := length_skipArguments_le 0 rest
    rw [List.length_cons] at hle
    omega
  | case4 => exact Nat.le_refl _

theorem length_skipPathEnd_le (ts : List Token) : (skipPathEnd ts).length ≤ ts.length := by
  fun_cases skipPathEnd ts with
  | case1 => simp only [List.length_cons]; omega
  | case2 => simp
  | case3 => exact Nat.le_refl _

/-- A reader that never leaves more tokens than there were. -/
def Shortens (f : List Token → Except Misplaced (List Token)) : Prop :=
  ∀ ts rest, f ts = .ok rest → rest.length ≤ ts.length

theorem Shortens.le {f : List Token → Except Misplaced (List Token)} (hf : Shortens f)
    {us ts rest : List Token} (h : f us = .ok rest) (hle : us.length ≤ ts.length) :
    rest.length ≤ ts.length :=
  Nat.le_trans (hf us rest h) hle

section

variable {fuel : Nat}

theorem shortens_skip_succ (hoperand : Shortens (skipOperand fuel)) (hskip : Shortens (skip fuel)) :
    Shortens (skip (fuel + 1)) := by
  intro ts rest h
  rw [skip] at h
  cases hfirst : skipOperand fuel ts with
  | error e => simp [hfirst] at h
  | ok us =>
    have hus := hoperand ts us hfirst
    simp only [hfirst] at h
    split at h
    · rename_i hopen
      cases h
      exact Nat.le_trans (length_skipOpenRange?_le hopen) hus
    · rename_i hop
      exact hskip.le h (Nat.le_trans (length_skipOperator?_le hop) hus)
    · cases h
      exact hus

theorem shortens_skipSuffix_succ (hsuffix : Shortens (skipSuffix fuel)) :
    Shortens (skipSuffix (fuel + 1)) := by
  intro ts rest h
  have hsegments (us : List Token) : (skipSegments fuel us).length ≤ us.length + 2 :=
    Nat.le_add_right_of_le (length_skipSegments_le fuel us)
  rw [skipSuffix.eq_def] at h
  simp only at h
  split at h
  · exact hsuffix.le h (hsegments _)
  · exact hsuffix.le h (Nat.le_add_right _ 2)
  · exact hsuffix.le h (Nat.le_succ _)
  · exact hsuffix.le h (Nat.le_succ _)
  · exact hsuffix.le h (Nat.le_succ _)
  · exact hsuffix.le h (hsegments _)
  · cases h
    exact Nat.le_refl _

theorem shortens_skipOperand_succ (hskip : Shortens (skip fuel))
    (hoperand : Shortens (skipOperand fuel)) (hsuffix : Shortens (skipSuffix fuel)) :
    Shortens (skipOperand (fuel + 1)) := by
  intro ts rest h
  have hpath (us : List Token) : (skipPathEnd (skipSegments fuel us)).length ≤ us.length :=
    Nat.le_trans (length_skipPathEnd_le _) (length_skipSegments_le fuel us)
  rw [skipOperand.eq_def] at h
  simp only at h
  split at h
  · -- the points of a range
    split at h
    · rename_i hopen
      cases h
      exact length_skipOpenRange?_le hopen
    · rename_i hop
      exact hskip.le h (length_skipOperator?_le hop)
    · cases h
  · exact hoperand.le h (Nat.le_succ _)
  · exact hoperand.le h (Nat.le_succ _)
  · exact hoperand.le h (Nat.le_succ _)
  · exact hoperand.le h (Nat.le_add_right _ 2)
  · exact hoperand.le h (Nat.le_succ _)
  · exact hskip.le h (Nat.le_succ_of_le (length_skipParameters_le _))
  · split at h
    · exact hsuffix.le h (Nat.le_trans (hpath _) (Nat.le_add_right _ 3))
    · cases h
  · exact hsuffix.le h
      (Nat.le_succ_of_le (Nat.le_trans (hpath _) (length_skipArguments_le 0 _)))
  · exact hsuffix.le h (Nat.le_succ _)
  · exact hsuffix.le h (Nat.le_succ _)
  · exact hsuffix.le h (Nat.le_succ _)
  · rename_i name us
    have hus : us.length ≤ (Token.word name :: us).length := by simp
    split at h
    · exact hsuffix.le h hus
    split at h
    · split at h
      · cases h
      · rename_i hblock
        exact hsuffix.le h (Nat.le_trans (length_skipBlock_le hblock) hus)
    split at h
    · split at h
      · cases h
        exact hus
      · exact hskip.le h hus
    split at h
    · exact hoperand.le h hus
    split at h
    · exact hsuffix.le h (Nat.le_trans (hpath us) hus)
    · cases h
  · cases h

end

theorem shortens_skip (fuel : Nat) : Shortens (skip fuel) := by
  have hall : Shortens (skip fuel) ∧ Shortens (skipOperand fuel) ∧ Shortens (skipSuffix fuel) := by
    induction fuel with
    | zero =>
      refine ⟨fun ts rest h => ?_, fun ts rest h => ?_, fun ts rest h => ?_⟩
      · cases h
      · cases h
      · cases h
        exact Nat.le_refl _
    | succ fuel ih =>
      obtain ⟨hskip, hoperand, hsuffix⟩ := ih
      exact ⟨shortens_skip_succ hoperand hskip, shortens_skipOperand_succ hskip hoperand hsuffix,
        shortens_skipSuffix_succ hsuffix⟩
  exact hall.1

theorem length_read_le {ts rest : List Token} {text : Option String}
    (h : read ts = .ok (text, rest)) : rest.length ≤ ts.length := by
  unfold read at h
  split at h
  · cases h
  · obtain ⟨us, hus, heq⟩ := exists_of_map_eq_ok h
    cases heq
    exact shortens_skip _ _ _ hus
  · obtain ⟨us, hus, heq⟩ := exists_of_map_eq_ok h
    cases heq
    exact shortens_skip _ _ _ hus

end ValueTerm

namespace Path

theorem length_readSegments_le {ts rest : List Token} {names : List String}
    (h : readSegments ts = .ok (names, rest)) : rest.length ≤ ts.length := by
  fun_induction readSegments ts generalizing names with
  | case1 joined name ts hname ih =>
    obtain ⟨p, hp, heq⟩ := exists_of_map_eq_ok h
    cases heq
    exact Nat.le_trans (ih hp) (Nat.le_add_right _ 3)
  | case2 => cases h
  | case3 => cases h
  | case4 =>
    cases h
    exact Nat.le_refl _

theorem length_readNames_lt {ts rest : List Token} {b : Bool} {p : Path}
    (h : readNames b ts = .ok (p, rest)) : rest.length < ts.length := by
  unfold readNames at h
  split at h
  · split at h
    · obtain ⟨q, hq, heq⟩ := exists_of_map_eq_ok h
      cases heq
      exact Nat.lt_succ_of_le (length_readSegments_le hq)
    · cases h
  · cases h

theorem length_read_lt {ts rest : List Token} {p : Path} (h : read ts = .ok (p, rest)) :
    rest.length < ts.length := by
  unfold read at h
  split at h
  · cases h
    exact Nat.lt_succ_self _
  · exact Nat.lt_add_right 2 (length_readNames_lt h)
  · exact length_readNames_lt h

end Path

namespace Attribute

theorem length_read_lt {ts rest : List Token} {a : Attribute} (h : read ts = .ok (a, rest)) :
    rest.length < ts.length := by
  unfold read at h
  cases hp : Path.read ts with
  | error e => simp [hp, bind, Except.bind] at h
  | ok pair =>
    obtain ⟨p, us⟩ := pair
    have hus := Path.length_read_lt hp
    simp only [hp, bind, Except.bind] at h
    split at h
    · cases h
      exact Nat.lt_of_succ_lt hus
    · rename_i joined vs
      cases hv : ValueTerm.read vs with
      | error e => simp [hv] at h
      | ok pair =>
        obtain ⟨text, ws⟩ := pair
        simp only [hv] at h
        cases h
        exact Nat.lt_of_le_of_lt (ValueTerm.length_read_le hv) (Nat.lt_of_succ_lt hus)
    · cases h
      exact hus

end Attribute

end RecordQuery.Schema
