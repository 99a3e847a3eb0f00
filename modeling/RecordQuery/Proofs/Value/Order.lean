import RecordQuery.Proofs.Number.Order
import RecordQuery.Proofs.Value.Identical

/-!
# The order of values

Values of one kind are in order as far as their numbers are. Lists inherit the order from their
elements: the first unequal pair decides, so that later elements cannot disturb it.
-/

namespace RecordQuery.Value

/-! ### Reversing a comparison -/

theorem compareLists_swap {as : List Value}
    (h : ∀ a ∈ as, ∀ b : Value, b.compare a = (a.compare b).map Ordering.swap) (bs : List Value) :
    compareLists bs as = (compareLists as bs).map Ordering.swap := by
  induction as generalizing bs with
  | nil => cases bs <;> rfl
  | cons a as ih =>
    cases bs with
    | nil => rfl
    | cons b bs =>
      have hhead := h a (by simp) b
      have htail := ih (fun c hc => h c (by simp [hc])) bs
      simp only [compareLists, hhead]
      cases hab : a.compare b with
      | none => rfl
      | some o =>
        cases o with
        | eq => exact htail
        | lt => rfl
        | gt => rfl

theorem compare_swap (a b : Value) : b.compare a = (a.compare b).map Ordering.swap := by
  induction a generalizing b with
  | string s =>
    cases b with
    | string t => exact congrArg some Std.OrientedOrd.eq_swap
    | _ => simp [compare]
  | number n =>
    cases b with
    | number m => simpa [compare] using n.compare_swap m
    | _ => simp [compare]
  | timestamp s =>
    cases b with
    | timestamp t => simp [compare, Int.compare_swap]
    | _ => simp [compare]
  | enumerant n =>
    cases b with
    | enumerant m => simp [compare, Nat.compare_swap]
    | _ => simp [compare]
  | bool x =>
    cases b with
    | bool y => simp [compare, Nat.compare_swap]
    | _ => simp [compare]
  | list as ih =>
    cases b with
    | list bs => simpa [compare] using compareLists_swap ih bs
    | _ => simp [compare]
  | absent => cases b <;> simp [compare]

theorem sameAs_iff {a b : Value} : a.sameAs b = true ↔ a.compare b = some .eq := by
  simp [sameAs]

/-! ### Comparing in steps -/

/-- Three values that hold, where both steps between them are still to be decided, a float and two
different integers that are equal to it. Nothing is said of such values. Lists among them may be in
order all the same, if what comes after the integers makes the steps strict. -/
inductive Ambiguous : Value → Value → Value → Prop where
  | number {a b c : Number} (h : a.Ambiguous b c) : Ambiguous (.number a) (.number b) (.number c)
  | head {a b c : Value} {as bs cs : List Value} (h : Ambiguous a b c) :
    Ambiguous (.list (a :: as)) (.list (b :: bs)) (.list (c :: cs))
  | tail {a b c : Value} {as bs cs : List Value} (hab : a.compare b = some .eq)
    (hbc : b.compare c = some .eq) (h : Ambiguous (.list as) (.list bs) (.list cs)) :
    Ambiguous (.list (a :: as)) (.list (b :: bs)) (.list (c :: cs))

/-- Comparing `a` with `c` takes the two steps between them at once. -/
def Steps (a b c : Value) : Prop :=
  ∀ o₁ o₂, a.compare b = some o₁ → b.compare c = some o₂ → o₁.isLE → o₂.isLE →
    ¬ Ambiguous a b c → a.compare c = some (o₁.then o₂)

theorem compareLists_cons {a b : Value} {as bs : List Value} {o : Ordering}
    (h : compareLists (a :: as) (b :: bs) = some o) :
    (a.compare b = some .eq ∧ compareLists as bs = some o) ∨ (a.compare b = some o ∧ o ≠ .eq) := by
  simp only [compareLists] at h
  cases hab : a.compare b with
  | none => simp [hab] at h
  | some x =>
    cases x with
    | eq => exact .inl ⟨rfl, by simpa [hab] using h⟩
    | lt =>
      obtain rfl : Ordering.lt = o := by simpa [hab] using h
      exact .inr ⟨rfl, by decide⟩
    | gt =>
      obtain rfl : Ordering.gt = o := by simpa [hab] using h
      exact .inr ⟨rfl, by decide⟩

theorem compareLists_of_head {a b : Value} {o : Ordering} (h : a.compare b = some o)
    (ho : o ≠ .eq) (as bs : List Value) : compareLists (a :: as) (b :: bs) = some o := by
  cases o <;> simp_all [compareLists]

theorem eq_lt_of_isLE {o : Ordering} (h : o.isLE) (hne : o ≠ .eq) : o = .lt := by
  cases o with
  | lt => rfl
  | eq => exact absurd rfl hne
  | gt => cases h

theorem steps_list {as : List Value} (h : ∀ a ∈ as, ∀ b c, Steps a b c) (bs cs : List Value) :
    Steps (.list as) (.list bs) (.list cs) := by
  intro o₁ o₂ hab hbc h₁ h₂ hamb
  simp only [compare] at hab hbc ⊢
  induction as generalizing bs cs with
  | nil =>
    cases bs with
    | nil =>
      cases hab
      exact hbc
    | cons b bs =>
      cases hab
      cases cs with
      | nil => cases hbc; cases h₂
      | cons c cs => rfl
  | cons a as ih =>
    cases bs with
    | nil => cases hab; cases h₁
    | cons b bs =>
      cases cs with
      | nil => cases hbc; cases h₂
      | cons c cs =>
        have hhead := h a (by simp) b c
        have hnot : ¬ Ambiguous a b c := fun hn => hamb (.head hn)
        -- as long as both steps are equal in the heads, the tails have to decide
        obtain ⟨hab', hab⟩ | ⟨hab', hne₁⟩ := compareLists_cons hab
        · obtain ⟨hbc', hbc⟩ | ⟨hbc', hne₂⟩ := compareLists_cons hbc
          · have hac := hhead _ _ hab' hbc' rfl rfl hnot
            have htail := ih (fun d hd => h d (by simp [hd])) bs cs hab hbc
              (fun hn => hamb (.tail hab' hbc' hn))
            simpa [compareLists, hac] using htail
          · obtain rfl := eq_lt_of_isLE h₂ hne₂
            have hac := hhead _ _ hab' hbc' rfl rfl hnot
            have hthen : o₁.then .lt = .lt := by
              cases o₁ with
              | gt => cases h₁
              | _ => rfl
            rw [hthen]
            exact compareLists_of_head hac (by decide) as cs
        · obtain rfl := eq_lt_of_isLE h₁ hne₁
          have hac : a.compare c = some .lt := by
            obtain ⟨hbc', -⟩ | ⟨hbc', -⟩ := compareLists_cons hbc
            · exact hhead _ _ hab' hbc' rfl rfl hnot
            · exact hhead _ _ hab' hbc' rfl h₂ hnot
          exact compareLists_of_head hac (by decide) as cs

theorem steps_of_ordered {α : Type} [Ord α] [Std.TransOrd α] {a b c : Value} {x y z : α}
    (hab : a.compare b = some (Ord.compare x y)) (hbc : b.compare c = some (Ord.compare y z))
    (hac : a.compare c = some (Ord.compare x z)) : Steps a b c := by
  intro o₁ o₂ h h' h₁ h₂ _
  obtain rfl := Option.some.inj (hab.symm.trans h)
  obtain rfl := Option.some.inj (hbc.symm.trans h')
  rw [hac, compare_eq_then h₁ h₂]

theorem steps_of_left {a b : Value} (h : a.compare b = none) (c : Value) : Steps a b c := by
  intro o₁ o₂ hab
  rw [h] at hab
  cases hab

theorem steps_of_right {b c : Value} (h : b.compare c = none) (a : Value) : Steps a b c := by
  intro o₁ o₂ _ hbc
  rw [h] at hbc
  cases hbc

theorem steps (a b c : Value) : Steps a b c := by
  induction a generalizing b c with
  | string s =>
    cases b with
    | string t =>
      cases c with
      | string u => exact steps_of_ordered (x := s) (y := t) (z := u) rfl rfl rfl
      | _ => exact steps_of_right (by simp [compare]) _
    | _ => exact steps_of_left (by simp [compare]) c
  | number n =>
    cases b with
    | number m =>
      cases c with
      | number k =>
        intro o₁ o₂ hab hbc h₁ h₂ hamb
        simp only [compare] at hab hbc ⊢
        exact (Number.compare_eq_then_iff hab hbc h₁ h₂).mpr fun hn => hamb (.number hn)
      | _ => exact steps_of_right (by simp [compare]) _
    | _ => exact steps_of_left (by simp [compare]) c
  | timestamp s =>
    cases b with
    | timestamp t =>
      cases c with
      | timestamp u => exact steps_of_ordered (by rw [compare]) (by rw [compare]) (by rw [compare])
      | _ => exact steps_of_right (by simp [compare]) _
    | _ => exact steps_of_left (by simp [compare]) c
  | enumerant n =>
    cases b with
    | enumerant m =>
      cases c with
      | enumerant k => exact steps_of_ordered (by rw [compare]) (by rw [compare]) (by rw [compare])
      | _ => exact steps_of_right (by simp [compare]) _
    | _ => exact steps_of_left (by simp [compare]) c
  | bool x =>
    cases b with
    | bool y =>
      cases c with
      | bool z => exact steps_of_ordered (by rw [compare]) (by rw [compare]) (by rw [compare])
      | _ => exact steps_of_right (by simp [compare]) _
    | _ => exact steps_of_left (by simp [compare]) c
  | list as ih =>
    cases b with
    | list bs =>
      cases c with
      | list cs => exact steps_list ih bs cs
      | _ => exact steps_of_right (by simp [compare]) _
    | _ => exact steps_of_left (by simp [compare]) c
  | absent =>
    cases b with
    | absent =>
      intro o₁ o₂ hab hbc _ _ _
      cases hab
      exact hbc
    | _ => exact steps_of_left (by simp [compare]) c

theorem satisfies_greater_iff {u v : Value} :
    satisfies .greater u v = true ↔ u.compare v = some .gt := by
  cases h : u.compare v with
  | none => simp [satisfies, h]
  | some o => cases o <;> simp [satisfies, h, Operator.accepts]

theorem satisfies_greaterOrEqual_iff {u v : Value} :
    satisfies .greaterOrEqual u v = true ↔ ∃ o, u.compare v = some o ∧ o ≠ .lt := by
  cases h : u.compare v with
  | none => simp [satisfies, h]
  | some o => simp [satisfies, h, Operator.accepts]

/-- Comparing is transitive wherever no float comes together with two different integers that are
equal to it: a strict step makes the whole strict, and equal steps make it equal. So `==` is
transitive there, and a value above a bound is above whatever that bound is not below. -/
theorem compare_trans (a b c : Value) (h : ¬ Ambiguous a b c) :
    (∀ o₁ o₂, a.compare b = some o₁ → b.compare c = some o₂ → o₁ ≠ .gt → o₂ ≠ .gt →
      a.compare c = some (if o₁ = .lt ∨ o₂ = .lt then .lt else .eq)) ∧
    (a.sameAs b = true → b.sameAs c = true → a.sameAs c = true) ∧
    (satisfies .greater c b = true → satisfies .greaterOrEqual b a = true →
      satisfies .greater c a = true) := by
  have hsteps := steps a b c
  refine ⟨fun o₁ o₂ hab hbc h₁ h₂ => ?_, fun hab hbc => ?_, fun hcb hba => ?_⟩
  · rw [hsteps o₁ o₂ hab hbc (Ordering.isLE_iff_ne_gt.mpr h₁) (Ordering.isLE_iff_ne_gt.mpr h₂) h]
    cases o₁ <;> cases o₂ <;> simp_all
  · rw [sameAs_iff] at hab hbc ⊢
    exact hsteps _ _ hab hbc rfl rfl h
  · rw [satisfies_greater_iff] at hcb ⊢
    obtain ⟨o, hba, ho⟩ := satisfies_greaterOrEqual_iff.mp hba
    have hbc : b.compare c = some .lt := by rw [compare_swap, hcb]; rfl
    have hab : a.compare b = some o.swap := by rw [compare_swap, hba]; rfl
    have hac : a.compare c = some .lt := by
      rw [hsteps _ _ hab hbc (by cases o <;> simp_all) rfl h]
      cases o with
      | lt => exact absurd rfl ho
      | _ => rfl
    rw [compare_swap, hac]
    rfl

theorem compare_trans_three :
    let a : Value := .list [.number (.signed 3), .string "a"]
    let b : Value := .list [.number (.float ⟨0x4008000000000000⟩), .string "a"]
    let c : Value := .list [.number (.unsigned 3), .string "b"]
    ¬ Ambiguous a b c ∧ a.compare b = some .eq ∧ b.compare c = some .lt ∧
      a.compare c = some .lt ∧ satisfies .greater c a = true := by
  intro a b c
  have hnumbers : ¬ Number.Ambiguous (.signed 3) (.float ⟨0x4008000000000000⟩) (.unsigned 3) := by
    rintro (⟨h, -⟩ | ⟨-, -, -, i, j, hi, hj, hij⟩ | ⟨h, -⟩)
    · cases h
    · cases hi
      cases hj
      exact hij rfl
    · cases h
  have hamb : ¬ Ambiguous a b c := by
    intro h
    unfold a b c at h
    cases h with
    | head h => cases h with | number h => exact hnumbers h
    | tail _ _ h =>
      cases h with
      | head h => cases h
      | tail _ _ h => cases h
  have hab : a.compare b = some .eq := by decide
  have hbc : b.compare c = some .lt := by decide
  obtain ⟨hless, -, hgreater⟩ := compare_trans a b c hamb
  exact ⟨hamb, hab, hbc, hless _ _ hab hbc (by decide) (by decide),
    hgreater (by decide) (by decide)⟩

/-- Where a float is equal to two different integers, none of this holds. -/
theorem compare_not_trans :
    let a : Value := .number (.signed 9007199254740993)
    let b : Value := .number (.float ⟨0x4340000000000000⟩)
    let c : Value := .number (.signed 9007199254740992)
    a.compare b = some .eq ∧ b.compare c = some .eq ∧ a.compare c = some .gt ∧
      a.sameAs c = false ∧ satisfies .greater a c = true ∧
      satisfies .greaterOrEqual c b = true ∧ satisfies .greater a b = false := by
  decide

end RecordQuery.Value
