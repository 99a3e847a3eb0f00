import RecordQuery.Proofs.Number.Rounding

/-!
# The order of numbers

Integers are compared exactly and with a float after rounding. So a float can be equal to two
integers that differ, and then the order of the three is no order. Wherever that does not happen,
comparing is transitive.
-/

namespace RecordQuery

theorem compare_eq_then {α : Type} [Ord α] [Std.TransOrd α] {a b c : α}
    (hab : (Ord.compare a b).isLE) (hbc : (Ord.compare b c).isLE) :
    Ord.compare a c = (Ord.compare a b).then (Ord.compare b c) := by
  cases hab' : Ord.compare a b with
  | lt => exact Std.TransCmp.lt_of_lt_of_isLE hab' hbc
  | eq => exact Std.TransCmp.congr_left hab'
  | gt => simp [hab'] at hab

namespace Double

theorem compare_eq_some {x y : Double} {o : Ordering} (h : x.compare y = some o) :
    x.isNaN = false ∧ y.isNaN = false ∧ Ord.compare x.orderKey y.orderKey = o := by
  simp only [compare] at h
  split at h
  · cases h
  · rename_i hnan
    simp only [Bool.or_eq_true, not_or, Bool.not_eq_true] at hnan
    exact ⟨hnan.1, hnan.2, Option.some.inj h⟩

theorem compare_of_not_isNaN {x y : Double} (hx : x.isNaN = false) (hy : y.isNaN = false) :
    x.compare y = some (Ord.compare x.orderKey y.orderKey) := by
  simp [compare, hx, hy]

theorem compare_swap (x y : Double) : y.compare x = (x.compare y).map Ordering.swap := by
  simp only [compare, Bool.or_comm y.isNaN]
  split
  · rfl
  · simp [Int.compare_swap]

end Double

namespace Number

def integer? : Number → Option Int
  | .signed n => some n.toInt
  | .unsigned n => some n.toNat
  | .float _ => none

theorem natAbs_le_of_integer? {n : Number} {i : Int} (h : n.integer? = some i) :
    i.natAbs ≤ 2 ^ 64 := by
  cases n with
  | signed n =>
    have hlow := n.le_toInt
    have hhigh := n.toInt_lt
    cases h
    omega
  | unsigned n =>
    have hlt := n.toNat_lt
    cases h
    omega
  | float x => cases h

theorem toDouble_of_integer? {n : Number} {i : Int} (h : n.integer? = some i) :
    n.toDouble = .ofInt i := by
  cases n with
  | signed n => cases h; rfl
  | unsigned n => cases h; exact Double.ofNat_eq_ofInt _
  | float x => cases h

theorem compare_natCast (m n : Nat) : Ord.compare (m : Int) n = Ord.compare m n := by
  simp [Nat.compare_eq_ite_lt, Int.compare_eq_ite_lt]

theorem toUnsigned?_of_nonneg {n : Int64} (h : 0 ≤ n.toInt) :
    ∃ m, toUnsigned? n = some m ∧ (m.toNat : Int) = n.toInt := by
  have hhigh := n.toInt_lt
  refine ⟨.ofNat n.toInt.toNat, if_pos h, ?_⟩
  rw [UInt64.toNat_ofNat_of_lt' (by rw [UInt64.size]; omega)]
  omega

/-- A negative integer is below every unsigned one, and the others compare as unsigned ones. -/
theorem compareSignedUnsigned_eq (a : Int64) (b : UInt64) :
    compareSignedUnsigned a b = Ord.compare a.toInt b.toNat := by
  unfold compareSignedUnsigned
  by_cases h : 0 ≤ a.toInt
  · obtain ⟨m, hm, hcode⟩ := toUnsigned?_of_nonneg h
    simp only [hm, ← hcode, compare_natCast]
  · have hlt : a.toInt < b.toNat := by omega
    simp only [toUnsigned?, if_neg h]
    exact (Int.compare_eq_lt.mpr hlt).symm

theorem compare_of_integer? {a b : Number} {i j : Int} (ha : a.integer? = some i)
    (hb : b.integer? = some j) : a.compare b = some (Ord.compare i j) := by
  cases a with
  | signed a =>
    cases b with
    | signed b => cases ha; cases hb; rfl
    | unsigned b => cases ha; cases hb; rw [compare, compareSignedUnsigned_eq]
    | float x => cases hb
  | unsigned a =>
    cases b with
    | signed b =>
      cases ha
      cases hb
      rw [compare, compareSignedUnsigned_eq, Int.compare_swap]
    | unsigned b => cases ha; cases hb; rw [compare, compare_natCast]
    | float x => cases hb
  | float x => cases ha

theorem compare_eq_toDouble {a b : Number} (h : a.integer? = none ∨ b.integer? = none) :
    a.compare b = a.toDouble.compare b.toDouble := by
  cases a with
  | float x => cases b <;> rfl
  | signed n =>
    cases b with
    | float y => rfl
    | _ => simp [integer?] at h
  | unsigned n =>
    cases b with
    | float y => rfl
    | _ => simp [integer?] at h

theorem float_or_integers (a b : Number) :
    (a.integer? = none ∨ b.integer? = none) ∨
      ∃ i j, a.integer? = some i ∧ b.integer? = some j := by
  cases a <;> cases b <;> simp [integer?]

theorem compare_swap (a b : Number) : b.compare a = (a.compare b).map Ordering.swap := by
  obtain h | ⟨i, j, hi, hj⟩ := float_or_integers a b
  · rw [compare_eq_toDouble h, compare_eq_toDouble h.symm, Double.compare_swap]
  · rw [compare_of_integer? hi hj, compare_of_integer? hj hi, Option.map_some, Int.compare_swap]

def key (n : Number) : Int := n.toDouble.orderKey

theorem compare_eq_key {a b : Number} {o : Ordering} (h : a.compare b = some o)
    (hfloat : a.integer? = none ∨ b.integer? = none) : Ord.compare a.key b.key = o := by
  rw [compare_eq_toDouble hfloat] at h
  exact (Double.compare_eq_some h).2.2

theorem isNaN_of_integer? {n : Number} {i : Int} (h : n.integer? = some i) :
    n.toDouble.isNaN = false := by
  rw [toDouble_of_integer? h]
  exact Double.isNaN_ofInt (natAbs_le_of_integer? h)

theorem isNaN_of_compare {a b : Number} {o : Ordering} (h : a.compare b = some o) :
    a.toDouble.isNaN = false ∧ b.toDouble.isNaN = false := by
  obtain hfloat | ⟨i, j, hi, hj⟩ := float_or_integers a b
  · rw [compare_eq_toDouble hfloat] at h
    exact ⟨(Double.compare_eq_some h).1, (Double.compare_eq_some h).2.1⟩
  · exact ⟨isNaN_of_integer? hi, isNaN_of_integer? hj⟩

theorem key_mono {a b : Number} {i j : Int} (ha : a.integer? = some i) (hb : b.integer? = some j)
    (h : i ≤ j) : a.key ≤ b.key := by
  rw [key, key, toDouble_of_integer? ha, toDouble_of_integer? hb]
  exact Double.orderKey_ofInt_mono (natAbs_le_of_integer? ha) (natAbs_le_of_integer? hb) h

/-- Whether or not numbers compare exactly, their keys are never in the wrong order. -/
theorem key_le_of_compare {a b : Number} {o : Ordering} (h : a.compare b = some o)
    (ho : o.isLE) : a.key ≤ b.key := by
  obtain hfloat | ⟨i, j, hi, hj⟩ := float_or_integers a b
  · rw [← compare_eq_key h hfloat] at ho
    exact Int.isLE_compare.mp ho
  · rw [compare_of_integer? hi hj, Option.some.injEq] at h
    rw [← h] at ho
    exact key_mono hi hj (Int.isLE_compare.mp ho)

theorem lt_of_compare {a b : Number} {i j : Int} (h : a.compare b = some .lt)
    (ha : a.integer? = some i) (hb : b.integer? = some j) : i < j := by
  rw [compare_of_integer? ha hb, Option.some.injEq] at h
  exact Int.compare_eq_lt.mp h

structure Blurs (x a b : Number) : Prop where
  float : x.integer? = none
  first : x.compare a = some .eq
  second : x.compare b = some .eq
  different : ∃ i j, a.integer? = some i ∧ b.integer? = some j ∧ i ≠ j

/-- Three numbers of which one is a float that is equal to the two others, integers which differ. -/
def Ambiguous (a b c : Number) : Prop := Blurs a b c ∨ Blurs b a c ∨ Blurs c a b

theorem compare_of_key {a b : Number} (h : a.integer? = none ∨ b.integer? = none)
    (ha : a.toDouble.isNaN = false) (hb : b.toDouble.isNaN = false) :
    a.compare b = some (Ord.compare a.key b.key) := by
  rw [compare_eq_toDouble h, Double.compare_of_not_isNaN ha hb]
  rfl

theorem key_eq_of_compare {a b : Number} (h : a.compare b = some .eq) : a.key = b.key := by
  have hle := key_le_of_compare h rfl
  have hswap : b.compare a = some .eq := by rw [compare_swap, h]; rfl
  have hge := key_le_of_compare hswap rfl
  omega

theorem key_lt_of_compare {a b : Number} (h : a.compare b = some .lt)
    (hfloat : a.integer? = none ∨ b.integer? = none) : a.key < b.key :=
  Int.compare_eq_lt.mp (compare_eq_key h hfloat)

theorem blurs_of_key {x a b : Number} {i j : Int} (hx : x.integer? = none)
    (hnan : x.toDouble.isNaN = false) (ha : a.integer? = some i) (hb : b.integer? = some j)
    (hij : i ≠ j) (hxa : x.key = a.key) (hxb : x.key = b.key) : Blurs x a b where
  float := hx
  first := by
    rw [compare_of_key (.inl hx) hnan (isNaN_of_integer? ha), Int.compare_eq_eq.mpr hxa]
  second := by
    rw [compare_of_key (.inl hx) hnan (isNaN_of_integer? hb), Int.compare_eq_eq.mpr hxb]
  different := ⟨i, j, ha, hb, hij⟩

section Between

variable {a b c : Number} {o₁ o₂ : Ordering}

theorem compare_eq_then_of_float (hab : a.compare b = some o₁) (hbc : b.compare c = some o₂)
    (h₁ : o₁.isLE) (h₂ : o₂.isLE) (h : ¬ Ambiguous a b c)
    (hfloat : a.integer? = none ∨ c.integer? = none) : a.compare c = some (o₁.then o₂) := by
  have ha := (isNaN_of_compare hab).1
  have hc := (isNaN_of_compare hbc).2
  have hle₁ := key_le_of_compare hab h₁
  have hle₂ := key_le_of_compare hbc h₂
  rw [compare_of_key hfloat ha hc, Option.some.injEq]
  cases o₁ with
  | gt => cases h₁
  | lt =>
    refine Int.compare_eq_lt.mpr ?_
    obtain hstep | ⟨i, j, hi, hj⟩ := float_or_integers a b
    · have hlt := key_lt_of_compare hab hstep
      omega
    · -- rounding undoes a strict step between integers only if the float is equal to both
      by_contra hkey
      have hij : i < j := lt_of_compare hab hi hj
      have hc' : c.integer? = none := hfloat.resolve_left (by simp [hi])
      exact h (.inr (.inr (blurs_of_key hc' hc hi hj (by omega) (by omega) (by omega))))
  | eq =>
    have hkey₁ := key_eq_of_compare hab
    cases o₂ with
    | gt => cases h₂
    | eq =>
      have hkey₂ := key_eq_of_compare hbc
      exact Int.compare_eq_eq.mpr (by omega)
    | lt =>
      refine Int.compare_eq_lt.mpr ?_
      obtain hstep | ⟨j, k, hj, hk⟩ := float_or_integers b c
      · have hlt := key_lt_of_compare hbc hstep
        omega
      · by_contra hkey
        have hjk : j < k := lt_of_compare hbc hj hk
        have ha' : a.integer? = none := hfloat.resolve_right (by simp [hk])
        exact h (.inl (blurs_of_key ha' ha hj hk (by omega) (by omega) (by omega)))

theorem compare_eq_then_of_integers {i k : Int} (hab : a.compare b = some o₁)
    (hbc : b.compare c = some o₂) (h₁ : o₁.isLE) (h₂ : o₂.isLE) (h : ¬ Ambiguous a b c)
    (ha : a.integer? = some i) (hc : c.integer? = some k) :
    a.compare c = some (o₁.then o₂) := by
  rw [compare_of_integer? ha hc, Option.some.injEq]
  cases hb : b.integer? with
  | some j =>
    rw [compare_of_integer? ha hb, Option.some.injEq] at hab
    rw [compare_of_integer? hb hc, Option.some.injEq] at hbc
    subst hab hbc
    exact compare_eq_then h₁ h₂
  | none =>
    have hnan := (isNaN_of_compare hab).2
    have hle₁ := key_le_of_compare hab h₁
    have hle₂ := key_le_of_compare hbc h₂
    have hlt_of_key (hkey : a.key < c.key) : i < k := by
      by_contra hik
      have hle := key_mono hc ha (by omega)
      omega
    cases o₁ with
    | gt => cases h₁
    | lt =>
      have hlt := key_lt_of_compare hab (.inr hb)
      exact Int.compare_eq_lt.mpr (hlt_of_key (by omega))
    | eq =>
      have hkey₁ := key_eq_of_compare hab
      cases o₂ with
      | gt => cases h₂
      | lt =>
        have hlt := key_lt_of_compare hbc (.inl hb)
        exact Int.compare_eq_lt.mpr (hlt_of_key (by omega))
      | eq =>
        -- the float between two integers tells less than they do only if it is equal to both
        have hkey₂ := key_eq_of_compare hbc
        refine Int.compare_eq_eq.mpr ?_
        by_contra hik
        exact h (.inr (.inl (blurs_of_key hb hnan ha hc hik hkey₁.symm hkey₂)))

theorem compare_ne_eq_of_blurs {x : Number} (h : Blurs x a b) : a.compare b ≠ some .eq := by
  obtain ⟨-, -, -, i, j, hi, hj, hij⟩ := h
  rw [compare_of_integer? hi hj, ne_eq, Option.some.injEq, Int.compare_eq_eq]
  exact hij

theorem compare_ne_then_of_ambiguous (hab : a.compare b = some o₁)
    (hbc : b.compare c = some o₂) (h₁ : o₁.isLE) (h₂ : o₂.isLE) (h : Ambiguous a b c) :
    a.compare c ≠ some (o₁.then o₂) := by
  obtain h | h | h := h
  · obtain rfl : o₁ = .eq := Option.some.inj (hab.symm.trans h.first)
    have hstep := compare_ne_eq_of_blurs h
    rw [hbc] at hstep
    rw [h.second]
    exact hstep.symm
  · have hba : a.compare b = some .eq := by rw [compare_swap, h.first]; rfl
    obtain rfl : o₁ = .eq := Option.some.inj (hab.symm.trans hba)
    obtain rfl : o₂ = .eq := Option.some.inj (hbc.symm.trans h.second)
    exact compare_ne_eq_of_blurs h
  · have hac : a.compare c = some .eq := by rw [compare_swap, h.first]; rfl
    have hstep := compare_ne_eq_of_blurs h
    cases o₁ with
    | eq => exact absurd hab hstep
    | gt => cases h₁
    | lt => simp [hac]

/-- Two numbers compare as the steps between them do, exactly if the three are not ambiguous. -/
theorem compare_eq_then_iff (hab : a.compare b = some o₁) (hbc : b.compare c = some o₂)
    (h₁ : o₁.isLE) (h₂ : o₂.isLE) :
    a.compare c = some (o₁.then o₂) ↔ ¬ Ambiguous a b c := by
  refine ⟨fun hac h => compare_ne_then_of_ambiguous hab hbc h₁ h₂ h hac, fun h => ?_⟩
  obtain hfloat | ⟨i, k, hi, hk⟩ := float_or_integers a c
  · exact compare_eq_then_of_float hab hbc h₁ h₂ h hfloat
  · exact compare_eq_then_of_integers hab hbc h₁ h₂ h hi hk

end Between

end Number

end RecordQuery
