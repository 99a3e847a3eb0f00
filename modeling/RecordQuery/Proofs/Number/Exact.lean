import Mathlib.Algebra.Order.Field.Power
import Mathlib.Algebra.Order.Ring.WithTop
import Mathlib.Data.Rat.Cast.Order
import Mathlib.Tactic.NormNum
import Mathlib.Tactic.Ring
import RecordQuery.Proofs.Number.Order

/-!
# Exact values

The exact value of a number is an integer, the rational that a binary64 datum stands for, or an
infinity. All of them but the infinities are multiples of the least positive float, and counted in
that unit they are integers. Rounding an integer keeps it on its side of every float, so comparing
never puts two numbers in the wrong order; it may only take them for equal.
-/

namespace RecordQuery

namespace Double

/-! ### Magnitudes in units -/

/-- The significand of a magnitude, with the leading one that a normal number leaves out. -/
def bitsSignificand (m : Nat) : Nat :=
  if m / 2 ^ 52 = 0 then m % 2 ^ 52 else 2 ^ 52 + m % 2 ^ 52

def bitsUnits (m : Nat) : Nat := bitsSignificand m * 2 ^ (m / 2 ^ 52 - 1)

theorem units_eq (x : Double) :
    x.units = if x.isNegative then -(bitsUnits x.magnitude : Int) else bitsUnits x.magnitude := by
  simp only [units, significand, scale, exponentField, fractionField, Nat.shiftLeft_eq,
    Nat.shiftRight_eq_div_pow, Nat.one_mul, bitsUnits, bitsSignificand]

theorem bitsUnits_lt (m : Nat) : bitsUnits m < 2 ^ (52 + m / 2 ^ 52) := by
  have hfraction : m % 2 ^ 52 < 2 ^ 52 := Nat.mod_lt _ (by decide)
  rw [bitsUnits, bitsSignificand]
  by_cases he : m / 2 ^ 52 = 0
  · rw [if_pos he, he]
    simpa using hfraction
  · have hpow : 2 ^ 53 * 2 ^ (m / 2 ^ 52 - 1) = 2 ^ (52 + m / 2 ^ 52) := two_pow_mul (by omega)
    rw [if_neg he, ← hpow]
    exact Nat.mul_lt_mul_of_pos_right (by omega) (Nat.two_pow_pos _)

theorem le_bitsUnits {m : Nat} (he : m / 2 ^ 52 ≠ 0) : 2 ^ (51 + m / 2 ^ 52) ≤ bitsUnits m := by
  have hpow : 2 ^ 52 * 2 ^ (m / 2 ^ 52 - 1) = 2 ^ (51 + m / 2 ^ 52) := two_pow_mul (by omega)
  rw [bitsUnits, bitsSignificand, if_neg he, ← hpow]
  exact Nat.mul_le_mul_right _ (by omega)

theorem bitsUnits_lt_of_lt {m n : Nat} (h : m < n) : bitsUnits m < bitsUnits n := by
  by_cases he : m / 2 ^ 52 = n / 2 ^ 52
  · have hm : 2 ^ 52 * (m / 2 ^ 52) + m % 2 ^ 52 = m := Nat.div_add_mod m _
    have hn : 2 ^ 52 * (n / 2 ^ 52) + n % 2 ^ 52 = n := Nat.div_add_mod n _
    have hfraction : m % 2 ^ 52 < n % 2 ^ 52 := by
      rw [he] at hm
      omega
    rw [bitsUnits, bitsUnits, he]
    apply Nat.mul_lt_mul_of_pos_right _ (Nat.two_pow_pos _)
    rw [bitsSignificand, bitsSignificand, he]
    split <;> omega
  · -- the greater exponent decides whatever the fractions are
    have hle : m / 2 ^ 52 ≤ n / 2 ^ 52 := Nat.div_le_div_right h.le
    calc
      bitsUnits m < 2 ^ (52 + m / 2 ^ 52) := bitsUnits_lt m
      _ ≤ 2 ^ (51 + n / 2 ^ 52) := Nat.pow_le_pow_right (by decide) (by omega)
      _ ≤ bitsUnits n := le_bitsUnits (by omega)

theorem bitsUnits_lt_iff {m n : Nat} : bitsUnits m < bitsUnits n ↔ m < n := by
  constructor
  · intro h
    by_contra hnm
    obtain hlt | heq : n < m ∨ n = m := by omega
    · have hback := bitsUnits_lt_of_lt hlt
      omega
    · rw [heq] at h
      omega
  · exact bitsUnits_lt_of_lt

theorem bitsUnits_zero : bitsUnits 0 = 0 := by decide

theorem exists_bitsUnits_eq {m t : Nat} (h : t < m / 2 ^ 52) :
    ∃ k, bitsUnits m = k * 2 ^ t := by
  have hpow : 2 ^ (m / 2 ^ 52 - 1 - t) * 2 ^ t = 2 ^ (m / 2 ^ 52 - 1) := two_pow_mul (by omega)
  refine ⟨bitsSignificand m * 2 ^ (m / 2 ^ 52 - 1 - t), ?_⟩
  rw [bitsUnits, Nat.mul_assoc, hpow]

theorem units_lt_iff (x y : Double) : x.units < y.units ↔ x.orderKey < y.orderKey := by
  have hlt := @bitsUnits_lt_iff x.magnitude y.magnitude
  have hgt := @bitsUnits_lt_iff y.magnitude x.magnitude
  have hx := @bitsUnits_lt_iff 0 x.magnitude
  have hy := @bitsUnits_lt_iff 0 y.magnitude
  rw [bitsUnits_zero] at hx hy
  rw [units_eq, units_eq, orderKey, orderKey]
  cases x.isNegative <;> cases y.isNegative <;>
    simp only [if_true, if_false, Bool.false_eq_true] <;> omega

/-! ### Rounding in units -/

@[irreducible]
def unitExponent : Nat := 1074

theorem unitExponent_eq : unitExponent = 1074 := by rw [unitExponent]

def unitsOfOne : Nat := 2 ^ unitExponent

theorem unitsOfOne_pos : 0 < unitsOfOne := Nat.two_pow_pos _

section Rounding

variable {k m n : Nat}

/-- The leading bits of an integer are the integer shifted, or a rounded quotient. -/
theorem leadingBits_cases (n : Nat) : leadingBits n * 2 ^ n.log2 = n * 2 ^ 52 ∨
    ∃ d, 0 < d ∧ d * 2 ^ 52 = 2 ^ n.log2 ∧ leadingBits n = divNearestEven n d := by
  rw [leadingBits]
  by_cases htop : n.log2 ≤ 52
  · have hpow : 2 ^ (52 - n.log2) * 2 ^ n.log2 = 2 ^ 52 := two_pow_mul (by omega)
    rw [if_pos htop, Nat.shiftLeft_eq, Nat.mul_assoc, hpow]
    exact .inl rfl
  · rw [if_neg htop, Nat.shiftLeft_eq, Nat.one_mul]
    exact .inr ⟨2 ^ (n.log2 - 52), Nat.two_pow_pos _, two_pow_mul (by omega), rfl⟩

theorem le_leadingBits (h : k * 2 ^ n.log2 ≤ n * 2 ^ 52) : k ≤ leadingBits n := by
  obtain hshift | ⟨d, hd, hpow, hquotient⟩ := leadingBits_cases n
  · rw [← hshift] at h
    exact Nat.le_of_mul_le_mul_right h (Nat.two_pow_pos _)
  · rw [← hpow, ← Nat.mul_assoc] at h
    rw [hquotient]
    exact le_divNearestEven hd (Nat.le_of_mul_le_mul_right h (Nat.two_pow_pos _))

theorem leadingBits_le (h : n * 2 ^ 52 ≤ k * 2 ^ n.log2) : leadingBits n ≤ k := by
  obtain hshift | ⟨d, hd, hpow, hquotient⟩ := leadingBits_cases n
  · rw [← hshift] at h
    exact Nat.le_of_mul_le_mul_right h (Nat.two_pow_pos _)
  · rw [← hpow, ← Nat.mul_assoc] at h
    rw [hquotient]
    exact divNearestEven_le hd (Nat.le_of_mul_le_mul_right h (Nat.two_pow_pos _))

theorem bitsUnits_nearestBits (hn : n ≠ 0) :
    bitsUnits (nearestBits n) = leadingBits n * 2 ^ (n.log2 + 1022) := by
  obtain ⟨hlow, hhigh⟩ := leadingBits_bounds hn
  rw [nearestBits_eq hn, bitsUnits, bitsSignificand]
  by_cases hcarry : leadingBits n = 2 ^ 53
  · have hexponent : ((n.log2 + 1022) * 2 ^ 52 + leadingBits n) / 2 ^ 52 = n.log2 + 1024 := by omega
    have hfraction : ((n.log2 + 1022) * 2 ^ 52 + leadingBits n) % 2 ^ 52 = 0 := by omega
    rw [hexponent, hfraction, if_neg (by omega), hcarry]
    have hleft : 2 ^ 52 * 2 ^ (n.log2 + 1024 - 1) = 2 ^ (n.log2 + 1075) := two_pow_mul (by omega)
    have hright : 2 ^ 53 * 2 ^ (n.log2 + 1022) = 2 ^ (n.log2 + 1075) := two_pow_mul (by omega)
    rw [hright]
    exact hleft
  · have hexponent : ((n.log2 + 1022) * 2 ^ 52 + leadingBits n) / 2 ^ 52 = n.log2 + 1023 := by omega
    have hfraction : ((n.log2 + 1022) * 2 ^ 52 + leadingBits n) % 2 ^ 52 =
        leadingBits n - 2 ^ 52 := by omega
    have hwhole : 2 ^ 52 + (leadingBits n - 2 ^ 52) = leadingBits n := by omega
    rw [hexponent, hfraction, if_neg (by omega), hwhole]
    rfl

theorem two_pow_mul_unitsOfOne : 2 ^ (n.log2 + 1022) * 2 ^ 52 = 2 ^ n.log2 * unitsOfOne := by
  have hexponent := unitExponent_eq
  have hpow : 2 ^ (n.log2 + 1022) * 2 ^ 52 = 2 ^ (n.log2 + unitExponent) := two_pow_mul (by omega)
  rw [hpow, unitsOfOne, Nat.pow_add]

theorem mul_two_pow_le_iff :
    k * 2 ^ (n.log2 + 1022) ≤ n * unitsOfOne ↔ k * 2 ^ n.log2 ≤ n * 2 ^ 52 := by
  rw [← Nat.mul_le_mul_right_iff (Nat.two_pow_pos 52), Nat.mul_assoc, two_pow_mul_unitsOfOne,
    ← Nat.mul_assoc, Nat.mul_right_comm n, Nat.mul_le_mul_right_iff unitsOfOne_pos]

theorem le_mul_two_pow_iff :
    n * unitsOfOne ≤ k * 2 ^ (n.log2 + 1022) ↔ n * 2 ^ 52 ≤ k * 2 ^ n.log2 := by
  rw [← Nat.mul_le_mul_right_iff (Nat.two_pow_pos 52), Nat.mul_assoc k, two_pow_mul_unitsOfOne,
    ← Nat.mul_assoc k, Nat.mul_right_comm n, Nat.mul_le_mul_right_iff unitsOfOne_pos]

theorem le_nearestBits (h : bitsUnits m ≤ n * unitsOfOne) : m ≤ nearestBits n := by
  by_cases hn : n = 0
  · have hzero : ¬ 0 < m := by
      rw [← bitsUnits_lt_iff, bitsUnits_zero]
      simp only [hn] at h
      omega
    omega
  have hrounded := bitsUnits_nearestBits hn
  have hunits : bitsUnits m ≤ bitsUnits (nearestBits n) := by
    rw [hrounded]
    by_cases he : n.log2 + 1022 < m / 2 ^ 52
    · obtain ⟨k, hk⟩ := exists_bitsUnits_eq he
      rw [hk] at h ⊢
      exact Nat.mul_le_mul_right _ (le_leadingBits (mul_two_pow_le_iff.mp h))
    · have hlow := (leadingBits_bounds hn).1
      calc
        bitsUnits m ≤ 2 ^ (52 + m / 2 ^ 52) := (bitsUnits_lt m).le
        _ ≤ 2 ^ (52 + (n.log2 + 1022)) := Nat.pow_le_pow_right (by decide) (by omega)
        _ = 2 ^ 52 * 2 ^ (n.log2 + 1022) := Nat.pow_add _ _ _
        _ ≤ leadingBits n * 2 ^ (n.log2 + 1022) := Nat.mul_le_mul_right _ hlow
  have hnot : ¬ nearestBits n < m := by
    rw [← bitsUnits_lt_iff]
    omega
  omega

theorem nearestBits_le (h : n * unitsOfOne ≤ bitsUnits m) : nearestBits n ≤ m := by
  by_cases hn : n = 0
  · simp [hn, nearestBits]
  have hrounded := bitsUnits_nearestBits hn
  have hexponent := unitExponent_eq
  have he : n.log2 + 1022 < m / 2 ^ 52 := by
    -- a float with a smaller exponent lies below the leading bit of the integer
    by_contra he
    have hbelow : bitsUnits m < n * unitsOfOne := by
      calc
        bitsUnits m < 2 ^ (52 + m / 2 ^ 52) := bitsUnits_lt m
        _ ≤ 2 ^ (n.log2 + unitExponent) := Nat.pow_le_pow_right (by decide) (by omega)
        _ = 2 ^ n.log2 * unitsOfOne := Nat.pow_add _ _ _
        _ ≤ n * unitsOfOne := Nat.mul_le_mul_right _ (Nat.log2_self_le hn)
    omega
  obtain ⟨k, hk⟩ := exists_bitsUnits_eq he
  have hunits : bitsUnits (nearestBits n) ≤ bitsUnits m := by
    rw [hrounded, hk]
    rw [hk] at h
    exact Nat.mul_le_mul_right _ (leadingBits_le (le_mul_two_pow_iff.mp h))
  have hnot : ¬ m < nearestBits n := by
    rw [← bitsUnits_lt_iff]
    omega
  omega

theorem bitsUnits_nearestBits_of_le (h : n ≤ 2 ^ 53) :
    bitsUnits (nearestBits n) = n * unitsOfOne := by
  by_cases hn : n = 0
  · simp [hn, nearestBits, bitsUnits_zero]
  by_cases hlast : n = 2 ^ 53
  · rw [hlast, unitsOfOne, unitExponent_eq]
    decide +kernel
  have htop : n.log2 ≤ 52 := by
    have hlt : n.log2 < 53 := (Nat.log2_lt hn).mpr (by omega)
    omega
  have hexponent := unitExponent_eq
  have hpow : 2 ^ (52 - n.log2) * 2 ^ (n.log2 + 1022) = unitsOfOne := two_pow_mul (by omega)
  rw [bitsUnits_nearestBits hn, leadingBits, if_pos htop, Nat.shiftLeft_eq, Nat.mul_assoc, hpow]

end Rounding

theorem orderKey_ofInt {i : Int} (h : i.natAbs ≤ 2 ^ 64) :
    (ofInt i).orderKey =
      if i < 0 then -(nearestBits i.natAbs : Int) else nearestBits i.natAbs := by
  simp only [orderKey, isNegative_ofInt h, magnitude_ofInt h, decide_eq_true_eq]

theorem units_ofInt {i : Int} (h : i.natAbs ≤ 2 ^ 53) : (ofInt i).units = i * unitsOfOne := by
  have hbound : i.natAbs ≤ 2 ^ 64 := by omega
  rw [units_eq, isNegative_ofInt hbound, magnitude_ofInt hbound, bitsUnits_nearestBits_of_le h]
  simp only [decide_eq_true_eq, Int.natCast_mul]
  by_cases hneg : i < 0
  · have habs : (i.natAbs : Int) = -i := by omega
    rw [if_pos hneg, habs, Int.neg_mul, Int.neg_neg]
  · have habs : (i.natAbs : Int) = i := by omega
    rw [if_neg hneg, habs]

theorem mul_unitsOfOne_eq (i : Int) : i * (unitsOfOne : Int) =
    if i < 0 then -((i.natAbs * unitsOfOne : Nat) : Int) else (i.natAbs * unitsOfOne : Nat) := by
  by_cases hneg : i < 0
  · have habs : (i.natAbs : Int) = -i := by omega
    rw [if_pos hneg, Int.natCast_mul, habs, Int.neg_mul, Int.neg_neg]
  · have habs : (i.natAbs : Int) = i := by omega
    rw [if_neg hneg, Int.natCast_mul, habs]

theorem orderKey_le_ofInt {x : Double} {i : Int} (hi : i.natAbs ≤ 2 ^ 64)
    (h : x.units ≤ i * unitsOfOne) : x.orderKey ≤ (ofInt i).orderKey := by
  have hle := @le_nearestBits x.magnitude i.natAbs
  have hge := @nearestBits_le x.magnitude i.natAbs
  have hpos : i < 0 → 0 < i.natAbs * unitsOfOne := fun hneg =>
    Nat.mul_pos (by omega) unitsOfOne_pos
  rw [units_eq, mul_unitsOfOne_eq] at h
  rw [orderKey_ofInt hi, orderKey]
  by_cases hx : x.isNegative = true <;> by_cases hneg : i < 0 <;>
    simp only [hx, hneg, if_true, if_false, Bool.false_eq_true] at h ⊢ <;> omega

theorem ofInt_le_orderKey {x : Double} {i : Int} (hi : i.natAbs ≤ 2 ^ 64)
    (h : i * unitsOfOne ≤ x.units) : (ofInt i).orderKey ≤ x.orderKey := by
  have hle := @le_nearestBits x.magnitude i.natAbs
  have hge := @nearestBits_le x.magnitude i.natAbs
  have hzero := @bitsUnits_lt_iff 0 x.magnitude
  rw [bitsUnits_zero] at hzero
  rw [units_eq, mul_unitsOfOne_eq] at h
  rw [orderKey_ofInt hi, orderKey]
  by_cases hx : x.isNegative = true <;> by_cases hneg : i < 0 <;>
    simp only [hx, hneg, if_true, if_false, Bool.false_eq_true] at h ⊢ <;> omega

/-! ### Values -/

/-- The rational that the bits of a finite number stand for. -/
def value (x : Double) : ℚ :=
  (if x.isNegative then -1 else 1) *
    if x.exponentField = 0 then x.fractionField / 2 ^ 52 * (2 : ℚ) ^ (-1022 : ℤ)
    else (1 + x.fractionField / 2 ^ 52) * (2 : ℚ) ^ ((x.exponentField : ℤ) - 1023)

theorem value_mul_unitsOfOne (x : Double) : x.value * unitsOfOne = x.units := by
  have hexponent := unitExponent_eq
  have hone : (unitsOfOne : ℚ) = 2 ^ (unitExponent : ℤ) := by
    rw [unitsOfOne, Nat.cast_pow, zpow_natCast, Nat.cast_ofNat]
  have hpow (e : ℤ) : (2 : ℚ) ^ e * unitsOfOne = 2 ^ (e + 1074) := by
    rw [hone, ← zpow_add₀ two_ne_zero, hexponent]
    rfl
  have hunits : (x.units : ℚ) =
      (if x.isNegative then -1 else 1) * (x.significand * (2 : ℚ) ^ (x.scale : ℤ)) := by
    rw [units, zpow_natCast]
    cases x.isNegative <;> simp [Nat.shiftLeft_eq]
  rw [hunits, value, mul_assoc]
  congr 1
  rw [significand, scale]
  by_cases he : x.exponentField = 0
  · have hscale : (-1022 : ℤ) + 1074 = 52 := by norm_num
    rw [if_pos he, if_pos he, mul_assoc, hpow, hscale, he]
    norm_num
  · have hscale : ((x.exponentField : ℤ) - 1023) + 1074 = ((x.exponentField - 1 : ℕ) : ℤ) + 52 := by
      omega
    rw [if_neg he, if_neg he, mul_assoc, hpow, hscale, zpow_add₀ two_ne_zero]
    simp only [Nat.shiftLeft_eq]
    push_cast
    ring

/-- The exact value of a number: a rational or an infinity, and none for NaN. -/
def exactValue? (x : Double) : Option (WithBot (WithTop ℚ)) :=
  if x.isNaN then none
  else if x.isInfinite then some (if x.isNegative then ⊥ else ⊤)
  else some (x.value : WithTop ℚ)

end Double

namespace Number

def isNaN : Number → Bool
  | .float x => x.isNaN
  | _ => false

def exactValue? : Number → Option (WithBot (WithTop ℚ))
  | .signed n => some ((n.toInt : ℚ) : WithTop ℚ)
  | .unsigned n => some ((n.toNat : ℚ) : WithTop ℚ)
  | .float x => x.exactValue?

def units : Number → Int
  | .signed n => n.toInt * Double.unitsOfOne
  | .unsigned n => n.toNat * Double.unitsOfOne
  | .float x => x.units

def infiniteUnits : Nat := Double.bitsUnits Double.infinityBits

theorem units_of_integer? {n : Number} {i : Int} (h : n.integer? = some i) :
    n.units = i * Double.unitsOfOne := by
  cases n with
  | float x => cases h
  | _ => cases h; rfl

theorem exactValue?_of_integer? {n : Number} {i : Int} (h : n.integer? = some i) :
    n.exactValue? = some ((i : ℚ) : WithTop ℚ) := by
  cases n with
  | signed n => cases h; rfl
  | unsigned n => cases h; simp [exactValue?]
  | float x => cases h

theorem exists_float_of_integer? {n : Number} (h : n.integer? = none) : ∃ x, n = .float x := by
  cases n with
  | float x => exact ⟨x, rfl⟩
  | _ => cases h

theorem mul_unitsOfOne_lt {n : Nat} (h : n ≤ 2 ^ 64) : n * Double.unitsOfOne < infiniteUnits := by
  have hbits := Double.nearestBits_lt h
  by_contra hle
  have hinf := Double.le_nearestBits (Nat.le_of_not_lt hle)
  omega

inductive Measures : WithBot (WithTop ℚ) → Int → Prop where
  | rational {q : ℚ} {k : Int} (hq : q * Double.unitsOfOne = k) (hlow : -(infiniteUnits : Int) < k)
    (hhigh : k < infiniteUnits) : Measures (q : WithTop ℚ) k
  | top : Measures ⊤ infiniteUnits
  | bot : Measures ⊥ (-(infiniteUnits : Int))

theorem measures_of_integer? {n : Number} {i : Int} (h : n.integer? = some i) :
    Measures ((i : ℚ) : WithTop ℚ) n.units := by
  have hlt := mul_unitsOfOne_lt (natAbs_le_of_integer? h)
  have hunits := Double.mul_unitsOfOne_eq i
  rw [units_of_integer? h]
  refine .rational (by push_cast; rfl) ?_ ?_
  · split at hunits <;> omega
  · split at hunits <;> omega

theorem measures_float {x : Double} {u : WithBot (WithTop ℚ)} (h : x.exactValue? = some u) :
    Measures u x.units := by
  rw [Double.exactValue?] at h
  split at h
  · cases h
  rename_i hnan
  have hunits := Double.units_eq x
  split at h
  · rename_i hinf
    have hmagnitude : x.magnitude = Double.infinityBits := of_decide_eq_true hinf
    rw [hmagnitude] at hunits
    cases h
    cases hneg : x.isNegative with
    | true =>
      rw [hneg] at hunits
      rw [hunits]
      exact .bot
    | false =>
      rw [hneg] at hunits
      rw [hunits]
      exact .top
  · rename_i hinf
    have hne : x.magnitude ≠ Double.infinityBits := fun hm => hinf (decide_eq_true hm)
    have hle : ¬ Double.infinityBits < x.magnitude := fun hm => hnan (decide_eq_true hm)
    have hlt : Double.bitsUnits x.magnitude < infiniteUnits :=
      Double.bitsUnits_lt_of_lt (by omega)
    cases h
    refine .rational (Double.value_mul_unitsOfOne x) ?_ ?_
    · split at hunits <;> omega
    · split at hunits <;> omega

theorem measures_exactValue? {n : Number} {u : WithBot (WithTop ℚ)} (h : n.exactValue? = some u) :
    Measures u n.units := by
  cases hi : n.integer? with
  | some i =>
    rw [exactValue?_of_integer? hi] at h
    cases h
    exact measures_of_integer? hi
  | none =>
    obtain ⟨x, rfl⟩ := exists_float_of_integer? hi
    exact measures_float h

theorem Measures.lt_iff {u v : WithBot (WithTop ℚ)} {k l : Int} (hu : Measures u k)
    (hv : Measures v l) : u < v ↔ k < l := by
  have hpos : (0 : ℚ) < Double.unitsOfOne := Nat.cast_pos.mpr Double.unitsOfOne_pos
  cases hu with
  | rational hq hlow hhigh =>
    cases hv with
    | rational hr _ _ =>
      rw [WithBot.coe_lt_coe, WithTop.coe_lt_coe, ← mul_lt_mul_iff_left₀ hpos, hq, hr,
        Int.cast_lt]
    | top => exact iff_of_true (WithBot.coe_lt_coe.mpr (WithTop.coe_lt_top _)) hhigh
    | bot => exact iff_of_false (not_lt_bot) (by omega)
  | top =>
    refine iff_of_false not_top_lt ?_
    cases hv <;> omega
  | bot =>
    cases hv with
    | rational _ hlow _ => exact iff_of_true (WithBot.bot_lt_coe _) hlow
    | top =>
      refine iff_of_true bot_lt_top ?_
      have hinf := mul_unitsOfOne_lt (Nat.zero_le _)
      omega
    | bot => exact iff_of_false (lt_irrefl _) (by omega)

/-! ### Comparing and exact values -/

theorem key_le_of_units {a b : Number} (h : a.units ≤ b.units) : a.key ≤ b.key := by
  have hpos : (0 : Int) < Double.unitsOfOne := Int.natCast_pos.mpr Double.unitsOfOne_pos
  cases ha : a.integer? with
  | some i =>
    rw [units_of_integer? ha] at h
    cases hb : b.integer? with
    | some j =>
      rw [units_of_integer? hb] at h
      exact key_mono ha hb (Int.le_of_mul_le_mul_right h hpos)
    | none =>
      obtain ⟨y, rfl⟩ := exists_float_of_integer? hb
      rw [key, toDouble_of_integer? ha]
      exact Double.ofInt_le_orderKey (natAbs_le_of_integer? ha) h
  | none =>
    obtain ⟨x, rfl⟩ := exists_float_of_integer? ha
    cases hb : b.integer? with
    | some j =>
      rw [units_of_integer? hb] at h
      rw [key, key, toDouble_of_integer? hb]
      exact Double.orderKey_le_ofInt (natAbs_le_of_integer? hb) h
    | none =>
      obtain ⟨y, rfl⟩ := exists_float_of_integer? hb
      have hlt := Double.units_lt_iff y x
      change x.orderKey ≤ y.orderKey
      change x.units ≤ y.units at h
      omega

/-- Numbers that are compared as they are: two integers, two floats, or a float and an integer
that is a float itself. -/
def ComparedExactly (a b : Number) : Prop :=
  match a.integer?, b.integer? with
  | some _, some _ => True
  | none, none => True
  | some i, none => i.natAbs ≤ 2 ^ 53
  | none, some j => j.natAbs ≤ 2 ^ 53

theorem cmp_units_of_integers {a b : Number} {i j : Int} (ha : a.integer? = some i)
    (hb : b.integer? = some j) : a.compare b = some (cmp a.units b.units) := by
  have hpos : (0 : Int) < Double.unitsOfOne := Int.natCast_pos.mpr Double.unitsOfOne_pos
  rw [compare_of_integer? ha hb, units_of_integer? ha, units_of_integer? hb,
    cmp_mul_pos_right hpos, cmp_eq_compare]

theorem isNaN_toDouble (n : Number) : n.toDouble.isNaN = n.isNaN := by
  cases hi : n.integer? with
  | some i =>
    rw [isNaN_of_integer? hi]
    cases n with
    | float x => cases hi
    | _ => rfl
  | none =>
    obtain ⟨x, rfl⟩ := exists_float_of_integer? hi
    rfl

theorem isNaN_of_exactValue? {n : Number} {u : WithBot (WithTop ℚ)} (h : n.exactValue? = some u) :
    n.isNaN = false := by
  cases n with
  | float x =>
    rw [exactValue?, Double.exactValue?] at h
    cases hx : x.isNaN with
    | true => simp [hx] at h
    | false => exact hx
  | _ => rfl

theorem compare_eq_none_iff (a b : Number) :
    a.compare b = none ↔ a.isNaN = true ∨ b.isNaN = true := by
  rw [← isNaN_toDouble, ← isNaN_toDouble]
  obtain h | ⟨i, j, hi, hj⟩ := float_or_integers a b
  · rw [compare_eq_toDouble h, Double.compare]
    cases a.toDouble.isNaN <;> cases b.toDouble.isNaN <;> simp
  · simp [compare_of_integer? hi hj, isNaN_of_integer? hi, isNaN_of_integer? hj]

section Exact

variable {a b : Number} {u v : WithBot (WithTop ℚ)}

theorem cmp_exact (hu : a.exactValue? = some u) (hv : b.exactValue? = some v) :
    cmp u v = cmp a.units b.units := by
  simp only [cmp, cmpUsing, (measures_exactValue? hu).lt_iff (measures_exactValue? hv),
    (measures_exactValue? hv).lt_iff (measures_exactValue? hu)]

theorem compare_of_exactValue? (hu : a.exactValue? = some u) (hv : b.exactValue? = some v) :
    a.compare b = some (cmp a.units b.units) ∨ a.compare b = some (cmp a.key b.key) := by
  obtain h | ⟨i, j, hi, hj⟩ := float_or_integers a b
  · have ha := (isNaN_toDouble a).trans (isNaN_of_exactValue? hu)
    have hb := (isNaN_toDouble b).trans (isNaN_of_exactValue? hv)
    rw [compare_of_key h ha hb, cmp_eq_compare a.key b.key]
    exact .inr rfl
  · exact .inl (cmp_units_of_integers hi hj)

theorem compare_of_exact_eq (hu : a.exactValue? = some u) (hv : b.exactValue? = some v)
    (h : u = v) : a.compare b = some .eq := by
  have hcmp := cmp_exact hu hv
  rw [h, cmp_self_eq_eq, eq_comm, cmp_eq_eq_iff] at hcmp
  have hle := key_le_of_units hcmp.le
  have hge := key_le_of_units hcmp.ge
  obtain hcompare | hcompare := compare_of_exactValue? hu hv
  · rw [hcompare, (cmp_eq_eq_iff _ _).mpr hcmp]
  · rw [hcompare, (cmp_eq_eq_iff _ _).mpr (le_antisymm hle hge)]

theorem exact_lt_of_compare (hu : a.exactValue? = some u) (hv : b.exactValue? = some v)
    (h : a.compare b = some .lt) : u < v := by
  rw [(measures_exactValue? hu).lt_iff (measures_exactValue? hv)]
  by_contra hnot
  have hle := key_le_of_units (Int.not_lt.mp hnot)
  obtain hcompare | hcompare := compare_of_exactValue? hu hv
  · rw [h, Option.some.injEq, eq_comm, cmp_eq_lt_iff] at hcompare
    exact hnot hcompare
  · rw [h, Option.some.injEq, eq_comm, cmp_eq_lt_iff] at hcompare
    omega

theorem units_toDouble_of_le {n : Number} {i : Int} (h : n.integer? = some i)
    (hi : i.natAbs ≤ 2 ^ 53) : n.toDouble.units = n.units := by
  rw [toDouble_of_integer? h, units_of_integer? h, Double.units_ofInt hi]

theorem cmp_key_of_units (ha : a.toDouble.units = a.units) (hb : b.toDouble.units = b.units) :
    cmp a.key b.key = cmp a.units b.units := by
  rw [← ha, ← hb]
  simp only [cmp, cmpUsing, key, ← Double.units_lt_iff]

theorem units_of_comparedExactly (h : ComparedExactly a b) :
    (∃ i j, a.integer? = some i ∧ b.integer? = some j) ∨
      a.toDouble.units = a.units ∧ b.toDouble.units = b.units := by
  cases ha : a.integer? with
  | some i =>
    cases hb : b.integer? with
    | some j => exact .inl ⟨i, j, rfl, rfl⟩
    | none =>
      rw [ComparedExactly, ha, hb] at h
      obtain ⟨y, rfl⟩ := exists_float_of_integer? hb
      exact .inr ⟨units_toDouble_of_le ha h, rfl⟩
  | none =>
    obtain ⟨x, rfl⟩ := exists_float_of_integer? ha
    cases hb : b.integer? with
    | some j =>
      rw [ComparedExactly, ha, hb] at h
      exact .inr ⟨rfl, units_toDouble_of_le hb h⟩
    | none =>
      obtain ⟨y, rfl⟩ := exists_float_of_integer? hb
      exact .inr ⟨rfl, rfl⟩

theorem compare_of_comparedExactly (hu : a.exactValue? = some u) (hv : b.exactValue? = some v)
    (h : ComparedExactly a b) : a.compare b = some (cmp u v) := by
  rw [cmp_exact hu hv]
  obtain ⟨i, j, hi, hj⟩ | ⟨ha, hb⟩ := units_of_comparedExactly h
  · exact cmp_units_of_integers hi hj
  · obtain hcompare | hcompare := compare_of_exactValue? hu hv
    · exact hcompare
    · rw [hcompare, cmp_key_of_units ha hb]

end Exact

/-- Numbers fail to compare only for NaN. Numbers of one exact value are equal; a number that is
less or greater is so exactly; and where no rounding takes place, the order is the exact one. -/
theorem compare_sound_for_exact (a b : Number) :
    (a.compare b = none ↔ a.isNaN = true ∨ b.isNaN = true) ∧
    ∀ u v, a.exactValue? = some u → b.exactValue? = some v →
      (u = v → a.compare b = some .eq) ∧
      (a.compare b = some .lt → u < v) ∧ (a.compare b = some .gt → v < u) ∧
      (ComparedExactly a b → a.compare b = some (cmp u v)) := by
  refine ⟨compare_eq_none_iff a b, fun u v hu hv => ⟨?_, ?_, ?_, ?_⟩⟩
  · exact compare_of_exact_eq hu hv
  · exact exact_lt_of_compare hu hv
  · intro h
    have hswap : b.compare a = some .lt := by rw [compare_swap, h]; rfl
    exact exact_lt_of_compare hv hu hswap
  · exact compare_of_comparedExactly hu hv

theorem compare_sound_for_exact_large :
    let a : Number := .signed (-3)
    let b : Number := .float ⟨0xC008000000000000⟩
    let c : Number := .unsigned 9007199254740993
    let d : Number := .float ⟨0x4340000000000001⟩
    let three : WithBot (WithTop ℚ) := ((-3 : ℚ) : WithTop ℚ)
    let odd : WithBot (WithTop ℚ) := ((9007199254740993 : ℚ) : WithTop ℚ)
    let even : WithBot (WithTop ℚ) := ((9007199254740994 : ℚ) : WithTop ℚ)
    (a.exactValue? = some three ∧ b.exactValue? = some three ∧ a.compare b = some .eq) ∧
      (ComparedExactly a b ∧ a.compare b = some (cmp three three)) ∧
      (c.exactValue? = some odd ∧ d.exactValue? = some even) ∧
      (c.compare d = some .lt ∧ d.compare c = some .gt) ∧ odd < even := by
  intro a b c d three odd even
  have ha : a.exactValue? = some three := by
    have hinteger : a.integer? = some (-3) := by decide
    rw [exactValue?_of_integer? hinteger]
    norm_num [three]
  have hb : b.exactValue? = some three := by
    have hvalue : Double.value ⟨0xC008000000000000⟩ = -3 := by
      have hneg : Double.isNegative ⟨0xC008000000000000⟩ = true := by decide
      have hexponent : Double.exponentField ⟨0xC008000000000000⟩ = 1024 := by decide
      have hfraction : Double.fractionField ⟨0xC008000000000000⟩ = 2 ^ 51 := by decide
      norm_num [Double.value, hneg, hexponent, hfraction]
    change Double.exactValue? ⟨0xC008000000000000⟩ = some three
    rw [Double.exactValue?, if_neg (by decide), if_neg (by decide), hvalue]
  have hc : c.exactValue? = some odd := by
    have hinteger : c.integer? = some 9007199254740993 := by decide
    rw [exactValue?_of_integer? hinteger]
    norm_num [odd]
  have hd : d.exactValue? = some even := by
    have hvalue : Double.value ⟨0x4340000000000001⟩ = 9007199254740994 := by
      have hneg : Double.isNegative ⟨0x4340000000000001⟩ = false := by decide
      have hexponent : Double.exponentField ⟨0x4340000000000001⟩ = 1076 := by decide
      have hfraction : Double.fractionField ⟨0x4340000000000001⟩ = 1 := by decide
      norm_num [Double.value, hneg, hexponent, hfraction]
    change Double.exactValue? ⟨0x4340000000000001⟩ = some even
    rw [Double.exactValue?, if_neg (by decide), if_neg (by decide), hvalue]
  have hexactly : ComparedExactly a b := by
    change (-3 : Int).natAbs ≤ 2 ^ 53
    decide
  have hless : c.compare d = some .lt := by decide
  have hgreater : d.compare c = some .gt := by decide
  obtain ⟨-, hab⟩ := compare_sound_for_exact a b
  obtain ⟨-, hcd⟩ := compare_sound_for_exact c d
  obtain ⟨hequal, -, -, horder⟩ := hab three three ha hb
  exact ⟨⟨ha, hb, hequal rfl⟩, ⟨hexactly, horder hexactly⟩, ⟨hc, hd⟩, ⟨hless, hgreater⟩,
    (hcd odd even hc hd).2.1 hless⟩

end Number

end RecordQuery
