import Mathlib.Algebra.Order.Ring.Nat
import Mathlib.Data.Nat.Log
import RecordQuery.Number.Basic

/-!
# Rounding integers to floats

A greater integer is never rounded to a smaller float. Two integers with the same leading bit are
rounded as quotients by the same power of two; otherwise the exponents decide, also where the
smaller integer is rounded up to a power of two.
-/

namespace RecordQuery

theorem le_divNearestEven {k n d : Nat} (hd : 0 < d) (h : k * d ≤ n) : k ≤ divNearestEven n d := by
  have hq : k ≤ n / d := (Nat.le_div_iff_mul_le hd).mpr h
  simp only [divNearestEven]
  split <;> omega

theorem divNearestEven_le {k n d : Nat} (hd : 0 < d) (h : n ≤ k * d) : divNearestEven n d ≤ k := by
  have hdiv : d * (n / d) + n % d = n := Nat.div_add_mod n d
  have hq : n / d ≤ k := Nat.div_le_of_le_mul (by rwa [Nat.mul_comm] at h)
  simp only [divNearestEven]
  split
  · exact hq
  · -- a quotient that is rounded up leaves a remainder, so it lies below `k`
    rename_i hup
    by_contra hk
    have hqk : n / d = k := by omega
    rw [hqk, Nat.mul_comm] at hdiv
    omega

theorem divNearestEven_mono {m n : Nat} (d : Nat) (h : m ≤ n) :
    divNearestEven m d ≤ divNearestEven n d := by
  have hq : m / d ≤ n / d := Nat.div_le_div_right h
  have hm : d * (m / d) + m % d = m := Nat.div_add_mod m d
  have hn : d * (n / d) + n % d = n := Nat.div_add_mod n d
  simp only [divNearestEven]
  by_cases heq : m / d = n / d
  · rw [heq] at hm ⊢
    have hr : m % d ≤ n % d := by omega
    split <;> split <;> omega
  · split <;> split <;> omega

namespace Double

/-- The 53 leading bits of an integer, rounded. They may carry into one bit more. -/
def leadingBits (n : Nat) : Nat :=
  if n.log2 ≤ 52 then n <<< (52 - n.log2) else divNearestEven n (1 <<< (n.log2 - 52))

theorem nearestBits_eq {n : Nat} (h : n ≠ 0) :
    nearestBits n = (n.log2 + 1022) * 2 ^ 52 + leadingBits n := by
  simp only [nearestBits, if_neg h, leadingBits, Nat.shiftLeft_eq]

theorem two_pow_mul {a b c : Nat} (h : a + b = c) : 2 ^ a * 2 ^ b = 2 ^ c := by
  rw [← Nat.pow_add, h]

theorem leadingBits_bounds {n : Nat} (h : n ≠ 0) :
    2 ^ 52 ≤ leadingBits n ∧ leadingBits n ≤ 2 ^ 53 := by
  have hlow : 2 ^ n.log2 ≤ n := Nat.log2_self_le h
  have hhigh : n < 2 ^ (n.log2 + 1) := Nat.lt_log2_self
  simp only [leadingBits, Nat.shiftLeft_eq, Nat.one_mul]
  split
  · rename_i htop
    have hexp : 2 ^ n.log2 * 2 ^ (52 - n.log2) = 2 ^ 52 := two_pow_mul (by omega)
    have hexp' : 2 ^ (n.log2 + 1) * 2 ^ (52 - n.log2) = 2 ^ 53 := two_pow_mul (by omega)
    exact ⟨hexp ▸ Nat.mul_le_mul_right _ hlow, hexp' ▸ Nat.mul_le_mul_right _ hhigh.le⟩
  · rename_i htop
    have hpos : 0 < 2 ^ (n.log2 - 52) := Nat.two_pow_pos _
    have hexp : 2 ^ 52 * 2 ^ (n.log2 - 52) = 2 ^ n.log2 := two_pow_mul (by omega)
    have hexp' : 2 ^ 53 * 2 ^ (n.log2 - 52) = 2 ^ (n.log2 + 1) := two_pow_mul (by omega)
    exact ⟨le_divNearestEven hpos (by rwa [hexp]), divNearestEven_le hpos (by rw [hexp']; omega)⟩

theorem leadingBits_mono {m n : Nat} (htop : m.log2 = n.log2) (h : m ≤ n) :
    leadingBits m ≤ leadingBits n := by
  simp only [leadingBits, htop, Nat.shiftLeft_eq]
  split
  · exact Nat.mul_le_mul_right _ h
  · exact divNearestEven_mono _ h

theorem nearestBits_mono {m n : Nat} (h : m ≤ n) : nearestBits m ≤ nearestBits n := by
  by_cases hm : m = 0
  · simp [hm, nearestBits]
  have hn : n ≠ 0 := by omega
  have htop : m.log2 ≤ n.log2 := by
    rw [Nat.log2_eq_log_two, Nat.log2_eq_log_two]
    exact Nat.log_mono_right h
  rw [nearestBits_eq hm, nearestBits_eq hn]
  by_cases heq : m.log2 = n.log2
  · rw [heq]
    exact Nat.add_le_add_left (leadingBits_mono heq h) _
  · have hm' := (leadingBits_bounds hm).2
    have hn' := (leadingBits_bounds hn).1
    omega

theorem infinityBits_eq : infinityBits = 2047 * 2 ^ 52 := by decide

theorem nearestBits_lt {n : Nat} (h : n ≤ 2 ^ 64) : nearestBits n < infinityBits := by
  have hle := nearestBits_mono h
  have hmax : nearestBits (2 ^ 64) < infinityBits := by decide
  omega

theorem toNat_bits_ofInt {n : Int} (h : n.natAbs ≤ 2 ^ 64) :
    (ofInt n).bits.toNat = (if n < 0 then 2 ^ 63 else 0) + nearestBits n.natAbs := by
  have hbits := nearestBits_lt h
  rw [infinityBits_eq] at hbits
  simp only [ofInt, Nat.shiftLeft_eq, Nat.one_mul]
  rw [UInt64.toNat_ofNat']
  split <;> omega

theorem magnitude_ofInt {n : Int} (h : n.natAbs ≤ 2 ^ 64) :
    (ofInt n).magnitude = nearestBits n.natAbs := by
  have hbits := nearestBits_lt h
  rw [infinityBits_eq] at hbits
  simp only [magnitude, toNat_bits_ofInt h, Nat.shiftLeft_eq, Nat.one_mul]
  split <;> omega

theorem isNegative_ofInt {n : Int} (h : n.natAbs ≤ 2 ^ 64) :
    (ofInt n).isNegative = decide (n < 0) := by
  have hbits := nearestBits_lt h
  rw [infinityBits_eq] at hbits
  simp only [isNegative, toNat_bits_ofInt h, Nat.shiftLeft_eq, Nat.one_mul]
  by_cases hn : n < 0
  · simp [hn]
  · simp only [hn, if_false, Nat.zero_add, decide_false, decide_eq_false_iff_not]
    omega

theorem isNaN_ofInt {n : Int} (h : n.natAbs ≤ 2 ^ 64) : (ofInt n).isNaN = false := by
  have hbits := nearestBits_lt h
  simp only [isNaN, magnitude_ofInt h, decide_eq_false_iff_not]
  omega

/-- Rounding keeps the order of 64-bit integers, though it may identify some of them. -/
theorem orderKey_ofInt_mono {m n : Int} (hm : m.natAbs ≤ 2 ^ 64) (hn : n.natAbs ≤ 2 ^ 64)
    (h : m ≤ n) : (ofInt m).orderKey ≤ (ofInt n).orderKey := by
  simp only [orderKey, isNegative_ofInt hm, isNegative_ofInt hn, magnitude_ofInt hm,
    magnitude_ofInt hn, decide_eq_true_eq]
  by_cases hm0 : m < 0
  · by_cases hn0 : n < 0
    · have habs : nearestBits n.natAbs ≤ nearestBits m.natAbs := nearestBits_mono (by omega)
      simp only [hm0, hn0, if_true]
      omega
    · simp only [hm0, hn0, if_true, if_false]
      omega
  · have hn0 : ¬ n < 0 := by omega
    have habs : nearestBits m.natAbs ≤ nearestBits n.natAbs := nearestBits_mono (by omega)
    simp only [hm0, hn0, if_false]
    omega

theorem ofNat_eq_ofInt (n : Nat) : ofNat n = ofInt n := by
  have hn : ¬ (n : Int) < 0 := by omega
  simp [ofNat, ofInt, hn]

end Double

end RecordQuery
