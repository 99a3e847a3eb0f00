import Mathlib.Algebra.Order.Ring.Nat
import RecordQuery.Checked.Clock

/-!
# Conversions of timestamps

A clock reading is converted by cutting its distance from the epoch to milliseconds and clamping
them to the range of a word; none of the words used on the way overflows. Cutting, clamping and
scaling are monotone, so no conversion changes the order of two moments.
-/

namespace RecordQuery

/-! ### Words -/

theorem toInt_saturate (n : Int) :
    (saturate n).toInt = max Int64.minValue.toInt (min Int64.maxValue.toInt n) := by
  have hmin := Int64.toInt_minValue
  have hmax := Int64.toInt_maxValue
  by_cases hlow : n < Int64.minValue.toInt
  · rw [saturate, if_pos hlow]
    omega
  · by_cases hhigh : Int64.maxValue.toInt < n
    · rw [saturate, if_neg hlow, if_pos hhigh]
      omega
    · rw [saturate, if_neg hlow, if_neg hhigh, Int64.toInt_ofInt_of_le (by omega) (by omega)]
      omega

theorem saturate_mono {m n : Int} (h : m ≤ n) : saturate m ≤ saturate n := by
  rw [Int64.le_iff_toInt_le, toInt_saturate, toInt_saturate]
  omega

theorem saturate_eq_minValue {n : Int} (h : n ≤ Int64.minValue.toInt) :
    saturate n = Int64.minValue := by
  have hmax := Int64.toInt_maxValue
  have hmin := Int64.toInt_minValue
  rw [← Int64.toInt_inj, toInt_saturate]
  omega

theorem saturate_eq_maxValue {n : Int} (h : Int64.maxValue.toInt ≤ n) :
    saturate n = Int64.maxValue := by
  have hmax := Int64.toInt_maxValue
  have hmin := Int64.toInt_minValue
  rw [← Int64.toInt_inj, toInt_saturate]
  omega

theorem toInt_saturate_of_mem {n : Int} (hlow : Int64.minValue.toInt ≤ n)
    (hhigh : n ≤ Int64.maxValue.toInt) : (saturate n).toInt = n := by
  rw [toInt_saturate]
  omega

theorem word?_eq_some {n : Int} (hlow : Int64.minValue.toInt ≤ n)
    (hhigh : n ≤ Int64.maxValue.toInt) : word? n = some (saturate n) := by
  rw [word?, if_pos ⟨hlow, hhigh⟩, saturate, if_neg (by omega), if_neg (by omega)]

theorem word?_eq_none {n : Int} (h : Int64.maxValue.toInt < n) : word? n = none := by
  rw [word?, if_neg]
  omega

/-! ### Clock readings -/

def ClockTime.nanoseconds (c : ClockTime) : Int :=
  let n : Int := c.secs * 1000000000 + c.nanos
  if c.beforeEpoch then -n else n

def ClockTime.milliseconds (c : ClockTime) : Int :=
  if c.beforeEpoch then -(c.distance : Int) else c.distance

theorem ClockTime.milliseconds_eq (c : ClockTime) :
    c.milliseconds = c.nanoseconds.tdiv 1000000 := by
  have hcut : ((c.secs * 1000000000 + c.nanos : Nat) : Int).tdiv 1000000 = c.distance := by
    rw [Int.natCast_tdiv_eq_ediv, distance]
    omega
  rw [milliseconds, nanoseconds]
  split
  · rw [Int.neg_tdiv, ← hcut]
    rfl
  · rw [← hcut]
    rfl

theorem ClockTime.distance?_eq_some {c : ClockTime} (hsecs : c.secs < 2 ^ 64)
    (hnanos : c.nanos < 1000000000) : c.distance? = some c.distance := by
  have hwide : Nat.pow 2 128 = 0x100000000000000000000000000000000 := rfl
  have hwhole : wide? (c.secs * 1000) = some (c.secs * 1000) := if_pos (by omega)
  rw [distance?, hwhole, Option.bind_some, wide?, if_pos (by omega), distance]

namespace Timestamp

theorem ofClockTime_eq (c : ClockTime) : ofClockTime c = ⟨saturate c.milliseconds⟩ := rfl

theorem ofClockTime?_eq_some {c : ClockTime} (hsecs : c.secs < 2 ^ 64)
    (hnanos : c.nanos < 1000000000) : ofClockTime? c = some (ofClockTime c) := by
  have hmin := Int64.toInt_minValue
  have hmax := Int64.toInt_maxValue
  rw [ofClockTime?, ClockTime.distance?_eq_some hsecs hnanos, Option.bind_some, ofClockTime_eq,
    ClockTime.milliseconds]
  by_cases hfits : (c.distance : Int) ≤ Int64.maxValue.toInt
  · rw [word?_eq_some (by omega) hfits]
    cases c.beforeEpoch with
    | false => rfl
    | true =>
      -- the negated word is in range, as the range reaches further below zero than above
      have hword : (saturate c.distance).toInt = c.distance :=
        toInt_saturate_of_mem (by omega) hfits
      simp only [hword, word?_eq_some (n := -(c.distance : Int)) (by omega) (by omega)]
      rfl
  · rw [word?_eq_none (by omega)]
    cases c.beforeEpoch with
    | false =>
      have hlast := saturate_eq_maxValue (n := c.distance) (by omega)
      simp only [Bool.false_eq_true, if_false, hlast]
    | true =>
      have hfirst := saturate_eq_minValue (n := -(c.distance : Int)) (by omega)
      simp only [if_true, hfirst]

theorem toInt_toSecs (t : Timestamp) : t.toSecs.toInt = t.millis.toInt.tdiv 1000 := by
  have hlow := Int.tdiv_le_tdiv (c := 1000) (by decide) t.millis.minValue_le_toInt
  have hhigh := Int.tdiv_le_tdiv (c := 1000) (by decide) t.millis.toInt_le
  have hmin : Int64.minValue.toInt.tdiv 1000 = -9223372036854775 := by decide
  have hmax : Int64.maxValue.toInt.tdiv 1000 = 9223372036854775 := by decide
  rw [toSecs, Int64.toInt_ofInt_of_le (by omega) (by omega)]

theorem toSecs_mono {t u : Timestamp} (h : t.millis ≤ u.millis) : t.toSecs ≤ u.toSecs := by
  rw [Int64.le_iff_toInt_le] at h ⊢
  rw [toInt_toSecs, toInt_toSecs]
  exact Int.tdiv_le_tdiv (by decide) h

theorem ofSecs_mono {s t : Int64} (h : s ≤ t) : (ofSecs s).millis ≤ (ofSecs t).millis := by
  rw [Int64.le_iff_toInt_le] at h
  exact saturate_mono (by omega)

theorem toSecs_ofSecs {s : Int64} (h : (s.toInt.natAbs : Int) ≤ Int64.maxValue.toInt / 1000) :
    (ofSecs s).toSecs = s := by
  have hmin := Int64.toInt_minValue
  have hmax := Int64.toInt_maxValue
  have hmillis : (ofSecs s).millis.toInt = s.toInt * 1000 :=
    toInt_saturate_of_mem (by omega) (by omega)
  rw [← Int64.toInt_inj, toInt_toSecs, hmillis, Int.mul_tdiv_cancel _ (by decide)]

theorem ofClockTime_mono {c d : ClockTime} (h : c.nanoseconds ≤ d.nanoseconds) :
    (ofClockTime c).millis ≤ (ofClockTime d).millis := by
  rw [ofClockTime_eq, ofClockTime_eq]
  apply saturate_mono
  rw [ClockTime.milliseconds_eq, ClockTime.milliseconds_eq]
  exact Int.tdiv_le_tdiv (by decide) h

theorem ofSecs_eq_ofClockTime {s : Int64} {c : ClockTime}
    (h : c.nanoseconds = s.toInt * 1000000000) : ofSecs s = ofClockTime c := by
  have hscale : s.toInt * 1000000000 = s.toInt * 1000 * 1000000 := by omega
  rw [ofClockTime_eq, ClockTime.milliseconds_eq, h, hscale, Int.mul_tdiv_cancel _ (by decide),
    ofSecs]

/-- A clock reading becomes its distance from the epoch in milliseconds, cut toward the epoch and
clamped to the range of a word. Nothing overflows on the way, as clocks give the seconds in a word
and less than a second in nanoseconds. Conversions keep the order of moments, whole seconds are
converted as clock readings are, and they come back as they were unless they were clamped. -/
theorem conversions_agree :
    (∀ c : ClockTime, (ofClockTime c).millis.toInt =
      max Int64.minValue.toInt (min Int64.maxValue.toInt (c.nanoseconds.tdiv 1000000))) ∧
    (∀ c : ClockTime, c.secs < 2 ^ 64 → c.nanos < 1000000000 →
      ofClockTime? c = some (ofClockTime c)) ∧
    (∀ c d : ClockTime, c.nanoseconds ≤ d.nanoseconds →
      (ofClockTime c).millis ≤ (ofClockTime d).millis) ∧
    (∀ (s : Int64) (c : ClockTime), c.nanoseconds = s.toInt * 1000000000 →
      ofSecs s = ofClockTime c) ∧
    (∀ s t : Int64, s ≤ t → (ofSecs s).millis ≤ (ofSecs t).millis) ∧
    (∀ t u : Timestamp, t.millis ≤ u.millis → t.toSecs ≤ u.toSecs) ∧
    ∀ s : Int64, (s.toInt.natAbs : Int) ≤ Int64.maxValue.toInt / 1000 →
      (ofSecs s).toSecs = s := by
  refine ⟨fun c => ?_, fun c => ofClockTime?_eq_some, fun c d => ofClockTime_mono,
    fun s c => ofSecs_eq_ofClockTime, fun s t => ofSecs_mono, fun t u => toSecs_mono,
    fun s => toSecs_ofSecs⟩
  rw [ofClockTime_eq, toInt_saturate, ClockTime.milliseconds_eq]

theorem conversions_agree_bounds :
    let first : ClockTime := ⟨true, 9223372036854775, 808000000⟩
    let last : ClockTime := ⟨false, 18446744073709551615, 999999999⟩
    ofClockTime? first = some ⟨.minValue⟩ ∧ ofClockTime? last = some ⟨.maxValue⟩ ∧
      (ofClockTime first).millis ≤ (ofClockTime last).millis ∧
      ofSecs (-1) = ofClockTime ⟨true, 1, 0⟩ ∧ (ofSecs (-2)).millis ≤ (ofSecs (-1)).millis ∧
      toSecs ⟨-2001⟩ ≤ toSecs ⟨-1999⟩ ∧ (ofSecs 9223372036854775).toSecs = 9223372036854775 := by
  intro first last
  obtain ⟨-, hwords, hclock, hscale, hofSecs, htoSecs, hback⟩ := conversions_agree
  exact ⟨(hwords first (by decide) (by decide)).trans (by decide),
    (hwords last (by decide) (by decide)).trans (by decide),
    hclock first last (by decide), hscale (-1) ⟨true, 1, 0⟩ (by decide),
    hofSecs (-2) (-1) (by decide), htoSecs ⟨-2001⟩ ⟨-1999⟩ (by decide),
    hback 9223372036854775 (by decide)⟩

end Timestamp

end RecordQuery
