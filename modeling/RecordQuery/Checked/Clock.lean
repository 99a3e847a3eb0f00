import RecordQuery.Timestamp

/-!
# Conversion of clock readings in words

The conversion with the words it is done in. It has no result where one of them overflows.
-/

namespace RecordQuery

def word? (n : Int) : Option Int64 :=
  if Int64.minValue.toInt ≤ n ∧ n ≤ Int64.maxValue.toInt then some (.ofInt n) else none

def wide? (n : Nat) : Option Nat := if n < Nat.pow 2 128 then some n else none

def ClockTime.distance? (c : ClockTime) : Option Nat :=
  (wide? (c.secs * 1000)).bind fun whole => wide? (whole + c.nanos / 1000000)

/-- The distance from the epoch is cut to milliseconds before it is negated. -/
def Timestamp.ofClockTime? (c : ClockTime) : Option Timestamp :=
  c.distance?.bind fun distance =>
    match c.beforeEpoch, word? distance with
    | false, some millis => some ⟨millis⟩
    | false, none => some ⟨.maxValue⟩
    | true, some millis => (word? (-millis.toInt)).map mk
    | true, none => some ⟨.minValue⟩

end RecordQuery
