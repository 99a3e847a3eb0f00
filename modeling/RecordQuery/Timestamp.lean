/-!
# Timestamps

A timestamp counts milliseconds from the epoch in a 64-bit word. Conversions into it never
overflow: what lies outside the range becomes the nearer end of it.
-/

namespace RecordQuery

def saturate (n : Int) : Int64 :=
  if n < Int64.minValue.toInt then Int64.minValue
  else if Int64.maxValue.toInt < n then Int64.maxValue
  else .ofInt n

structure Timestamp where
  millis : Int64
deriving DecidableEq

structure ClockTime where
  beforeEpoch : Bool
  secs : Nat
  nanos : Nat

def ClockTime.distance (c : ClockTime) : Nat := c.secs * 1000 + c.nanos / 1000000

namespace Timestamp

def ofMillis (millis : Int64) : Timestamp := ⟨millis⟩

def ofSecs (secs : Int64) : Timestamp := ⟨saturate (secs.toInt * 1000)⟩

def toSecs (t : Timestamp) : Int64 := .ofInt (t.millis.toInt.tdiv 1000)

/-- Rounds toward the epoch. -/
def ofClockTime (c : ClockTime) : Timestamp :=
  ⟨saturate (if c.beforeEpoch then -(c.distance : Int) else c.distance)⟩

end Timestamp

end RecordQuery
