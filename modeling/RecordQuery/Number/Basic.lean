import RecordQuery.Number.Double

/-!
# Numbers

A number is a signed integer, an unsigned integer or a float, and remembers which. Integers compare
exactly whatever their signs; an integer meets a float only after it has been rounded to one.
-/

namespace RecordQuery

inductive Number where
  | signed (n : Int64)
  | unsigned (n : UInt64)
  | float (x : Double)
deriving DecidableEq

namespace Number

def toDouble : Number → Double
  | .signed n => .ofInt n.toInt
  | .unsigned n => .ofNat n.toNat
  | .float x => x

def toUnsigned? (n : Int64) : Option UInt64 :=
  if 0 ≤ n.toInt then some (.ofNat n.toInt.toNat) else none

def compareSignedUnsigned (a : Int64) (b : UInt64) : Ordering :=
  match toUnsigned? a with
  | some a => Ord.compare a.toNat b.toNat
  | none => .lt

def compare : Number → Number → Option Ordering
  | .signed a, .signed b => some (Ord.compare a.toInt b.toInt)
  | .unsigned a, .unsigned b => some (Ord.compare a.toNat b.toNat)
  | .signed a, .unsigned b => some (compareSignedUnsigned a b)
  | .unsigned a, .signed b => some (compareSignedUnsigned b a).swap
  | a, b => a.toDouble.compare b.toDouble

/-- Equality that tells the representations apart: two floats are identical when numerically equal,
and a signed number is never identical to an unsigned one. -/
def identical : Number → Number → Bool
  | .signed a, .signed b => a == b
  | .unsigned a, .unsigned b => a == b
  | .float a, .float b => a.equal b
  | _, _ => false

instance : LT Number := ⟨fun a b => a.compare b = some .lt⟩

instance : LE Number := ⟨fun a b => a.compare b = some .lt ∨ a.compare b = some .eq⟩

instance (a b : Number) : Decidable (a < b) :=
  inferInstanceAs (Decidable (a.compare b = some .lt))

instance (a b : Number) : Decidable (a ≤ b) :=
  inferInstanceAs (Decidable (a.compare b = some .lt ∨ a.compare b = some .eq))

end Number

end RecordQuery
