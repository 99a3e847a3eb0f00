/-!
# Binary floating-point numbers

A `Double` is a binary64 datum, kept as its bit pattern: a sign bit, eleven exponent bits and
fifty-two fraction bits. Everything here is integer arithmetic on those bits, so comparisons and
conversions are exact where they claim to be and round where they say so.
-/

namespace RecordQuery

def divNearestEven (n d : Nat) : Nat :=
  let q := n / d
  let r := n % d
  if 2 * r < d ∨ (2 * r = d ∧ q % 2 = 0) then q else q + 1

structure Double where
  bits : UInt64
deriving DecidableEq

namespace Double

def magnitude (x : Double) : Nat := x.bits.toNat % 1 <<< 63

def isNegative (x : Double) : Bool := 1 <<< 63 ≤ x.bits.toNat

def exponentField (x : Double) : Nat := x.magnitude >>> 52

def fractionField (x : Double) : Nat := x.magnitude % 1 <<< 52

def infinityBits : Nat := 2047 <<< 52

def isNaN (x : Double) : Bool := infinityBits < x.magnitude

def isInfinite (x : Double) : Bool := x.magnitude = infinityBits

def significand (x : Double) : Nat :=
  if x.exponentField = 0 then x.fractionField else 1 <<< 52 + x.fractionField

def scale (x : Double) : Nat := x.exponentField - 1

/-- The exact value of a finite number in units of `2 ^ -1074`, the least positive number. -/
def units (x : Double) : Int :=
  let m : Int := (x.significand <<< x.scale : Nat)
  if x.isNegative then -m else m

/-- A key that orders all numbers but NaN. The two zeros share the key zero. -/
def orderKey (x : Double) : Int :=
  if x.isNegative then -(x.magnitude : Int) else x.magnitude

def compare (x y : Double) : Option Ordering :=
  if x.isNaN || y.isNaN then none else some (Ord.compare x.orderKey y.orderKey)

def equal (x y : Double) : Bool := x.compare y == some .eq

/-- The bits of the number nearest to `n`, for `n` below `2 ^ 1023`. Rounding up to the next power
of two carries from the fraction into the exponent, which is where it belongs. -/
def nearestBits (n : Nat) : Nat :=
  if n = 0 then 0
  else
    let top := n.log2
    let fraction := if top ≤ 52 then n <<< (52 - top) else divNearestEven n (1 <<< (top - 52))
    (top + 1022) <<< 52 + fraction

def ofNat (n : Nat) : Double := ⟨.ofNat (nearestBits n)⟩

def ofInt (n : Int) : Double :=
  ⟨.ofNat ((if n < 0 then 1 <<< 63 else 0) + nearestBits n.natAbs)⟩

def ofSingleBits (b : UInt32) : Double :=
  let sign := b.toNat >>> 31
  let exponent := b.toNat >>> 23 % 1 <<< 8
  let fraction := b.toNat % 1 <<< 23
  let magnitude :=
    if exponent = 255 then infinityBits + fraction <<< 29
    else if exponent = 0 then
      -- a subnormal single is `fraction * 2 ^ -149`, which has a leading bit of its own here
      if fraction = 0 then 0
      else (fraction.log2 + 873) <<< 52 + fraction <<< (52 - fraction.log2)
    else (exponent + 896) <<< 52 + fraction <<< 29
  ⟨.ofNat (sign <<< 63 + magnitude)⟩

end Double

end RecordQuery
