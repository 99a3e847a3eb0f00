import RecordQuery.Number.Double

/-!
# Shortest decimals

A float is written with the fewest digits that read back as the same float, and of the decimals
with that many digits it is the nearest one. The float's value and the ends of the interval of
reals that round to it are integers here, in units of `2 ^ -1076`.
-/

namespace RecordQuery

/-- The decimal `digits * 10 ^ exponent`. -/
structure Decimal where
  digits : Nat
  exponent : Int

namespace Decimal

def unit : Nat := 1 <<< 1076

def tenPow (k : Nat) : Nat := Nat.pow 10 k

def stepFraction (e : Int) : Nat × Nat :=
  if 0 ≤ e then (unit * tenPow e.toNat, 1) else (unit, tenPow (-e).toNat)

def leadingExponent (v : Nat) : Int :=
  if unit ≤ v then (Nat.toDigits 10 (v / unit)).length - 1
  else -(((List.range 330).find? fun k => unit ≤ v * tenPow k).getD 330 : Int)

/-- The multiple of `10 ^ e` nearest to `v` if one of the two around it lies between `low` and
`high`; the ends count if `closed` says so. Of two that are as near the upper one is taken. -/
def onGrid? (v low high : Nat) (closed : Bool) (e : Int) : Option Decimal :=
  let (step, scale) := stepFraction e
  let below := v * scale / step
  let above := below + 1
  let fits (n : Nat) : Bool :=
    if closed then low * scale ≤ n * step && n * step ≤ high * scale
    else low * scale < n * step && n * step < high * scale
  match fits below, fits above with
  | true, true =>
    some ⟨if v * scale - below * step < above * step - v * scale then below else above, e⟩
  | true, false => some ⟨below, e⟩
  | false, true => some ⟨above, e⟩
  | false, false => none

/-- The shortest decimal that reads back as the magnitude of a finite float other than zero.
Seventeen digits are always enough. -/
def shortest (x : Double) : Decimal :=
  let gap := 1 <<< x.scale
  let v := 4 * x.significand * gap
  -- below a power of two the floats lie twice as close
  let low := if x.fractionField = 0 ∧ 1 < x.exponentField then v - gap else v - 2 * gap
  let high := v + 2 * gap
  let lead := leadingExponent v
  ((List.range 17).findSome? fun (n : Nat) =>
    onGrid? v low high (x.significand % 2 == 0) (lead - (n : Int))).getD ⟨0, 0⟩

def dropZeros : List Char → Int → List Char × Int
  | digits, e =>
    let kept := (digits.reverse.dropWhile (· == '0')).reverse
    (kept, e + (digits.length - kept.length : Nat))

def isPositional (lead : Int) : Bool := -4 ≤ lead && lead < 16

def text (d : Decimal) : String :=
  let (ds, e) := dropZeros (Nat.toDigits 10 d.digits) d.exponent
  let point : Int := ds.length + e
  .ofList <|
    if !isPositional (point - 1) then
      ds.take 1 ++ (if ds.length ≤ 1 then [] else '.' :: ds.drop 1) ++ 'e' ::
        (toString (point - 1)).toList
    else if point ≤ 0 then ['0', '.'] ++ List.replicate (-point).toNat '0' ++ ds
    else
      let whole := ds.take point.toNat
      let rest := ds.drop point.toNat
      whole ++ List.replicate (point.toNat - whole.length) '0' ++ '.' ::
        (if rest.isEmpty then ['0'] else rest)

end Decimal

namespace Double

def text (x : Double) : String :=
  if x.isNaN then "NaN"
  else
    (if x.isNegative then "-" else "") ++
      (if x.isInfinite then "inf"
      else if x.magnitude = 0 then "0.0"
      else (Decimal.shortest x).text)

end Double

end RecordQuery
