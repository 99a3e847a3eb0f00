import Std.Data.HashMap

/-!
# Sets of code points

A set of code points is a list of disjoint ranges in increasing order. `CodeSet.read` takes the
notation of the tables: code points in hexadecimal, alone (`AA`), as a range (`41-5A`) or as every
second code point of a range (`100-12E/2`), with blanks between.
-/

namespace RecordQuery.Unicode

def hexDigit (c : Char) : Nat := if c.isDigit then c.toNat - '0'.toNat else c.toNat - 'A'.toNat + 10

def hexValue (digits : List Char) : Nat := digits.foldl (fun n c => 16 * n + hexDigit c) 0

def words (text : String) : List (List Char) :=
  ((text.splitToList Char.isWhitespace).filter (· ≠ "")).map String.toList

def readRange (word : List Char) : Nat × Nat × Nat :=
  match (word.splitOn '/').map (·.splitOn '-') with
  | [[first, last]] => (hexValue first, hexValue last, 1)
  | [[first, last], [step]] => (hexValue first, hexValue last, hexValue step)
  | [[only]] => (hexValue only, hexValue only, 1)
  | _ => (0, 0, 1)

def rangeMembers (first last step : Nat) : List Nat :=
  (List.range ((last - first) / step + 1)).map (first + step * ·)

structure CodeSet where
  ranges : List (Nat × Nat)
deriving Inhabited

namespace CodeSet

def last : Nat := 0x10FFFF

def empty : CodeSet := ⟨[]⟩

instance : EmptyCollection CodeSet := ⟨empty⟩

def full : CodeSet := ⟨[(0, last)]⟩

def singleton (c : Char) : CodeSet := ⟨[(c.toNat, c.toNat)]⟩

def ofRange (first last : Char) : CodeSet := ⟨[(first.toNat, last.toNat)]⟩

def containsCode (s : CodeSet) (n : Nat) : Bool := s.ranges.any fun (a, b) => a ≤ n && n ≤ b

def contains (s : CodeSet) (c : Char) : Bool := s.containsCode c.toNat

def isEmpty (s : CodeSet) : Bool := s.ranges.isEmpty

def isAscii (s : CodeSet) : Bool := s.ranges.all fun (_, b) => b < 128

def members (s : CodeSet) : List Nat := s.ranges.flatMap fun (a, b) => rangeMembers a b 1

def join : List (Nat × Nat) → List (Nat × Nat)
  | [] => []
  | r :: rs => go r rs
where
  go (r : Nat × Nat) : List (Nat × Nat) → List (Nat × Nat)
    | [] => [r]
    | s :: rs => if s.1 ≤ r.2 + 1 then go (r.1, max r.2 s.2) rs else r :: go s rs

def ofRanges (rs : List (Nat × Nat)) : CodeSet :=
  ⟨join (rs.mergeSort fun r s => r.1 ≤ s.1)⟩

def union (s t : CodeSet) : CodeSet :=
  if s.isEmpty then t else if t.isEmpty then s else ofRanges (s.ranges ++ t.ranges)

def unions (sets : List CodeSet) : CodeSet := ofRanges (sets.flatMap ranges)

def gaps (start : Nat) : List (Nat × Nat) → List (Nat × Nat)
  | [] => if start ≤ last then [(start, last)] else []
  | (a, b) :: rs => if start < a then (start, a - 1) :: gaps (b + 1) rs else gaps (b + 1) rs

def complement (s : CodeSet) : CodeSet := ⟨gaps 0 s.ranges⟩

def inter (s t : CodeSet) : CodeSet := (s.complement.union t.complement).complement

def diff (s t : CodeSet) : CodeSet := s.inter t.complement

def symmDiff (s t : CodeSet) : CodeSet := (s.union t).diff (s.inter t)

def read (text : String) : CodeSet :=
  ofRanges ((words text).flatMap fun w =>
    let (first, last, step) := readRange w
    if step = 1 then [(first, last)] else (rangeMembers first last step).map fun n => (n, n))

end CodeSet

structure CodeIndex where
  ranges : Array (Nat × Nat)

namespace CodeIndex

def ofSet (s : CodeSet) : CodeIndex := ⟨s.ranges.toArray⟩

def search (ranges : Array (Nat × Nat)) (n lo hi : Nat) : Bool :=
  if lo < hi then
    let mid := (lo + hi) / 2
    match ranges[mid]? with
    | some (a, b) =>
      if n < a then search ranges n lo mid
      else if b < n then search ranges n (mid + 1) hi
      else true
    | none => false
  else false
termination_by hi - lo

def contains (t : CodeIndex) (c : Char) : Bool := search t.ranges c.toNat 0 t.ranges.size

end CodeIndex

structure CodeMap where
  moved : Std.HashMap Nat Nat

namespace CodeMap

def get? (m : CodeMap) (n : Nat) : Option Nat := m.moved[n]?

def apply (m : CodeMap) (n : Nat) : Nat := m.moved.getD n n

def entries (m : CodeMap) : List (Nat × Nat) := m.moved.toList

/-- Reads entries `range:code`: the range is in the notation of `CodeSet.read`, its first member
goes to the code point named and the others keep their distance from it. -/
def read (text : String) : CodeMap :=
  ⟨(words text).foldl
    (fun m w =>
      match w.splitOn ':' with
      | [range, target] =>
        let (first, last, step) := readRange range
        (rangeMembers first last step).foldl
          (fun m n => m.insert n (hexValue target + (n - first))) m
      | _ => m) ∅⟩

def override (m t : CodeMap) : CodeMap :=
  ⟨t.moved.toList.foldl (fun m (n, k) => m.insert n k) m.moved⟩

end CodeMap

end RecordQuery.Unicode
