import RecordQuery.Regex.Basic

/-!
# The size of a compiled expression

An expression stands for an automaton that reads the bytes of UTF-8 text from the end of a match to
its beginning. The automaton may not outgrow a limit, so its size is computed here, without
building it: every state takes `stateBytes`, a choice `choiceBytes` for each of its branches, and a
state that tells ranges of bytes apart `rangeBytes` for each of them.
-/

namespace RecordQuery.Regex

open Unicode (CodeSet)

def sizeLimit : Nat := 10485760

def stateBytes : Nat := 32

def choiceBytes : Nat := 4

def rangeBytes : Nat := 8

def overheadBytes : Nat := 128

def forkBytes : Nat := stateBytes + 2 * choiceBytes

namespace Encoding

/-- The code points of one encoded length, and the powers of 64 at which their encodings carry from
one byte into the one before. -/
structure Block where
  first : Nat
  last : Nat
  carries : List Nat

def blocks : List Block :=
  [⟨0, 0x7F, []⟩, ⟨0x80, 0x7FF, [64]⟩, ⟨0x800, 0xD7FF, [4096, 64]⟩,
    ⟨0xE000, 0xFFFF, [4096, 64]⟩, ⟨0x10000, 0x10FFFF, [262144, 4096, 64]⟩]

/-- Cuts the code points from `a` to `b` into runs in whose encodings the bytes range independently
of each other: up to the first multiple of the greatest carry between them, from there to the last
multiple, and on to `b`. -/
def runs : List Nat → Nat → Nat → List (Nat × Nat)
  | [], a, b => [(a, b)]
  | carry :: carries, a, b =>
    if a / carry = b / carry then runs carries a b
    else
      let low := (a + carry - 1) / carry * carry
      let high := (b + 1) / carry * carry
      (if a < low then runs carries a (low - 1) else []) ++
        (if low < high then [(low, high - 1)] else []) ++
        (if high ≤ b then runs carries high b else [])

def sequences (set : CodeSet) : List (List (UInt8 × UInt8)) :=
  set.ranges.flatMap fun (a, b) =>
    blocks.flatMap fun block =>
      let first := max a block.first
      let last := min b block.last
      if first ≤ last then
        (runs block.carries first last).map fun (x, y) =>
          (String.utf8EncodeChar (.ofNat x)).zip (String.utf8EncodeChar (.ofNat y))
      else []

def commonLength : List (UInt8 × UInt8) → List (UInt8 × UInt8) → Nat
  | x :: xs, y :: ys => if x = y then commonLength xs ys + 1 else 0
  | _, _ => 0

def countBeginnings (previous : List (UInt8 × UInt8)) : List (List (UInt8 × UInt8)) → Nat
  | [] => 0
  | s :: rest => s.length - commonLength previous s + countBeginnings s rest

end Encoding

def setSize (set : CodeSet) : Nat :=
  match set.ranges with
  | [] => stateBytes
  | [(a, b)] =>
    if a = b then (Char.ofNat a).utf8Size * stateBytes else rangesSize
  | _ => rangesSize
where
  rangesSize : Nat :=
    if set.isAscii then 2 * stateBytes + set.ranges.length * rangeBytes
    else
      let sequences := Encoding.sequences set
      (Encoding.countBeginnings [] sequences + 2) * stateBytes + sequences.length * choiceBytes

/-- The size of the states for an expression. A repetition holds as many copies of what it repeats
as its bounds ask for; beyond the least number each has a choice in front. -/
def statesSize : Regex → Nat
  | .empty => 0
  | .chars set => setSize set
  | .many set => setSize set + forkBytes
  | .look _ => stateBytes
  | .seq r s => statesSize r + statesSize s
  | .alt r s =>
    statesSize r + choiceBytes +
      match s with
      | .alt _ _ => statesSize s
      | _ => statesSize s + choiceBytes + 2 * stateBytes
  | .times least none r =>
    if least = 0 ∧ r.isNullable then statesSize r + 2 * forkBytes + stateBytes
    else max least 1 * statesSize r + forkBytes
  | .times least (some most) r =>
    if least = most then least * statesSize r
    else least * statesSize r + (most - least) * (statesSize r + forkBytes) + stateBytes
  | .group r => statesSize r + 2 * stateBytes

def size (r : Regex) : Nat := statesSize r + overheadBytes

end RecordQuery.Regex
