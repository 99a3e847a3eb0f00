import RecordQuery.Regex.Basic
import RecordQuery.Unicode.Property

/-!
# Search

A search keeps a set of positions in the text and lets the expression carry each position to the
positions where a match that begins there can end. A text of `n` characters has `n + 1` positions;
a set of them is a list of as many Booleans.
-/

namespace RecordQuery.Regex

open Unicode (CodeSet CodeIndex)

abbrev Positions := List Bool

structure Boundary where
  before : Option Char
  after : Option Char

namespace Boundary

def ofText (before : Option Char) : List Char → List Boundary
  | [] => [⟨before, none⟩]
  | c :: rest => ⟨before, some c⟩ :: ofText (some c) rest

def wordIndex : CodeIndex := .ofSet Unicode.Property.word

def isAsciiWord (c : Char) : Bool := c.isAlphanum || c == '_'

def isWord (unicode : Bool) (c : Char) : Bool :=
  if c.toNat < 128 then isAsciiWord c else unicode && wordIndex.contains c

def hasEdge (before after : Bool) : WordEdge → Bool
  | .boundary => before != after
  | .interior => before == after
  | .start => !before && after
  | .stop => before && !after
  | .startHalf => !before
  | .stopHalf => !after

def satisfies (b : Boundary) : Look → Bool
  | .textStart => b.before.isNone
  | .textEnd => b.after.isNone
  | .lineStart => b.before.isNone || b.before == some '\n'
  | .lineEnd => b.after.isNone || b.after == some '\n'
  | .crlfStart => b.before.isNone || b.before == some '\n' ||
      (b.before == some '\r' && b.after != some '\n')
  | .crlfEnd => b.after.isNone || b.after == some '\r' ||
      (b.after == some '\n' && b.before != some '\r')
  | .word edge unicode =>
    hasEdge (b.before.any (isWord unicode)) (b.after.any (isWord unicode)) edge

end Boundary

namespace Positions

def union (ps qs : Positions) : Positions := ps.zipWith (· || ·) qs

def advance (set : CodeSet) (text : List Char) (ps : Positions) : Positions :=
  false :: ps.zipWith (fun p c => p && set.contains c) text

/-- The positions that any number of characters of the set lead to. The flag says whether the
position before leads here. -/
def sweep (set : CodeSet) : List Char → Bool → Positions → Positions
  | _, _, [] => []
  | [], carried, p :: _ => [p || carried]
  | c :: text, carried, p :: ps =>
    (p || carried) :: sweep set text ((p || carried) && set.contains c) ps

def restrict (l : Look) (bs : List Boundary) (ps : Positions) : Positions :=
  ps.zipWith (fun p b => p && b.satisfies l) bs

def iterate (step : Positions → Positions) : Nat → Positions → Positions
  | 0, ps => ps
  | n + 1, ps => if step ps = ps then ps else iterate step n (step ps)

end Positions

open Positions

/-- The positions where a match ends that begins at one of the given positions. A repetition
without a bound needs no more rounds than there are positions. -/
def reach (text : List Char) (bs : List Boundary) : Regex → Positions → Positions
  | .empty, ps => ps
  | .chars set, ps => advance set text ps
  | .many set, ps => sweep set text false ps
  | .look l, ps => restrict l bs ps
  | .seq r s, ps => reach text bs s (reach text bs r ps)
  | .alt r s, ps => union (reach text bs r ps) (reach text bs s ps)
  | .times least most r, ps =>
    iterate (fun qs => union qs (reach text bs r qs))
      (match most with
        | some most => most - least
        | none => text.length + 1)
      (iterate (reach text bs r) least ps)
  | .group r, ps => reach text bs r ps

def matchesIn (r : Regex) (text : List Char) : Bool :=
  (reach text (Boundary.ofText none text) r (List.replicate (text.length + 1) true)).any id

end RecordQuery.Regex
