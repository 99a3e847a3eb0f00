import RecordQuery.Unicode.CodeSet

/-!
# Regular expressions

The expressions themselves, free of notation: flags have been resolved, classes are sets of code
points, and what remains of the greed of a repetition is nothing, since only the existence of a
match counts.
-/

namespace RecordQuery

open Unicode (CodeSet)

namespace Regex

inductive WordEdge where
  | boundary
  | interior
  | start
  | stop
  | startHalf
  | stopHalf
deriving DecidableEq

inductive Look where
  | textStart
  | textEnd
  | lineStart
  | lineEnd
  | crlfStart
  | crlfEnd
  | word (edge : WordEdge) (unicode : Bool)
deriving DecidableEq

end Regex

inductive Regex where
  | empty
  | chars (set : CodeSet)
  | many (set : CodeSet)
  | look (l : Regex.Look)
  | seq (r s : Regex)
  | alt (r s : Regex)
  /-- At least `least` times and at most `most` times, without a bound if that is `none`. -/
  | times (least : Nat) (most : Option Nat) (r : Regex)
  /-- A numbered group. It matches what `r` matches and only takes more space. -/
  | group (r : Regex)

namespace Regex

def char (c : Char) : Regex := .chars (.singleton c)

def isZeroWidth : Regex → Bool
  | .empty | .look _ => true
  | .chars _ | .many _ => false
  | .seq r s | .alt r s => r.isZeroWidth && s.isZeroWidth
  | .times _ _ r => r.isZeroWidth
  | .group r => r.isZeroWidth

def isNullable : Regex → Bool
  | .empty | .look _ | .many _ => true
  | .chars _ => false
  | .seq r s => r.isNullable && s.isNullable
  | .alt r s => r.isNullable || s.isNullable
  | .times least _ r => least == 0 || r.isNullable
  | .group r => r.isNullable

/-- The repetition of `r`. Repeating what is never more than empty once more adds nothing. -/
def repetition (least : Nat) (most : Option Nat) (r : Regex) : Regex :=
  let (least, most) :=
    if r.isZeroWidth then (min least 1, some (min (most.getD 1) 1)) else (least, most)
  match least, most, r with
  | 0, none, .chars set => .many set
  | _, some 0, _ => .empty
  | 1, some 1, r => r
  | least, most, r => .times least most r

end Regex

end RecordQuery
