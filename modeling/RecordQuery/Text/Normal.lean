import RecordQuery.Text.CharData

/-!
# Canonical normal forms

A text in decomposed form has every composite replaced by its parts, and the marks after each base
in the order of their combining classes. A text in composed form is decomposed first; then each
base takes up the marks and letters with which it makes a composite.
-/

namespace RecordQuery.Text

variable [CharData]

open CharData

/-- Places a character before the marks that follow it in order: it passes the marks of lower
class, and stops at a mark of its own class or at a character that starts anew. -/
def insertMark (c : Char) : List Char → List Char
  | [] => [c]
  | d :: rest =>
    if combiningClass d ≠ 0 ∧ combiningClass d < combiningClass c then d :: insertMark c rest
    else c :: d :: rest

def orderMarks : List Char → List Char
  | [] => []
  | c :: rest => insertMark c (orderMarks rest)

def decomposed (s : List Char) : List Char := orderMarks (s.flatMap decompose)

/-- Composes what follows `base`. The characters of `kept`, latest first, follow the base and did
not combine with it; one that comes after a character of the same class or a higher one is blocked
from the base. -/
def composeFrom (base : Char) (kept : List Char) : List Char → List Char
  | [] => base :: kept.reverse
  | c :: rest =>
    let blocked := match kept with
      | [] => false
      | k :: _ => combiningClass k = 0 || combiningClass c ≤ combiningClass k
    match if blocked then none else compose base c with
    | some composite => composeFrom composite kept rest
    | none =>
      if combiningClass c = 0 then base :: (kept.reverse ++ composeFrom c [] rest)
      else composeFrom base (c :: kept) rest

def composeAll : List Char → List Char
  | [] => []
  | c :: rest =>
    if combiningClass c = 0 then composeFrom c [] rest else c :: composeAll rest

def composed (s : List Char) : List Char := composeAll (decomposed s)

end RecordQuery.Text
