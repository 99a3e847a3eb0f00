import RecordQuery.Regex.Escape

/-!
# Bracketed classes

Brackets hold characters, ranges, classes and further brackets, and operators between them, which
all bind alike and to the left. They are read with the brackets that are still open on a stack.
-/

namespace RecordQuery.Regex

structure OpenClass where
  negated : Bool
  pending : Option (ClassOperator × ClassTerm)
  items : List ClassTerm

namespace OpenClass

def push (b : OpenClass) (item : ClassTerm) : OpenClass := { b with items := item :: b.items }

def content (b : OpenClass) : ClassTerm :=
  let right := .ofItems b.items.reverse
  match b.pending with
  | none => right
  | some (op, left) => .operation op left right

def operate (b : OpenClass) (op : ClassOperator) : OpenClass :=
  { b with pending := some (op, b.content), items := [] }

def close (b : OpenClass) : ClassTerm := .bracket b.negated b.content

end OpenClass

namespace Bracket

def asciiClass? : List Char → Option AsciiClass
  | ['a', 'l', 'n', 'u', 'm'] => some .alnum
  | ['a', 'l', 'p', 'h', 'a'] => some .alpha
  | ['a', 's', 'c', 'i', 'i'] => some .ascii
  | ['b', 'l', 'a', 'n', 'k'] => some .blank
  | ['c', 'n', 't', 'r', 'l'] => some .cntrl
  | ['d', 'i', 'g', 'i', 't'] => some .digit
  | ['g', 'r', 'a', 'p', 'h'] => some .graph
  | ['l', 'o', 'w', 'e', 'r'] => some .lower
  | ['p', 'r', 'i', 'n', 't'] => some .print
  | ['p', 'u', 'n', 'c', 't'] => some .punct
  | ['s', 'p', 'a', 'c', 'e'] => some .space
  | ['u', 'p', 'p', 'e', 'r'] => some .upper
  | ['w', 'o', 'r', 'd'] => some .word
  | ['x', 'd', 'i', 'g', 'i', 't'] => some .xdigit
  | _ => none

def readAscii? (s : List Char) : Option (ClassTerm × List Char) :=
  match s with
  | ':' :: '^' :: rest => named true rest
  | ':' :: rest => named false rest
  | _ => none
where
  named (negated : Bool) (s : List Char) : Option (ClassTerm × List Char) :=
    match s.dropWhile (· != ':') with
    | ':' :: ']' :: rest =>
      (asciiClass? (s.takeWhile (· != ':'))).map fun c => (.ascii c negated, rest)
    | _ => none

def readMinuses (verbose : Bool) (b : OpenClass) :
    List Char → Except Fault (OpenClass × List Char)
  | '-' :: rest => readMinuses verbose (b.push (.literal ⟨'-', false⟩)) (skipBlank verbose rest)
  | [] => .error .unclosedBracket
  | s => .ok (b, s)
termination_by s => s.length
decreasing_by exact Nat.lt_succ_of_le (length_skipBlank_le verbose rest)

def readOpening (verbose : Bool) (s : List Char) : Except Fault (OpenClass × List Char) := do
  let s := skipBlank verbose s
  let (negated, s) := match s with
    | '^' :: rest => (true, skipBlank verbose rest)
    | _ => (false, s)
  let (b, s) ← readMinuses verbose ⟨negated, none, []⟩ s
  match b.items, s with
  | [], ']' :: rest =>
    match skipBlank verbose rest with
    | [] => .error .unclosedBracket
    | s => return (b.push (.literal ⟨']', false⟩), s)
  | _, s => return (b, s)

def readAtom (verbose : Bool) (c : Char) (rest : List Char) : Except Fault (Atom × List Char) :=
  if c = '\\' then Escape.read verbose rest else .ok (.literal ⟨c, false⟩, rest)

def item : Atom → Except Fault ClassTerm
  | .literal l => .ok (.literal l)
  | .shorthand s negated => .ok (.shorthand s negated)
  | .property name negated => .ok (.property name negated)
  | .dot | .anchor _ => .error .escapeInBracket

def rangeEnd : Atom → Except Fault Literal
  | .literal l => .ok l
  | _ => .error .rangeEnd

def range (first last : Atom) : Except Fault ClassTerm := do
  let a ← rangeEnd first
  let b ← rangeEnd last
  if a.char ≤ b.char then return .range a b else .error .invertedRange

def readItem (verbose : Bool) (c : Char) (rest : List Char) :
    Except Fault (ClassTerm × List Char) := do
  let (first, s) ← readAtom verbose c rest
  match skipBlank verbose s with
  | [] => .error .unclosedBracket
  | '-' :: s =>
    let next := peekBlank verbose s
    if next = some ']' ∨ next = some '-' then
      return (← item first, '-' :: s)
    else
      match skipBlank verbose s with
      | [] => .error .unclosedBracket
      | d :: s =>
        let (last, s) ← readAtom verbose d s
        return (← range first last, s)
  | s => return (← item first, s)

/-- Reads on in the class `b`, which lies in the classes `outer`, the innermost first, up to the
bracket that closes them all. Every round takes at least one character, so that `fuel` need only be
as large as there are characters. -/
def readFrom (verbose : Bool) : (fuel : Nat) → (b : OpenClass) → (outer : List OpenClass) →
    List Char → Except Fault (ClassTerm × List Char)
  | 0, _, _, _ => .error .unclosedBracket
  | fuel + 1, b, outer, s =>
    match skipBlank verbose s with
    | [] => .error .unclosedBracket
    | '[' :: rest =>
      match readAscii? rest with
      | some (c, rest) => readFrom verbose fuel (b.push c) outer rest
      | none =>
        match readOpening verbose rest with
        | .error e => .error e
        | .ok (inner, rest) => readFrom verbose fuel inner (b :: outer) rest
    | ']' :: rest =>
      match outer with
      | [] => .ok (b.close, rest)
      | around :: outer => readFrom verbose fuel (around.push b.close) outer rest
    | '&' :: '&' :: rest => readFrom verbose fuel (b.operate .intersection) outer rest
    | '-' :: '-' :: rest => readFrom verbose fuel (b.operate .difference) outer rest
    | '~' :: '~' :: rest => readFrom verbose fuel (b.operate .symmetricDifference) outer rest
    | c :: rest =>
      match readItem verbose c rest with
      | .error e => .error e
      | .ok (c, rest) => readFrom verbose fuel (b.push c) outer rest

def read (verbose : Bool) (s : List Char) : Except Fault (ClassTerm × List Char) := do
  let (b, s) ← readOpening verbose s
  readFrom verbose (s.length + 1) b [] s

end Bracket

end RecordQuery.Regex
