import RecordQuery.Text.CharData

/-!
# Lower case

Each character goes to its lower-case form. One letter depends on its neighbours: a capital sigma
becomes a final sigma at the end of a word.
-/

namespace RecordQuery.Text

variable [CharData]

open CharData

def leadsToCased (s : List Char) : Bool :=
  match s.dropWhile isCaseIgnorable with
  | [] => false
  | c :: _ => isCased c

/-- The lower-case form of a capital sigma between `before`, which is read backwards, and
`after`: final when a cased letter comes before and none after. -/
def lowerSigma (before after : List Char) : Char :=
  if leadsToCased before && !leadsToCased after then 'ς' else 'σ'

def lowerAfter (before : List Char) : List Char → List Char
  | [] => []
  | c :: rest =>
    (if c = 'Σ' then [lowerSigma before rest] else lowercase c) ++ lowerAfter (c :: before) rest

def lower (s : List Char) : List Char := lowerAfter [] s

end RecordQuery.Text
