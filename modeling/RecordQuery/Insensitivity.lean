/-!
# Insensitivity flags

The text operators can ignore letter case, diacritics, or both. An `Insensitivity` is a set of
those two flags; it is always listed with case first.
-/

namespace RecordQuery

/-- One way in which two texts may differ and still be taken for the same. -/
inductive Fold where
  | letterCase
  | diacritic
deriving DecidableEq

def Fold.letter : Fold → Char
  | .letterCase => 'c'
  | .diacritic => 'd'

structure Insensitivity where
  ignoresCase : Bool
  ignoresDiacritics : Bool
deriving DecidableEq

namespace Insensitivity

instance : EmptyCollection Insensitivity := ⟨⟨false, false⟩⟩

def exact : Insensitivity := ∅

def caseOnly : Insensitivity := ⟨true, false⟩

def diacriticOnly : Insensitivity := ⟨false, true⟩

def isEmpty (s : Insensitivity) : Bool := !s.ignoresCase && !s.ignoresDiacritics

def contains (s : Insensitivity) : Fold → Bool
  | .letterCase => s.ignoresCase
  | .diacritic => s.ignoresDiacritics

instance : Membership Fold Insensitivity := ⟨fun s f => s.contains f = true⟩

instance (f : Fold) (s : Insensitivity) : Decidable (f ∈ s) :=
  inferInstanceAs (Decidable (s.contains f = true))

def insert (s : Insensitivity) : Fold → Insensitivity
  | .letterCase => { s with ignoresCase := true }
  | .diacritic => { s with ignoresDiacritics := true }

def toList (s : Insensitivity) : List Fold :=
  [.letterCase, .diacritic].filter s.contains

def ofList (folds : List Fold) : Insensitivity := folds.foldl insert ∅

def union (s t : Insensitivity) : Insensitivity := t.toList.foldl insert s

instance : Union Insensitivity := ⟨union⟩

def letters (s : Insensitivity) : String := .ofList (s.toList.map Fold.letter)

end Insensitivity

end RecordQuery
