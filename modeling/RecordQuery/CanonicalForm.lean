import RecordQuery.Value.Basic

/-!
# Canonical form

The text of a predicate with numbered placeholders, and the values that the placeholders stand
for. The text never holds a value.
-/

namespace RecordQuery

/-- A text with placeholders and its parameters in the order of their numbers. -/
structure CanonicalForm where
  text : String
  params : List Value

namespace CanonicalForm

def empty : CanonicalForm := ⟨"", []⟩

def push (c : CanonicalForm) (text : String) : CanonicalForm := { c with text := c.text ++ text }

def placeholder (n : Nat) : String := "$" ++ toString n

def bind (c : CanonicalForm) (v : Value) : CanonicalForm :=
  ⟨c.text ++ placeholder (c.params.length + 1), c.params ++ [v]⟩

end CanonicalForm

end RecordQuery
