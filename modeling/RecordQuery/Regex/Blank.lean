import RecordQuery.Unicode.Property

/-!
# Blanks in patterns

With the verbose flag on, white space and comments between the parts of a pattern mean nothing. A
comment runs from a number sign to the end of the line.
-/

namespace RecordQuery.Regex

open Unicode (CodeIndex)

def spaceIndex : CodeIndex := .ofSet Unicode.Property.whiteSpace

def isSpace (c : Char) : Bool := spaceIndex.contains c

def afterBlank (inComment : Bool) : List Char → List Char
  | [] => []
  | c :: rest =>
    if inComment then afterBlank (c != '\n') rest
    else if isSpace c then afterBlank false rest
    else if c = '#' then afterBlank true rest
    else c :: rest

def skipBlank (verbose : Bool) (s : List Char) : List Char :=
  if verbose then afterBlank false s else s

theorem length_afterBlank_le (inComment : Bool) (s : List Char) :
    (afterBlank inComment s).length ≤ s.length := by
  induction s generalizing inComment with
  | nil => simp [afterBlank]
  | cons c rest ih =>
    unfold afterBlank
    have step (b : Bool) : (afterBlank b rest).length ≤ (c :: rest).length :=
      Nat.le_succ_of_le (ih b)
    split
    · exact step _
    · split
      · exact step _
      · split
        · exact step _
        · exact Nat.le_refl _

theorem length_skipBlank_le (verbose : Bool) (s : List Char) :
    (skipBlank verbose s).length ≤ s.length := by
  unfold skipBlank
  split
  · exact length_afterBlank_le _ _
  · exact Nat.le_refl _

@[simp] theorem skipBlank_false (s : List Char) : skipBlank false s = s := rfl

/-- The character after blanks, for looking ahead. A comment hides nothing but its number sign, and
where only white space follows, that is what is seen. -/
def peekBlank (verbose : Bool) (s : List Char) : Option Char :=
  if verbose then
    match s.dropWhile isSpace with
    | '#' :: rest => ((rest.dropWhile isSpace).head?) <|> s.head?
    | c :: _ => some c
    | [] => s.head?
  else s.head?

def takeSpaced (verbose : Bool) (p : Char → Bool) : List Char → List Char × List Char
  | [] => ([], [])
  | c :: rest =>
    if p c then
      let (taken, after) := takeSpaced verbose p (skipBlank verbose rest)
      (c :: taken, after)
    else ([], c :: rest)
termination_by s => s.length
decreasing_by exact Nat.lt_succ_of_le (length_skipBlank_le verbose rest)

end RecordQuery.Regex
