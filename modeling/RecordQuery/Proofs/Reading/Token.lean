/-!
# Words and parentheses

Canonical text read as words and parentheses. A word ends at a space, at a parenthesis or with the
text, so a word that is known to have ended can be told from any other.
-/

namespace RecordQuery.Reading

inductive Token where
  | opening
  | closing
  | word (w : List Char)
deriving DecidableEq

/-- A text that is read as one word. -/
def IsWord (w : List Char) : Prop := w ≠ [] ∧ ∀ c ∈ w, c ≠ ' ' ∧ c ≠ '(' ∧ c ≠ ')'

-- `inferInstance` could go through all characters there are in place of those of the word.
instance (w : List Char) : Decidable (IsWord w) :=
  @instDecidableAnd _ _ _ (List.decidableBAll _ w)

def flush (word : List Char) (rest : List Token) : List Token :=
  if word.isEmpty then rest else .word word :: rest

/-- The tokens of a text of which the characters of `word` have been read already. -/
def scan (word : List Char) : List Char → List Token
  | [] => flush word []
  | c :: rest =>
    if c = ' ' then flush word (scan [] rest)
    else if c = '(' then flush word (.opening :: scan [] rest)
    else if c = ')' then flush word (.closing :: scan [] rest)
    else scan (word ++ [c]) rest

theorem scan_space (word rest : List Char) :
    scan word (' ' :: rest) = flush word (scan [] rest) := by
  simp [scan]

theorem scan_opening (word rest : List Char) :
    scan word ('(' :: rest) = flush word (.opening :: scan [] rest) := by
  simp [scan]

theorem scan_closing (word rest : List Char) :
    scan word (')' :: rest) = flush word (.closing :: scan [] rest) := by
  simp [scan]

theorem scan_append (word w rest : List Char) (hw : ∀ c ∈ w, c ≠ ' ' ∧ c ≠ '(' ∧ c ≠ ')') :
    scan word (w ++ rest) = scan (word ++ w) rest := by
  induction w generalizing word with
  | nil => simp
  | cons c w ih =>
    obtain ⟨hspace, hopening, hclosing⟩ := hw c (by simp)
    have hrest := ih (word ++ [c]) fun d hd => hw d (by simp [hd])
    simpa [scan, hspace, hopening, hclosing] using hrest

theorem flush_of_isWord {w : List Char} (hw : IsWord w) (rest : List Token) :
    flush w rest = .word w :: rest := by
  cases w with
  | nil => exact absurd rfl hw.1
  | cons c w => rfl

/-- What may come after an operand in canonical text. -/
inductive Follows : List Char → Prop where
  | nothing : Follows []
  | closing (rest : List Char) : Follows (')' :: rest)
  | and (rest : List Char) : Follows (" AND ".toList ++ rest)
  | or (rest : List Char) : Follows (" OR ".toList ++ rest)

theorem scan_word_space {w : List Char} (hw : IsWord w) (rest : List Char) :
    scan [] (w ++ ' ' :: rest) = .word w :: scan [] rest := by
  rw [scan_append [] w _ hw.2, List.nil_append, scan_space, flush_of_isWord hw]

theorem scan_word_follows {w rest : List Char} (hw : IsWord w) (h : Follows rest) :
    scan [] (w ++ rest) = .word w :: scan [] rest := by
  rw [scan_append [] w _ hw.2, List.nil_append]
  cases h with
  | nothing => exact flush_of_isWord hw []
  | closing rest => rw [scan_closing, flush_of_isWord hw, scan_closing]; rfl
  | and rest =>
    change scan w (' ' :: _) = _ :: scan [] (' ' :: _)
    rw [scan_space, flush_of_isWord hw, scan_space]
    rfl
  | or rest =>
    change scan w (' ' :: _) = _ :: scan [] (' ' :: _)
    rw [scan_space, flush_of_isWord hw, scan_space]
    rfl

theorem scan_and (rest : List Char) :
    scan [] (" AND ".toList ++ rest) = .word "AND".toList :: scan [] rest := by
  change scan [] (' ' :: ("AND".toList ++ ' ' :: rest)) = _
  rw [scan_space, scan_word_space (by decide)]
  rfl

theorem scan_or (rest : List Char) :
    scan [] (" OR ".toList ++ rest) = .word "OR".toList :: scan [] rest := by
  change scan [] (' ' :: ("OR".toList ++ ' ' :: rest)) = _
  rw [scan_space, scan_word_space (by decide)]
  rfl

end RecordQuery.Reading
