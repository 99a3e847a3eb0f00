import RecordQuery.Proofs.Text.Stripping
import RecordQuery.Unicode.Standard

/-!
# The tables of the standard

The laws that are about ASCII, and that only marks have a combining class, hold of the tables of the
Unicode standard whatever is listed in them. So texts in any script are folded with these tables as
if ASCII had no ways of its own.
-/

namespace RecordQuery.Unicode

open CharData Text

theorem isMarkChar_of_lt {c : Char} (h : c.toNat < 0x300) : isMarkChar c = false := by
  have hlt : ¬ 0x300 ≤ c.toNat := by omega
  simp [isMarkChar, hlt]

instance : OrderLaws where
  isMark_of_combiningClass h := Decidable.byContradiction fun hmark => h (if_neg hmark)

instance : AsciiLaws where
  decompose_ascii {c} h := if_pos (show c.toNat < 0xC0 by omega)
  isMark_ascii h := isMarkChar_of_lt (by omega)
  compose_ascii {_ b} _ hb := if_pos (show b.toNat < 0x300 by omega)

instance : AsciiCaseLaws where
  lowercase_ascii h := if_pos h

instance : LetterLaws where
  isCased_of_isAlpha {c} h := by
    change (c.isAlpha || casedIndex.contains c) = true
    rw [h, Bool.true_or]
  isCaseIgnorable_of_isAlpha {c} h := by
    change (!c.isAlpha && caseIgnorableIndex.contains c) = false
    rw [h, Bool.not_true, Bool.false_and]

theorem foldChars_standard (flags : Insensitivity) (s : List Char) :
    foldChars flags s = if flags.ignoresCase then lower (plain flags s) else plain flags s :=
  foldChars_eq flags s

end RecordQuery.Unicode
