import RecordQuery.Text.CharData

/-!
# Laws of character data

What the Unicode standard says of its character data, as far as folding relies on it.
-/

namespace RecordQuery

theorem isAlpha_iff {c : Char} :
    c.isAlpha = true ↔ 65 ≤ c.toNat ∧ c.toNat ≤ 90 ∨ 97 ≤ c.toNat ∧ c.toNat ≤ 122 := by
  have hupper : c.isUpper = true ↔ 65 ≤ c.toNat ∧ c.toNat ≤ 90 := decide_eq_true_iff
  have hlower : c.isLower = true ↔ 97 ≤ c.toNat ∧ c.toNat ≤ 122 :=
    Bool.and_eq_true_iff.trans (and_congr decide_eq_true_iff decide_eq_true_iff)
  have halpha : c.isAlpha = (c.isUpper || c.isLower) := rfl
  rw [halpha, Bool.or_eq_true, hupper, hlower]

theorem toNat_of_isAlpha {c : Char} (h : c.isAlpha = true) : c.toNat < 128 := by
  have hcode := isAlpha_iff.mp h
  omega

namespace CharData

/-- Marks are the only characters with a combining class. -/
class OrderLaws [CharData] : Prop where
  isMark_of_combiningClass {c : Char} (h : combiningClass c ≠ 0) : isMark c = true

class DecompositionLaws [CharData] : Prop where
  decompose_of_mem {c d : Char} (h : d ∈ decompose c) : decompose d = [d]

class AsciiLaws [CharData] : Prop where
  decompose_ascii {c : Char} (h : c.toNat < 128) : decompose c = [c]
  isMark_ascii {c : Char} (h : c.toNat < 128) : isMark c = false
  compose_ascii {a b : Char} (ha : a.toNat < 128) (hb : b.toNat < 128) : compose a b = none

/-- The case of ASCII characters is a matter of ASCII alone. -/
class AsciiCaseLaws [CharData] : Prop where
  lowercase_ascii {c : Char} (h : c.toNat < 128) : lowercase c = [c.toLower]

class LetterLaws [CharData] : Prop where
  isCased_of_isAlpha {c : Char} (h : c.isAlpha = true) : isCased c = true
  isCaseIgnorable_of_isAlpha {c : Char} (h : c.isAlpha = true) : isCaseIgnorable c = false

class MarkLaws [CharData] : Prop where
  isMark_of_mem_decompose {c d : Char} (hc : isMark c = true) (hd : d ∈ decompose c) :
    isMark d = true

/-- Characters that are no marks make no mark, and no ASCII letter is among those that compose. -/
class JunctionLaws [CharData] : Prop where
  isAlpha_of_compose {a b z : Char} (h : compose a b = some z) (ha : isMark a = false)
    (hb : isMark b = false) : a.isAlpha = false ∧ b.isAlpha = false ∧ isMark z = false

/-- A composite decomposes as its two parts do, so that decomposing undoes composing. -/
class CompositeLaws [CharData] : Prop where
  decompose_of_compose {a b z : Char} (h : compose a b = some z) :
    decompose z = decompose a ++ decompose b

/-- Letters with a case: what their lower-case forms are, and that they compose with marks only. -/
class CaseLaws [CharData] : Prop where
  exists_lowercase {c : Char} (h : decompose c = [c]) : ∃ d, lowercase c = [d]
  lowercase_of_mem {c d : Char} (h : d ∈ lowercase c) : lowercase d = [d]
  lowercase_of_not_isCased {c : Char} (h : isCased c = false) : lowercase c = [c]
  isCased_of_mem_lowercase {c d : Char} (h : d ∈ lowercase c) (hne : d ≠ c)
    (hmark : isMark d = false) : isCased d = true
  lowercase_decompose (c : Char) :
    ((decompose c).filter fun d => !isMark d).flatMap lowercase =
      ((lowercase c).flatMap decompose).filter fun d => !isMark d
  /-- Characters that are no marks compose only if they have no case, as jamo do. -/
  compose_of_not_isMark {a b c : Char} (h : compose a b = some c) (ha : isMark a = false)
    (hb : isMark b = false) :
    isMark c = false ∧ isCased a = false ∧ isCased b = false ∧ isCased c = false
  sigma {c : Char} (h : c ∈ ['Σ', 'σ', 'ς']) :
    decompose c = [c] ∧ isMark c = false ∧ isCased c = true
  lowercase_capitalSigma : lowercase 'Σ' = ['σ']
  lowercase_finalSigma : lowercase 'ς' = ['ς']
  eq_of_capitalSigma_mem {c : Char} (h : 'Σ' ∈ decompose c) : c = 'Σ'

end CharData

end RecordQuery
