import Mathlib.Data.List.Basic
import Mathlib.Tactic.MkIffOfInductiveProp
import RecordQuery.Proofs.Text.Laws

/-!
# An excerpt of the standard's data

The ASCII characters and a few others, with the data that the Unicode standard has for them: letters
with an acute accent, Greek letters, a Latin letter with a hook, the jamo of a Hangul syllable, and
a spacing mark. It is small enough to compute with, and the laws can be checked on it.
-/

namespace RecordQuery.CharData

namespace Excerpt

def decompositions : List (Char × List Char) :=
  [('É', ['E', '\u0301']), ('é', ['e', '\u0301']), ('하', ['\u1112', '\u1161']),
    ('한', ['\u1112', '\u1161', '\u11AB'])]

def composites : List ((Char × Char) × Char) :=
  [(('E', '\u0301'), 'É'), (('e', '\u0301'), 'é'), (('\u1112', '\u1161'), '하'),
    (('하', '\u11AB'), '한')]

def lowercaseLetters : List (Char × Char) := [('É', 'é'), ('Ɓ', 'ɓ'), ('Α', 'α'), ('Σ', 'σ')]

def marks : List Char := ['\u0301', '\u0903']

def casedLetters : List Char := ['É', 'é', 'Ɓ', 'ɓ', 'Α', 'α', 'Σ', 'σ', 'ς']

def spellings : List (Char × List Char) :=
  [('É', ['E']), ('é', ['e']), ('Ɓ', ['B']), ('ɓ', ['b']), ('Α', ['A']), ('α', ['a']),
    ('Σ', ['S']), ('σ', ['s']), ('ς', ['s'])]

def caseIgnorables : List Char := ['\'', '.', ':', '^', '`', '\u0301']

end Excerpt

open Excerpt

/-- Characters that are not in the excerpt are taken for signs. -/
@[reducible]
def excerpt : CharData where
  isMark c := marks.contains c
  combiningClass c := if c = '\u0301' then 230 else 0
  decompose c := (decompositions.lookup c).getD [c]
  compose a b := composites.lookup (a, b)
  lowercase c := [if c.toNat < 128 then c.toLower else (lowercaseLetters.lookup c).getD c]
  isCased c := (c.toNat < 128 && c.isAlpha) || casedLetters.contains c
  isCaseIgnorable c := caseIgnorables.contains c
  isAlphabetic c := c.isAlpha || casedLetters.contains c
  asciiSpelling c := if c.toNat < 128 then some [c] else spellings.lookup c

namespace Excerpt

def listed : List Char := marks ++ casedLetters ++ ['하', '한']

structure IsSign (c : Char) : Prop where
  decompose_eq : excerpt.decompose c = [c]
  lowercase_eq : excerpt.lowercase c = [c]
  isMark_eq : excerpt.isMark c = false
  isCased_eq : excerpt.isCased c = false
  combiningClass_eq : excerpt.combiningClass c = 0

theorem lookup_eq_none {α β : Type} [BEq α] [LawfulBEq α] {a : α} {l : List (α × β)}
    (h : ∀ p ∈ l, p.1 ≠ a) : l.lookup a = none := by
  rw [List.lookup_eq_none_iff]
  intro p hp
  simpa using (h p hp).symm

theorem mem_of_lookup {α β : Type} [BEq α] [LawfulBEq α] {a : α} {b : β} {l : List (α × β)}
    (h : l.lookup a = some b) : (a, b) ∈ l := by
  obtain ⟨before, after, rfl, -⟩ := List.lookup_eq_some_iff.mp h
  simp

theorem isSign {c : Char} (hascii : ¬ c.toNat < 128) (h : c ∉ listed) : IsSign c where
  decompose_eq := by
    have hkeys : ∀ p ∈ decompositions, p.1 ∈ listed := by decide
    have hnone : decompositions.lookup c = none :=
      lookup_eq_none fun p hp heq => h (heq ▸ hkeys p hp)
    change (decompositions.lookup c).getD [c] = [c]
    rw [hnone]
    rfl
  lowercase_eq := by
    have hkeys : ∀ p ∈ lowercaseLetters, p.1 ∈ listed := by decide
    have hnone : lowercaseLetters.lookup c = none :=
      lookup_eq_none fun p hp heq => h (heq ▸ hkeys p hp)
    change [if c.toNat < 128 then c.toLower else (lowercaseLetters.lookup c).getD c] = [c]
    rw [if_neg hascii, hnone]
    rfl
  isMark_eq := by
    change marks.contains c = false
    simpa using fun hc => h (by simp [listed, hc])
  isCased_eq := by
    change ((c.toNat < 128 && c.isAlpha) || casedLetters.contains c) = false
    simpa [hascii] using fun hc => h (by simp [listed, hc])
  combiningClass_eq := by
    change (if c = '\u0301' then 230 else 0) = 0
    rw [if_neg]
    intro hc
    exact h (hc ▸ by decide)

/-! ### The laws -/

/-- What the laws demand of one character. -/
@[mk_iff]
structure Lawful (c : Char) : Prop where
  isMark_of_combiningClass : excerpt.combiningClass c ≠ 0 → excerpt.isMark c = true
  decompose_of_mem : (excerpt.decompose c).Forall fun d => excerpt.decompose d = [d]
  lowercase_of_mem : (excerpt.lowercase c).Forall fun d => excerpt.lowercase d = [d]
  lowercase_of_not_isCased : excerpt.isCased c = false → excerpt.lowercase c = [c]
  isCased_of_mem_lowercase : (excerpt.lowercase c).Forall fun d =>
    d ≠ c → excerpt.isMark d = false → excerpt.isCased d = true
  lowercase_decompose :
    ((excerpt.decompose c).filter fun d => !excerpt.isMark d).flatMap excerpt.lowercase =
      ((excerpt.lowercase c).flatMap excerpt.decompose).filter fun d => !excerpt.isMark d
  eq_of_capitalSigma_mem : 'Σ' ∈ excerpt.decompose c → c = 'Σ'

instance : DecidablePred Lawful := fun c => decidable_of_iff _ (lawful_iff c).symm

@[mk_iff]
structure LawfulAscii (c : Char) : Prop extends Lawful c where
  decompose_eq : excerpt.decompose c = [c]
  isMark_eq : excerpt.isMark c = false
  lowercase_eq : excerpt.lowercase c = [c.toLower]

instance : DecidablePred LawfulAscii := fun c => decidable_of_iff _ (lawfulAscii_iff c).symm

theorem lawfulAscii {c : Char} (h : c.toNat < 128) : LawfulAscii c := by
  have hall : ∀ n < 128, LawfulAscii (.ofNat n) := by decide +kernel
  have hc := hall c.toNat h
  rwa [Char.ofNat_toNat] at hc

theorem IsSign.lawful {c : Char} (h : IsSign c) : Lawful c where
  isMark_of_combiningClass hclass := absurd h.combiningClass_eq hclass
  decompose_of_mem := by simp [h.decompose_eq]
  lowercase_of_mem := by simp [h.lowercase_eq]
  lowercase_of_not_isCased _ := h.lowercase_eq
  isCased_of_mem_lowercase := by simp [h.lowercase_eq]
  lowercase_decompose := by simp [h.decompose_eq, h.lowercase_eq, h.isMark_eq]
  eq_of_capitalSigma_mem := by simp [h.decompose_eq, eq_comm]

theorem lawful (c : Char) : Lawful c := by
  have hlisted : listed.Forall Lawful := by decide
  by_cases hascii : c.toNat < 128
  · exact (lawfulAscii hascii).toLawful
  · by_cases hmem : c ∈ listed
    · exact List.forall_iff_forall_mem.mp hlisted c hmem
    · exact (isSign hascii hmem).lawful

theorem compose_ascii {a b : Char} (hb : b.toNat < 128) : excerpt.compose a b = none := by
  have hkeys : ∀ p ∈ composites, 128 ≤ p.1.2.toNat := by decide
  apply lookup_eq_none
  intro p hp heq
  have hcode : 128 ≤ b.toNat := by simpa [heq] using hkeys p hp
  omega

theorem compose_of_not_isMark {a b c : Char} (h : excerpt.compose a b = some c)
    (hb : excerpt.isMark b = false) : excerpt.isMark c = false ∧ excerpt.isCased a = false ∧
      excerpt.isCased b = false ∧ excerpt.isCased c = false := by
  have hcomposites : ∀ p ∈ composites, excerpt.isMark p.1.2 = false →
      excerpt.isMark p.2 = false ∧ excerpt.isCased p.1.1 = false ∧
        excerpt.isCased p.1.2 = false ∧ excerpt.isCased p.2 = false := by
    decide
  exact hcomposites _ (mem_of_lookup h) hb

instance : @OrderLaws excerpt :=
  @OrderLaws.mk excerpt fun {c} => (lawful c).isMark_of_combiningClass

instance : @DecompositionLaws excerpt :=
  @DecompositionLaws.mk excerpt
    fun {c d} => List.forall_iff_forall_mem.mp (lawful c).decompose_of_mem d

instance : @AsciiLaws excerpt :=
  @AsciiLaws.mk excerpt (fun h => (lawfulAscii h).decompose_eq) (fun h => (lawfulAscii h).isMark_eq)
    (fun _ hb => compose_ascii hb)

instance : @AsciiCaseLaws excerpt := @AsciiCaseLaws.mk excerpt fun h => (lawfulAscii h).lowercase_eq

instance : @MarkLaws excerpt :=
  @MarkLaws.mk excerpt fun {c d} hc hd => by
    have hmarks : marks.Forall fun c => excerpt.decompose c = [c] := by decide
    have hmem : c ∈ marks := List.contains_iff_mem.mp hc
    rw [List.forall_iff_forall_mem.mp hmarks c hmem, List.mem_singleton] at hd
    rw [hd]
    exact hc

theorem isCased_of_isAlpha {c : Char} (h : c.isAlpha = true) : excerpt.isCased c = true := by
  change ((c.toNat < 128 && c.isAlpha) || casedLetters.contains c) = true
  simp [h, toNat_of_isAlpha h]

theorem isCaseIgnorable_of_isAlpha {c : Char} (h : c.isAlpha = true) :
    excerpt.isCaseIgnorable c = false := by
  have hsigns : caseIgnorables.Forall fun c => c.isAlpha = false := by decide
  change caseIgnorables.contains c = false
  simp only [List.contains_eq_mem, decide_eq_false_iff_not]
  intro hmem
  simp [List.forall_iff_forall_mem.mp hsigns c hmem] at h

theorem isAlpha_eq_false {c : Char} (h : excerpt.isCased c = false) : c.isAlpha = false := by
  by_contra halpha
  simp [isCased_of_isAlpha (by simpa using halpha)] at h

instance : @LetterLaws excerpt :=
  @LetterLaws.mk excerpt isCased_of_isAlpha isCaseIgnorable_of_isAlpha

instance : @JunctionLaws excerpt :=
  @JunctionLaws.mk excerpt fun h _ hb => by
    obtain ⟨hz, ha, hb, -⟩ := compose_of_not_isMark h hb
    exact ⟨isAlpha_eq_false ha, isAlpha_eq_false hb, hz⟩

theorem decompose_of_compose {a b z : Char} (h : excerpt.compose a b = some z) :
    excerpt.decompose z = excerpt.decompose a ++ excerpt.decompose b := by
  have hcomposites : ∀ p ∈ composites,
      excerpt.decompose p.2 = excerpt.decompose p.1.1 ++ excerpt.decompose p.1.2 := by
    decide
  exact hcomposites _ (mem_of_lookup h)

instance : @CompositeLaws excerpt :=
  @CompositeLaws.mk excerpt decompose_of_compose

theorem sigma {c : Char} (h : c ∈ ['Σ', 'σ', 'ς']) : excerpt.decompose c = [c] ∧
    excerpt.isMark c = false ∧ excerpt.isCased c = true := by
  have hforms : ['Σ', 'σ', 'ς'].Forall fun c => excerpt.decompose c = [c] ∧
      excerpt.isMark c = false ∧ excerpt.isCased c = true := by
    decide
  exact List.forall_iff_forall_mem.mp hforms c h

instance : @CaseLaws excerpt :=
  @CaseLaws.mk excerpt (fun _ => ⟨_, rfl⟩)
    (fun {c d} => List.forall_iff_forall_mem.mp (lawful c).lowercase_of_mem d)
    (fun {c} => (lawful c).lowercase_of_not_isCased)
    (fun {c d} => List.forall_iff_forall_mem.mp (lawful c).isCased_of_mem_lowercase d)
    (fun c => (lawful c).lowercase_decompose) (fun h _ hb => compose_of_not_isMark h hb)
    sigma rfl rfl
    (fun {c} => (lawful c).eq_of_capitalSigma_mem)

end Excerpt

end RecordQuery.CharData
