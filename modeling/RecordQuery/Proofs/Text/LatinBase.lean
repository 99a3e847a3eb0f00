import RecordQuery.Proofs.Text.Laws
import RecordQuery.Text.Fold

/-!
# Base letters

However characters are spelt in ASCII, a base letter is an ASCII letter and belongs to a character
of the extended Latin blocks, which hold neither ASCII nor Greek.
-/

namespace RecordQuery.Text

variable [CharData] {c d : Char}

open CharData

theorem latinBase_eq_some_iff : latinBase c = some d ↔
    isExtendedLatin c = true ∧ asciiSpelling c = some [d] ∧ d.isAlpha = true := by
  unfold latinBase
  split
  case isFalse h => simp [h]
  case isTrue h =>
    simp only [h, true_and]
    split
    case h_1 letter hspelling =>
      rw [hspelling, Option.some_inj, List.singleton_inj]
      split
      case isTrue halpha =>
        rw [Option.some_inj]
        exact ⟨fun heq => ⟨heq, heq ▸ halpha⟩, fun heq => heq.1⟩
      case isFalse halpha =>
        refine ⟨nofun, fun heq => ?_⟩
        exact absurd (heq.1 ▸ heq.2) halpha
    case h_2 hspelling => simpa using fun heq => absurd heq (hspelling d)

theorem isAlpha_of_latinBase (h : latinBase c = some d) : d.isAlpha = true :=
  (latinBase_eq_some_iff.mp h).2.2

theorem latinBase_eq_none (h : isExtendedLatin c = false) : latinBase c = none := by
  simp [latinBase, h]

theorem latinBase_ascii (h : c.toNat < 128) : latinBase c = none := by
  have hlatin : ¬ 0xC0 ≤ c.toNat := by omega
  have hadditional : ¬ 0x1E00 ≤ c.toNat := by omega
  exact latinBase_eq_none (by simp [isExtendedLatin, hlatin, hadditional])

theorem latinBase_sigma (h : c ∈ ['Σ', 'σ', 'ς']) : latinBase c = none := by
  obtain rfl | rfl | rfl : c = 'Σ' ∨ c = 'σ' ∨ c = 'ς' := by simpa using h
  all_goals exact latinBase_eq_none rfl

/-- The base letter of a character, which is the character itself unless it is a Latin letter with
a stroke or hook. -/
def baseLetter (c : Char) : Char := (latinBase c).getD c

theorem baseLetter_cases (c : Char) :
    (baseLetter c = c ∧ latinBase c = none) ∨ (baseLetter c).isAlpha = true := by
  cases h : latinBase c with
  | none => exact .inl ⟨by simp [baseLetter, h], rfl⟩
  | some d => exact .inr (by simpa [baseLetter, h] using isAlpha_of_latinBase h)

theorem latinBase_baseLetter (c : Char) : latinBase (baseLetter c) = none := by
  obtain ⟨hsame, hnone⟩ | halpha := baseLetter_cases c
  · rwa [hsame]
  · exact latinBase_ascii (toNat_of_isAlpha halpha)

theorem map_baseLetter_of_eq_none {s : List Char} (h : ∀ c ∈ s, latinBase c = none) :
    s.map baseLetter = s := by
  rw [List.map_congr_left fun c hc => by rw [baseLetter, h c hc, Option.getD_none]]
  simp

end RecordQuery.Text
