import RecordQuery.Proofs.Text.Bytes
import RecordQuery.Proofs.Value.Folded

/-!
# Strings and lists of characters

Without flags a text operator says of two strings what it says of the lists of their characters, and
what a search in their UTF-8 bytes says.
-/

namespace RecordQuery.Value

def character (c : Char) : Value := .string (.singleton c)

def characters (s : String) : Value := .list (s.toList.map character)

theorem character_injective : Function.Injective character := by
  intro c d h
  simpa using congrArg String.toList (Value.string.inj h)

section

variable [CharData]

theorem countsAs_character {v : Value} {c : Char} :
    CountsAs ∅ v (character c) ↔ v = character c := by
  have hexact : (∅ : Insensitivity).isEmpty = true := rfl
  rw [← alike_iff, character]
  cases v with
  | string s => rw [alike, hexact, if_pos rfl, sameAs_string, beq_iff_eq, Value.string.injEq]
  | _ => simp [alike, sameAs, compare]

theorem forall₂_character {run : List Value} {p : List Char} :
    List.Forall₂ (CountsAs ∅) run (p.map character) ↔ run = p.map character := by
  rw [List.forall₂_map_right_iff]
  simp only [countsAs_character]
  rw [← List.forall₂_map_right_iff (R := (· = ·)), List.forall₂_eq_eq_eq]

theorem matchItems_characters (op : Operator) (s p : List Char) :
    matchItems op ∅ (s.map character) (p.map character) = matchChars op s p := by
  rw [Bool.eq_iff_iff]
  cases op with
  | beginsWith =>
    rw [matchItems_beginsWith_iff, matchChars, List.isPrefixOf_iff_prefix,
      ← List.prefix_map_iff_of_injective character_injective]
    simp only [forall₂_character]
    constructor
    · intro h
      obtain ⟨run, t, heq, rfl⟩ := h
      exact ⟨t, heq.symm⟩
    · intro h
      obtain ⟨t, heq⟩ := h
      exact ⟨p.map character, t, heq.symm, rfl⟩
  | endsWith =>
    rw [matchItems_endsWith_iff, matchChars, List.isSuffixOf_iff_suffix,
      ← List.suffix_map_iff_of_injective character_injective]
    simp only [forall₂_character]
    constructor
    · intro h
      obtain ⟨before, run, heq, rfl⟩ := h
      exact ⟨before, heq.symm⟩
    · intro h
      obtain ⟨before, heq⟩ := h
      exact ⟨before, p.map character, heq.symm, rfl⟩
  | contains =>
    have hinfix : p <:+: s ↔ p.map character <:+: s.map character := by
      simp [List.infix_map_iff, List.map_inj_right character_injective]
    rw [matchItems_contains_iff, matchChars, Text.occursIn_iff, hinfix]
    simp only [forall₂_character]
    constructor
    · intro h
      obtain ⟨before, run, t, heq, rfl⟩ := h
      exact ⟨before, t, heq.symm⟩
    · intro h
      obtain ⟨before, t, heq⟩ := h
      exact ⟨before, p.map character, t, heq.symm, rfl⟩
  | _ => simp [matchItems, matchChars]

/-- Without flags the text operators take a string for the list of its characters, whichever way
the string is searched: character by character or in its UTF-8 bytes. -/
theorem matchText_characters (op : Operator) (s p : String) :
    matchText op ∅ (.string s) (.string p) = matchText op ∅ (characters s) (characters p) ∧
      matchText op ∅ (.string s) (.string p) =
        Text.matchBytes op (Text.bytes s) (Text.bytes p) := by
  have hchars : matchText op ∅ (.string s) (.string p) = matchChars op s.toList p.toList := rfl
  rw [hchars, characters, characters, matchText, matchItems_characters, Text.matchBytes_bytes]
  exact ⟨rfl, rfl⟩

end

end RecordQuery.Value
