import Mathlib.Data.List.Basic
import RecordQuery.Proofs.Text.LatinBase

/-!
# Stripping diacritics

Once the marks are gone nothing is left to be put in order, and a composite can only arise from two
neighbours. So diacritics are stripped character by character but for the neighbours that compose,
and a text can be cut wherever the characters on both sides do not.
-/

namespace RecordQuery.Text

theorem isAscii_cons {c : Char} {s : List Char} :
    isAscii (c :: s) = true ↔ c.toNat < 128 ∧ isAscii s = true := by
  simp [isAscii]

theorem toNat_of_isAscii {s : List Char} (h : isAscii s = true) : ∀ c ∈ s, c.toNat < 128 := by
  simpa [isAscii] using h

variable [CharData]

open CharData

/-! ### Bare texts -/

/-- The characters of the decomposed form that are no marks. -/
def bare (s : List Char) : List Char := (s.flatMap decompose).filter fun c => !isMark c

theorem mem_bare {d : Char} {s : List Char} :
    d ∈ bare s ↔ isMark d = false ∧ ∃ c ∈ s, d ∈ decompose c := by
  simp [bare, and_comm]

@[simp]
theorem bare_nil : bare [] = [] := rfl

@[simp]
theorem bare_append (s t : List Char) : bare (s ++ t) = bare s ++ bare t := by
  simp [bare]

theorem bare_cons (c : Char) (s : List Char) : bare (c :: s) = bare [c] ++ bare s :=
  bare_append [c] s

/-- A text of characters that are no marks and have no decomposition. -/
def IsBare (s : List Char) : Prop := ∀ c ∈ s, isMark c = false ∧ decompose c = [c]

theorem IsBare.head {c : Char} {s : List Char} (h : IsBare (c :: s)) : IsBare [c] :=
  fun d hd => h d (by simp [List.mem_singleton.mp hd])

theorem IsBare.tail {c : Char} {s : List Char} (h : IsBare (c :: s)) : IsBare s :=
  fun d hd => h d (List.mem_cons_of_mem c hd)

theorem bare_of_isBare {s : List Char} (h : IsBare s) : bare s = s := by
  have hdecompose : s.flatMap decompose = s := by
    rw [List.flatMap_congr fun c hc => (h c hc).2]
    simp
  rw [bare, hdecompose, List.filter_eq_self]
  intro c hc
  simp [(h c hc).1]

theorem isBare_bare [DecompositionLaws] (s : List Char) : IsBare (bare s) := by
  intro c hc
  obtain ⟨hmark, d, -, hd⟩ := mem_bare.mp hc
  exact ⟨hmark, DecompositionLaws.decompose_of_mem hd⟩

section Order

variable [OrderLaws]

theorem combiningClass_of_not_isMark {c : Char} (h : isMark c = false) :
    combiningClass c = 0 := by
  by_contra hclass
  have hmark := OrderLaws.isMark_of_combiningClass hclass
  simp [h] at hmark

theorem filter_insertMark (c : Char) (s : List Char) :
    (insertMark c s).filter (fun d => !isMark d) = (c :: s).filter fun d => !isMark d := by
  induction s with
  | nil => rfl
  | cons d rest ih =>
    rw [insertMark]
    by_cases h : combiningClass d ≠ 0 ∧ combiningClass d < combiningClass c
    · have hd := OrderLaws.isMark_of_combiningClass h.1
      have hc : isMark c = true := OrderLaws.isMark_of_combiningClass (by omega)
      rw [if_pos h]
      simp [hc, hd, ih]
    · rw [if_neg h]

theorem filter_orderMarks (s : List Char) :
    (orderMarks s).filter (fun d => !isMark d) = s.filter fun d => !isMark d := by
  induction s with
  | nil => rfl
  | cons c rest ih =>
    rw [orderMarks, filter_insertMark]
    simp only [List.filter_cons, ih]

theorem filter_decomposed (s : List Char) :
    (decomposed s).filter (fun d => !isMark d) = bare s := filter_orderMarks _

theorem orderMarks_of_isBare {s : List Char} (h : IsBare s) : orderMarks s = s := by
  induction s with
  | nil => rfl
  | cons c rest ih =>
    have hclass := combiningClass_of_not_isMark (h c (by simp)).1
    rw [orderMarks, ih h.tail]
    cases rest with
    | nil => rfl
    | cons d rest =>
      rw [insertMark, if_neg]
      omega

theorem decomposed_of_isBare {s : List Char} (h : IsBare s) : decomposed s = s := by
  have hdecompose : s.flatMap decompose = s := by
    rw [List.flatMap_congr fun c hc => (h c hc).2]
    simp
  rw [decomposed, hdecompose, orderMarks_of_isBare h]

end Order

/-! ### Joining neighbours -/

/-- Composes neighbours from left to right, where `base` has been composed of what came before. -/
def joinFrom (base : Char) : List Char → List Char
  | [] => [base]
  | c :: rest =>
    match compose base c with
    | some composite => joinFrom composite rest
    | none => base :: joinFrom c rest

def joined : List Char → List Char
  | [] => []
  | c :: rest => joinFrom c rest

@[simp]
theorem joined_nil : joined [] = [] := rfl

theorem joinFrom_ne_nil (c : Char) (s : List Char) : joinFrom c s ≠ [] := by
  induction s generalizing c with
  | nil => simp [joinFrom]
  | cons d rest ih =>
    rw [joinFrom]
    cases compose c d with
    | some z => exact ih z
    | none => simp

/-- The second text begins with no character that composes with the last of the first text. -/
def Parts (s t : List Char) : Prop :=
  ∀ a ∈ (joined (bare s)).getLast?, ∀ b ∈ (bare t).head?, compose a b = none

theorem joinFrom_append {c : Char} {s t : List Char}
    (h : ∀ a ∈ (joinFrom c s).getLast?, ∀ b ∈ t.head?, compose a b = none) :
    joinFrom c (s ++ t) = joinFrom c s ++ joined t := by
  induction s generalizing c with
  | nil =>
    cases t with
    | nil => simp [joinFrom]
    | cons b rest =>
      have hnone : compose c b = none := h c (by simp [joinFrom]) b (by simp)
      simp [joinFrom, joined, hnone]
  | cons d rest ih =>
    rw [List.cons_append, joinFrom, joinFrom]
    rw [joinFrom] at h
    cases hcompose : compose c d with
    | some z =>
      rw [hcompose] at h
      exact ih h
    | none =>
      rw [hcompose] at h
      have hlast : ((c :: joinFrom d rest).getLast?) = (joinFrom d rest).getLast? := by
        obtain ⟨a, as, has⟩ := List.exists_cons_of_ne_nil (joinFrom_ne_nil d rest)
        rw [has, List.getLast?_cons_cons]
      have hrest : joinFrom d (rest ++ t) = joinFrom d rest ++ joined t := by
        apply ih
        rw [← hlast]
        exact h
      simp only [hrest, List.cons_append]

theorem joined_append {s t : List Char}
    (h : ∀ a ∈ (joined s).getLast?, ∀ b ∈ t.head?, compose a b = none) :
    joined (s ++ t) = joined s ++ joined t := by
  cases s with
  | nil => rfl
  | cons c rest => exact joinFrom_append h

/-! ### Stripped texts -/

section Order

variable [OrderLaws]

theorem composeFrom_of_isBare {base : Char} {s : List Char} (h : IsBare s) :
    composeFrom base [] s = joinFrom base s := by
  induction s generalizing base with
  | nil => rfl
  | cons c rest ih =>
    have hclass := combiningClass_of_not_isMark (h c (by simp)).1
    rw [composeFrom, joinFrom]
    cases hcompose : compose base c with
    | some z => simpa [hcompose] using ih h.tail
    | none => simpa [hcompose, hclass] using ih h.tail

theorem composeAll_of_isBare {s : List Char} (h : IsBare s) : composeAll s = joined s := by
  cases s with
  | nil => rfl
  | cons c rest =>
    have hclass := combiningClass_of_not_isMark (h c (by simp)).1
    rw [composeAll, if_pos hclass, joined, composeFrom_of_isBare h.tail]

theorem stripDiacritics_of_isBare_bare {s : List Char} (h : IsBare (bare s)) :
    stripDiacritics s = (joined (bare s)).map baseLetter := by
  rw [stripDiacritics, filter_decomposed, composed, decomposed_of_isBare h,
    composeAll_of_isBare h]
  rfl

variable [DecompositionLaws]

theorem stripDiacritics_eq (s : List Char) :
    stripDiacritics s = (joined (bare s)).map baseLetter :=
  stripDiacritics_of_isBare_bare (isBare_bare s)

theorem stripDiacritics_singleton {c : Char} (h : IsBare [c]) :
    stripDiacritics [c] = [baseLetter c] := by
  rw [stripDiacritics_eq, bare_of_isBare h]
  rfl

/-- Diacritics can be stripped in two parts where the text parts. -/
theorem stripDiacritics_append {s t : List Char} (h : Parts s t) :
    stripDiacritics (s ++ t) = stripDiacritics s ++ stripDiacritics t := by
  rw [stripDiacritics_eq, stripDiacritics_eq, stripDiacritics_eq, bare_append, joined_append h,
    List.map_append]

end Order

def plain (flags : Insensitivity) (s : List Char) : List Char :=
  if flags.ignoresDiacritics then stripDiacritics s else s

/-! ### Texts of ASCII characters -/

section Ascii

variable [AsciiLaws]

theorem isBare_of_isAscii {s : List Char} (h : isAscii s = true) : IsBare s := by
  intro c hc
  have hascii := toNat_of_isAscii h c hc
  exact ⟨AsciiLaws.isMark_ascii hascii, AsciiLaws.decompose_ascii hascii⟩

theorem joinFrom_of_isAscii {c : Char} {s : List Char} (hc : c.toNat < 128)
    (h : isAscii s = true) : joinFrom c s = c :: s := by
  induction s generalizing c with
  | nil => rfl
  | cons d rest ih =>
    obtain ⟨hd, hrest⟩ := isAscii_cons.mp h
    rw [joinFrom, AsciiLaws.compose_ascii hc hd]
    simp only [ih hd hrest]

theorem joined_of_isAscii {s : List Char} (h : isAscii s = true) : joined s = s := by
  cases s with
  | nil => rfl
  | cons c rest =>
    obtain ⟨hc, hrest⟩ := isAscii_cons.mp h
    exact joinFrom_of_isAscii hc hrest

section Order

variable [OrderLaws]

theorem stripDiacritics_of_isAscii {s : List Char} (h : isAscii s = true) :
    stripDiacritics s = s := by
  have hbare := isBare_of_isAscii h
  have hsame : bare s = s := bare_of_isBare hbare
  have hbase : s.map baseLetter = s :=
    map_baseLetter_of_eq_none fun c hc => latinBase_ascii (toNat_of_isAscii h c hc)
  rw [stripDiacritics_of_isBare_bare (by rwa [hsame]), hsame, joined_of_isAscii h, hbase]

theorem foldDiacritics_eq (s : List Char) : foldDiacritics s = stripDiacritics s := by
  by_cases h : isAscii s = true
  · rw [foldDiacritics, if_pos h, stripDiacritics_of_isAscii h]
  · rw [foldDiacritics, if_neg h]

end Order

end Ascii

section AsciiCase

variable [AsciiCaseLaws]

theorem lowerAfter_of_isAscii (before : List Char) {s : List Char} (h : isAscii s = true) :
    lowerAfter before s = s.map Char.toLower := by
  induction s generalizing before with
  | nil => rfl
  | cons c rest ih =>
    obtain ⟨hc, hrest⟩ := isAscii_cons.mp h
    have hsigma : c ≠ 'Σ' := by
      intro heq
      rw [heq] at hc
      exact absurd hc (by decide)
    rw [lowerAfter, if_neg hsigma, AsciiCaseLaws.lowercase_ascii hc, ih _ hrest]
    rfl

theorem lower_of_isAscii {s : List Char} (h : isAscii s = true) : lower s = s.map Char.toLower :=
  lowerAfter_of_isAscii [] h

theorem foldCase_eq (s : List Char) : foldCase s = lower s := by
  by_cases h : isAscii s = true
  · rw [foldCase, if_pos h, lower_of_isAscii h]
  · rw [foldCase, if_neg h]

theorem foldChars_eq [OrderLaws] [AsciiLaws] (flags : Insensitivity) (s : List Char) :
    foldChars flags s =
      if flags.ignoresCase then lower (plain flags s) else plain flags s := by
  simp only [foldChars, foldDiacritics_eq, foldCase_eq, plain]

end AsciiCase

end RecordQuery.Text
