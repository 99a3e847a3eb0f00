import Mathlib.Data.List.Chain
import RecordQuery.Proofs.Text.Ascii

/-!
# The normal form without diacritics

A text without diacritics consists of characters each of which is composed of its own decomposition,
with no neighbours left that would compose. Putting base letters for letters with a stroke or hook
keeps it so, because an ASCII letter composes with marks only. So stripping a second time takes the
text apart and puts it together again as it was.
-/

namespace RecordQuery.Text

open CharData

section

variable [CharData] {a b c z : Char} {s : List Char}

/-! ### Whole characters -/

structure IsWhole (z : Char) : Prop where
  not_isMark : isMark z = false
  isBare_decompose : IsBare (decompose z)
  joined_decompose : joined (decompose z) = [z]

theorem IsWhole.of_isBare (h : IsBare [c]) : IsWhole c := by
  obtain ⟨hmark, hdecompose⟩ := h c (by simp)
  refine ⟨hmark, ?_, ?_⟩
  · rwa [hdecompose]
  · rw [hdecompose]
    rfl

theorem IsWhole.exists_decompose (h : IsWhole z) : ∃ c rest, decompose z = c :: rest := by
  apply List.exists_cons_of_ne_nil
  intro hnil
  have hjoined := h.joined_decompose
  simp [hnil] at hjoined

theorem joinFrom_append_of_eq (h : joinFrom c s = [z]) (t : List Char) :
    joinFrom c (s ++ t) = joinFrom z t := by
  induction s generalizing c with
  | nil =>
    obtain rfl : c = z := by simpa [joinFrom] using h
    rfl
  | cons d rest ih =>
    rw [joinFrom] at h
    rw [List.cons_append, joinFrom]
    cases hcompose : compose c d with
    | some composite =>
      rw [hcompose] at h
      exact ih h
    | none =>
      rw [hcompose] at h
      have hrest : joinFrom d rest = [] := (List.cons.inj h).2
      exact absurd hrest (joinFrom_ne_nil d rest)

theorem IsWhole.joined_append (h : IsWhole z) (t : List Char) :
    joined (decompose z ++ t) = joinFrom z t := by
  obtain ⟨c, rest, hdecompose⟩ := h.exists_decompose
  have hjoined := h.joined_decompose
  rw [hdecompose, joined] at hjoined
  rw [hdecompose, List.cons_append, joined, joinFrom_append_of_eq hjoined]

/-! ### Settled texts -/

def Apart (a b : Char) : Prop := ∀ c ∈ (decompose b).head?, compose a c = none

/-- A text of whole characters none of which composes with what comes next. -/
structure IsSettled (s : List Char) : Prop where
  isWhole : ∀ z ∈ s, IsWhole z
  apart : s.IsChain Apart

theorem isSettled_cons :
    IsSettled (z :: s) ↔ IsWhole z ∧ (∀ y ∈ s.head?, Apart z y) ∧ IsSettled s := by
  constructor
  · intro h
    obtain ⟨hz, hs⟩ := List.forall_mem_cons.mp h.isWhole
    obtain ⟨hapart, hrest⟩ := List.isChain_cons.mp h.apart
    exact ⟨hz, hapart, hs, hrest⟩
  · intro h
    obtain ⟨hz, hapart, hs⟩ := h
    exact ⟨List.forall_mem_cons.mpr ⟨hz, hs.isWhole⟩, List.isChain_cons.mpr ⟨hapart, hs.apart⟩⟩

theorem IsSettled.isBare (h : IsSettled s) : IsBare (s.flatMap decompose) := by
  intro c hc
  obtain ⟨z, hz, hcz⟩ := List.mem_flatMap.mp hc
  exact (h.isWhole z hz).isBare_decompose c hcz

theorem IsSettled.bare_eq (h : IsSettled s) : bare s = s.flatMap decompose := by
  rw [bare, List.filter_eq_self]
  intro c hc
  simp [(h.isBare c hc).1]

theorem IsSettled.joined_bare (h : IsSettled s) : joined (bare s) = s := by
  rw [h.bare_eq]
  induction s with
  | nil => rfl
  | cons z rest ih =>
    obtain ⟨hz, hapart, hrest⟩ := isSettled_cons.mp h
    rw [List.flatMap_cons, joined_append, hz.joined_decompose, ih hrest]
    · rfl
    · intro a ha b hb
      obtain rfl : z = a := by simpa [hz.joined_decompose] using ha
      cases rest with
      | nil => simp at hb
      | cons y rest =>
        obtain ⟨c, tail, hdecompose⟩ := (hrest.isWhole y (by simp)).exists_decompose
        rw [List.flatMap_cons, hdecompose] at hb
        obtain rfl : c = b := by simpa using hb
        exact hapart y (by simp) c (by simp [hdecompose])

theorem decomposed_of_isSettled [OrderLaws] (h : IsSettled s) : decomposed s = bare s := by
  rw [decomposed, h.bare_eq, orderMarks_of_isBare h.isBare]

theorem stripDiacritics_of_isSettled [OrderLaws] (h : IsSettled s)
    (hbase : ∀ c ∈ s, latinBase c = none) : stripDiacritics s = s := by
  have hbare : IsBare (bare s) := h.bare_eq ▸ h.isBare
  rw [stripDiacritics_of_isBare_bare hbare, h.joined_bare, map_baseLetter_of_eq_none hbase]

theorem toList_fold_diacriticOnly [OrderLaws] [AsciiLaws] (s : String) :
    (fold .diacriticOnly s).toList = stripDiacritics s.toList := by
  rw [fold, String.toList_ofList]
  exact foldDiacritics_eq s.toList

theorem latinBase_of_mem_stripDiacritics (h : c ∈ stripDiacritics s) : latinBase c = none := by
  obtain ⟨z, -, rfl⟩ := List.mem_map.mp h
  exact latinBase_baseLetter z

/-! ### Base letters -/

section BaseLetters

variable [AsciiLaws]

theorem IsWhole.baseLetter (h : IsWhole z) : IsWhole (baseLetter z) := by
  obtain ⟨hsame, -⟩ | halpha := baseLetter_cases z
  · rwa [hsame]
  · exact IsWhole.of_isBare (isBare_of_isAlpha halpha)

variable [JunctionLaws]

theorem Apart.baseLetter (h : Apart a b) (ha : IsWhole a) (hb : IsWhole b) :
    Apart (baseLetter a) (baseLetter b) := by
  intro c hc
  have hmark := ha.baseLetter.not_isMark
  have hcmark : isMark c = false :=
    (hb.baseLetter.isBare_decompose c (List.mem_of_mem_head? hc)).1
  obtain ⟨hasame, -⟩ | halpha := baseLetter_cases a
  · obtain ⟨hbsame, -⟩ | hbalpha := baseLetter_cases b
    · rw [hbsame] at hc
      rw [hasame]
      exact h c hc
    · rw [(isBare_of_isAlpha hbalpha _ (by simp)).2] at hc
      obtain rfl : Text.baseLetter b = c := by simpa using hc
      exact compose_of_isAlpha hmark hcmark (.inr hbalpha)
  · exact compose_of_isAlpha hmark hcmark (.inl halpha)

theorem IsSettled.map_baseLetter (h : IsSettled s) : IsSettled (s.map baseLetter) := by
  induction s with
  | nil => exact h
  | cons z rest ih =>
    obtain ⟨hz, hapart, hrest⟩ := isSettled_cons.mp h
    refine isSettled_cons.mpr ⟨hz.baseLetter, fun y hy => ?_, ih hrest⟩
    rw [List.head?_map] at hy
    obtain ⟨x, hx, rfl⟩ := Option.map_eq_some_iff.mp hy
    exact (hapart x hx).baseLetter hz (hrest.isWhole x (List.mem_of_mem_head? hx))

end BaseLetters

/-! ### Composition -/

variable [CompositeLaws]

section Joining

variable [JunctionLaws]

theorem IsWhole.of_compose (ha : IsWhole a) (hc : IsBare [c]) (h : compose a c = some z) :
    IsWhole z ∧ (decompose z).head? = (decompose a).head? := by
  obtain ⟨hcmark, hcdecompose⟩ := hc c (by simp)
  obtain ⟨-, -, hzmark⟩ := JunctionLaws.isAlpha_of_compose h ha.not_isMark hcmark
  have hdecompose : decompose z = decompose a ++ [c] := by
    rw [CompositeLaws.decompose_of_compose h, hcdecompose]
  refine ⟨⟨hzmark, ?_, ?_⟩, ?_⟩
  · rw [hdecompose]
    intro d hd
    obtain hd | hd := List.mem_append.mp hd
    · exact ha.isBare_decompose d hd
    · exact hc d hd
  · rw [hdecompose, ha.joined_append, joinFrom, h]
    rfl
  · obtain ⟨d, rest, hd⟩ := ha.exists_decompose
    rw [hdecompose, hd]
    rfl

theorem isSettled_joinFrom (ha : IsWhole a) (hs : IsBare s) :
    IsSettled (joinFrom a s) ∧
      ∀ y ∈ (joinFrom a s).head?, (decompose y).head? = (decompose a).head? := by
  induction s generalizing a with
  | nil =>
    refine ⟨isSettled_cons.mpr ⟨ha, by simp, by simp, List.isChain_nil⟩, fun y hy => ?_⟩
    obtain rfl : a = y := by simpa [joinFrom] using hy
    rfl
  | cons c rest ih =>
    rw [joinFrom]
    cases hcompose : compose a c with
    | some z =>
      obtain ⟨hz, hhead⟩ := ha.of_compose hs.head hcompose
      rw [← hhead]
      exact ih hz hs.tail
    | none =>
      -- what comes next has yet to be composed, but it will begin with `c` all the same
      obtain ⟨hrest, hfirst⟩ := ih (IsWhole.of_isBare hs.head) hs.tail
      refine ⟨isSettled_cons.mpr ⟨ha, fun y hy d hd => ?_, hrest⟩, fun y hy => ?_⟩
      · rw [hfirst y hy, (hs c (by simp)).2] at hd
        obtain rfl : c = d := by simpa using hd
        exact hcompose
      · obtain rfl : a = y := by simpa using hy
        rfl

theorem isSettled_joined (h : IsBare s) : IsSettled (joined s) := by
  cases s with
  | nil => exact ⟨by simp, List.isChain_nil⟩
  | cons c rest => exact (isSettled_joinFrom (IsWhole.of_isBare h.head) h.tail).1

end Joining

/-! ### Stripped texts -/

variable [AsciiLaws] [JunctionLaws] [OrderLaws] [DecompositionLaws]

theorem isSettled_stripDiacritics (s : List Char) : IsSettled (stripDiacritics s) := by
  rw [stripDiacritics_eq]
  exact (isSettled_joined (isBare_bare s)).map_baseLetter

/-- Where only diacritics are ignored, folding gives a normal form: a text without marks, whether
decomposed or not, and without letters that have another base, which folding leaves as it is. -/
theorem fold_diacriticOnly_normal (s : String) :
    (∀ c ∈ (fold .diacriticOnly s).toList, isMark c = false ∧ latinBase c = none) ∧
    (∀ c ∈ decomposed (fold .diacriticOnly s).toList, isMark c = false) ∧
    fold .diacriticOnly (fold .diacriticOnly s) = fold .diacriticOnly s := by
  have hsettled := isSettled_stripDiacritics s.toList
  rw [← toList_fold_diacriticOnly] at hsettled
  have hbase : ∀ c ∈ (fold .diacriticOnly s).toList, latinBase c = none := fun c hc =>
    latinBase_of_mem_stripDiacritics (toList_fold_diacriticOnly s ▸ hc)
  refine ⟨fun c hc => ⟨(hsettled.isWhole c hc).not_isMark, hbase c hc⟩, fun c hc => ?_, ?_⟩
  · rw [decomposed_of_isSettled hsettled] at hc
    exact (isBare_bare _ c hc).1
  · rw [← String.toList_inj, toList_fold_diacriticOnly,
      stripDiacritics_of_isSettled hsettled hbase]

end

theorem fold_diacriticOnly_normal_syllable :
    @fold excerpt .diacriticOnly "ÉƁ\u1112\u0301\u1161\u11AB" = "EB한" ∧
      (∀ c ∈ (@fold excerpt .diacriticOnly "ÉƁ\u1112\u0301\u1161\u11AB").toList,
        excerpt.isMark c = false ∧ @latinBase excerpt c = none) ∧
      @fold excerpt .diacriticOnly (@fold excerpt .diacriticOnly "ÉƁ\u1112\u0301\u1161\u11AB") =
        @fold excerpt .diacriticOnly "ÉƁ\u1112\u0301\u1161\u11AB" := by
  obtain ⟨hchars, -, hagain⟩ :=
    @fold_diacriticOnly_normal excerpt _ _ _ _ _ "ÉƁ\u1112\u0301\u1161\u11AB"
  exact ⟨by decide, hchars, hagain⟩

end RecordQuery.Text
