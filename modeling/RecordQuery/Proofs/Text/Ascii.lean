import RecordQuery.Proofs.Text.Excerpt
import RecordQuery.Proofs.Text.Stripping
import RecordQuery.Proofs.Value.Folded

/-!
# ASCII characters in folding

ASCII text takes a shorter way through folding, which ends where the general way does. Where the
case is ignored, that of an ASCII letter makes no difference in any text: the letter is a letter to
the sigmas around it in either case, and nothing but a mark composes with it.
-/

namespace RecordQuery.Text

open CharData

/-! ### ASCII text -/

section

variable [CharData]

/-- Folds a text as the flags ask and makes no exception of ASCII text. -/
def foldGenerally (flags : Insensitivity) (s : List Char) : List Char :=
  if flags.ignoresCase then lower (plain flags s) else plain flags s

theorem fold_eq_foldGenerally [OrderLaws] [AsciiLaws] [AsciiCaseLaws] :
    (∀ (flags : Insensitivity) (s : String),
      fold flags s = .ofList (foldGenerally flags s.toList)) ∧
    ∀ s : List Char, isAscii s = true →
      stripDiacritics s = s ∧ lower s = s.map Char.toLower := by
  refine ⟨fun flags s => ?_, fun s h => ⟨stripDiacritics_of_isAscii h, lower_of_isAscii h⟩⟩
  rw [fold, foldChars_eq, foldGenerally]

end

theorem fold_eq_foldGenerally_accented :
    isAscii "ÉA".toList = false ∧ isAscii "EA".toList = true ∧
      @stripDiacritics excerpt "ÉA".toList = @stripDiacritics excerpt "EA".toList ∧
      @lower excerpt "EA".toList = "EA".toList.map Char.toLower ∧
      @fold excerpt ⟨true, true⟩ "ÉA" =
        .ofList (@foldGenerally excerpt ⟨true, true⟩ "ÉA".toList) := by
  have hplain : isAscii "EA".toList = true := by decide
  have hlaws := @fold_eq_foldGenerally excerpt _ _ _
  obtain ⟨hstrip, hlower⟩ := hlaws.2 _ hplain
  have haccent : @stripDiacritics excerpt "ÉA".toList = "EA".toList := by decide
  exact ⟨by decide, hplain, haccent.trans hstrip.symm, hlower, hlaws.1 _ _⟩

/-! ### Letters in either case -/

/-- Characters that differ at most in the case of an ASCII letter. -/
inductive SameLetter : Char → Char → Prop
  | same (c : Char) : SameLetter c c
  | letter {c d : Char} (hc : c.isAlpha = true) (hd : d.isAlpha = true)
    (h : c.toLower = d.toLower) : SameLetter c d

theorem forall₂_sameLetter_refl (s : List Char) : List.Forall₂ SameLetter s s :=
  List.forall₂_same.mpr fun c _ => .same c

def SameLetters (s t : String) : Prop := List.Forall₂ SameLetter s.toList t.toList

section Stripping

variable [CharData] {c c' d d' : Char} {s s' : List Char}

theorem compose_of_isAlpha [JunctionLaws] (hc : isMark c = false)
    (hd : isMark d = false) (h : c.isAlpha = true ∨ d.isAlpha = true) : compose c d = none := by
  by_contra hcompose
  obtain ⟨z, hz⟩ := Option.ne_none_iff_exists'.mp hcompose
  obtain ⟨hcalpha, hdalpha, -⟩ := JunctionLaws.isAlpha_of_compose hz hc hd
  simp [hcalpha, hdalpha] at h

theorem SameLetter.baseLetter (h : SameLetter c c') :
    SameLetter (baseLetter c) (baseLetter c') := by
  cases h with
  | same => exact .same _
  | letter hc hc' h =>
    simp only [Text.baseLetter, latinBase_ascii (toNat_of_isAlpha hc),
      latinBase_ascii (toNat_of_isAlpha hc'), Option.getD_none]
    exact .letter hc hc' h

variable [AsciiLaws]

theorem isBare_of_isAlpha (h : c.isAlpha = true) : IsBare [c] := by
  have hascii := toNat_of_isAlpha h
  simp [IsBare, AsciiLaws.isMark_ascii hascii, AsciiLaws.decompose_ascii hascii]

theorem SameLetter.isMark_eq (h : SameLetter c c') : isMark c = isMark c' := by
  cases h with
  | same => rfl
  | letter hc hc' =>
    rw [AsciiLaws.isMark_ascii (toNat_of_isAlpha hc), AsciiLaws.isMark_ascii (toNat_of_isAlpha hc')]

theorem SameLetter.bare (h : SameLetter c c') :
    List.Forall₂ SameLetter (bare [c]) (bare [c']) := by
  cases h with
  | same => exact forall₂_sameLetter_refl _
  | letter hc hc' h =>
    rw [bare_of_isBare (isBare_of_isAlpha hc), bare_of_isBare (isBare_of_isAlpha hc')]
    exact .cons (.letter hc hc' h) .nil

theorem forall₂_bare (h : List.Forall₂ SameLetter s s') :
    List.Forall₂ SameLetter (bare s) (bare s') := by
  induction h with
  | nil => exact .nil
  | @cons c c' s s' hc _ ih =>
    rw [bare_cons c s, bare_cons c' s']
    exact List.rel_append hc.bare ih

variable [JunctionLaws]

theorem SameLetter.compose_eq (hc : SameLetter c c') (hd : SameLetter d d')
    (hcmark : isMark c = false) (hdmark : isMark d = false) : compose c' d' = compose c d := by
  have hcmark' : isMark c' = false := hc.isMark_eq ▸ hcmark
  have hdmark' : isMark d' = false := hd.isMark_eq ▸ hdmark
  cases hc with
  | same =>
    cases hd with
    | same => rfl
    | letter hd hd' =>
      rw [compose_of_isAlpha hcmark hdmark (.inr hd), compose_of_isAlpha hcmark hdmark' (.inr hd')]
  | letter hc hc' =>
    rw [compose_of_isAlpha hcmark hdmark (.inl hc), compose_of_isAlpha hcmark' hdmark' (.inl hc')]

theorem forall₂_joinFrom (hc : SameLetter c c') (h : List.Forall₂ SameLetter s s')
    (hmark : ∀ d ∈ c :: s, isMark d = false) :
    List.Forall₂ SameLetter (joinFrom c s) (joinFrom c' s') := by
  induction h generalizing c c' with
  | nil => exact .cons hc .nil
  | @cons d d' s s' hd _ ih =>
    have hcmark := hmark c (by simp)
    have hrest : ∀ e ∈ d :: s, isMark e = false := fun e he => hmark e (List.mem_cons_of_mem c he)
    have hdmark := hrest d (by simp)
    rw [joinFrom, joinFrom, hc.compose_eq hd hcmark hdmark]
    cases hz : compose c d with
    | some z =>
      -- neither is an ASCII letter, so both texts go on with one and the same composite
      obtain ⟨-, -, hzmark⟩ := JunctionLaws.isAlpha_of_compose hz hcmark hdmark
      exact ih (.same z) (List.forall_mem_cons.mpr
        ⟨hzmark, fun e he => hrest e (List.mem_cons_of_mem d he)⟩)
    | none => exact .cons hc (ih hd hrest)

theorem forall₂_joined (hmark : ∀ c ∈ s, isMark c = false) (h : List.Forall₂ SameLetter s s') :
    List.Forall₂ SameLetter (joined s) (joined s') := by
  cases h with
  | nil => exact .nil
  | cons hc h => exact forall₂_joinFrom hc h hmark

theorem forall₂_stripDiacritics [OrderLaws] [DecompositionLaws] (h : List.Forall₂ SameLetter s s') :
    List.Forall₂ SameLetter (stripDiacritics s) (stripDiacritics s') := by
  rw [stripDiacritics_eq, stripDiacritics_eq]
  have hmark : ∀ c ∈ bare s, isMark c = false := fun c hc => (isBare_bare s c hc).1
  exact List.rel_map (fun _ _ hc => hc.baseLetter) (forall₂_joined hmark (forall₂_bare h))

end Stripping

section Lowering

variable [CharData] {s s' before before' : List Char}

theorem leadsToCased_cons (c : Char) (s : List Char) :
    leadsToCased (c :: s) = if isCaseIgnorable c then leadsToCased s else isCased c := by
  by_cases h : isCaseIgnorable c = true
  · simp [leadsToCased, h]
  · simp [leadsToCased, h]

variable [LetterLaws]

theorem leadsToCased_eq (h : List.Forall₂ SameLetter s s') :
    leadsToCased s = leadsToCased s' := by
  induction h with
  | nil => rfl
  | cons hc _ ih =>
    rw [leadsToCased_cons, leadsToCased_cons, ih]
    cases hc with
    | same => rfl
    | letter hc hc' =>
      -- the search for a letter ends here in both texts
      simp only [LetterLaws.isCaseIgnorable_of_isAlpha hc,
        LetterLaws.isCaseIgnorable_of_isAlpha hc', LetterLaws.isCased_of_isAlpha hc,
        LetterLaws.isCased_of_isAlpha hc']

theorem lowerSigma_eq (hbefore : List.Forall₂ SameLetter before before')
    (h : List.Forall₂ SameLetter s s') : lowerSigma before s = lowerSigma before' s' := by
  rw [lowerSigma, lowerSigma, leadsToCased_eq hbefore, leadsToCased_eq h]

variable [AsciiCaseLaws]

theorem lowerAfter_eq (hbefore : List.Forall₂ SameLetter before before')
    (h : List.Forall₂ SameLetter s s') : lowerAfter before s = lowerAfter before' s' := by
  induction h generalizing before before' with
  | nil => rfl
  | @cons c c' s s' hc h ih =>
    rw [lowerAfter, lowerAfter, lowerSigma_eq hbefore h, ih (.cons hc hbefore)]
    cases hc with
    | same => rfl
    | letter hc hc' hlower =>
      have hsigma : 'Σ'.isAlpha = false := by decide
      have hne : c ≠ 'Σ' := fun heq => by simp [heq, hsigma] at hc
      have hne' : c' ≠ 'Σ' := fun heq => by simp [heq, hsigma] at hc'
      rw [if_neg hne, if_neg hne', AsciiCaseLaws.lowercase_ascii (toNat_of_isAlpha hc),
        AsciiCaseLaws.lowercase_ascii (toNat_of_isAlpha hc'), hlower]

theorem foldChars_eq_of_sameLetter [OrderLaws] [DecompositionLaws] [AsciiLaws] [JunctionLaws]
    {flags : Insensitivity} (hflags : flags.ignoresCase = true) (h : List.Forall₂ SameLetter s s') :
    foldChars flags s = foldChars flags s' := by
  have hplain : List.Forall₂ SameLetter (plain flags s) (plain flags s') := by
    unfold plain
    by_cases hdiacritics : flags.ignoresDiacritics = true
    · rw [if_pos hdiacritics, if_pos hdiacritics]
      exact forall₂_stripDiacritics h
    · rw [if_neg hdiacritics, if_neg hdiacritics]
      exact h
  rw [foldChars_eq, foldChars_eq, if_pos hflags, if_pos hflags]
  exact lowerAfter_eq .nil hplain

end Lowering

/-- Where case is ignored, strings that differ in the case of ASCII letters fold alike, and no text
operator tells them apart, be they its subject, its operand or elements of either. -/
theorem fold_eq_of_sameLetters [CharData] [OrderLaws] [DecompositionLaws] [AsciiLaws]
    [AsciiCaseLaws] [LetterLaws] [JunctionLaws] {flags : Insensitivity}
    (hflags : Fold.letterCase ∈ flags) :
    (∀ s t, SameLetters s t → fold flags s = fold flags t) ∧
    ∀ op a a' b b', Value.Respelled SameLetters a a' → Value.Respelled SameLetters b b' →
      Value.matchText op flags a b = Value.matchText op flags a' b' := by
  have hfold : ∀ s t, SameLetters s t → fold flags s = fold flags t := fun s t h => by
    rw [fold, fold, foldChars_eq_of_sameLetter hflags h]
  exact ⟨hfold, fun op a a' b b' ha hb => Value.matchText_eq_of_respelled hfold op ha hb⟩

theorem fold_eq_of_sameLetters_sigma :
    SameLetters "aΣ" "AΣ" ∧ @fold excerpt ⟨true, true⟩ "aΣ" = @fold excerpt ⟨true, true⟩ "AΣ" ∧
      @fold excerpt ⟨true, true⟩ "AΣ" = "aς" ∧
      @Value.matchText excerpt .contains .caseOnly (.list [.string "aΣ"]) (.list [.string "aΣ"]) =
        @Value.matchText excerpt .contains .caseOnly (.list [.string "AΣ"])
          (.list [.string "aΣ"]) := by
  have hsmall : "aΣ".toList = ['a', 'Σ'] := by decide
  have hcapital : "AΣ".toList = ['A', 'Σ'] := by decide
  have hsame : SameLetters "aΣ" "AΣ" := by
    rw [SameLetters, hsmall, hcapital]
    exact .cons (.letter (by decide) (by decide) (by decide)) (.cons (.same _) .nil)
  have hboth := @fold_eq_of_sameLetters excerpt _ _ _ _ _ _ ⟨true, true⟩ rfl
  have hcase := @fold_eq_of_sameLetters excerpt _ _ _ _ _ _ .caseOnly rfl
  exact ⟨hsame, hboth.1 _ _ hsame, by decide,
    hcase.2 _ _ _ _ _ (.elements (.cons (.string hsame) .nil)) (.whole (.same _))⟩

end RecordQuery.Text
