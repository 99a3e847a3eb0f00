import RecordQuery.Proofs.Text.Excerpt
import RecordQuery.Proofs.Text.Stripping

/-!
# Lowering the case first

Folding strips diacritics before it lowers the case. Lowering the case before that as well makes no
difference to a text whose letters and sigmas it leaves as they are for the stripping, so two such
texts that are alike but for their case stay alike when diacritics are ignored too.
-/

namespace RecordQuery.Text

/-- A text is free of capital sigmas, or one follows a text that is free of them. -/
@[elab_as_elim]
theorem sigma_induction {motive : List Char → Prop} (s : List Char)
    (free : ∀ u, 'Σ' ∉ u → motive u)
    (sigma : ∀ u v, 'Σ' ∉ u → motive v → motive (u ++ 'Σ' :: v)) : motive s := by
  have hfrom : ∀ s u, 'Σ' ∉ u → motive (u ++ s) := by
    intro s
    induction s with
    | nil =>
      intro u hu
      rw [List.append_nil]
      exact free u hu
    | cons c rest ih =>
      intro u hu
      by_cases hc : c = 'Σ'
      · rw [hc]
        exact sigma u rest hu (ih [] (by simp))
      · have hnext := ih (u ++ [c]) (by simp [hu, Ne.symm hc])
        rwa [List.append_assoc] at hnext
  exact hfrom s [] (by simp)

open CharData

section Lowercase

variable [CharData] [CaseLaws]

/-! ### Bare letters in lower case -/

theorem bare_lowercase (c : Char) : bare (lowercase c) = (bare [c]).flatMap lowercase := by
  simpa [bare] using (CaseLaws.lowercase_decompose c).symm

theorem bare_flatMap_lowercase (s : List Char) :
    bare (s.flatMap lowercase) = (bare s).flatMap lowercase := by
  induction s with
  | nil => rfl
  | cons c rest ih =>
    rw [List.flatMap_cons, bare_append, bare_lowercase, ih, bare_cons c rest, List.flatMap_append]

theorem compose_of_isCased {a b : Char} (ha : isMark a = false) (hb : isMark b = false)
    (h : isCased a = true ∨ isCased b = true) : compose a b = none := by
  by_contra hcompose
  obtain ⟨z, hz⟩ := Option.ne_none_iff_exists'.mp hcompose
  obtain ⟨-, hacased, hbcased, -⟩ := CaseLaws.compose_of_not_isMark hz ha hb
  simp [hacased, hbcased] at h

structure LowersTo (c d : Char) : Prop where
  eq : lowercase c = [d]
  mark : isMark c = false
  mark' : isMark d = false

theorem LowersTo.refl {c : Char} (hmark : isMark c = false) (hcased : isCased c = false) :
    LowersTo c c :=
  ⟨CaseLaws.lowercase_of_not_isCased hcased, hmark, hmark⟩

theorem LowersTo.isCased {c d : Char} (h : LowersTo c d) (hne : d ≠ c) :
    isCased c = true ∧ isCased d = true := by
  constructor
  · by_contra hcased
    have hlower := CaseLaws.lowercase_of_not_isCased (by simpa using hcased)
    rw [h.eq] at hlower
    exact hne (List.singleton_inj.mp hlower)
  · exact CaseLaws.isCased_of_mem_lowercase (by simp [h.eq]) hne h.mark'

theorem LowersTo.compose_eq {a a' b b' : Char} (ha : LowersTo a a') (hb : LowersTo b b') :
    compose a' b' = compose a b := by
  by_cases hane : a' = a
  · by_cases hbne : b' = b
    · rw [hane, hbne]
    · obtain ⟨hbcased, hbcased'⟩ := hb.isCased hbne
      rw [compose_of_isCased ha.mark' hb.mark' (.inr hbcased'),
        compose_of_isCased ha.mark hb.mark (.inr hbcased)]
  · obtain ⟨hacased, hacased'⟩ := ha.isCased hane
    rw [compose_of_isCased ha.mark' hb.mark' (.inl hacased'),
      compose_of_isCased ha.mark hb.mark (.inl hacased)]

theorem mem_joinFrom {c e : Char} {s : List Char} (h : ∀ d ∈ c :: s, isMark d = false)
    (he : e ∈ joinFrom c s) : isMark e = false ∧ (e ∈ c :: s ∨ isCased e = false) := by
  induction s generalizing c with
  | nil => exact ⟨h e he, .inl he⟩
  | cons d rest ih =>
    have hrest : ∀ e ∈ d :: rest, isMark e = false := fun e he => h e (List.mem_cons_of_mem c he)
    rw [joinFrom] at he
    cases hz : compose c d with
    | some z =>
      obtain ⟨hzmark, -, -, hzcased⟩ :=
        CaseLaws.compose_of_not_isMark hz (h c (by simp)) (h d (by simp))
      rw [hz] at he
      obtain ⟨hemark, hmem⟩ := ih (List.forall_mem_cons.mpr
        ⟨hzmark, fun e he => hrest e (List.mem_cons_of_mem d he)⟩) he
      refine ⟨hemark, ?_⟩
      by_cases hez : e = z
      · exact .inr (hez ▸ hzcased)
      · exact hmem.imp_left fun hmem => by simp_all
    | none =>
      rw [hz] at he
      obtain rfl | he := List.mem_cons.mp he
      · exact ⟨h e (by simp), .inl (by simp)⟩
      · obtain ⟨hemark, hmem⟩ := ih hrest he
        exact ⟨hemark, hmem.imp_left (List.mem_cons_of_mem c)⟩

theorem mem_joined {e : Char} {s : List Char} (h : IsBare s) (he : e ∈ joined s) :
    isMark e = false ∧ (e ∈ s ∨ isCased e = false) := by
  cases s with
  | nil => simp at he
  | cons c rest => exact mem_joinFrom (fun d hd => (h d hd).1) he

variable [DecompositionLaws]

theorem exists_lowersTo {c : Char} (h : IsBare [c]) : ∃ d, LowersTo c d ∧ IsBare [d] := by
  obtain ⟨hmark, hdecompose⟩ := h c (by simp)
  obtain ⟨d, hd⟩ := CaseLaws.exists_lowercase hdecompose
  have hbare := bare_lowercase c
  rw [bare_of_isBare h, List.flatMap_singleton, hd] at hbare
  have hd' : IsBare [d] := hbare ▸ isBare_bare [d]
  exact ⟨d, ⟨hd, hmark, (hd' d (by simp)).1⟩, hd'⟩

theorem joinFrom_flatMap_lowercase {c c' : Char} (hc : LowersTo c c') {s : List Char}
    (h : IsBare s) : joinFrom c' (s.flatMap lowercase) = (joinFrom c s).flatMap lowercase := by
  induction s generalizing c c' with
  | nil => simp [joinFrom, hc.eq]
  | cons d rest ih =>
    obtain ⟨d', hd, -⟩ := exists_lowersTo h.head
    rw [List.flatMap_cons, hd.eq, List.singleton_append, joinFrom, joinFrom, hc.compose_eq hd]
    cases hz : compose c d with
    | some z =>
      obtain ⟨hzmark, -, -, hzcased⟩ := CaseLaws.compose_of_not_isMark hz hc.mark hd.mark
      exact ih (.refl hzmark hzcased) h.tail
    | none => simp only [List.flatMap_cons, hc.eq, List.singleton_append, ih hd h.tail]

theorem joined_flatMap_lowercase {s : List Char} (h : IsBare s) :
    joined (s.flatMap lowercase) = (joined s).flatMap lowercase := by
  cases s with
  | nil => rfl
  | cons c rest =>
    obtain ⟨c', hc, -⟩ := exists_lowersTo h.head
    rw [List.flatMap_cons, hc.eq]
    exact joinFrom_flatMap_lowercase hc h.tail

/-- A letter whose base letter in lower case is that of its lower-case form. -/
def KeepsBase (c : Char) : Prop :=
  ∀ e ∈ bare [c], lowercase (baseLetter e) = (lowercase e).flatMap fun d => lowercase (baseLetter d)

instance : DecidablePred KeepsBase := fun c => List.decidableBAll _ (bare [c])

theorem stripDiacritics_flatMap_lowercase [OrderLaws] {s : List Char} (h : ∀ c ∈ s, KeepsBase c) :
    (stripDiacritics (s.flatMap lowercase)).flatMap lowercase =
      (stripDiacritics s).flatMap lowercase := by
  rw [stripDiacritics_eq, stripDiacritics_eq, bare_flatMap_lowercase,
    joined_flatMap_lowercase (isBare_bare s), List.flatMap_map, List.flatMap_map,
    List.flatMap_assoc]
  apply List.flatMap_congr
  intro e he
  obtain ⟨-, hmem | hcased⟩ := mem_joined (isBare_bare s) he
  · obtain ⟨hmark, c, hc, hdecompose⟩ := mem_bare.mp hmem
    exact (h c hc e (mem_bare.mpr ⟨hmark, c, by simp, hdecompose⟩)).symm
  · rw [CaseLaws.lowercase_of_not_isCased hcased, List.flatMap_singleton]

end Lowercase

/-! ### Sigmas -/

section Sigmas

variable [CharData]

theorem lowerAfter_of_free (before : List Char) {s : List Char} (h : 'Σ' ∉ s) :
    lowerAfter before s = s.flatMap lowercase := by
  induction s generalizing before with
  | nil => rfl
  | cons c rest ih =>
    have hc : 'Σ' ≠ c := List.ne_of_not_mem_cons h
    rw [lowerAfter, if_neg hc.symm, ih _ (List.not_mem_of_not_mem_cons h), List.flatMap_cons]

theorem lowerAfter_append_sigma (before : List Char) {s : List Char} (h : 'Σ' ∉ s)
    (t : List Char) :
    lowerAfter before (s ++ 'Σ' :: t) = s.flatMap lowercase ++
      lowerSigma (s.reverse ++ before) t :: lowerAfter ('Σ' :: (s.reverse ++ before)) t := by
  induction s generalizing before with
  | nil => rfl
  | cons c rest ih =>
    have hc : 'Σ' ≠ c := List.ne_of_not_mem_cons h
    rw [List.cons_append, lowerAfter, if_neg hc.symm, ih _ (List.not_mem_of_not_mem_cons h)]
    simp

theorem lowerSigma_mem (before after : List Char) : lowerSigma before after ∈ ['Σ', 'σ', 'ς'] := by
  rw [lowerSigma]
  split <;> simp

variable [CaseLaws]

theorem lowercase_lowerSigma (before after : List Char) :
    lowercase (lowerSigma before after) = [lowerSigma before after] := by
  rw [lowerSigma]
  split
  · exact CaseLaws.lowercase_finalSigma
  · exact CaseLaws.lowercase_of_mem (c := 'Σ') (by simp [CaseLaws.lowercase_capitalSigma])

theorem not_mem_lowercase (c : Char) : 'Σ' ∉ lowercase c := by
  intro h
  have hlower := CaseLaws.lowercase_of_mem h
  rw [CaseLaws.lowercase_capitalSigma] at hlower
  exact absurd hlower (by decide)

theorem not_mem_lowerAfter (before s : List Char) : 'Σ' ∉ lowerAfter before s := by
  induction s generalizing before with
  | nil => simp [lowerAfter]
  | cons c rest ih =>
    rw [lowerAfter, List.mem_append, not_or]
    refine ⟨?_, ih (c :: before)⟩
    by_cases hc : c = 'Σ'
    · rw [if_pos hc, List.mem_singleton, lowerSigma]
      split <;> decide
    · rw [if_neg hc]
      exact not_mem_lowercase c

variable [OrderLaws] [DecompositionLaws]

theorem not_mem_stripDiacritics {s : List Char} (h : 'Σ' ∉ s) : 'Σ' ∉ stripDiacritics s := by
  intro hmem
  rw [stripDiacritics_eq] at hmem
  obtain ⟨e, he, hbase⟩ := List.mem_map.mp hmem
  obtain rfl : e = 'Σ' := by
    rw [baseLetter] at hbase
    cases hlatin : latinBase e with
    | none => simpa [hlatin] using hbase
    | some d =>
      have hascii := toNat_of_isAlpha (isAlpha_of_latinBase hlatin)
      rw [hlatin, Option.getD_some] at hbase
      rw [hbase] at hascii
      exact absurd hascii (by decide)
  obtain ⟨-, -, hcased⟩ := CaseLaws.sigma (c := 'Σ') (by simp)
  obtain ⟨-, hmem | hnot⟩ := mem_joined (isBare_bare s) he
  · obtain ⟨-, c, hc, hdecompose⟩ := mem_bare.mp hmem
    exact h (CaseLaws.eq_of_capitalSigma_mem hdecompose ▸ hc)
  · simp [hcased] at hnot

theorem stripDiacritics_append_sigma {x : Char} (hx : x ∈ ['Σ', 'σ', 'ς']) (s t : List Char) :
    stripDiacritics (s ++ x :: t) = stripDiacritics s ++ x :: stripDiacritics t := by
  obtain ⟨hdecompose, hmark, hcased⟩ := CaseLaws.sigma hx
  have hxbare : IsBare [x] := by simp [IsBare, hdecompose, hmark]
  have hbare := bare_of_isBare hxbare
  have hbefore : Parts s (x :: t) := by
    intro a ha b hb
    have hamark := (mem_joined (isBare_bare s) (List.mem_of_getLast? ha)).1
    obtain rfl : x = b := by simpa [bare_cons x t, hbare] using hb
    exact compose_of_isCased hamark hmark (.inr hcased)
  have hafter : Parts [x] t := by
    intro a ha b hb
    have hbmark := (isBare_bare t b (List.mem_of_head? hb)).1
    obtain rfl : x = a := by simpa [hbare, joined, joinFrom] using ha
    exact compose_of_isCased hmark hbmark (.inl hcased)
  rw [stripDiacritics_append hbefore, ← List.singleton_append, stripDiacritics_append hafter,
    stripDiacritics_singleton hxbare, baseLetter, latinBase_sigma hx]
  rfl

/-- The capital sigmas of a text end a word in it exactly if they do so once diacritics are gone. -/
def SteadySigmas (s : List Char) : Prop :=
  ∀ u v, s = u ++ 'Σ' :: v →
    lowerSigma (stripDiacritics u).reverse (stripDiacritics v) = lowerSigma u.reverse v

/-- A text for which it makes no difference whether its case is lowered before its diacritics are
stripped. -/
structure Settled (s : List Char) : Prop where
  bases : ∀ c ∈ s, KeepsBase c
  sigmas : SteadySigmas s

/-- Lowering the case around the stripping is lowering it once after, between any two texts before
which every capital sigma takes the same form. -/
theorem lowerAfter_stripDiacritics {s : List Char} (hbases : ∀ c ∈ s, KeepsBase c)
    (before before' : List Char)
    (hsigmas : ∀ u v, s = u ++ 'Σ' :: v →
      lowerSigma ((stripDiacritics u).reverse ++ before') (stripDiacritics v) =
        lowerSigma (u.reverse ++ before) v) :
    lowerAfter before' (stripDiacritics s) =
      (stripDiacritics (lowerAfter before s)).flatMap lowercase := by
  induction s using sigma_induction generalizing before before' with
  | free u hu =>
    rw [lowerAfter_of_free _ (not_mem_stripDiacritics hu), lowerAfter_of_free _ hu,
      stripDiacritics_flatMap_lowercase hbases]
  | sigma u v hu ih =>
    have hcapital : 'Σ' ∈ ['Σ', 'σ', 'ς'] := by simp
    have hrest := ih (fun c hc => hbases c (by simp [hc])) ('Σ' :: (u.reverse ++ before))
      ('Σ' :: ((stripDiacritics u).reverse ++ before')) fun x y hv => by
        have hsigma := hsigmas (u ++ 'Σ' :: x) y (by simp [hv])
        simpa [stripDiacritics_append_sigma hcapital] using hsigma
    rw [stripDiacritics_append_sigma hcapital,
      lowerAfter_append_sigma _ (not_mem_stripDiacritics hu), lowerAfter_append_sigma _ hu,
      stripDiacritics_append_sigma (lowerSigma_mem _ _), List.flatMap_append, List.flatMap_cons,
      lowercase_lowerSigma, List.singleton_append, hsigmas u v rfl, hrest,
      stripDiacritics_flatMap_lowercase fun c hc => hbases c (by simp [hc])]

theorem lower_stripDiacritics_lower {s : List Char} (h : Settled s) :
    lower (stripDiacritics (lower s)) = lower (stripDiacritics s) := by
  have hfree : 'Σ' ∉ stripDiacritics (lower s) :=
    not_mem_stripDiacritics (not_mem_lowerAfter [] s)
  have hsteps : lower (stripDiacritics s) = (stripDiacritics (lower s)).flatMap lowercase :=
    lowerAfter_stripDiacritics h.bases [] [] fun u v huv => by
      rw [List.append_nil, List.append_nil, h.sigmas u v huv]
  rw [hsteps, lower, lowerAfter_of_free [] hfree]

theorem keepsBase_iff {c : Char} (h : IsBare [c]) :
    KeepsBase c ↔ lower (stripDiacritics (lower [c])) = lower (stripDiacritics [c]) := by
  obtain ⟨d, hd, hbare⟩ := exists_lowersTo h
  have hlower : ∀ e, lower [e] = lowercase e := by
    intro e
    by_cases he : e = 'Σ'
    · rw [he, CaseLaws.lowercase_capitalSigma]
      rfl
    · simp [lower, lowerAfter, he]
  rw [hlower, hd.eq, stripDiacritics_singleton hbare, stripDiacritics_singleton h, hlower, hlower,
    KeepsBase, bare_of_isBare h]
  simp [hd.eq, eq_comm]

/-- Texts that fold alike without regard to case fold alike without regard to diacritics too, if it
makes no difference to them whether their case is lowered first. A bare letter and its lower-case
form do so only if the letter keeps its base. -/
theorem fold_both_of_fold_caseOnly [AsciiLaws] [AsciiCaseLaws] :
    (∀ a b : String, Settled a.toList → Settled b.toList →
      fold .caseOnly a = fold .caseOnly b → fold ⟨true, true⟩ a = fold ⟨true, true⟩ b) ∧
    ∀ c : Char, isMark c = false → decompose c = [c] →
      (KeepsBase c ↔ fold ⟨true, true⟩ (fold .caseOnly (.singleton c)) =
        fold ⟨true, true⟩ (.singleton c)) := by
  have hcase : ∀ s, foldChars .caseOnly s = lower s := fun s => foldChars_eq .caseOnly s
  have hboth : ∀ s, foldChars ⟨true, true⟩ s = lower (stripDiacritics s) :=
    fun s => foldChars_eq ⟨true, true⟩ s
  constructor
  · intro a b ha hb heq
    have hlower : lower a.toList = lower b.toList := by
      rwa [fold, fold, hcase, hcase, String.ofList_inj] at heq
    rw [fold, fold, hboth, hboth, ← lower_stripDiacritics_lower ha, hlower,
      lower_stripDiacritics_lower hb]
  · intro c hmark hdecompose
    rw [keepsBase_iff (by simp [IsBare, hmark, hdecompose])]
    simp [fold, hcase, hboth, String.ofList_inj]

end Sigmas

theorem fold_both_of_fold_caseOnly_sigma :
    (@Settled excerpt "ÉΣΑ".toList ∧ @Settled excerpt "éσα".toList ∧
      @fold excerpt .caseOnly "ÉΣΑ" = @fold excerpt .caseOnly "éσα" ∧
      @fold excerpt ⟨true, true⟩ "ÉΣΑ" = @fold excerpt ⟨true, true⟩ "éσα") ∧
    ¬ @KeepsBase excerpt 'Ɓ' ∧
      @fold excerpt ⟨true, true⟩ (@fold excerpt .caseOnly (.singleton 'Ɓ')) ≠
        @fold excerpt ⟨true, true⟩ (.singleton 'Ɓ') := by
  have hcapital : @Settled excerpt "ÉΣΑ".toList := by
    have hchars : "ÉΣΑ".toList = ['É', 'Σ', 'Α'] := by decide
    rw [hchars]
    have hbases : ['É', 'Σ', 'Α'].Forall (@KeepsBase excerpt) := by decide
    refine @Settled.mk excerpt _ (List.forall_iff_forall_mem.mp hbases) fun u v h => ?_
    cases u with
    | nil => cases h
    | cons c u =>
      cases u with
      | nil =>
        cases h
        decide
      | cons d u =>
        cases u with
        | nil => cases h
        | cons e u => cases u <;> cases h
  have hsmall : @Settled excerpt "éσα".toList := by
    have hfree : 'Σ' ∉ "éσα".toList := by decide
    have hbases : "éσα".toList.Forall (@KeepsBase excerpt) := by decide
    refine @Settled.mk excerpt _ (List.forall_iff_forall_mem.mp hbases) fun u v h => ?_
    exact absurd (h ▸ by simp) hfree
  have hcase : @fold excerpt .caseOnly "ÉΣΑ" = @fold excerpt .caseOnly "éσα" := by
    decide
  have hhook : ¬ @KeepsBase excerpt 'Ɓ' := by
    intro h
    exact absurd (h 'Ɓ' (by decide)) (by decide)
  have hlaws := @fold_both_of_fold_caseOnly excerpt _ _ _ _ _
  exact ⟨⟨hcapital, hsmall, hcase, hlaws.1 _ _ hcapital hsmall hcase⟩, hhook,
    mt (hlaws.2 'Ɓ' (by decide) (by decide)).mpr hhook⟩

/-- A capital letter with a hook loses it and the small letter does not; and a capital sigma before
a spacing mark ends a word until the mark is gone. -/
theorem fold_both_not_refined :
    (@fold excerpt .caseOnly "Ɓ" = @fold excerpt .caseOnly "ɓ" ∧
      @fold excerpt ⟨true, true⟩ "Ɓ" ≠ @fold excerpt ⟨true, true⟩ "ɓ") ∧
    @fold excerpt .caseOnly "ΑΣ\u0903Α" = @fold excerpt .caseOnly "Ας\u0903Α" ∧
      @fold excerpt ⟨true, true⟩ "ΑΣ\u0903Α" ≠ @fold excerpt ⟨true, true⟩ "Ας\u0903Α" := by
  decide

end RecordQuery.Text
