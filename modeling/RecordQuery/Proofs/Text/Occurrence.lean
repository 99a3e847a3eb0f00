import Mathlib.Data.List.Infix
import RecordQuery.Proofs.Text.Excerpt
import RecordQuery.Proofs.Text.Stripping
import RecordQuery.Value.Match

/-!
# Occurrences under folding

Where a text operator holds exactly, the operand stands somewhere in the subject. Folding both keeps
it there if the fold of the subject can be cut where the operand begins and ends: no character
composes with one on the other side of a cut, and each capital sigma of the operand ends a word in
the subject exactly if it ends one in the operand alone.
-/

namespace RecordQuery.Text

/-! ### Occurrences -/

theorem occursIn_iff {α : Type} [BEq α] [LawfulBEq α] {needle s : List α} :
    occursIn needle s = true ↔ needle <:+: s := by
  induction s with
  | nil => simp [occursIn]
  | cons c rest ih => simp [occursIn, ih, List.infix_cons_iff]

/-- An operand stands in a subject where a text operator looks for it. -/
structure Stands (op : Operator) (subject before operand after : List Char) : Prop where
  eq : subject = before ++ operand ++ after
  atStart : op = .beginsWith → before = []
  atEnd : op = .endsWith → after = []

theorem matchChars_iff {op : Operator} (hop : op.isText = true) {subject operand : List Char} :
    Value.matchChars op subject operand = true ↔
      ∃ before after, Stands op subject before operand after := by
  cases op with
  | beginsWith =>
    simp only [Value.matchChars, List.isPrefixOf_iff_prefix]
    constructor
    · intro h
      obtain ⟨after, rfl⟩ := h
      exact ⟨[], after, rfl, fun _ => rfl, nofun⟩
    · intro h
      obtain ⟨before, after, heq, hstart, -⟩ := h
      exact ⟨after, by rw [heq, hstart rfl, List.nil_append]⟩
  | endsWith =>
    simp only [Value.matchChars, List.isSuffixOf_iff_suffix]
    constructor
    · intro h
      obtain ⟨before, rfl⟩ := h
      exact ⟨before, [], by simp, nofun, fun _ => rfl⟩
    · intro h
      obtain ⟨before, after, heq, -, hend⟩ := h
      exact ⟨before, by rw [heq, hend rfl, List.append_nil]⟩
  | contains =>
    simp only [Value.matchChars, occursIn_iff]
    constructor
    · intro h
      obtain ⟨before, after, rfl⟩ := h
      exact ⟨before, after, rfl, nofun, nofun⟩
    · intro h
      obtain ⟨before, after, heq, -, -⟩ := h
      exact ⟨before, after, heq.symm⟩
  | _ => cases hop

theorem Stands.nil (op : Operator) (subject : List Char) :
    ∃ before after, Stands op subject before [] after := by
  by_cases h : op = .endsWith
  · refine ⟨subject, [], by simp, fun hop => ?_, fun _ => rfl⟩
    rw [h] at hop
    cases hop
  · exact ⟨[], subject, by simp, fun _ => rfl, fun hop => absurd hop h⟩

variable [CharData]

open CharData

/-! ### Lower case between two texts -/

def lowerBetween (before : List Char) : List Char → List Char → List Char
  | [], _ => []
  | c :: rest, after =>
    (if c = 'Σ' then [lowerSigma before (rest ++ after)] else lowercase c) ++
      lowerBetween (c :: before) rest after

theorem lowerAfter_append (before s t : List Char) :
    lowerAfter before (s ++ t) = lowerBetween before s t ++ lowerAfter (s.reverse ++ before) t := by
  induction s generalizing before with
  | nil => rfl
  | cons c rest ih =>
    rw [List.cons_append, lowerAfter, ih, lowerBetween, List.reverse_cons, List.append_assoc,
      List.append_assoc]
    rfl

/-- Each capital sigma of `s` takes between `before` and `after` the form that it takes in `s`. -/
def KeepsSigmas (before s after : List Char) : Prop :=
  ∀ u v, s = u ++ 'Σ' :: v →
    lowerSigma (u.reverse ++ before.reverse) (v ++ after) = lowerSigma u.reverse v

theorem lowerBetween_of_keepsSigmas {before s after : List Char}
    (h : KeepsSigmas before s after) : lowerBetween before.reverse s after = lower s := by
  -- the sigmas are counted by what stands before them in the whole of `s`
  have hrest : ∀ w u, s = u ++ w →
      lowerBetween (u.reverse ++ before.reverse) w after = lowerAfter u.reverse w := by
    intro w
    induction w with
    | nil => exact fun u _ => rfl
    | cons c rest ih =>
      intro u hs
      have hnext := ih (u ++ [c]) (by simp [hs])
      simp only [List.reverse_append, List.reverse_cons, List.reverse_nil, List.nil_append,
        List.cons_append] at hnext
      rw [lowerBetween, lowerAfter, hnext]
      by_cases hc : c = 'Σ'
      · rw [hc] at hs
        rw [if_pos hc, if_pos hc, h u rest hs]
      · rw [if_neg hc, if_neg hc]
  exact hrest s [] rfl

theorem lower_append_of_keepsSigmas {before s after : List Char}
    (h : KeepsSigmas before s after) :
    lower (before ++ s ++ after) = lowerBetween [] before (s ++ after) ++ lower s ++
      lowerAfter (s.reverse ++ before.reverse) after := by
  rw [lower, List.append_assoc, lowerAfter_append, List.append_nil, lowerAfter_append,
    lowerBetween_of_keepsSigmas h, List.append_assoc]

/-! ### Occurrences in folded texts -/

theorem Stands.lowered {op : Operator} {subject before operand after : List Char}
    (h : Stands op subject before operand after)
    (hsigmas : KeepsSigmas before operand after) :
    ∃ x y, Stands op (lower subject) x (lower operand) y := by
  refine ⟨lowerBetween [] before (operand ++ after),
    lowerAfter (operand.reverse ++ before.reverse) after, ?_, ?_, ?_⟩
  · rw [h.eq]
    exact lower_append_of_keepsSigmas hsigmas
  · intro hop
    rw [h.atStart hop]
    rfl
  · intro hop
    rw [h.atEnd hop]
    rfl

/-- Folding leaves an operand in its place between `before` and `after`: nothing composes across
the cuts, and every capital sigma keeps its form. -/
structure Undisturbed (flags : Insensitivity) (before operand after : List Char) : Prop where
  parts : flags.ignoresDiacritics = true → Parts before operand ∧ Parts operand after
  sigmas : flags.ignoresCase = true → KeepsSigmas (plain flags before)
    (plain flags operand) (plain flags after)

section

variable [OrderLaws] [DecompositionLaws] {op : Operator} {flags : Insensitivity}
  {subject before operand after : List Char}

theorem Stands.stripped (h : Stands op subject before operand after)
    (hparts : flags.ignoresDiacritics = true → Parts before operand ∧ Parts operand after)
    (hbare : flags.ignoresDiacritics = true → bare operand ≠ []) :
    Stands op (plain flags subject) (plain flags before) (plain flags operand)
      (plain flags after) := by
  unfold plain
  by_cases hflag : flags.ignoresDiacritics = true
  · obtain ⟨hbefore, hafter⟩ := hparts hflag
    have hhead : (bare (operand ++ after)).head? = (bare operand).head? := by
      obtain ⟨c, rest, hc⟩ := List.exists_cons_of_ne_nil (hbare hflag)
      rw [bare_append, hc]
      rfl
    have hcut : Parts before (operand ++ after) := by
      unfold Parts
      rw [hhead]
      exact hbefore
    simp only [hflag, if_true]
    refine ⟨?_, fun hop => ?_, fun hop => ?_⟩
    · rw [h.eq, List.append_assoc, stripDiacritics_append hcut, stripDiacritics_append hafter,
        List.append_assoc]
    · rw [h.atStart hop]
      rfl
    · rw [h.atEnd hop]
      rfl
  · simp only [hflag, Bool.false_eq_true, if_false]
    exact h

theorem Stands.folded [AsciiLaws] [AsciiCaseLaws] (h : Stands op subject before operand after)
    (hundisturbed : Undisturbed flags before operand after) :
    ∃ x y, Stands op (foldChars flags subject) x (foldChars flags operand) y := by
  by_cases hempty : foldChars flags operand = []
  · rw [hempty]
    exact Stands.nil op _
  have hbare : flags.ignoresDiacritics = true → bare operand ≠ [] := by
    intro hflag hbare
    apply hempty
    rw [foldChars_eq, plain, if_pos hflag, stripDiacritics_eq, hbare]
    simp [lower, lowerAfter]
  have hplain := h.stripped hundisturbed.parts hbare
  rw [foldChars_eq, foldChars_eq]
  by_cases hflag : flags.ignoresCase = true
  · rw [if_pos hflag, if_pos hflag]
    exact hplain.lowered (hundisturbed.sigmas hflag)
  · rw [if_neg hflag, if_neg hflag]
    exact ⟨_, _, hplain⟩

end

end RecordQuery.Text

namespace RecordQuery.Value

open CharData Text

/-- A text operator that holds exactly finds its operand somewhere in the subject. It holds under
flags as well if it finds it at a place where folding does not disturb it. -/
theorem matchText_of_stands [CharData] [OrderLaws] [DecompositionLaws] [AsciiLaws]
    [AsciiCaseLaws] {op : Operator} (hop : op.isText = true) (flags : Insensitivity)
    (s p : String) :
    (matchText op ∅ (.string s) (.string p) = true ↔
      ∃ before after, Stands op s.toList before p.toList after) ∧
    ∀ before after, Stands op s.toList before p.toList after →
      Undisturbed flags before p.toList after →
        matchText op flags (.string s) (.string p) = true := by
  refine ⟨matchChars_iff hop, fun before after h hundisturbed => ?_⟩
  rw [matchText, matchChars_iff hop]
  exact h.folded hundisturbed

theorem matchText_of_stands_inside :
    let flags : Insensitivity := ⟨true, true⟩
    @Stands .contains "ÉΣΑ".toList ['É'] "ΣΑ".toList [] ∧
      @Undisturbed excerpt flags ['É'] "ΣΑ".toList [] ∧
      @matchText excerpt .contains flags (.string "ÉΣΑ") (.string "ΣΑ") = true := by
  intro flags
  have hoperand : "ΣΑ".toList = ['Σ', 'Α'] := by decide
  have hstands : Stands .contains "ÉΣΑ".toList ['É'] "ΣΑ".toList [] :=
    ⟨by decide, nofun, nofun⟩
  have hundisturbed : @Undisturbed excerpt flags ['É'] "ΣΑ".toList [] := by
    rw [hoperand]
    refine @Undisturbed.mk excerpt _ _ _ _ (fun _ => ⟨?_, ?_⟩) fun _ => ?_
    · intro a ha b hb
      cases ha
      cases hb
      rfl
    · intro a _ b hb
      cases hb
    · intro u v h
      cases u with
      | nil =>
        cases h
        decide
      | cons c u =>
        cases u with
        | nil => cases h
        | cons d u => cases u <;> cases h
  exact ⟨hstands, hundisturbed,
    (@matchText_of_stands excerpt _ _ _ _ .contains rfl flags "ÉΣΑ" "ΣΑ").2 _ _ hstands
      hundisturbed⟩

/-- A jamo is lost of which the subject makes a syllable. -/
theorem matchText_not_relaxed :
    @matchText excerpt .beginsWith ∅ (.string "\u1112\u1161") (.string "\u1112") = true ∧
      @matchText excerpt .beginsWith .diacriticOnly (.string "\u1112\u1161") (.string "\u1112") =
        false := by
  decide

end RecordQuery.Value
