import RecordQuery.Pattern
import RecordQuery.Proofs.Regex.Searching

/-!
# What a glob matches

`Glob.Matches` reads a glob from left to right against a whole string, without any regular
expression. A glob is written as documented parts, a text for every run of characters between two
wildcards; so any engine that does what it documents finds them in the strings that the glob
matches.
-/

namespace RecordQuery

open Pattern (Part Engine Documented Finds DotMatches spelling)

namespace Glob

/-- Whether a glob matches a string as a whole. -/
inductive Matches : List Char → List Char → Prop where
  | nil : Matches [] []
  | star {glob rest : List Char} (run : List Char) :
    Matches glob rest → Matches ('*' :: glob) (run ++ rest)
  | one {glob rest : List Char} (c : Char) :
    Matches glob rest → Matches ('?' :: glob) (c :: rest)
  | literal {glob rest : List Char} {c : Char} (hstar : c ≠ '*') (hone : c ≠ '?') :
    Matches glob rest → Matches (c :: glob) (c :: rest)

theorem matches_nil {s : List Char} : Matches [] s ↔ s = [] := by
  constructor
  · rintro ⟨⟩
    rfl
  · rintro rfl
    exact .nil

theorem matches_star {glob s : List Char} :
    Matches ('*' :: glob) s ↔ ∃ run rest, s = run ++ rest ∧ Matches glob rest := by
  constructor
  · intro h
    cases h with
    | star run h => exact ⟨run, _, rfl, h⟩
    | literal hstar => exact absurd rfl hstar
  · rintro ⟨run, rest, rfl, h⟩
    exact .star run h

theorem matches_one {glob s : List Char} :
    Matches ('?' :: glob) s ↔ ∃ c rest, s = c :: rest ∧ Matches glob rest := by
  constructor
  · intro h
    cases h with
    | one c h => exact ⟨c, _, rfl, h⟩
    | literal _ hone => exact absurd rfl hone
  · rintro ⟨c, rest, rfl, h⟩
    exact .one c h

theorem matches_literal {c : Char} (hstar : c ≠ '*') (hone : c ≠ '?') {glob s : List Char} :
    Matches (c :: glob) s ↔ ∃ rest, s = c :: rest ∧ Matches glob rest := by
  constructor
  · intro h
    cases h with
    | star => exact absurd rfl hstar
    | one => exact absurd rfl hone
    | literal _ _ h => exact ⟨_, rfl, h⟩
  · rintro ⟨rest, rfl, h⟩
    exact .literal hstar hone h

/-! ### Globs as parts -/

/-- The parts that a glob is written as after the characters `literal`, which are still to be
escaped. -/
def partsFrom (literal : String) : List Char → List Part
  | [] => [.text literal, .stop]
  | c :: glob =>
    if c = '*' then .text literal :: .dots :: partsFrom "" glob
    else if c = '?' then .text literal :: .dot :: partsFrom "" glob
    else partsFrom (literal.push c) glob

theorem wildcard?_eq_none {c : Char} (hstar : c ≠ '*') (hone : c ≠ '?') : wildcard? c = none := by
  unfold wildcard?
  split
  · exact absurd rfl hstar
  · exact absurd rfl hone
  · rfl

section

variable [Engine]

theorem out_foldl (glob : List Char) (w : Writer) :
    (glob.foldl Writer.step w).flush.out ++ "$" = w.out ++ spelling (partsFrom w.literal glob) := by
  induction glob generalizing w with
  | nil => simp [Writer.flush, partsFrom, spelling, Part.spelling, String.append_assoc]
  | cons c glob ih =>
    rw [List.foldl_cons, ih, partsFrom]
    by_cases hstar : c = '*'
    · rw [if_pos hstar, hstar]
      simp [Writer.step, wildcard?, Writer.flush, spelling, Part.spelling, String.append_assoc]
    by_cases hone : c = '?'
    · rw [if_neg hstar, if_pos hone, hone]
      simp [Writer.step, wildcard?, Writer.flush, spelling, Part.spelling, String.append_assoc]
    · rw [if_neg hstar, if_neg hone, Writer.step, wildcard?_eq_none hstar hone]

theorem pattern_eq_spelling (glob : String) :
    pattern glob = spelling (.dotAll :: .start :: partsFrom "" glob.toList) := by
  rw [pattern, out_foldl]
  simp [spelling, Part.spelling, ← String.append_assoc]

def piece (c : Char) : String := (wildcard? c).getD (Engine.escape (.singleton c))

theorem out_foldl_pieces (hempty : Engine.escape "" = "")
    (happend : ∀ s t, Engine.escape (s ++ t) = Engine.escape s ++ Engine.escape t)
    (glob : List Char) (w : Writer) :
    (glob.foldl Writer.step w).flush.out = w.flush.out ++ String.join (glob.map piece) := by
  induction glob generalizing w with
  | nil => simp [String.join]
  | cons c glob ih =>
    have hstep : (w.step c).flush.out = w.flush.out ++ piece c := by
      rw [Writer.step, piece]
      cases wildcard? c with
      | some mark => simp [Writer.flush, hempty]
      | none =>
        have hpush : w.literal.push c = w.literal ++ .singleton c := by
          rw [← String.toList_inj]
          simp
        simp only [Writer.flush, Option.getD_none]
        rw [hpush, happend, String.append_assoc]
    rw [List.foldl_cons, ih, hstep, List.map_cons, String.join_cons, String.append_assoc]

theorem pattern_eq_pieces (hempty : Engine.escape "" = "")
    (happend : ∀ s t, Engine.escape (s ++ t) = Engine.escape s ++ Engine.escape t)
    (glob : String) :
    pattern glob = "(?s)^" ++ String.join (glob.toList.map piece) ++ "$" := by
  rw [pattern, out_foldl_pieces hempty happend]
  simp [Writer.flush, hempty]

end

example : pattern "1.5*" = "(?s)^1\\.5.*$" := by decide

theorem finds_partsFrom (glob : List Char) {literal : String} {before after : List Char} :
    Finds true before after (partsFrom literal glob) ↔
      ∃ rest, after = literal.toList ++ rest ∧ Matches glob rest := by
  have hdot (c : Char) : DotMatches true c := .inl rfl
  induction glob generalizing literal before after with
  | nil => simp [partsFrom, Finds, matches_nil]
  | cons c glob ih =>
    rw [partsFrom]
    by_cases hstar : c = '*'
    · rw [if_pos hstar, hstar]
      simp only [Finds, matches_star, ih, hdot]
      simp
    by_cases hone : c = '?'
    · rw [if_neg hstar, if_pos hone, hone]
      simp only [Finds, matches_one, ih, hdot]
      simp
    · rw [if_neg hstar, if_neg hone]
      refine ih.trans ?_
      simp only [matches_literal hstar hone, String.toList_push, List.append_assoc,
        List.singleton_append]
      constructor
      · intro h
        obtain ⟨rest, hafter, hrest⟩ := h
        exact ⟨c :: rest, hafter, rest, rfl, hrest⟩
      · intro h
        obtain ⟨_, hafter, rest, rfl, hrest⟩ := h
        exact ⟨rest, hafter, hrest⟩

end Glob

namespace Pattern

/-- A glob always becomes a valid regular expression, which compiles unless it is too large, and
its pattern matches exactly the strings that the glob matches as a whole. -/
theorem like_accepts_iff [Engine] [Documented] (glob : String) :
    (∀ text, Engine.compile (Glob.pattern glob) ≠ .error (.malformed text)) ∧
      (∀ fault, like glob = .error fault → ∃ limit, fault = .tooLarge limit) ∧
      ∀ p, like glob = .ok p →
        ∀ subject, p.accepts subject = true ↔ Glob.Matches glob.toList subject.toList := by
  have hpattern := Glob.pattern_eq_spelling glob
  have hvalid (text : String) : Engine.compile (Glob.pattern glob) ≠ .error (.malformed text) :=
    hpattern ▸ Documented.not_malformed _ text
  cases hcompile : Engine.compile (Glob.pattern glob) with
  | error fault =>
    have hlike : like glob = .error fault := by rw [like, hcompile]; rfl
    refine ⟨fun text h => hvalid text (hcompile.trans h), fun fault' h => ?_, fun p h => ?_⟩
    · obtain rfl := Except.error.inj (hlike.symm.trans h)
      cases fault with
      | malformed text => exact absurd hcompile (hvalid text)
      | tooLarge limit => exact ⟨limit, rfl⟩
    · cases hlike.symm.trans h
  | ok program =>
    have hlike : like glob = .ok ⟨glob, some program⟩ := by rw [like, hcompile]; rfl
    refine ⟨fun text h => hvalid text (hcompile.trans h), fun fault h => ?_,
      fun p h subject => ?_⟩
    · cases hlike.symm.trans h
    · obtain rfl := Except.ok.inj (hlike.symm.trans h)
      rw [accepts, Option.any_some, Documented.isMatch_iff (hpattern ▸ hcompile)]
      simp only [Finds, Glob.finds_partsFrom, String.toList_empty, List.nil_append, exists_eq_left']
      constructor
      · intro h
        obtain ⟨_, _, hsubject, rfl, hmatches⟩ := h
        exact hsubject ▸ hmatches
      · intro h
        exact ⟨[], _, rfl, rfl, h⟩

theorem like_accepts_iff_lines : ∃ p, like "?.*" = .ok p ∧
    p.accepts "\n.a\nb" = true ∧ p.accepts "ab" = false := by
  obtain ⟨hvalid, hfault, haccepts⟩ := like_accepts_iff "?.*"
  have hlike : ∃ p, like "?.*" = .ok p := by
    have hok : (like "?.*").isOk = true := by decide +kernel
    cases h : like "?.*" with
    | ok p => exact ⟨p, rfl⟩
    | error fault => simp [h, Except.isOk, Except.toBool] at hok
  obtain ⟨p, hlike⟩ := hlike
  refine ⟨p, hlike, ?_, ?_⟩
  · rw [haccepts p hlike]
    exact .one '\n' (.literal (by decide) (by decide) (.star ['a', '\n', 'b'] .nil))
  · rw [Bool.eq_false_iff, Ne, haccepts p hlike]
    intro h
    obtain ⟨a, rest, hab, h⟩ := Glob.matches_one.mp h
    obtain ⟨tail, rfl, -⟩ := (Glob.matches_literal (by decide) (by decide)).mp h
    injection hab with _ hb
    injection hb with hb _
    exact absurd hb (by decide)

end Pattern

end RecordQuery
