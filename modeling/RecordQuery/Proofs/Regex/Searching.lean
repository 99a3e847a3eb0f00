import RecordQuery.Proofs.Regex.Matching
import RecordQuery.Proofs.Regex.Reading

/-!
# Searching for documented parts

The expression that documented parts are compiled to matches at a position exactly what its parts
match from there on. So this engine does what engines document.
-/

namespace RecordQuery

open Unicode (CodeSet)

namespace Unicode.CodeSet

theorem toNat_le_last (c : Char) : c.toNat ≤ last := by
  have hvalid := c.valid
  rw [Char.toNat, last]
  rcases hvalid with h | h <;> omega

theorem contains_full (c : Char) : full.contains c = true := by
  simp [contains, containsCode, full, toNat_le_last c]

theorem contains_singleton (c d : Char) : (singleton c).contains d = true ↔ d = c := by
  rw [← Char.toNat_inj]
  simp only [contains, containsCode, singleton, List.any_cons, List.any_nil, Bool.or_false,
    Bool.and_eq_true, decide_eq_true_eq]
  omega

theorem contains_complement_lineBreak (c : Char) :
    (singleton '\n').complement.contains c = true ↔ c ≠ '\n' := by
  have hranges : (singleton '\n').complement = ⟨[(0, 9), (11, last)]⟩ := rfl
  have hlast := toNat_le_last c
  have hbreak : '\n'.toNat = 10 := rfl
  rw [hranges, Ne, ← Char.toNat_inj, hbreak]
  simp only [contains, containsCode, List.any_cons, List.any_nil, Bool.or_false, Bool.or_eq_true,
    Bool.and_eq_true, decide_eq_true_eq]
  omega

end Unicode.CodeSet

namespace Regex

open Pattern (Part Finds DotMatches spelling)

variable {before after : List Char} {i j : Nat} {dotAll : Bool}

/-! ### Expressions of parts -/

def chain : List Regex → Regex
  | [] => .empty
  | r :: rs => .seq r (chain rs)

def unitsOf (dotAll : Bool) : List Part → List Regex
  | [] => []
  | .dotAll :: parts => .empty :: unitsOf true parts
  | .start :: parts => .look .textStart :: unitsOf dotAll parts
  | .stop :: parts => .look .textEnd :: unitsOf dotAll parts
  | .dot :: parts => .chars (Atom.dotCodes (flagsOf dotAll)) :: unitsOf dotAll parts
  | .dots :: parts => .many (Atom.dotCodes (flagsOf dotAll)) :: unitsOf dotAll parts
  | .text s :: parts => s.toList.map char ++ unitsOf dotAll parts

theorem compileSeq_cons {t : Term} {r : Regex} {ts : List Term} {s : Regex}
    (ht : t.compile = .ok r) (hts : Term.compileSeq ts = .ok s) :
    Term.compileSeq (t :: ts) = .ok (.seq r s) := by
  rw [Term.compileSeq, ht, hts]
  rfl

theorem compileSeq_literals (cs : List Char) {ts : List Term} {rs : List Regex}
    (h : Term.compileSeq ts = .ok (chain rs)) :
    Term.compileSeq (cs.map (literalTerm dotAll) ++ ts) = .ok (chain (cs.map char ++ rs)) := by
  induction cs with
  | nil => exact h
  | cons c cs ih => exact compileSeq_cons rfl ih

theorem compileSeq_termsOf (dotAll : Bool) (parts : List Part) :
    Term.compileSeq (termsOf dotAll parts) = .ok (chain (unitsOf dotAll parts)) := by
  induction parts generalizing dotAll with
  | nil => rfl
  | cons part parts ih =>
    cases part with
    | text s => exact compileSeq_literals s.toList (ih _)
    | _ => exact compileSeq_cons rfl (ih _)

theorem exists_compile_ofConcat {ts : List Term} {r : Regex} (h : Term.compileSeq ts = .ok r) :
    ∃ r', (Term.ofConcat ts).compile = .ok r' ∧
      ∀ text i j, Matches text r' i j ↔ Matches text r i j := by
  match ts with
  | [] =>
    obtain rfl : Regex.empty = r := Except.ok.inj h
    exact ⟨.empty, rfl, fun _ _ _ => Iff.rfl⟩
  | [t] =>
    cases ht : t.compile with
    | error f =>
      rw [Term.compileSeq, ht] at h
      cases h
    | ok r' =>
      have hseq : Term.compileSeq [t] = .ok (r'.seq .empty) := compileSeq_cons ht rfl
      obtain rfl : r'.seq .empty = r := Except.ok.inj (hseq.symm.trans h)
      refine ⟨r', ht, fun text i j => ?_⟩
      simp [Matches]
  | t :: u :: rest => exact ⟨r, h, fun _ _ _ => Iff.rfl⟩

theorem exists_compile_spelling (parts : List Part) :
    ∃ r, compile (spelling parts).toList = .ok r ∧
      ∀ text i j, Matches text r i j ↔ Matches text (chain (unitsOf false parts)) i j := by
  obtain ⟨r, hr, hmatches⟩ := exists_compile_ofConcat (compileSeq_termsOf false parts)
  refine ⟨r, ?_, hmatches⟩
  rw [compile, read_spelling]
  exact hr

/-! ### Matches of parts -/

theorem contains_dotCodes (c : Char) :
    (Atom.dotCodes (flagsOf dotAll)).contains c = true ↔ DotMatches dotAll c := by
  cases dotAll with
  | true => exact iff_of_true (CodeSet.contains_full c) (.inl rfl)
  | false =>
    have hcodes : Atom.dotCodes (flagsOf false) = (CodeSet.singleton '\n').complement := rfl
    rw [hcodes, CodeSet.contains_complement_lineBreak]
    simp [DotMatches]

theorem satisfies_textStart :
    (Boundary.of (before ++ after) before.length).satisfies .textStart = true ↔ before = [] := by
  cases before with
  | nil => exact iff_of_true rfl rfl
  | cons c cs =>
    have hlt : (c :: cs).length - 1 < (c :: (cs ++ after)).length := by
      simp only [List.length_cons, List.length_append]
      omega
    have hbefore : (Boundary.of (c :: cs ++ after) (c :: cs).length).before =
        some (c :: (cs ++ after))[(c :: cs).length - 1] := List.getElem?_eq_getElem hlt
    simp only [Boundary.satisfies, hbefore, Option.isNone_some]
    exact iff_of_false Bool.false_ne_true (List.cons_ne_nil c cs)

theorem satisfies_textEnd :
    (Boundary.of (before ++ after) before.length).satisfies .textEnd = true ↔ after = [] := by
  cases after <;> simp [Boundary.of, Boundary.satisfies]

theorem matches_chars {set : CodeSet} :
    Matches (before ++ after) (.chars set) before.length j ↔
      ∃ c rest, after = c :: rest ∧ set.contains c = true ∧ j = (before ++ [c]).length := by
  cases after with
  | nil => simp [Matches]
  | cons c rest => simp [Matches, and_comm]

theorem matches_many {set : CodeSet} :
    Matches (before ++ after) (.many set) before.length j ↔
      ∃ run rest, after = run ++ rest ∧ (∀ c ∈ run, set.contains c = true) ∧
        j = (before ++ run).length := by
  have hat (k : Nat) : (before ++ after)[before.length + k]? = after[k]? := by
    rw [List.getElem?_append_right (Nat.le_add_right _ k), Nat.add_sub_cancel_left]
  constructor
  · intro h
    obtain ⟨hle, hrun⟩ := h
    obtain ⟨n, rfl⟩ := Nat.exists_eq_add_of_le hle
    have hchars : ∀ k < n, ∃ c, after[k]? = some c ∧ set.contains c = true := by
      intro k hk
      have hc := hrun (before.length + k) (by omega) (by omega)
      rwa [hat] at hc
    have hn : n ≤ after.length := by
      by_contra hlong
      obtain ⟨c, hc, -⟩ := hchars after.length (by omega)
      simp at hc
    refine ⟨after.take n, after.drop n, (List.take_append_drop n after).symm, fun c hc => ?_, ?_⟩
    · obtain ⟨k, hk, hget⟩ := List.mem_take_iff_getElem.mp hc
      obtain ⟨d, hd, hmem⟩ := hchars k (by omega)
      rw [List.getElem?_eq_getElem (by omega), hget] at hd
      exact Option.some_inj.mp hd ▸ hmem
    · simp [hn]
  · intro h
    obtain ⟨run, rest, rfl, hrun, rfl⟩ := h
    refine ⟨by simp, fun k hk hlt => ?_⟩
    obtain ⟨n, rfl⟩ := Nat.exists_eq_add_of_le hk
    have hn : n < run.length := by
      rw [List.length_append] at hlt
      omega
    rw [hat, List.getElem?_append_left hn]
    exact ⟨run[n], List.getElem?_eq_getElem hn, hrun _ (List.getElem_mem hn)⟩

def Begins (before after : List Char) (r : Regex) : Prop :=
  ∃ j, Matches (before ++ after) r before.length j

section

variable {r : Regex} {set : CodeSet}

theorem begins_empty : Begins before after (.seq .empty r) ↔ Begins before after r := by
  simp [Begins, Matches]

theorem begins_look {l : Look} : Begins before after (.seq (.look l) r) ↔
    (Boundary.of (before ++ after) before.length).satisfies l = true ∧ Begins before after r := by
  constructor
  · intro h
    obtain ⟨j, k, ⟨rfl, hl⟩, hr⟩ := h
    exact ⟨hl, j, hr⟩
  · intro h
    obtain ⟨hl, j, hr⟩ := h
    exact ⟨j, _, ⟨rfl, hl⟩, hr⟩

theorem begins_chars : Begins before after (.seq (.chars set) r) ↔
    ∃ c rest, after = c :: rest ∧ set.contains c = true ∧ Begins (before ++ [c]) rest r := by
  constructor
  · intro h
    obtain ⟨j, k, hc, hr⟩ := h
    obtain ⟨c, rest, rfl, hmem, rfl⟩ := matches_chars.mp hc
    exact ⟨c, rest, rfl, hmem, j, by rwa [List.append_assoc]⟩
  · intro h
    obtain ⟨c, rest, rfl, hmem, j, hr⟩ := h
    rw [List.append_assoc] at hr
    exact ⟨j, _, matches_chars.mpr ⟨c, rest, rfl, hmem, rfl⟩, hr⟩

theorem begins_many : Begins before after (.seq (.many set) r) ↔
    ∃ run rest, after = run ++ rest ∧ (∀ c ∈ run, set.contains c = true) ∧
      Begins (before ++ run) rest r := by
  constructor
  · intro h
    obtain ⟨j, k, hrun, hr⟩ := h
    obtain ⟨run, rest, rfl, hmem, rfl⟩ := matches_many.mp hrun
    exact ⟨run, rest, rfl, hmem, j, by rwa [List.append_assoc]⟩
  · intro h
    obtain ⟨run, rest, rfl, hmem, j, hr⟩ := h
    rw [List.append_assoc] at hr
    exact ⟨j, _, matches_many.mpr ⟨run, rest, rfl, hmem, rfl⟩, hr⟩

end

theorem begins_literals (cs : List Char) {rs : List Regex} :
    Begins before after (chain (cs.map char ++ rs)) ↔
      ∃ rest, after = cs ++ rest ∧ Begins (before ++ cs) rest (chain rs) := by
  induction cs generalizing before after with
  | nil => simp
  | cons c cs ih =>
    have hchar : Begins before after (chain ((c :: cs).map char ++ rs)) ↔
        ∃ rest, after = c :: rest ∧ Begins (before ++ [c]) rest (chain (cs.map char ++ rs)) := by
      refine begins_chars.trans ?_
      simp only [CodeSet.contains_singleton]
      constructor
      · intro h
        obtain ⟨d, rest, hafter, rfl, hrest⟩ := h
        exact ⟨rest, hafter, hrest⟩
      · intro h
        obtain ⟨rest, hafter, hrest⟩ := h
        exact ⟨c, rest, hafter, rfl, hrest⟩
    rw [hchar]
    simp only [ih, List.append_assoc, List.singleton_append]
    constructor
    · intro h
      obtain ⟨_, rfl, rest, rfl, hrest⟩ := h
      exact ⟨rest, rfl, hrest⟩
    · intro h
      obtain ⟨rest, rfl, hrest⟩ := h
      exact ⟨_, rfl, rest, rfl, hrest⟩

theorem begins_unitsOf (parts : List Part) :
    Begins before after (chain (unitsOf dotAll parts)) ↔ Finds dotAll before after parts := by
  induction parts generalizing before after dotAll with
  | nil => exact iff_of_true ⟨_, rfl⟩ trivial
  | cons part parts ih =>
    cases part with
    | dotAll => exact begins_empty.trans ih
    | start => exact begins_look.trans (and_congr satisfies_textStart ih)
    | stop => exact begins_look.trans (and_congr satisfies_textEnd ih)
    | dot =>
      rw [unitsOf, chain, begins_chars, Finds]
      simp only [contains_dotCodes, ih]
    | dots =>
      rw [unitsOf, chain, begins_many, Finds]
      simp only [contains_dotCodes, ih]
    | text s =>
      rw [Finds, unitsOf, begins_literals]
      simp only [ih]

/-- The parts are found wherever they match from some position on. -/
theorem matchesIn_iff_finds {r : Regex} {parts : List Part}
    (h : compile (spelling parts).toList = .ok r) (text : List Char) : r.matchesIn text = true ↔
      ∃ before after, text = before ++ after ∧ Finds false before after parts := by
  obtain ⟨r', hr', hmatches⟩ := exists_compile_spelling parts
  obtain rfl : r' = r := Except.ok.inj (hr'.symm.trans h)
  simp only [matchesIn_iff, hmatches, ← begins_unitsOf]
  constructor
  · intro h
    obtain ⟨i, j, hi, hj⟩ := h
    refine ⟨text.take i, text.drop i, (List.take_append_drop i text).symm, j, ?_⟩
    rwa [List.take_append_drop, List.length_take, Nat.min_eq_left hi]
  · intro h
    obtain ⟨before, after, rfl, j, hj⟩ := h
    exact ⟨before.length, j, by simp, hj⟩

instance : Pattern.Documented where
  not_malformed parts text h := by
    obtain ⟨r, hr, -⟩ := exists_compile_spelling parts
    simp only [Pattern.Engine.compile, hr] at h
    split at h <;> cases h
  isMatch_iff {parts program} h subject := by
    obtain ⟨r, hr, -⟩ := exists_compile_spelling parts
    simp only [Pattern.Engine.compile, hr] at h
    split at h
    · cases h
    · cases h
      exact matchesIn_iff_finds hr subject.toList

end Regex

end RecordQuery
