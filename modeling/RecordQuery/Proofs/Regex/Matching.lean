import Mathlib.Logic.Function.Iterate
import RecordQuery.Regex.Search

/-!
# What a search finds

`Matches text r i j` says when an expression matches the part of a text between two positions,
construct by construct and without regard to any search. The search carries sets of positions
along; each of its steps carries a set exactly to the positions that a relation leads to, and these
relations compose like the steps do. So a search succeeds exactly if there is a match somewhere.
-/

namespace RecordQuery.Regex

open Unicode (CodeSet)

def Boundary.of (text : List Char) (i : Nat) : Boundary :=
  ⟨if i = 0 then none else text[i - 1]?, text[i]?⟩

def Repeated (R : Nat → Nat → Prop) : Nat → Nat → Nat → Prop
  | 0, i, j => i = j
  | n + 1, i, k => ∃ j, R i j ∧ Repeated R n j k

def Admits (least : Nat) (most : Option Nat) (n : Nat) : Prop :=
  least ≤ n ∧ ∀ m, most = some m → n ≤ max least m

/-- Whether the expression matches the part of the text from position `i` to position `j`. -/
def Matches (text : List Char) : Regex → Nat → Nat → Prop
  | .empty, i, j => i = j
  | .chars set, i, j => j = i + 1 ∧ ∃ c, text[i]? = some c ∧ set.contains c = true
  | .many set, i, j =>
    i ≤ j ∧ ∀ k, i ≤ k → k < j → ∃ c, text[k]? = some c ∧ set.contains c = true
  | .look l, i, j => i = j ∧ (Boundary.of text i).satisfies l = true
  | .seq r s, i, k => ∃ j, Matches text r i j ∧ Matches text s j k
  | .alt r s, i, j => Matches text r i j ∨ Matches text s i j
  | .times least most r, i, j => ∃ n, Admits least most n ∧ Repeated (Matches text r) n i j
  | .group r, i, j => Matches text r i j

theorem Repeated.le {R : Nat → Nat → Prop} (h : ∀ i j, R i j → i ≤ j) {n i j : Nat}
    (hn : Repeated R n i j) : i ≤ j := by
  induction n generalizing i with
  | zero => exact Nat.le_of_eq hn
  | succ n ih =>
    obtain ⟨k, hk, hrest⟩ := hn
    exact Nat.le_trans (h i k hk) (ih hrest)

theorem Matches.le {text : List Char} {r : Regex} {i j : Nat} (h : Matches text r i j) :
    i ≤ j := by
  induction r generalizing i j with
  | empty => exact Nat.le_of_eq h
  | chars set => exact h.1 ▸ Nat.le_succ i
  | many set => exact h.1
  | look l => exact Nat.le_of_eq h.1
  | seq r s ihr ihs =>
    obtain ⟨k, hr, hs⟩ := h
    exact Nat.le_trans (ihr hr) (ihs hs)
  | alt r s ihr ihs => exact h.elim ihr ihs
  | times least most r ih =>
    obtain ⟨n, -, hn⟩ := h
    exact hn.le fun i j => ih
  | group r ih => exact ih h

theorem Repeated.shorten {R : Nat → Nat → Prop} (h : ∀ i j, R i j → i ≤ j) {n i j : Nat}
    (hn : Repeated R n i j) : ∃ m, m ≤ j - i ∧ Repeated R m i j := by
  induction n generalizing i with
  | zero => exact ⟨0, Nat.zero_le _, hn⟩
  | succ n ih =>
    obtain ⟨k, hk, hrest⟩ := hn
    obtain ⟨m, hmk, hm⟩ := ih hrest
    have hik := h i k hk
    have hkj := hrest.le h
    -- a round that does not move is left out
    by_cases hstill : k = i
    · exact ⟨m, by omega, hstill ▸ hm⟩
    · exact ⟨m + 1, by omega, k, hk, hm⟩

theorem repeated_append {R : Nat → Nat → Prop} {m n i k : Nat} :
    Repeated R (m + n) i k ↔ ∃ j, Repeated R m i j ∧ Repeated R n j k := by
  induction m generalizing i with
  | zero => simp [Repeated]
  | succ m ih =>
    rw [Nat.succ_add]
    simp only [Repeated, ih]
    constructor
    · rintro ⟨l, hl, j, hj, hk⟩
      exact ⟨j, ⟨l, hl, hj⟩, hk⟩
    · rintro ⟨j, ⟨l, hl, hj⟩, hk⟩
      exact ⟨l, hl, j, hj, hk⟩

theorem repeated_optional {R : Nat → Nat → Prop} {n i j : Nat} :
    Repeated (fun i j => i = j ∨ R i j) n i j ↔ ∃ m, m ≤ n ∧ Repeated R m i j := by
  induction n generalizing i with
  | zero =>
    constructor
    · exact fun h => ⟨0, Nat.le_refl 0, h⟩
    · rintro ⟨m, hm, h⟩
      obtain rfl := Nat.le_zero.mp hm
      exact h
  | succ n ih =>
    constructor
    · rintro ⟨k, rfl | hk, hrest⟩
      · obtain ⟨m, hm, h⟩ := ih.mp hrest
        exact ⟨m, by omega, h⟩
      · obtain ⟨m, hm, h⟩ := ih.mp hrest
        exact ⟨m + 1, by omega, k, hk, h⟩
    · rintro ⟨m, hm, h⟩
      cases m with
      | zero => exact ⟨i, .inl rfl, ih.mpr ⟨0, Nat.zero_le n, h⟩⟩
      | succ m =>
        obtain ⟨k, hk, hrest⟩ := h
        exact ⟨k, .inr hk, ih.mpr ⟨m, by omega, hrest⟩⟩

namespace Positions

def Has (ps : Positions) (i : Nat) : Prop := ps[i]? = some true

theorem Has.lt_length {ps : Positions} {i : Nat} (h : ps.Has i) : i < ps.length :=
  (List.getElem?_eq_some_iff.mp h).1

/-- A step that carries each set of the `n` positions of a text to those positions that `R` leads
to from one in the set. -/
def Carries (n : Nat) (f : Positions → Positions) (R : Nat → Nat → Prop) : Prop :=
  ∀ ps, ps.length = n → (f ps).length = n ∧ ∀ j, (f ps).Has j ↔ ∃ i, ps.Has i ∧ R i j

namespace Carries

variable {n : Nat} {f g : Positions → Positions} {R S : Nat → Nat → Prop}

theorem stay : Carries n id (· = ·) :=
  fun ps hps => ⟨hps, fun j => by simp⟩

theorem comp (hf : Carries n f R) (hg : Carries n g S) :
    Carries n (fun ps => g (f ps)) (fun i k => ∃ j, R i j ∧ S j k) := by
  intro ps hps
  obtain ⟨hlen, hhas⟩ := hf ps hps
  obtain ⟨hlen', hhas'⟩ := hg (f ps) hlen
  refine ⟨hlen', fun k => ?_⟩
  rw [hhas']
  constructor
  · rintro ⟨j, hj, hk⟩
    obtain ⟨i, hi, hij⟩ := (hhas j).mp hj
    exact ⟨i, hi, j, hij, hk⟩
  · rintro ⟨i, hi, j, hij, hk⟩
    exact ⟨j, (hhas j).mpr ⟨i, hi, hij⟩, hk⟩

theorem congr (hf : Carries n f R) (h : ∀ i j, i < n → (R i j ↔ S i j)) : Carries n f S := by
  intro ps hps
  obtain ⟨hlen, hhas⟩ := hf ps hps
  refine ⟨hlen, fun j => ?_⟩
  rw [hhas]
  refine exists_congr fun i => and_congr_right fun hi => h i j ?_
  exact hps ▸ hi.lt_length

theorem has_union {ps qs : Positions} (h : ps.length = qs.length) (j : Nat) :
    (union ps qs).Has j ↔ ps.Has j ∨ qs.Has j := by
  simp only [Has, union, List.getElem?_zipWith]
  cases hp : ps[j]? with
  | none =>
    have hq : qs[j]? = none := by
      rw [List.getElem?_eq_none_iff] at hp ⊢
      omega
    simp [hq]
  | some p =>
    obtain ⟨hj, -⟩ := List.getElem?_eq_some_iff.mp hp
    have hq : qs[j]? = some qs[j] := List.getElem?_eq_getElem (h ▸ hj)
    rw [hq]
    simp

theorem both (hf : Carries n f R) (hg : Carries n g S) :
    Carries n (fun ps => union (f ps) (g ps)) (fun i j => R i j ∨ S i j) := by
  intro ps hps
  obtain ⟨hlen, hhas⟩ := hf ps hps
  obtain ⟨hlen', hhas'⟩ := hg ps hps
  refine ⟨by simp [union, hlen, hlen'], fun j => ?_⟩
  rw [has_union (hlen.trans hlen'.symm), hhas, hhas', ← exists_or]
  exact exists_congr fun i => and_or_left.symm

theorem iterate_eq (f : Positions → Positions) (m : Nat) (ps : Positions) :
    Positions.iterate f m ps = f^[m] ps := by
  induction m generalizing ps with
  | zero => rfl
  | succ m ih =>
    rw [Positions.iterate]
    split
    · rename_i hfixed
      exact (Function.iterate_fixed hfixed _).symm
    · rw [ih, Function.iterate_succ_apply]

theorem iterate (hf : Carries n f R) (m : Nat) :
    Carries n (Positions.iterate f m) (Repeated R m) := by
  have h : Carries n (f^[m]) (Repeated R m) := by
    induction m with
    | zero => exact stay
    | succ m ih => exact hf.comp ih
  intro ps hps
  rw [iterate_eq]
  exact h ps hps

theorem lt (hf : Carries n f R) {i j : Nat} (hi : i < n) (h : R i j) : j < n := by
  obtain ⟨hlen, hhas⟩ := hf (List.replicate n true) List.length_replicate
  have hj := (hhas j).mpr ⟨i, by simp [Has, hi], h⟩
  exact hlen ▸ hj.lt_length

end Carries

/-! ### Steps of a search -/

variable {text : List Char}

theorem has_advance_succ (set : CodeSet) {ps : Positions} (hps : ps.length = text.length + 1)
    (j : Nat) : (advance set text ps).Has (j + 1) ↔
      ps.Has j ∧ ∃ c, text[j]? = some c ∧ set.contains c = true := by
  simp only [Has, advance, List.getElem?_cons_succ, List.getElem?_zipWith]
  cases hc : text[j]? with
  | none => cases ps[j]? <;> simp
  | some c =>
    obtain ⟨hj, -⟩ := List.getElem?_eq_some_iff.mp hc
    rw [List.getElem?_eq_getElem (show j < List.length ps by omega)]
    simp

theorem carries_advance (set : CodeSet) :
    Carries (text.length + 1) (advance set text) (Matches text (.chars set)) := by
  intro ps hps
  refine ⟨by simp [advance, hps], fun j => ?_⟩
  cases j with
  | zero => simp [Has, advance, Matches]
  | succ j =>
    rw [has_advance_succ set hps]
    constructor
    · rintro ⟨hj, hc⟩
      exact ⟨j, hj, rfl, hc⟩
    · rintro ⟨i, hi, hij, hc⟩
      obtain rfl : j = i := Nat.succ.inj hij
      exact ⟨hi, hc⟩

theorem length_sweep (set : CodeSet) (carried : Bool) {ps : Positions}
    (hps : ps.length = text.length + 1) :
    (sweep set text carried ps).length = text.length + 1 := by
  induction text generalizing ps carried with
  | nil =>
    cases ps with
    | nil => simp at hps
    | cons p ps => rfl
  | cons c text ih =>
    cases ps with
    | nil => simp at hps
    | cons p ps => simp [sweep, ih _ (Nat.succ.inj hps)]

theorem has_sweep_zero (set : CodeSet) (carried : Bool) {ps : Positions}
    (hps : ps.length = text.length + 1) :
    (sweep set text carried ps).Has 0 ↔ ps.Has 0 ∨ carried = true := by
  cases ps with
  | nil => simp at hps
  | cons p ps => cases text <;> simp [sweep, Has]

theorem has_sweep_succ (set : CodeSet) (carried : Bool) {ps : Positions}
    (hps : ps.length = text.length + 1) (j : Nat) :
    (sweep set text carried ps).Has (j + 1) ↔ ps.Has (j + 1) ∨
      ((sweep set text carried ps).Has j ∧ ∃ c, text[j]? = some c ∧ set.contains c = true) := by
  induction text generalizing ps carried j with
  | nil =>
    cases ps with
    | nil => simp at hps
    | cons p ps =>
      obtain rfl : ps = [] := by simpa using hps
      simp [sweep, Has]
  | cons c text ih =>
    cases ps with
    | nil => simp at hps
    | cons p ps =>
      have hlen := Nat.succ.inj hps
      cases j with
      | zero =>
        have hzero := has_sweep_zero set ((p || carried) && set.contains c) hlen
        simpa [sweep, Has] using hzero
      | succ j => simpa [sweep, Has] using ih ((p || carried) && set.contains c) hlen j

theorem has_sweep (set : CodeSet) {ps : Positions} (hps : ps.length = text.length + 1) (j : Nat) :
    (sweep set text false ps).Has j ↔ ∃ i, ps.Has i ∧ Matches text (.many set) i j := by
  induction j with
  | zero =>
    rw [has_sweep_zero set false hps]
    constructor
    · rintro (h | h)
      · exact ⟨0, h, Nat.le_refl 0, fun k _ hk => absurd hk (Nat.not_lt_zero k)⟩
      · cases h
    · rintro ⟨i, hi, hi0, -⟩
      obtain rfl := Nat.le_zero.mp hi0
      exact .inl hi
  | succ j ih =>
    rw [has_sweep_succ set false hps, ih]
    constructor
    · rintro (h | ⟨⟨i, hi, hij, hrun⟩, hc⟩)
      · exact ⟨j + 1, h, Nat.le_refl _, fun k hk hk' => by omega⟩
      · refine ⟨i, hi, Nat.le_succ_of_le hij, fun k hk hk' => ?_⟩
        obtain hkj | rfl := Nat.lt_succ_iff_lt_or_eq.mp hk'
        · exact hrun k hk hkj
        · exact hc
    · rintro ⟨i, hi, hij, hrun⟩
      obtain hij | rfl := Nat.le_succ_iff.mp hij
      · exact .inr ⟨⟨i, hi, hij, fun k hk hk' => hrun k hk (by omega)⟩,
          hrun j hij (Nat.lt_succ_self j)⟩
      · exact .inl hi

theorem carries_sweep (set : CodeSet) :
    Carries (text.length + 1) (sweep set text false) (Matches text (.many set)) :=
  fun _ hps => ⟨length_sweep set false hps, has_sweep set hps⟩

theorem getElem?_ofText (before : Option Char) (i : Nat) (hi : i ≤ text.length) :
    (Boundary.ofText before text)[i]? =
      some ⟨if i = 0 then before else text[i - 1]?, text[i]?⟩ := by
  induction text generalizing before i with
  | nil =>
    obtain rfl := Nat.le_zero.mp hi
    rfl
  | cons c text ih =>
    cases i with
    | zero => rfl
    | succ i =>
      rw [Boundary.ofText, List.getElem?_cons_succ, ih _ i (Nat.le_of_succ_le_succ hi)]
      cases i <;> simp

theorem length_ofText (before : Option Char) :
    (Boundary.ofText before text).length = text.length + 1 := by
  induction text generalizing before with
  | nil => rfl
  | cons c text ih => simp [Boundary.ofText, ih]

theorem carries_restrict (l : Look) :
    Carries (text.length + 1) (restrict l (Boundary.ofText none text))
      (Matches text (.look l)) := by
  intro ps hps
  refine ⟨by simp [restrict, hps, length_ofText], fun j => ?_⟩
  have hhas : (restrict l (Boundary.ofText none text) ps).Has j ↔
      ps.Has j ∧ (Boundary.of text j).satisfies l = true := by
    simp only [Has, restrict, List.getElem?_zipWith]
    cases hp : ps[j]? with
    | none => simp
    | some p =>
      obtain ⟨hj, -⟩ := List.getElem?_eq_some_iff.mp hp
      rw [getElem?_ofText none j (by omega)]
      simp [Boundary.of]
  rw [hhas]
  constructor
  · rintro ⟨hj, hl⟩
    exact ⟨j, hj, rfl, hl⟩
  · rintro ⟨i, hi, rfl, hl⟩
    exact ⟨hi, hl⟩

end Positions

open Positions

/-! ### Searching -/

variable {text : List Char}

theorem carries_rounds {f : Positions → Positions} {R : Nat → Nat → Prop} {n : Nat}
    (hf : Carries n f R) (least more : Nat) :
    Carries n
      (fun ps => iterate (fun qs => union qs (f qs)) more (iterate f least ps))
      (fun i k => ∃ m, least ≤ m ∧ m ≤ least + more ∧ Repeated R m i k) := by
  have hcomp := (hf.iterate least).comp ((Carries.stay.both hf).iterate more)
  refine hcomp.congr fun i k _ => ?_
  simp only [repeated_optional]
  constructor
  · rintro ⟨j, hij, m, hm, hjk⟩
    exact ⟨least + m, by omega, by omega, repeated_append.mpr ⟨j, hij, hjk⟩⟩
  · rintro ⟨m, hlow, hhigh, hik⟩
    obtain ⟨extra, rfl⟩ := Nat.exists_eq_add_of_le hlow
    obtain ⟨j, hij, hjk⟩ := repeated_append.mp hik
    exact ⟨j, hij, extra, by omega, hjk⟩

/-- Without a bound, as many rounds as there are positions are enough. -/
theorem exists_rounds {r : Regex} {f : Positions → Positions}
    (hf : Carries (text.length + 1) f (Matches text r)) {least m i k : Nat}
    (hi : i < text.length + 1) (hm : least ≤ m) (h : Repeated (Matches text r) m i k) :
    ∃ n, least ≤ n ∧ n ≤ least + (text.length + 1) ∧ Repeated (Matches text r) n i k := by
  have hk := (hf.iterate m).lt hi h
  obtain ⟨extra, rfl⟩ := Nat.exists_eq_add_of_le hm
  obtain ⟨j, hij, hjk⟩ := repeated_append.mp h
  obtain ⟨short, hshort, hjk⟩ := hjk.shorten fun i j => Matches.le
  exact ⟨least + short, by omega, by omega, repeated_append.mpr ⟨j, hij, hjk⟩⟩

theorem carries_times {r : Regex} {f : Positions → Positions}
    (hf : Carries (text.length + 1) f (Matches text r)) (least : Nat) (most : Option Nat) :
    Carries (text.length + 1)
      (fun ps => iterate (fun qs => union qs (f qs))
        (match most with
          | some most => most - least
          | none => text.length + 1)
        (iterate f least ps))
      (Matches text (.times least most r)) := by
  cases most with
  | some most =>
    refine (carries_rounds hf least (most - least)).congr fun i k _ => ?_
    refine exists_congr fun m => ?_
    rw [← and_assoc]
    refine and_congr_left fun _ => ?_
    simp only [Admits, Option.some.injEq, forall_eq']
    omega
  | none =>
    refine (carries_rounds hf least (text.length + 1)).congr fun i k hi => ?_
    constructor
    · rintro ⟨m, hm, -, h⟩
      exact ⟨m, ⟨hm, fun b hb => by cases hb⟩, h⟩
    · rintro ⟨m, ⟨hm, -⟩, h⟩
      exact exists_rounds hf hi hm h

/-- A search carries each set of positions to the ends of the matches that begin there. -/
theorem carries_reach (r : Regex) :
    Carries (text.length + 1) (reach text (Boundary.ofText none text) r) (Matches text r) := by
  induction r with
  | empty => exact Carries.stay
  | chars set => exact carries_advance set
  | many set => exact carries_sweep set
  | look l => exact carries_restrict l
  | seq r s ihr ihs => exact ihr.comp ihs
  | alt r s ihr ihs => exact ihr.both ihs
  | times least most r ih => exact carries_times ih least most
  | group r ih => exact ih

/-- A search succeeds exactly if the expression matches some part of the text. -/
theorem matchesIn_iff (r : Regex) (text : List Char) :
    r.matchesIn text = true ↔ ∃ i j, i ≤ text.length ∧ Matches text r i j := by
  have hall : (List.replicate (text.length + 1) true).length = text.length + 1 :=
    List.length_replicate
  obtain ⟨-, hhas⟩ := carries_reach r _ hall
  have hstart (i : Nat) :
      Has (List.replicate (text.length + 1) true) i ↔ i ≤ text.length := by
    rw [← Nat.lt_succ_iff]
    simp [Has, List.getElem?_replicate]
  rw [matchesIn, List.any_eq_true]
  constructor
  · rintro ⟨b, hb, htrue⟩
    obtain ⟨j, hj⟩ := List.mem_iff_getElem?.mp hb
    obtain rfl : b = true := htrue
    obtain ⟨i, hi, h⟩ := (hhas j).mp hj
    exact ⟨i, j, (hstart i).mp hi, h⟩
  · rintro ⟨i, j, hi, h⟩
    exact ⟨true, List.mem_of_getElem? ((hhas j).mpr ⟨i, (hstart i).mpr hi, h⟩), rfl⟩

end RecordQuery.Regex
