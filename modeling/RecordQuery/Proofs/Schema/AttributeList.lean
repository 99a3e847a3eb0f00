import RecordQuery.Proofs.Schema.Grammar
import RecordQuery.Proofs.Schema.TokenCount

/-!
# The standard grammar

Each attribute takes some of the tokens, so that the fuel of the reader for lists does not run out
before the tokens do. Plain attributes are read up to the next comma.
-/

namespace RecordQuery.Schema

namespace ValueTerm

theorem skipSuffix_of_ends (fuel : Nat) {rest : List Token} (h : Ends rest) :
    skipSuffix fuel rest = .ok rest := by
  cases fuel with
  | zero => rw [skipSuffix]
  | succ fuel => cases h <;> rw [skipSuffix] <;> simp

theorem skip_of_ends {fuel : Nat} {ts rest : List Token} (h : Ends rest)
    (hoperand : skipOperand fuel ts = .ok rest) : skip (fuel + 1) ts = .ok rest := by
  have hnone : skipOpenRange? rest = none ∧ skipOperator? rest = none := by
    cases h with
    | nil => exact ⟨rfl, rfl⟩
    | comma joined more => cases joined <;> exact ⟨rfl, rfl⟩
  rw [skip, hoperand]
  simp only [hnone]

theorem read_text {rest : List Token} (h : Ends rest) (value : String) :
    read (.text value :: rest) = .ok (some value, rest) := by
  have hoperand (fuel : Nat) : skipOperand (fuel + 1) (.text value :: rest) = .ok rest := by
    rw [skipOperand]
    exact skipSuffix_of_ends fuel h
  have hall : read.skipAll (.text value :: rest) = .ok rest := skip_of_ends h (hoperand _)
  simp [read, hall, Except.map]

theorem read_literal {rest : List Token} (h : Ends rest) :
    read (.literal :: rest) = .ok (none, rest) := by
  have hoperand (fuel : Nat) : skipOperand (fuel + 1) (.literal :: rest) = .ok rest := by
    rw [skipOperand]
    exact skipSuffix_of_ends fuel h
  have hall : read.skipAll (.literal :: rest) = .ok rest := skip_of_ends h (hoperand _)
  simp [read, hall, Except.map]

end ValueTerm

namespace Path

theorem readSegments_of_ends {rest : List Token} (h : Ends rest) :
    readSegments rest = .ok ([], rest) := by
  cases h <;> rfl

theorem read_word {name : String} {rest : List Token} (h : isSegment name = true)
    (hrest : readSegments rest = .ok ([], rest)) :
    read (.word name :: rest) = .ok (⟨false, [name]⟩, rest) := by
  have hunsafe : name ≠ "unsafe" := by
    intro heq
    rw [heq] at h
    cases h
  simp [read, readNames, h, hrest, hunsafe, Except.map]

end Path

namespace Attribute

/-- A plain spelling is read as it is meant, whatever follows it in a list. -/
theorem read_append_of_plain {ts rest : List Token} {a : Attribute} (h : Plain ts a)
    (hrest : Ends rest) : read (ts ++ rest) = .ok (a, rest) := by
  cases h with
  | @word name hname =>
    have hpath := Path.read_word hname (Path.readSegments_of_ends hrest)
    cases hrest <;> simp [read, hpath, bind, Except.bind, pure, Except.pure]
  | @list name hname d inner =>
    have hpath : Path.read (.word name :: .group d inner :: rest) =
        .ok (⟨false, [name]⟩, .group d inner :: rest) := Path.read_word hname rfl
    simp [read, hpath, bind, Except.bind, pure, Except.pure]
  | @text name hname joined value =>
    have hpath : Path.read (.word name :: .mark '=' joined :: .text value :: rest) =
        .ok (⟨false, [name]⟩, .mark '=' joined :: .text value :: rest) := Path.read_word hname rfl
    simp [read, hpath, ValueTerm.read_text hrest, bind, Except.bind, pure, Except.pure]
  | @literal name hname joined =>
    have hpath : Path.read (.word name :: .mark '=' joined :: .literal :: rest) =
        .ok (⟨false, [name]⟩, .mark '=' joined :: .literal :: rest) := Path.read_word hname rfl
    simp [read, hpath, ValueTerm.read_literal hrest, bind, Except.bind, pure, Except.pure]

section

variable {fuel : Nat} {ts rest : List Token} {a : Attribute}

theorem ne_nil_of_read (h : read ts = .ok (a, rest)) : ts ≠ [] := by
  apply List.ne_nil_of_length_pos
  exact Nat.zero_lt_of_lt (length_read_lt h)

theorem readList_succ (hne : ts ≠ []) :
    readList (fuel + 1) ts =
      match read ts with
      | .error e => .error e
      | .ok (a, []) => .ok [a]
      | .ok (a, .mark ',' _ :: rest) => (readList fuel rest).map (a :: ·)
      | .ok (_, rest) => .error (.before .comma rest) := by
  cases ts with
  | nil => exact absurd rfl hne
  | cons t ts => rfl

theorem readList_of_last (h : read ts = .ok (a, [])) : readList (fuel + 1) ts = .ok [a] := by
  rw [readList_succ (ne_nil_of_read h), h]

theorem readList_of_comma {joined : Bool} (h : read ts = .ok (a, .mark ',' joined :: rest)) :
    readList (fuel + 1) ts = (readList fuel rest).map (a :: ·) := by
  rw [readList_succ (ne_nil_of_read h), h]
  rfl

end

end Attribute

namespace Grammar

open Attribute (read readList length_read_lt)

theorem mapError_eq_ok_iff {α ε ε' : Type} {x : Except ε α} {f : ε → ε'} {a : α} :
    x.mapError f = .ok a ↔ x = .ok a := by
  cases x with
  | error e => exact iff_of_false nofun nofun
  | ok b =>
    change Except.ok b = Except.ok a ↔ _
    rw [Except.ok.injEq, Except.ok.injEq]

theorem item_standard_iff {ts rest : List Token} {a : Attribute} :
    item ts = .ok (a, rest) ↔ read ts = .ok (a, rest) :=
  mapError_eq_ok_iff

theorem list_standard_iff {ts : List Token} {items : List Attribute} :
    list ts = .ok items ↔ readList ts.length ts = .ok items :=
  mapError_eq_ok_iff

theorem readList_of_written {ts : List Token} {items : List Attribute} (h : Written ts items)
    {fuel : Nat} (hfuel : ts.length ≤ fuel) : readList fuel ts = .ok items := by
  induction h generalizing fuel with
  | nil => cases fuel <;> rfl
  | last h =>
    have hread := item_standard_iff.mp h
    have hpos := length_read_lt hread
    obtain ⟨n, rfl⟩ : ∃ n, fuel = n + 1 := ⟨fuel - 1, by omega⟩
    exact Attribute.readList_of_last hread
  | cons h _ ih =>
    have hread := item_standard_iff.mp h
    have hlt := length_read_lt hread
    rw [List.length_cons] at hlt
    obtain ⟨n, rfl⟩ : ∃ n, fuel = n + 1 := ⟨fuel - 1, by omega⟩
    rw [Attribute.readList_of_comma hread, ih (by omega)]
    rfl

theorem written_of_readList {fuel : Nat} {ts : List Token} {items : List Attribute}
    (h : readList fuel ts = .ok items) (hfuel : ts.length ≤ fuel) : Written ts items := by
  induction fuel generalizing ts items with
  | zero =>
    obtain rfl : ts = [] := List.eq_nil_of_length_eq_zero (Nat.le_zero.mp hfuel)
    cases h
    exact .nil
  | succ fuel ih =>
    by_cases hne : ts = []
    · rw [hne] at h ⊢
      cases h
      exact .nil
    rw [Attribute.readList_succ hne] at h
    split at h
    · cases h
    · rename_i a hread
      cases h
      exact .last (item_standard_iff.mpr hread)
    · rename_i a joined rest hread
      have hlt := length_read_lt hread
      rw [List.length_cons] at hlt
      cases hrest : readList fuel rest with
      | error m => rw [hrest] at h; cases h
      | ok later =>
        rw [hrest] at h
        cases h
        exact .cons (item_standard_iff.mpr hread) (ih hrest (by omega))
    · cases h

instance : Documented where
  item_plain h hrest := item_standard_iff.mpr (Attribute.read_append_of_plain h hrest)
  list_eq_ok_iff := by
    intro ts items
    rw [list_standard_iff]
    constructor
    · intro h
      exact written_of_readList h (Nat.le_refl _)
    · intro h
      exact readList_of_written h (Nat.le_refl _)

end Grammar

end RecordQuery.Schema
