import RecordQuery.Proofs.Schema.AttributeList
import RecordQuery.Proofs.Schema.Directives

/-!
# Options from a list of items

The items of a directive are looked at when all of its tokens have been read. So tokens that go
wrong anywhere come before an item that means nothing, wherever this stands, and of such items the
first one decides. If there is none, all items count, and the last new name is the one that holds.
-/

namespace RecordQuery.Schema

open Attribute (isSkip)

namespace Attribute

/-- The items that have a meaning. -/
inductive Accepted : Attribute → Prop where
  | skip : Accepted (.word ⟨false, ["skip"]⟩)
  | rename {name : String} (h : name ≠ "") : Accepted (.value ⟨false, ["rename"]⟩ (some name))

/-- What is wrong with the other ones. -/
inductive Refused : Attribute → OptionsFault → Prop where
  | renameNotText : Refused (.value ⟨false, ["rename"]⟩ none) .renameNotText
  | renameEmpty : Refused (.value ⟨false, ["rename"]⟩ (some "")) .renameEmpty
  | word {p : Path} (h : p ≠ ⟨false, ["skip"]⟩) : Refused (.word p) .unknown
  | value {p : Path} (h : p ≠ ⟨false, ["rename"]⟩) (text : Option String) :
    Refused (.value p text) .unknown
  | list (p : Path) (ts : List Token) : Refused (.list p ts) .unknown

def text? : Attribute → Option String
  | .value _ text => text
  | _ => none

theorem accepted_or_refused (a : Attribute) : a.Accepted ∨ ∃ f, a.Refused f := by
  cases a with
  | word p =>
    by_cases hp : p = ⟨false, ["skip"]⟩
    · rw [hp]
      exact .inl .skip
    · exact .inr ⟨_, .word hp⟩
  | list p ts => exact .inr ⟨_, .list p ts⟩
  | value p text =>
    by_cases hp : p = ⟨false, ["rename"]⟩
    · rw [hp]
      cases text with
      | none => exact .inr ⟨_, .renameNotText⟩
      | some name =>
        by_cases hname : name = ""
        · rw [hname]
          exact .inr ⟨_, .renameEmpty⟩
        · exact .inl (.rename hname)
    · exact .inr ⟨_, .value hp text⟩

end Attribute

theorem Path.isName_iff {p : Path} {name : String} :
    p.isName name = true ↔ p = ⟨false, [name]⟩ := by
  obtain ⟨fromRoot, segments⟩ := p
  simp [isName]

namespace Options

variable {o : Options} {a : Attribute} {f : OptionsFault}

/-! ### One item -/

theorem apply_of_accepted (h : a.Accepted) :
    o.apply a = .ok ⟨o.skip || isSkip a, a.text?.or o.rename⟩ := by
  cases h with
  | skip => simp [apply, Path.isName, isSkip, Attribute.text?]
  | rename hname => simp [apply, Path.isName, isSkip, Attribute.text?, hname]

theorem apply_of_refused (h : a.Refused f) : o.apply a = .error f := by
  cases h with
  | renameNotText => rfl
  | renameEmpty => rfl
  | word hp => exact if_neg fun hname => hp (Path.isName_iff.mp hname)
  | value hp text => exact if_neg fun hname => hp (Path.isName_iff.mp hname)
  | list p ts => rfl

/-! ### All items -/

theorem applyAll_append_of_accepted {items : List Attribute} (h : ∀ a ∈ items, a.Accepted)
    (rest : List Attribute) :
    o.applyAll (items ++ rest) =
      applyAll ⟨o.skip || items.any isSkip,
        (items.filterMap Attribute.text?).getLast?.or o.rename⟩ rest := by
  induction items generalizing o with
  | nil => simp
  | cons a items ih =>
    obtain ⟨ha, hitems⟩ := List.forall_mem_cons.mp h
    rw [List.cons_append, applyAll, apply_of_accepted ha]
    simp only [ih hitems, List.any_cons, Bool.or_assoc]
    cases htext : a.text? with
    | none => rw [List.filterMap_cons_none htext, Option.none_or]
    | some name =>
      rw [List.filterMap_cons_some htext, List.getLast?_cons]
      cases (items.filterMap Attribute.text?).getLast? <;> rfl

/-- A directive fails with what the grammar says of its tokens if they go wrong anywhere, or else
with the first item that means nothing. Otherwise the field is left out if any item says so, and
goes by the last of the new names. -/
theorem ofTokens_first_fault_or_last_name [Grammar] [Grammar.Documented] (ts : List Token) :
    ((∃ items, Grammar.Written ts items) ∨ ∃ message, Grammar.list ts = .error message) ∧
    (∀ items, Attribute.PlainList ts items → Grammar.Written ts items) ∧
    (Grammar.Broken ts → ∃ message, Grammar.list ts = .error message) ∧
    (∀ message, Grammar.list ts = .error message → ofTokens ts = .error (.misplaced message)) ∧
    ∀ items, Grammar.Written ts items →
      ((∀ a ∈ items, a.Accepted) →
        ofTokens ts =
          .ok ⟨items.any isSkip, (items.filterMap Attribute.text?).getLast?⟩) ∧
      ∀ before a after, items = before ++ a :: after → (∀ b ∈ before, b.Accepted) →
        ¬ a.Accepted → ∃ f, a.Refused f ∧ ofTokens ts = .error f := by
  refine ⟨?_, fun _ => Grammar.written_of_plainList, Grammar.exists_error_of_broken,
    fun message h => ?_, fun items h => ⟨fun haccepted => ?_, ?_⟩⟩
  · cases hlist : Grammar.list ts with
    | ok items => exact .inl ⟨items, Grammar.Documented.list_eq_ok_iff.mp hlist⟩
    | error message => exact .inr ⟨message, rfl⟩
  · rw [ofTokens, h]
  · rw [ofTokens, Grammar.Documented.list_eq_ok_iff.mpr h]
    have happly := applyAll_append_of_accepted (o := default) haccepted []
    rw [List.append_nil] at happly
    simpa [applyAll, default] using happly
  · intro before a after hitems hbefore ha
    obtain ⟨f, hf⟩ := a.accepted_or_refused.resolve_left ha
    refine ⟨f, hf, ?_⟩
    rw [ofTokens, Grammar.Documented.list_eq_ok_iff.mpr h]
    simp only [hitems]
    rw [applyAll_append_of_accepted hbefore, applyAll, apply_of_refused hf]

theorem ofTokens_first_fault_or_last_name_again :
    let comma : Token := .mark ',' false
    let rename (value : Token) : List Token := [.word "rename", .mark '=' false, value]
    let renames : List Token := rename (.text "old") ++
      comma :: ([.word "skip"] ++ comma :: (rename (.text "new") ++ [comma]))
    let unknown : List Token := rename .literal ++ comma :: [.word "hidden"]
    let broken : List Token := [.word "hidden", comma, .word "skip", .word "skip"]
    ofTokens renames = .ok ⟨true, some "new"⟩ ∧ ofTokens unknown = .error .renameNotText ∧
      Grammar.Broken broken ∧ ∃ message, ofTokens broken = .error (.misplaced message) := by
  intro comma rename renames unknown broken
  have hskip : isSegment "skip" = true := by decide
  have hrename : isSegment "rename" = true := by decide
  have hhidden : isSegment "hidden" = true := by decide
  obtain ⟨-, hplain, -, -, hwritten⟩ := ofTokens_first_fault_or_last_name renames
  obtain ⟨-, hplain', -, -, hwritten'⟩ := ofTokens_first_fault_or_last_name unknown
  obtain ⟨-, -, hbroken, hfirst, -⟩ := ofTokens_first_fault_or_last_name broken
  have hrenames := hplain _ (.cons (.text hrename false "old") false
    (.cons (.word hskip) false (.cons (.text hrename false "new") false .nil)))
  have hunknown := hplain' _ (.cons (.literal hrename false) false (.last (.word hhidden)))
  have hlater : Grammar.Broken broken :=
    .later (by simp [broken]) (Grammar.Documented.item_plain (.word hhidden) (.comma false _))
      (.comma (a := .word ⟨false, ["skip"]⟩) (by simp) rfl (by intro h; cases h))
  refine ⟨?_, ?_, hlater, ?_⟩
  · refine (hwritten _ hrenames).1 ?_
    simp only [List.forall_mem_cons]
    exact ⟨.rename (by decide), .skip, .rename (by decide), by simp⟩
  · have hnot : ¬ Attribute.Accepted (.value ⟨false, ["rename"]⟩ none) := by
      intro h
      cases h
    obtain ⟨f, hf, heq⟩ := (hwritten' _ hunknown).2 [] _ _ rfl (by simp) hnot
    cases hf with
    | renameNotText => exact heq
    | value hp => exact absurd rfl hp
  · obtain ⟨message, hmessage⟩ := hbroken hlater
    exact ⟨message, hfirst message hmessage⟩

end Options

end RecordQuery.Schema
