import Mathlib.Data.List.Forall2
import RecordQuery.Proofs.Value.Runs

/-!
# Folded values

A text operator with flags is the exact operator on values whose strings have been folded, the
operand and the subject themselves or the elements of lists. So strings may be put for others that
fold alike.
-/

namespace RecordQuery

theorem runs_map {α β : Type} (f : α → β) (n : Nat) (items : List α) :
    runs n (items.map f) = (runs n items).map (List.map f) := by
  simp [runs, List.map_take, List.map_drop]

namespace Value

theorem sameAs_string (s t : String) : (string s).sameAs (.string t) = (s == t) := by
  rw [Bool.eq_iff_iff]
  simp [sameAs, compare]

section

variable [CharData] (flags : Insensitivity)

def foldString : Value → Value
  | .string s => .string (Text.fold flags s)
  | v => v

def foldStrings : Value → Value
  | .list items => .list (items.map (foldString flags))
  | v => foldString flags v

theorem fold_exact (s : String) : Text.fold ∅ s = s := String.ofList_toList

theorem alike_eq_foldString (a b : Value) :
    alike flags a b = alike ∅ (foldString flags a) (foldString flags b) := by
  cases a with
  | string s =>
    cases b with
    | string t =>
      by_cases h : flags.isEmpty = true
      · obtain rfl := Insensitivity.isEmpty_iff.mp h
        simp only [foldString, fold_exact]
      · have hexact : (∅ : Insensitivity).isEmpty = true := rfl
        simp only [foldString, alike, hexact, if_true, sameAs_string, if_neg h]
    | _ => rfl
  | _ => cases b <;> rfl

theorem matchRun_eq_foldString (needle run : List Value) :
    matchRun flags needle run =
      matchRun ∅ (needle.map (foldString flags)) (run.map (foldString flags)) := by
  simp only [matchRun, List.zip_map, List.all_map, Function.comp_def, Prod.map,
    ← alike_eq_foldString]

theorem matchItems_eq_foldString (op : Operator) (items needle : List Value) :
    matchItems op flags items needle =
      matchItems op ∅ (items.map (foldString flags)) (needle.map (foldString flags)) := by
  have hrun : matchRun flags needle =
      fun run => matchRun ∅ (needle.map (foldString flags)) (run.map (foldString flags)) :=
    funext (matchRun_eq_foldString flags needle)
  simp only [matchItems, hrun, List.length_map, List.map_take, List.map_drop, runs_map,
    List.any_map, Function.comp_def, List.isEmpty_map]

theorem matchText_eq_foldStrings (op : Operator) (a b : Value) :
    matchText op flags a b = matchText op ∅ (foldStrings flags a) (foldStrings flags b) := by
  have hchars (s : String) :
      (Text.fold flags s).toList = Text.foldChars flags s.toList := String.toList_ofList
  cases a with
  | string s =>
    cases b with
    | string t =>
      simp only [foldStrings, foldString, matchText, hchars]
      rfl
    | _ => rfl
  | list items =>
    cases b with
    | list needle => exact matchItems_eq_foldString flags op items needle
    | _ => rfl
  | _ => cases b <;> rfl

end

inductive RespelledElement (R : String → String → Prop) : Value → Value → Prop
  | same (a : Value) : RespelledElement R a a
  | string {s t : String} (h : R s t) : RespelledElement R (.string s) (.string t)

/-- Strings are put for related ones: the value itself, or any number of its elements. -/
inductive Respelled (R : String → String → Prop) : Value → Value → Prop
  | whole {a b : Value} (h : RespelledElement R a b) : Respelled R a b
  | elements {as bs : List Value} (h : List.Forall₂ (RespelledElement R) as bs) :
    Respelled R (.list as) (.list bs)

section

variable [CharData] {flags : Insensitivity} {R : String → String → Prop}

theorem RespelledElement.foldString_eq
    (hfold : ∀ s t, R s t → Text.fold flags s = Text.fold flags t) {a b : Value} (h : RespelledElement R a b) : foldString flags a = foldString flags b := by
  cases h with
  | same => rfl
  | string h => rw [foldString, foldString, hfold _ _ h]

theorem Respelled.foldStrings_eq (hfold : ∀ s t, R s t → Text.fold flags s = Text.fold flags t)
    {a b : Value} (h : Respelled R a b) : foldStrings flags a = foldStrings flags b := by
  cases h with
  | whole h =>
    cases h with
    | same => rfl
    | string h => exact (RespelledElement.string h).foldString_eq hfold
  | elements h =>
    rw [foldStrings, foldStrings, Value.list.injEq]
    induction h with
    | nil => rfl
    | cons ha _ ih => rw [List.map_cons, List.map_cons, ha.foldString_eq hfold, ih]

/-- Strings may be put for others that fold alike without a change of any verdict. -/
theorem matchText_eq_of_respelled (hfold : ∀ s t, R s t → Text.fold flags s = Text.fold flags t)
    (op : Operator) {a a' b b' : Value} (ha : Respelled R a a') (hb : Respelled R b b') :
    matchText op flags a b = matchText op flags a' b' := by
  rw [matchText_eq_foldStrings, matchText_eq_foldStrings flags op a', ha.foldStrings_eq hfold,
    hb.foldStrings_eq hfold]

end

end Value

end RecordQuery
