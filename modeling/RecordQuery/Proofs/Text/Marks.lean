import Mathlib.Logic.Relation
import RecordQuery.Proofs.Text.Excerpt
import RecordQuery.Proofs.Text.Stripping
import RecordQuery.Proofs.Value.Folded

/-!
# Marks and diacritics

Where diacritics are ignored, a text counts for the characters of its decomposed form that are no
marks. These do not change when a text is put for an equivalent one, nor when marks come or go: a
mark decomposes into marks, and putting marks in order moves nothing else.
-/

namespace RecordQuery.Text

open CharData

section

variable [CharData]

def unmarked (s : List Char) : List Char := (decomposed s).filter fun c => !isMark c

/-- Strings that differ at most in their marks. -/
def SameUnmarked (s t : String) : Prop := unmarked s.toList = unmarked t.toList

/-- One change of a text that has to do with marks alone. -/
inductive Remarks : List Char → List Char → Prop
  | equivalent {s t : List Char} (h : decomposed s = decomposed t) : Remarks s t
  | insert (before : List Char) {m : Char} (after : List Char) (h : isMark m = true) :
    Remarks (before ++ after) (before ++ m :: after)
  | remove (before : List Char) {m : Char} (after : List Char) (h : isMark m = true) :
    Remarks (before ++ m :: after) (before ++ after)

theorem bare_of_isMark [MarkLaws] {m : Char} (h : isMark m = true) : bare [m] = [] := by
  rw [List.eq_nil_iff_forall_not_mem]
  intro d hd
  obtain ⟨hdmark, c, hc, hdecompose⟩ := mem_bare.mp hd
  rw [List.mem_singleton.mp hc] at hdecompose
  simp [MarkLaws.isMark_of_mem_decompose h hdecompose] at hdmark

theorem stripDiacritics_eq_unmarked (s : List Char) :
    stripDiacritics s = (composed (unmarked s)).map baseLetter := rfl

variable [OrderLaws]

theorem unmarked_eq (s : List Char) : unmarked s = bare s := filter_decomposed s

theorem foldChars_eq_of_unmarked [AsciiLaws] {flags : Insensitivity}
    (hflags : flags.ignoresDiacritics = true) {s t : List Char} (h : unmarked s = unmarked t) :
    foldChars flags s = foldChars flags t := by
  have hstrip : foldDiacritics s = foldDiacritics t := by
    rw [foldDiacritics_eq, foldDiacritics_eq, stripDiacritics_eq_unmarked,
      stripDiacritics_eq_unmarked, h]
  simp only [foldChars, hflags, if_true, hstrip]

variable [MarkLaws]

theorem unmarked_insert (before : List Char) {m : Char} (after : List Char)
    (h : isMark m = true) : unmarked (before ++ m :: after) = unmarked (before ++ after) := by
  simp only [unmarked_eq, bare_append, bare_cons m after, bare_of_isMark h, List.nil_append]

theorem Remarks.unmarked_eq {s t : List Char} (h : Remarks s t) : unmarked s = unmarked t := by
  cases h with
  | equivalent h => rw [unmarked, unmarked, h]
  | insert before after h => rw [unmarked_insert before after h]
  | remove before after h => rw [unmarked_insert before after h]

theorem unmarked_eq_of_remarks {s t : List Char} (h : Relation.ReflTransGen Remarks s t) :
    unmarked s = unmarked t := by
  induction h with
  | refl => rfl
  | tail _ h ih => exact ih.trans h.unmarked_eq

/-- Where diacritics are ignored, strings that differ in marks fold alike, ASCII ones included, and
no text operator tells them apart, be they its subject, its operand or elements of either. Any
number of marks may have come or gone, and canonically equivalent texts been put for one another. -/
theorem fold_eq_of_sameUnmarked [AsciiLaws] {flags : Insensitivity}
    (hflags : Fold.diacritic ∈ flags) :
    (∀ s t : String, Relation.ReflTransGen Remarks s.toList t.toList → SameUnmarked s t) ∧
    (∀ s t, SameUnmarked s t → fold flags s = fold flags t) ∧
    ∀ op a a' b b', Value.Respelled SameUnmarked a a' → Value.Respelled SameUnmarked b b' →
      Value.matchText op flags a b = Value.matchText op flags a' b' := by
  have hfold : ∀ s t, SameUnmarked s t → fold flags s = fold flags t := fun s t h => by
    rw [fold, fold, foldChars_eq_of_unmarked hflags h]
  exact ⟨fun s t h => unmarked_eq_of_remarks h, hfold,
    fun op a a' b b' ha hb => Value.matchText_eq_of_respelled hfold op ha hb⟩

end

theorem fold_eq_of_sameUnmarked_accented :
    @Relation.ReflTransGen (List Char) (@Remarks excerpt) "É".toList "E".toList ∧
      @SameUnmarked excerpt "É" "E" ∧
      @fold excerpt .diacriticOnly "É" = @fold excerpt .diacriticOnly "E" ∧
      @Value.matchText excerpt .endsWith ⟨true, true⟩ (.list [.string "é", .string "É"])
          (.list [.string "E"]) =
        @Value.matchText excerpt .endsWith ⟨true, true⟩ (.list [.string "é", .string "E"])
          (.list [.string "É"]) := by
  have haccented : "É".toList = ['É'] := by decide
  have hbase : "E".toList = ['E'] := by decide
  have hsteps : @Relation.ReflTransGen (List Char) (@Remarks excerpt) "É".toList "E".toList := by
    rw [haccented, hbase]
    have hsplit : @Remarks excerpt ['É'] (['E'] ++ '\u0301' :: []) :=
      @Remarks.equivalent excerpt _ _ (by decide)
    have hdrop : @Remarks excerpt (['E'] ++ '\u0301' :: []) (['E'] ++ []) :=
      @Remarks.remove excerpt ['E'] '\u0301' [] (by decide)
    exact (Relation.ReflTransGen.single hsplit).tail hdrop
  obtain ⟨hsame, hfold, -⟩ := @fold_eq_of_sameUnmarked excerpt _ _ _ .diacriticOnly rfl
  obtain ⟨-, -, hmatch⟩ := @fold_eq_of_sameUnmarked excerpt _ _ _ ⟨true, true⟩ rfl
  have hmarks := hsame "É" "E" hsteps
  exact ⟨hsteps, hmarks, hfold _ _ hmarks, hmatch _ _ _ _ _
    (.elements (.cons (.same _) (.cons (.string hmarks) .nil)))
    (.elements (.cons (.string hmarks.symm) .nil))⟩

end RecordQuery.Text
