import Mathlib.Data.List.Forall2
import RecordQuery.Proofs.Expression.Combination
import RecordQuery.Proofs.Expression.Placeholders
import RecordQuery.Proofs.Reading.Clause

/-!
# Canonical form decides the verdict

A canonical form can be evaluated without the expression that it came from: its text is read from
left to right, and every clause takes the next parameter. Within one pair of parentheses all
connectives are the same, so the verdict so far is all that has to be kept of what has been read
there. Expressions with the same text and the same parameters therefore have the same verdicts.
-/

namespace RecordQuery

open CanonicalForm

variable {ρ : Type}

namespace Reading

variable [CharData] [Pattern.Engine]

mutual

/-- The verdict of a text from where an operand is expected. `level` is what the verdict of that
operand makes of the verdict so far, and `outer` holds the same for the levels around this one. -/
def expectOperand (read : Values) (level : Bool → Bool) (outer : List (Bool → Bool))
    (params : List Value) : List Token → Bool
  | .word w :: rest =>
    if w = "NOT".toList ∧ rest.head? = some .opening then
      expectOperand read id ((fun b => level !b) :: outer) params rest.tail
    else
      match clause? w rest with
      | some c =>
        afterOperand read (level (c.verdict read (params.headD .absent))) outer params.tail
          (rest.drop c.more)
      | none => afterOperand read (level (w = "TRUEPREDICATE".toList)) outer params rest
  | .opening :: rest => expectOperand read id (level :: outer) params rest
  | _ => level true
termination_by tokens => tokens.length

/-- The verdict of a text from where an operand has ended, if that makes `verdict` of the level. -/
def afterOperand (read : Values) (verdict : Bool) (outer : List (Bool → Bool))
    (params : List Value) : List Token → Bool
  | .word w :: rest =>
    if w = "AND".toList then expectOperand read (verdict && ·) outer params rest
    else expectOperand read (verdict || ·) outer params rest
  | .closing :: rest =>
    match outer with
    | level :: outer => afterOperand read (level verdict) outer params rest
    | [] => verdict
  | _ => verdict
termination_by tokens => tokens.length

end

section Steps

variable (read : Values) (level : Bool → Bool) (verdict : Bool)
  (outer : List (Bool → Bool)) (params : List Value) (tokens : List Token)

theorem expectOperand_opening :
    expectOperand read level outer params (.opening :: tokens) =
      expectOperand read id (level :: outer) params tokens := by
  rw [expectOperand]

theorem expectOperand_negation :
    expectOperand read level outer params (.word "NOT".toList :: .opening :: tokens) =
      expectOperand read id ((fun b => level !b) :: outer) params tokens := by
  rw [expectOperand, if_pos ⟨rfl, rfl⟩, List.tail_cons]

variable {tokens} in
theorem expectOperand_clause {w : List Char} {c : Clause}
    (hnot : tokens.head? ≠ some .opening) (hc : clause? w tokens = some c) :
    expectOperand read level outer params (.word w :: tokens) =
      afterOperand read (level (c.verdict read (params.headD .absent))) outer params.tail
        (tokens.drop c.more) := by
  rw [expectOperand, if_neg (fun h => hnot h.2), hc]

variable {tokens} in
theorem expectOperand_fixed {w : List Char} (hnot : w ≠ "NOT".toList)
    (hc : clause? w tokens = none) :
    expectOperand read level outer params (.word w :: tokens) =
      afterOperand read (level (w = "TRUEPREDICATE".toList)) outer params tokens := by
  rw [expectOperand, if_neg (fun h => hnot h.1), hc]

theorem afterOperand_and :
    afterOperand read verdict outer params (.word "AND".toList :: tokens) =
      expectOperand read (verdict && ·) outer params tokens := by
  rw [afterOperand, if_pos rfl]

theorem afterOperand_or :
    afterOperand read verdict outer params (.word "OR".toList :: tokens) =
      expectOperand read (verdict || ·) outer params tokens := by
  rw [afterOperand, if_neg (by decide)]

theorem afterOperand_closing :
    afterOperand read verdict (level :: outer) params (.closing :: tokens) =
      afterOperand read (level verdict) outer params tokens := by
  rw [afterOperand]

end Steps

end Reading

def Part.chars (n : Nat) (parts : List (Part ρ)) : List Char := (spell (allPieces n parts)).toList

theorem Part.chars_text (n : Nat) (s : String) (parts : List (Part ρ)) :
    chars n (.text s :: parts) = s.toList ++ chars n parts := by
  simp [chars, allPieces, pieces, params, spell, Piece.spelling]

theorem Part.chars_append (n : Nat) (u v : List (Part ρ)) :
    chars n (u ++ v) = chars n u ++ chars (n + (allParams u).length) v := by
  simp [chars, allPieces_append]

theorem Part.chars_leaf (n : Nat) (p : Predicate ρ) :
    chars n [.leaf p] = (spell (p.compile.pieces n)).toList := by
  simp [chars, allPieces, pieces]

theorem Part.allParams_enclosed (parts : List (Part ρ)) :
    Part.allParams (Expression.enclosedLayout true parts) = Part.allParams parts := by
  simp [Expression.enclosedLayout, Part.allParams, Part.params]

theorem Part.chars_enclosed (n : Nat) (parts : List (Part ρ)) :
    Part.chars n (Expression.enclosedLayout true parts) = '(' :: (Part.chars n parts ++ [')']) := by
  rw [Expression.enclosedLayout, if_pos rfl, List.cons_append, Part.chars_text, Part.chars_append,
    Part.chars_text]
  simp [Part.chars, Part.allPieces, spell]

namespace Reading

theorem follows_rest {separator : String}
    (hfollows : ∀ rest, Follows (separator.toList ++ rest)) (n : Nat) (cs : List (Expression ρ))
    {rest : List Char} (hrest : Follows rest) :
    Follows (Part.chars n (Expression.layoutRest separator cs) ++ rest) := by
  cases cs with
  | nil => exact hrest
  | cons c cs =>
    rw [Expression.layoutRest, List.cons_append, Part.chars_text, List.append_assoc]
    exact hfollows _

theorem foldl_and (f : Expression ρ → Bool) (v : Bool) (cs : List (Expression ρ)) :
    cs.foldl (fun v c => v && f c) v = (v && cs.all f) := by
  induction cs generalizing v with
  | nil => simp
  | cons c cs ih => simp [ih, Bool.and_assoc]

theorem foldl_or (f : Expression ρ → Bool) (v : Bool) (cs : List (Expression ρ)) :
    cs.foldl (fun v c => v || f c) v = (v || cs.any f) := by
  induction cs generalizing v with
  | nil => simp
  | cons c cs ih => simp [ih, Bool.or_assoc]

variable [CharData] [Pattern.Engine]

/-- Whether a text with this layout is read as an operand with the verdict `b`, on a level where
that verdict makes `level b` of what came before. The parameters need only agree with its own. -/
def Reads (read : Values) (parts : List (Part ρ)) (b : Bool) (level : Bool → Bool) : Prop :=
  ∀ (n : Nat) (outer : List (Bool → Bool)) (params more : List Value) (rest : List Char),
    List.Forall₂ Value.Agrees params (Part.allParams parts) → Follows rest →
      expectOperand read level outer (params ++ more) (scan [] (Part.chars n parts ++ rest)) =
        afterOperand read (level b) outer more (scan [] rest)

variable {read : Values} {level : Bool → Bool} {r : ρ}

theorem expectOperand_fixed_text {s : String} (hs : IsWord s.toList)
    (hq : quantifier? s.toList = none) (outer : List (Bool → Bool)) (params : List Value)
    {rest : List Char} (hrest : Follows rest) :
    expectOperand read level outer params (scan [] (s.toList ++ rest)) =
      afterOperand read (level (s.toList = "TRUEPREDICATE".toList)) outer params
        (scan [] rest) := by
  have hnot : s.toList ≠ "NOT".toList := by
    intro h
    rw [h] at hq
    exact absurd hq (by decide)
  rw [scan_word_follows hs hrest]
  exact expectOperand_fixed read level outer params hnot (clause?_fixed hq hrest)

theorem Reads.fixed (read : Values) (level : Bool → Bool) {s : String}
    (hs : IsWord s.toList) (hq : quantifier? s.toList = none) :
    Reads (ρ := ρ) read [.text s] (s.toList = "TRUEPREDICATE".toList) level := by
  intro n outer params more rest hparams hrest
  obtain rfl : params = [] := List.forall₂_nil_right_iff.mp hparams
  have hchars : Part.chars n [Part.text (ρ := ρ) s] = s.toList := by
    rw [Part.chars_text]
    simp [Part.chars, Part.allPieces, spell]
  rw [hchars]
  exact expectOperand_fixed_text hs hq outer more hrest

theorem Reads.universal {p : Predicate ρ} (hs : p.compile.selector? = none)
    (read : Values) (r : ρ) (level : Bool → Bool) :
    Reads read [.leaf p] (p.evaluate r) level := by
  intro n outer params more rest hparams hrest
  have hverdict : p.evaluate r = true := by rw [Predicate.evaluate, Operation.evaluate, hs]
  have hnone : Part.allParams [Part.leaf p] = [] := by
    simp [Part.allParams, Part.params, Operation.params, Operation.isUniversal, hs]
  have htext : spell (p.compile.pieces n) = "TRUEPREDICATE" := by
    simp [Operation.pieces, hs, spell, Piece.spelling, Operator.symbol]
  rw [hnone] at hparams
  obtain rfl : params = [] := List.forall₂_nil_right_iff.mp hparams
  rw [Part.chars_leaf, htext, hverdict]
  exact expectOperand_fixed_text (by decide) (by decide) outer more hrest

theorem Reads.selected {p : Predicate ρ} {s : Selector ρ} (hp : p.compile.Legible read r)
    (hs : p.compile.selector? = some s) (level : Bool → Bool) :
    Reads read [.leaf p] (p.evaluate r) level := by
  intro n outer params more rest hparams hrest
  have hone : Part.allParams [Part.leaf p] = [p.compile.operand.param] := by
    simp [Part.allParams, Part.params, Operation.params, Operation.isUniversal, hs]
  have htext : (spell (p.compile.pieces n)).toList =
      (p.compile.heading s).toList ++ (placeholder (n + 1)).toList := by
    simp [Operation.pieces, hs, spell, Piece.spelling, placeholder]
  rw [hone] at hparams
  obtain ⟨v, us, hv, hus, rfl⟩ := List.forall₂_cons_right_iff.mp hparams
  obtain rfl : us = [] := List.forall₂_nil_right_iff.mp hus
  have hname := (hp.field s hs).1
  have hverdict (m : Nat) := Clause.verdict_eq_evaluate hp hs hv m
  rw [Part.chars_leaf, htext, List.append_assoc]
  by_cases hq : s.quantifier = .plain
  · rw [Operation.scan_plain _ hq hname _ hrest,
      expectOperand_clause read level outer _ (by simp) (clause?_plain _ _ hp.flags _)]
    rw [hq] at hverdict
    simp [hverdict, Predicate.evaluate]
  · rw [Operation.scan_quantified _ hq hname _ hrest,
      expectOperand_clause read level outer _ (by simp) (clause?_quantified _ hq hp.flags _)]
    simp [hverdict, Predicate.evaluate]

theorem Reads.leaf {p : Predicate ρ} (hp : p.compile.Legible read r) (level : Bool → Bool) :
    Reads read [.leaf p] (p.evaluate r) level := by
  cases hs : p.compile.selector? with
  | none => exact Reads.universal hs read r level
  | some s => exact Reads.selected hp hs level

theorem Reads.group {parts : List (Part ρ)} {b : Bool} (h : Reads read parts b id)
    (level : Bool → Bool) (n : Nat) (outer : List (Bool → Bool)) {params : List Value}
    (more : List Value) (rest : List Char)
    (hparams : List.Forall₂ Value.Agrees params (Part.allParams parts)) :
    expectOperand read id (level :: outer) (params ++ more)
        (scan [] (Part.chars n parts ++ ')' :: rest)) =
      afterOperand read (level b) outer more (scan [] rest) := by
  rw [h n _ params more _ hparams (.closing rest), scan_closing]
  exact afterOperand_closing read level b outer more _

theorem Reads.enclosed {parts : List (Part ρ)} {b : Bool} (h : Reads read parts b id)
    (level : Bool → Bool) : Reads read (Expression.enclosedLayout true parts) b level := by
  intro n outer params more rest hparams _
  rw [Part.allParams_enclosed] at hparams
  rw [Part.chars_enclosed, List.cons_append, scan_opening, List.append_assoc]
  exact (expectOperand_opening read level outer _ _).trans (h.group level n outer more rest hparams)

theorem Reads.negation {parts : List (Part ρ)} {b : Bool} (h : Reads read parts b id)
    (level : Bool → Bool) :
    Reads read (.text "NOT " :: Expression.enclosedLayout true parts) (!b) level := by
  intro n outer params more rest hparams _
  have hinner : List.Forall₂ Value.Agrees params (Part.allParams parts) := by
    simpa [Part.allParams, Part.params, Expression.enclosedLayout] using hparams
  rw [Part.chars_text, Part.chars_enclosed]
  change expectOperand read level outer _
    (scan [] ("NOT".toList ++ ' ' :: ('(' :: (Part.chars n parts ++ [')']) ++ rest))) = _
  rw [scan_word_space (by decide), List.cons_append, scan_opening, List.append_assoc]
  exact (expectOperand_negation read level outer _ _).trans
    (h.group (fun b => level !b) n outer more rest hinner)

/-- An operand and the children after it, which a separator joins to what came before. -/
theorem Reads.children {separator : String} (combine : Bool → Bool → Bool)
    (hseparator : ∀ verdict outer params rest,
      afterOperand read verdict outer params (scan [] (separator.toList ++ rest)) =
        expectOperand read (combine verdict) outer params (scan [] rest))
    (hfollows : ∀ rest, Follows (separator.toList ++ rest))
    {parts : List (Part ρ)} {b : Bool} {level : Bool → Bool} (h : Reads read parts b level)
    {cs : List (Expression ρ)}
    (hcs : ∀ c ∈ cs, ∀ level, Reads read (Expression.enclosedLayout c.needsParens c.layout)
      (c.evaluate r) level)
    (n : Nat) (outer : List (Bool → Bool)) (params more : List Value) {rest : List Char}
    (hparams : List.Forall₂ Value.Agrees params
      (Part.allParams (parts ++ Expression.layoutRest separator cs)))
    (hrest : Follows rest) :
    expectOperand read level outer (params ++ more)
        (scan [] (Part.chars n (parts ++ Expression.layoutRest separator cs) ++ rest)) =
      afterOperand read (cs.foldl (fun v c => combine v (c.evaluate r)) (level b)) outer more
        (scan [] rest) := by
  induction cs generalizing parts b level n params with
  | nil =>
    simp only [Expression.layoutRest, List.append_nil] at hparams ⊢
    exact h n outer params more rest hparams hrest
  | cons c cs ih =>
    have hparts : Part.allParams (parts ++ Expression.layoutRest separator (c :: cs)) =
        Part.allParams parts ++ Part.allParams
          (Expression.enclosedLayout c.needsParens c.layout ++
            Expression.layoutRest separator cs) := by
      simp [Expression.layoutRest, Part.allParams, Part.params]
    rw [hparts] at hparams
    have hhere := List.forall₂_take_append _ _ _ hparams
    have hthere := List.forall₂_drop_append _ _ _ hparams
    rw [Part.chars_append, List.append_assoc,
      ← List.take_append_drop (Part.allParams parts).length params, List.append_assoc,
      h n outer _ _ _ hhere (follows_rest hfollows _ _ hrest), Expression.layoutRest,
      List.cons_append, Part.chars_text, List.append_assoc, hseparator]
    exact ih (hcs c (by simp) _) (fun d hd => hcs d (by simp [hd])) _ _ hthere

theorem Reads.joined {separator : String} (combine : Bool → Bool → Bool)
    (hseparator : ∀ verdict outer params rest,
      afterOperand read verdict outer params (scan [] (separator.toList ++ rest)) =
        expectOperand read (combine verdict) outer params (scan [] rest))
    (hfollows : ∀ rest, Follows (separator.toList ++ rest))
    {parts : List (Part ρ)} {b : Bool} (h : Reads read parts b id) {cs : List (Expression ρ)}
    (hcs : ∀ c ∈ cs, ∀ level, Reads read (Expression.enclosedLayout c.needsParens c.layout)
      (c.evaluate r) level) :
    Reads read (parts ++ Expression.layoutRest separator cs)
      (cs.foldl (fun v c => combine v (c.evaluate r)) b) id := by
  intro n outer params more rest hparams hrest
  exact Reads.children combine hseparator hfollows h hcs n outer params more hparams hrest

theorem Reads.child {c : Expression ρ} {b : Bool}
    (h : ∀ level, (c.needsParens = true → level = id) → Reads read c.layout b level)
    (level : Bool → Bool) :
    Reads read (Expression.enclosedLayout c.needsParens c.layout) b level := by
  cases hc : c.needsParens with
  | true => exact (h id fun _ => rfl).enclosed level
  | false => exact h level (by simp [hc])

theorem Reads.members {cs : List (Expression ρ)} (hcs : ∀ p ∈ cs.flatMap Expression.leaves,
      p.compile.Legible read r)
    (h : ∀ c ∈ cs, (∀ p ∈ c.leaves, p.compile.Legible read r) →
      ∀ level, (c.needsParens = true → level = id) → Reads read c.layout (c.evaluate r) level) :
    ∀ c ∈ cs, ∀ level,
      Reads read (Expression.enclosedLayout c.needsParens c.layout) (c.evaluate r) level := by
  intro c hc level
  have hleaves : ∀ p ∈ c.leaves, p.compile.Legible read r := fun p hp =>
    hcs p (List.mem_flatMap.mpr ⟨c, hc, hp⟩)
  exact Reads.child (h c hc hleaves) level

/-- Reading the text of an expression gives its verdict. A conjunction or disjunction without
parentheses has to begin its level. -/
theorem reads_layout (e : Expression ρ) (he : ∀ p ∈ e.leaves, p.compile.Legible read r)
    (level : Bool → Bool) (hlevel : e.needsParens = true → level = id) :
    Reads read e.layout (e.evaluate r) level := by
  induction e generalizing level with
  | leaf p => simpa [Expression.layout] using Reads.leaf (he p (by simp)) level
  | all cs ih =>
    obtain rfl := hlevel rfl
    cases cs with
    | nil => exact Reads.fixed read id (s := "TRUEPREDICATE") (by decide) (by decide)
    | cons c cs =>
      rw [Expression.leaves_all] at he
      have hchild := Reads.members he ih
      have hread := Reads.joined (· && ·)
        (fun verdict outer params rest => by rw [scan_and, afterOperand_and]) Follows.and
        (hchild c (by simp) id) fun d hd => hchild d (List.mem_cons_of_mem c hd)
      rw [foldl_and] at hread
      simpa [Expression.layout] using hread
  | any cs ih =>
    obtain rfl := hlevel rfl
    cases cs with
    | nil => exact Reads.fixed read id (s := "FALSEPREDICATE") (by decide) (by decide)
    | cons c cs =>
      rw [Expression.leaves_any] at he
      have hchild := Reads.members he ih
      have hread := Reads.joined (· || ·)
        (fun verdict outer params rest => by rw [scan_or, afterOperand_or]) Follows.or
        (hchild c (by simp) id) fun d hd => hchild d (List.mem_cons_of_mem c hd)
      rw [foldl_or] at hread
      simpa [Expression.layout] using hread
  | negation c ih =>
    rw [Expression.evaluate_negation, Expression.layout]
    refine Reads.negation (ih (fun p hp => he p ?_) id fun _ => rfl) level
    rwa [Expression.leaves_negation]

end Reading

end RecordQuery
