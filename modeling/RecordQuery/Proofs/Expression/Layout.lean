import RecordQuery.Proofs.Expression.Tree
import RecordQuery.Proofs.Predicate.FirstOperator

/-!
# Layout of canonical text

The canonical text of an expression without its numbers: fixed texts, and the predicates at the
leaves where their own texts come. Writing an expression goes through its layout from left to
right, and every predicate that has an operator takes the next number. So the number of a
placeholder is its place in the layout, whatever the form held before.
-/

namespace RecordQuery

variable {ρ : Type}

namespace CanonicalForm

/-- A piece of canonical text. Marked placeholders cannot be mistaken for parts of a field name. -/
inductive Piece where
  | text (s : String)
  | placeholder (n : Nat)

namespace Piece

def spelling : Piece → String
  | .text s => s
  | .placeholder n => "$" ++ toString n

def raise (n : Nat) : Piece → Piece
  | .text s => .text s
  | .placeholder k => .placeholder (n + k)

end Piece

def spell : List Piece → String
  | [] => ""
  | piece :: rest => piece.spelling ++ spell rest

@[simp] theorem spell_append (u v : List Piece) : spell (u ++ v) = spell u ++ spell v := by
  induction u with
  | nil => simp [spell]
  | cons piece rest ih => simp [spell, ih, String.append_assoc]

end CanonicalForm

open CanonicalForm

namespace Operation

/-- What stands before the placeholder of an operation on a selected field. -/
def heading (o : Operation ρ) (s : Selector ρ) : String :=
  let quantifier := if s.quantifier.keyword.isEmpty then "" else s.quantifier.keyword ++ " "
  let flags :=
    if o.operator.isText && !o.insensitivity.isEmpty then "[" ++ o.insensitivity.letters ++ "]"
    else ""
  quantifier ++ s.field ++ " " ++ o.operator.symbol ++ flags ++ " "

def pieces (o : Operation ρ) (n : Nat) : List Piece :=
  match o.selector? with
  | none => [.text Operator.always.symbol]
  | some s => [.text (o.heading s), .placeholder (n + 1)]

def params (o : Operation ρ) : List Value := if o.isUniversal then [] else [o.operand.param]

theorem write_eq (o : Operation ρ) (form : CanonicalForm) :
    o.write form = ⟨form.text ++ spell (o.pieces form.params.length), form.params ++ o.params⟩ := by
  cases hs : o.selector? with
  | none =>
    simp [write, hs, CanonicalForm.push, pieces, params, isUniversal, spell, Piece.spelling]
  | some s =>
    simp only [write, hs, CanonicalForm.push, CanonicalForm.bind,
      CanonicalForm.placeholder, pieces, params, isUniversal, spell, Piece.spelling, heading,
      Option.isNone_some]
    simp [String.append_assoc]

theorem canonical_params (o : Operation ρ) : o.canonical.params = o.params := by
  simp [canonical, write_eq, CanonicalForm.empty]

theorem raise_pieces (o : Operation ρ) (n m : Nat) :
    (o.pieces m).map (Piece.raise n) = o.pieces (n + m) := by
  cases hs : o.selector? with
  | none => simp [pieces, hs, Piece.raise]
  | some s => simp [pieces, hs, Piece.raise, Nat.add_assoc]

end Operation

inductive Part (ρ : Type) where
  | text (s : String)
  | leaf (p : Predicate ρ)

namespace Part

def leaf? : Part ρ → Option (Predicate ρ)
  | .text _ => none
  | .leaf p => some p

def pieces (n : Nat) : Part ρ → List Piece
  | .text s => [.text s]
  | .leaf p => p.compile.pieces n

def params : Part ρ → List Value
  | .text _ => []
  | .leaf p => p.compile.params

def allParams (parts : List (Part ρ)) : List Value := parts.flatMap params

def allPieces (n : Nat) : List (Part ρ) → List Piece
  | [] => []
  | part :: rest => part.pieces n ++ allPieces (n + part.params.length) rest

theorem allPieces_append (n : Nat) (u v : List (Part ρ)) :
    allPieces n (u ++ v) = allPieces n u ++ allPieces (n + (allParams u).length) v := by
  induction u generalizing n with
  | nil => simp [allPieces, allParams]
  | cons part rest ih => simp [allPieces, ih, allParams, Nat.add_assoc]

theorem raise_allPieces (n m : Nat) (parts : List (Part ρ)) :
    (allPieces m parts).map (Piece.raise n) = allPieces (n + m) parts := by
  induction parts generalizing m with
  | nil => rfl
  | cons part rest ih =>
    have hpart : (part.pieces m).map (Piece.raise n) = part.pieces (n + m) := by
      cases part with
      | text s => rfl
      | leaf p => exact p.compile.raise_pieces n m
    simp [allPieces, hpart, ih, Nat.add_assoc]

end Part

namespace Expression

def enclosedLayout (parens : Bool) (parts : List (Part ρ)) : List (Part ρ) :=
  if parens then .text "(" :: parts ++ [.text ")"] else parts

mutual

/-- The fixed texts and the predicates that canonical text is made of. -/
def layout : Expression ρ → List (Part ρ)
  | .leaf p => [.leaf p]
  | .all [] => [.text "TRUEPREDICATE"]
  | .all (c :: cs) => enclosedLayout c.needsParens c.layout ++ layoutRest " AND " cs
  | .any [] => [.text "FALSEPREDICATE"]
  | .any (c :: cs) => enclosedLayout c.needsParens c.layout ++ layoutRest " OR " cs
  | .negation c => .text "NOT " :: enclosedLayout true c.layout

def layoutRest (separator : String) : List (Expression ρ) → List (Part ρ)
  | [] => []
  | c :: cs => .text separator :: enclosedLayout c.needsParens c.layout ++ layoutRest separator cs

end

/-- A way of writing that goes through a layout from left to right. -/
def Writes (f : CanonicalForm → CanonicalForm) (parts : List (Part ρ)) : Prop :=
  ∀ form, f form =
    ⟨form.text ++ spell (Part.allPieces form.params.length parts),
      form.params ++ Part.allParams parts⟩

theorem Writes.push (s : String) : Writes (ρ := ρ) (CanonicalForm.push · s) [.text s] := by
  intro form
  simp [CanonicalForm.push, Part.allPieces, Part.pieces, Part.allParams, Part.params, spell,
    Piece.spelling]

theorem Writes.comp {f g : CanonicalForm → CanonicalForm} {u v : List (Part ρ)}
    (hf : Writes f u) (hg : Writes g v) : Writes (fun form => g (f form)) (u ++ v) := by
  intro form
  change g (f form) = _
  rw [hf form, hg]
  simp [Part.allPieces_append, Part.allParams, String.append_assoc]

theorem Writes.enclose {f : CanonicalForm → CanonicalForm} {u : List (Part ρ)} (hf : Writes f u)
    (parens : Bool) : Writes (Expression.enclose parens f) (enclosedLayout parens u) := by
  cases parens with
  | false => exact hf
  | true => exact ((Writes.push "(").comp hf).comp (Writes.push ")")

theorem Writes.rest {cs : List (Expression ρ)} (h : ∀ c ∈ cs, Writes c.write c.layout)
    (separator : String) : Writes (writeRest separator cs) (layoutRest separator cs) := by
  induction cs with
  | nil =>
    intro form
    simp [writeRest, layoutRest, Part.allPieces, Part.allParams, spell]
  | cons c cs ih =>
    have hc := (h c (by simp)).enclose c.needsParens
    have hcs := ih fun d hd => h d (by simp [hd])
    simpa [writeRest, layoutRest] using ((Writes.push separator).comp hc).comp hcs

theorem writes_layout (e : Expression ρ) : Writes e.write e.layout := by
  induction e with
  | leaf p =>
    intro form
    simp [write, layout, Operation.write_eq, Part.allPieces, Part.pieces, Part.allParams,
      Part.params]
  | all cs ih =>
    cases cs with
    | nil => exact Writes.push "TRUEPREDICATE"
    | cons c cs =>
      have hc := (ih c (by simp)).enclose c.needsParens
      exact hc.comp (Writes.rest (fun d hd => ih d (by simp [hd])) " AND ")
  | any cs ih =>
    cases cs with
    | nil => exact Writes.push "FALSEPREDICATE"
    | cons c cs =>
      have hc := (ih c (by simp)).enclose c.needsParens
      exact hc.comp (Writes.rest (fun d hd => ih d (by simp [hd])) " OR ")
  | negation c ih => exact (Writes.push "NOT ").comp (ih.enclose true)

end Expression

end RecordQuery
