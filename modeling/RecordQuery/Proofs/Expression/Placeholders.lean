import RecordQuery.Proofs.Expression.Layout

/-!
# Placeholders follow the walk

The leaves that have an operator bind one parameter each, in the order in which a walk comes upon
them, and the place of such a leaf among them is the number of its placeholder. A form that holds
parameters already raises all numbers alike.
-/

namespace RecordQuery

open CanonicalForm

variable {ρ : Type}

/-- The value that stands for the operand of an operator: the candidates of a set as a list, a
pattern as it was written. -/
def Action.parameter : Action ρ → Value
  | .select _ => .absent
  | .equalTo v | .notEqualTo v | .greaterThan v | .greaterOrEqual v | .lessThan v
  | .lessOrEqual v => v
  | .beginsWith v _ | .endsWith v _ | .contains v _ => v
  | .like p | .matchesRegex p => .string p.source
  | .oneOf vs => .list vs

theorem Operation.param_resolve (s : Selector ρ) {a : Action ρ} (h : a.isOperator = true) :
    (resolve s a).operand.param = a.parameter := by
  cases a with
  | select t => simp at h
  | _ => rfl

def CanonicalForm.Piece.number? : Piece → Option Nat
  | .text _ => none
  | .placeholder n => some n

def Predicate.binds (p : Predicate ρ) : Bool := !p.compile.isUniversal

theorem Predicate.selector?_of_honors {p : Predicate ρ} {s : Selector ρ} {a : Action ρ}
    (h : p.Honors s a) : p.compile.selector? = some s := by
  obtain ⟨op, -, hcompile⟩ := h.exists_operation
  rw [hcompile]

theorem Predicate.exists_honors_of_binds {p : Predicate ρ} (h : p.binds = true) :
    ∃ s a, p.Honors s a :=
  honors_of_not_isUniversal (by simpa [binds] using h)

namespace Part

def binding (parts : List (Part ρ)) : List (Predicate ρ) :=
  (parts.filterMap leaf?).filter Predicate.binds

theorem binding_text (s : String) (parts : List (Part ρ)) :
    binding (.text s :: parts) = binding parts := rfl

theorem binding_leaf (p : Predicate ρ) (parts : List (Part ρ)) :
    binding (.leaf p :: parts) = if p.binds then p :: binding parts else binding parts := by
  simp [binding, leaf?, List.filter_cons]

theorem params_leaf (p : Predicate ρ) :
    (leaf p).params = if p.binds then [p.compile.operand.param] else [] := by
  cases hp : p.compile.isUniversal <;> simp [params, Operation.params, Predicate.binds, hp]

theorem allParams_eq_map (parts : List (Part ρ)) :
    allParams parts = (binding parts).map (·.compile.operand.param) := by
  induction parts with
  | nil => rfl
  | cons part rest ih =>
    rw [allParams] at ih ⊢
    cases part with
    | text s => simpa [binding_text, params] using ih
    | leaf p =>
      cases hp : p.binds <;> simp [binding_leaf, params_leaf, hp, ih]

theorem length_allParams (parts : List (Part ρ)) :
    (allParams parts).length = (binding parts).length := by
  rw [allParams_eq_map, List.length_map]

theorem exists_split {parts : List (Part ρ)} {k : Nat} {p : Predicate ρ}
    (h : (binding parts)[k]? = some p) :
    ∃ before after, parts = before ++ .leaf p :: after ∧ (allParams before).length = k := by
  induction parts generalizing k with
  | nil => simp [binding] at h
  | cons part rest ih =>
    cases part with
    | text s =>
      obtain ⟨before, after, rfl, hk⟩ := ih h
      exact ⟨.text s :: before, after, rfl, by simpa [allParams, params] using hk⟩
    | leaf q =>
      rw [binding_leaf] at h
      cases hq : q.binds with
      | false =>
        obtain ⟨before, after, rfl, hk⟩ := ih (by simpa [hq] using h)
        exact ⟨.leaf q :: before, after, rfl, by
          simpa [allParams, params_leaf, hq] using hk⟩
      | true =>
        rw [hq, if_pos rfl] at h
        cases k with
        | zero =>
          obtain rfl : q = p := by simpa using h
          exact ⟨[], rest, rfl, rfl⟩
        | succ k =>
          obtain ⟨before, after, rfl, hk⟩ := ih (by simpa using h)
          refine ⟨.leaf q :: before, after, rfl, ?_⟩
          rw [allParams] at hk ⊢
          simp [params_leaf, hq, hk]

theorem number?_allPieces (n : Nat) (parts : List (Part ρ)) :
    (allPieces n parts).filterMap Piece.number? = List.range' (n + 1) (binding parts).length := by
  induction parts generalizing n with
  | nil => rfl
  | cons part rest ih =>
    cases part with
    | text s =>
      simpa [allPieces, pieces, params, binding_text, List.filterMap_cons, Piece.number?] using ih n
    | leaf p =>
      cases hs : p.compile.selector? with
      | none =>
        have hp : p.binds = false := by simp [Predicate.binds, Operation.isUniversal, hs]
        simpa [allPieces, pieces, params_leaf, binding_leaf, Operation.pieces, hs, hp,
          List.filterMap_cons, Piece.number?] using ih n
      | some s =>
        have hp : p.binds = true := by simp [Predicate.binds, Operation.isUniversal, hs]
        simp [allPieces, pieces, params_leaf, binding_leaf, Operation.pieces, hs, hp,
          List.filterMap_cons, Piece.number?, ih, List.range'_succ]

end Part

namespace Expression

def binding (e : Expression ρ) : List (Predicate ρ) :=
  (e.walk.filterMap Visit.leaf?).filter Predicate.binds

theorem leaf?_enclosedLayout (parens : Bool) (parts : List (Part ρ)) :
    (enclosedLayout parens parts).filterMap Part.leaf? = parts.filterMap Part.leaf? := by
  cases parens <;> simp [enclosedLayout, List.filterMap_cons, Part.leaf?]

theorem leaf?_layoutRest (separator : String) {cs : List (Expression ρ)}
    (h : ∀ c ∈ cs, c.layout.filterMap Part.leaf? = c.leaves) :
    (layoutRest separator cs).filterMap Part.leaf? = cs.flatMap leaves := by
  induction cs with
  | nil => rfl
  | cons c cs ih =>
    have hcs := ih fun d hd => h d (by simp [hd])
    simp [layoutRest, List.filterMap_cons, leaf?_enclosedLayout, h c (by simp), hcs, Part.leaf?]

theorem leaf?_layout (e : Expression ρ) : e.layout.filterMap Part.leaf? = e.leaves := by
  induction e with
  | leaf p => simp [layout, Part.leaf?]
  | all cs ih =>
    cases cs with
    | nil => rfl
    | cons c cs =>
      have hcs := leaf?_layoutRest " AND " fun d hd => ih d (List.mem_cons_of_mem c hd)
      simp [layout, leaf?_enclosedLayout, ih c (by simp), hcs]
  | any cs ih =>
    cases cs with
    | nil => rfl
    | cons c cs =>
      have hcs := leaf?_layoutRest " OR " fun d hd => ih d (List.mem_cons_of_mem c hd)
      simp [layout, leaf?_enclosedLayout, ih c (by simp), hcs]
  | negation c ih => simp [layout, List.filterMap_cons, leaf?_enclosedLayout, ih, Part.leaf?]

theorem binding_layout (e : Expression ρ) : Part.binding e.layout = e.binding := by
  rw [Part.binding, binding, leaf?_layout, leaf?_walk]

theorem canonical_eq (e : Expression ρ) :
    e.canonical = ⟨spell (Part.allPieces 0 e.layout), Part.allParams e.layout⟩ := by
  rw [canonical, e.writes_layout .empty]
  simp [CanonicalForm.empty]

theorem canonical_params (e : Expression ρ) : e.canonical.params = Part.allParams e.layout := by
  rw [canonical_eq]

theorem allParams_layout (e : Expression ρ) :
    Part.allParams e.layout = e.leaves.flatMap fun p => p.canonical.params := by
  rw [← leaf?_layout]
  induction e.layout with
  | nil => rfl
  | cons part rest ih =>
    rw [Part.allParams] at ih ⊢
    cases part with
    | text s => simpa [Part.params, List.filterMap_cons, Part.leaf?] using ih
    | leaf p =>
      simp [Part.params, Part.leaf?, ih, Predicate.canonical, Operation.canonical_params]

/-- How canonical form depends on the order in which a walk comes upon the leaves. -/
structure FollowsWalk (e : Expression ρ) : Prop where
  length_params : e.canonical.params.length = e.binding.length
  universal : ∀ p ∈ e.walk.filterMap Visit.leaf?, p.compile.isUniversal = true →
    p.canonical.params = []
  params : e.canonical.params =
    (e.walk.filterMap Visit.leaf?).flatMap fun p => p.canonical.params
  leaves : e.layout.filterMap Part.leaf? = e.walk.filterMap Visit.leaf?
  text : e.text = spell (Part.allPieces 0 e.layout)
  numbers : (Part.allPieces 0 e.layout).filterMap Piece.number? =
    List.range' 1 e.binding.length
  /-- The `k`-th leaf with an operator shows `$k`, which stands for the operand of the operator that
  decides the leaf. -/
  placeholder : ∀ k p, e.binding[k]? = some p → ∃ s a before after, p.Honors s a ∧
    e.canonical.params[k]? = some a.parameter ∧ e.layout = before ++ .leaf p :: after ∧
    Part.allPieces 0 e.layout = Part.allPieces 0 before ++
      .text (p.compile.heading s) :: .placeholder (k + 1) :: Part.allPieces (k + 1) after ∧
    e.text = spell (Part.allPieces 0 before) ++ p.compile.heading s ++ "$" ++ toString (k + 1) ++
      spell (Part.allPieces (k + 1) after)
  write : ∀ form, e.write form =
    ⟨form.text ++ spell ((Part.allPieces 0 e.layout).map (Piece.raise form.params.length)),
      form.params ++ e.canonical.params⟩

/-- The parameters and the placeholders of every expression follow the walk. -/
theorem followsWalk (e : Expression ρ) : e.FollowsWalk where
  length_params := by rw [canonical_params, Part.length_allParams, binding_layout]
  universal := by
    intro p _ hp
    rw [Predicate.canonical, Operation.canonical_params, Operation.params, if_pos hp]
  params := by rw [canonical_params, allParams_layout, leaf?_walk]
  leaves := by rw [leaf?_layout, leaf?_walk]
  text := by rw [Expression.text, canonical_eq]
  numbers := by rw [Part.number?_allPieces, binding_layout]
  placeholder := by
    intro k p hk
    rw [← binding_layout] at hk
    have hbinds : p.binds = true := (List.mem_filter.mp (List.mem_of_getElem? hk)).2
    obtain ⟨s, a, hsa⟩ := Predicate.exists_honors_of_binds hbinds
    obtain ⟨before, after, hsplit, hlen⟩ := Part.exists_split hk
    have hpieces : p.compile.pieces k = [.text (p.compile.heading s), .placeholder (k + 1)] := by
      simp [Operation.pieces, Predicate.selector?_of_honors hsa]
    have hall : Part.allPieces 0 e.layout = Part.allPieces 0 before ++
        .text (p.compile.heading s) :: .placeholder (k + 1) :: Part.allPieces (k + 1) after := by
      rw [hsplit, Part.allPieces_append, hlen]
      simp [Part.allPieces, Part.pieces, Part.params_leaf, hbinds, hpieces]
    refine ⟨s, a, before, after, hsa, ?_, hsplit, hall, ?_⟩
    · rw [canonical_params, Part.allParams_eq_map, List.getElem?_map, hk, Option.map_some,
        Predicate.compile_of_honors hsa, Operation.param_resolve s hsa.isOperator]
    · rw [Expression.text, canonical_eq, hall]
      simp [spell, Piece.spelling, String.append_assoc]
  write := by
    intro form
    rw [e.writes_layout form, Part.raise_allPieces, canonical_params, Nat.add_zero]

end Expression

end RecordQuery
