import RecordQuery.Checked.Dispatch
import RecordQuery.Proofs.Predicate.FirstOperator

/-!
# Dispatch

What a predicate compiles to has parts that fit together: a quantifier that goes with the access to
the field, an operand and flags that go with the operator. So an evaluation never comes to one of
the branches that are left for parts that do not fit.
-/

namespace RecordQuery

variable {ρ : Type}

/-! ### Parts that fit together -/

structure Selector.Fits (s : Selector ρ) : Prop where
  single : (∃ get, s.access = .single get) ↔ s.quantifier = .plain ∨ s.quantifier = .negated
  each : (∃ get, s.access = .each get) ↔
    s.quantifier = .any ∨ s.quantifier = .all ∨ s.quantifier = .noneOf

/-- The operand and the flags are such as the operator takes. -/
inductive Suits : Operator → Operand → Insensitivity → Prop where
  | comparison {op : Operator} (h : op.isOrdering = true) (v : Value) : Suits op (.value v) .exact
  | text {op : Operator} (h : op.isText = true) (v : Value) (flags : Insensitivity) :
    Suits op (.value v) flags
  | membership (vs : List Value) : Suits .oneOf (.set vs) .exact
  | like (p : Pattern) : Suits .like (.pattern p) .exact
  | matchesRegex (p : Pattern) : Suits .matchesRegex (.pattern p) .exact

/-- An operation that either has no part but its operator, and holds of every record, or has parts
that fit together. -/
inductive Operation.WellFormed : Operation ρ → Prop where
  | universal : WellFormed ⟨none, .always, .none, .exact⟩
  | selected {s : Selector ρ} {op : Operator} {operand : Operand} {flags : Insensitivity}
    (hs : s.Fits) (h : Suits op operand flags) : WellFormed ⟨some s, op, operand, flags⟩

theorem Operator.isText_of_isOrdering {op : Operator} (h : op.isOrdering = true) :
    op.isText = false := by
  cases op with
  | beginsWith | endsWith | contains => cases h
  | _ => rfl

theorem Quantifier.isCollection_iff {q : Quantifier} :
    q.isCollection = true ↔ q = .any ∨ q = .all ∨ q = .noneOf := by
  cases q <;> decide

theorem Quantifier.isCollection_eq_false_iff {q : Quantifier} :
    q.isCollection = false ↔ q = .plain ∨ q = .negated := by
  cases q <;> decide

theorem Selector.hasFits (s : Selector ρ) : s.Fits := by
  have hfits := s.fits
  constructor
  · rw [← Quantifier.isCollection_eq_false_iff, ← hfits]
    cases s.access <;> simp [Access.isEach]
  · rw [← Quantifier.isCollection_iff, ← hfits]
    cases s.access <;> simp [Access.isEach]

theorem Action.suits {a : Action ρ} {op : Operator} (h : a.operator? = some op) :
    Suits op a.operand a.flags := by
  cases a with
  | select s => cases h
  | equalTo v | notEqualTo v | greaterThan v | greaterOrEqual v | lessThan v | lessOrEqual v =>
    cases h
    exact .comparison rfl v
  | beginsWith v flags | endsWith v flags | contains v flags =>
    cases h
    exact .text rfl v flags
  | like p =>
    cases h
    exact .like p
  | matchesRegex p =>
    cases h
    exact .matchesRegex p
  | oneOf vs =>
    cases h
    exact .membership vs

theorem Predicate.wellFormed_compile (p : Predicate ρ) : p.compile.WellFormed := by
  obtain hp | ⟨s, a, hsa⟩ := incomplete_or_honors p
  · rw [compile_of_incomplete hp]
    exact .universal
  · obtain ⟨op, hop, hcompile⟩ := hsa.exists_operation
    rw [hcompile]
    exact .selected s.hasFits (Action.suits hop)

/-! ### Verdicts of checked branches -/

namespace Dispatch

theorem accepts_eq (op : Operator) (o : Ordering) :
    accepts op o = if op.isOrdering then some (op.accepts o) else none := by
  cases op <;> rfl

theorem satisfies_of_isOrdering {op : Operator} (h : op.isOrdering = true) (v w : Value) :
    satisfies op v w = some (Value.satisfies op v w) := by
  cases op with
  | equal | notEqual => rfl
  | greater | greaterOrEqual | less | lessOrEqual =>
    unfold satisfies Value.satisfies
    cases v.compare w with
    | none => rfl
    | some o => exact (accepts_eq _ o).trans (if_pos h)
  | _ => cases h

theorem matchChars_eq (op : Operator) (s t : List Char) :
    matchChars op s t = if op.isText then some (Value.matchChars op s t) else none := by
  cases op <;> rfl

variable [CharData]

theorem matchItems_eq (op : Operator) (flags : Insensitivity) (items needle : List Value) :
    matchItems op flags items needle =
      if op.isText = true ∨ items.length < needle.length then
        some (Value.matchItems op flags items needle)
      else none := by
  unfold matchItems Value.matchItems
  by_cases h : items.length < needle.length
  · rw [if_pos h, if_pos h, if_pos (.inr h)]
  · rw [if_neg h, if_neg h]
    cases op <;> simp [Operator.isText, h]

theorem matchText_of_isText {op : Operator} (h : op.isText = true) (flags : Insensitivity)
    (v w : Value) : matchText op flags v w = some (Value.matchText op flags v w) := by
  cases v with
  | string s =>
    cases w with
    | string t => exact (matchChars_eq op _ _).trans (if_pos h)
    | _ => rfl
  | list items =>
    cases w with
    | list needle => exact (matchItems_eq op flags items needle).trans (if_pos (.inl h))
    | _ => rfl
  | _ => rfl

theorem holds_of_suits {o : Operation ρ} (h : Suits o.operator o.operand o.insensitivity)
    (v : Value) : holds o v = some (o.holds v) := by
  obtain ⟨s, op, operand, flags⟩ := o
  cases h with
  | comparison hop w =>
    have htext : op.isText = false := Operator.isText_of_isOrdering hop
    simp only [holds, Operation.holds, htext]
    exact satisfies_of_isOrdering hop v w
  | text hop w =>
    simp only [holds, Operation.holds, hop]
    exact matchText_of_isText hop flags v w
  | membership | like | matchesRegex => rfl

theorem evaluate_of_suits {o : Operation ρ} {s : Selector ρ} (hs : o.selector? = some s)
    (h : Suits o.operator o.operand o.insensitivity) (r : ρ) :
    evaluate o r = some (o.evaluate r) := by
  have hholds : holds o = fun v => some (o.holds v) := funext (holds_of_suits h)
  have hany (vs : List Value) : vs.anyM (holds o) = some (vs.any o.holds) := by
    rw [hholds]
    exact List.anyM_pure
  have hall (vs : List Value) : vs.allM (holds o) = some (vs.all o.holds) := by
    rw [hholds]
    exact List.allM_pure
  obtain ⟨field, q, access, fits⟩ := s
  unfold evaluate Operation.evaluate
  rw [hs]
  cases access with
  | single get =>
    cases q with
    | negated => exact congrArg (Option.map (!·)) (congrFun hholds _)
    | _ => exact congrFun hholds _
  | each get =>
    cases q with
    | all => exact hall _
    | noneOf => exact congrArg (Option.map (!·)) (hany _)
    | _ => exact hany _

theorem evaluate_of_wellFormed {o : Operation ρ} (h : o.WellFormed) (r : ρ) :
    evaluate o r = some (o.evaluate r) := by
  cases h with
  | universal => rfl
  | selected _ hsuits => exact evaluate_of_suits rfl hsuits r

-- an operand that its operator does not take leads to a branch without a verdict
example : evaluate ⟨some (.plain (.named "age")), .like, .value .absent, .exact⟩ [] = none := by
  rfl

end Dispatch

/-- Every predicate compiles to a well-formed operation, and its evaluation comes to its verdict
without a branch for parts that do not fit. -/
theorem Predicate.compile_dispatches [CharData] (p : Predicate ρ) :
    p.compile.WellFormed ∧ ∀ r, Dispatch.evaluate p.compile r = some (p.evaluate r) := by
  have hwell := p.wellFormed_compile
  refine ⟨hwell, fun r => ?_⟩
  exact Dispatch.evaluate_of_wellFormed hwell r

end RecordQuery
