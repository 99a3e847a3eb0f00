import RecordQuery.Proofs.Expression.Tree
import RecordQuery.Proofs.Predicate.FirstOperator
import RecordQuery.Regex.Engine

/-!
# Operands stay out of the text

Two expressions that differ in nothing but their operands are written side by side. Whatever is
written, the two forms keep the same text and as many parameters, and no more than that is needed
to write the next placeholder. So an operand has no way into the text, be it spelled like a
placeholder, a keyword or a parenthesis.
-/

namespace RecordQuery

variable {ρ σ : Type}

/-- Two actions that differ in their operands at most. -/
structure Action.SameForm (a : Action ρ) (b : Action σ) : Prop where
  operator : a.operator? = b.operator?
  field : a.selector?.map (·.field) = b.selector?.map (·.field)
  quantifier : a.selector?.map (·.quantifier) = b.selector?.map (·.quantifier)
  flags : a.flags = b.flags

def Predicate.SameForm (p : Predicate ρ) (q : Predicate σ) : Prop :=
  List.Forall₂ Action.SameForm p.actions q.actions

inductive Expression.SameForm : Expression ρ → Expression σ → Prop where
  | leaf {p : Predicate ρ} {q : Predicate σ} (h : p.SameForm q) : SameForm (.leaf p) (.leaf q)
  | all {cs : List (Expression ρ)} {ds : List (Expression σ)} (h : List.Forall₂ SameForm cs ds) :
    SameForm (.all cs) (.all ds)
  | any {cs : List (Expression ρ)} {ds : List (Expression σ)} (h : List.Forall₂ SameForm cs ds) :
    SameForm (.any cs) (.any ds)
  | negation {c : Expression ρ} {d : Expression σ} (h : SameForm c d) :
    SameForm (.negation c) (.negation d)

/-! ### Forms with the same text -/

/-- Two forms that agree in all that a reader of the text can see. -/
structure CanonicalForm.Alike (form other : CanonicalForm) : Prop where
  text : form.text = other.text
  count : form.params.length = other.params.length

namespace CanonicalForm.Alike

variable {form other : CanonicalForm}

theorem push (h : form.Alike other) (s : String) : (form.push s).Alike (other.push s) where
  text := congrArg (· ++ s) h.text
  count := h.count

/-- The placeholder tells how many parameters there are and not which one has come. -/
theorem bind (h : form.Alike other) (v w : Value) : (form.bind v).Alike (other.bind w) where
  text := by simp only [CanonicalForm.bind, h.text, h.count]
  count := by simp [CanonicalForm.bind, h.count]

end CanonicalForm.Alike

/-! ### Operations -/

structure Operation.SameForm (o : Operation ρ) (t : Operation σ) : Prop where
  operator : o.operator = t.operator
  field : o.selector?.map (·.field) = t.selector?.map (·.field)
  quantifier : o.selector?.map (·.quantifier) = t.selector?.map (·.quantifier)
  insensitivity : o.insensitivity = t.insensitivity

namespace Operation

theorem sameForm_universal : (universal : Operation ρ).SameForm (universal : Operation σ) :=
  ⟨rfl, rfl, rfl, rfl⟩

theorem SameForm.write {o : Operation ρ} {t : Operation σ} (h : o.SameForm t)
    {form other : CanonicalForm} (hform : form.Alike other) :
    (o.write form).Alike (t.write other) := by
  obtain ⟨hop, hfield, hquant, hflags⟩ := h
  cases ho : o.selector? with
  | none =>
    cases ht : t.selector? with
    | none => simpa only [Operation.write, ho, ht] using hform.push _
    | some s => simp [ho, ht] at hfield
  | some s =>
    cases ht : t.selector? with
    | none => simp [ho, ht] at hfield
    | some u =>
      have hname : s.field = u.field := by simpa [ho, ht] using hfield
      have hquantifier : s.quantifier = u.quantifier := by simpa [ho, ht] using hquant
      simp only [Operation.write, ho, ht, hname, hquantifier, hop, hflags]
      exact (hform.push _).bind _ _

theorem sameForm_resolve {s : Selector ρ} {u : Selector σ} (hname : s.field = u.field)
    (hquantifier : s.quantifier = u.quantifier) {a : Action ρ} {b : Action σ}
    (h : a.SameForm b) (ha : a.isOperator = true) : (resolve s a).SameForm (resolve u b) := by
  obtain ⟨op, hop⟩ := Action.exists_operator ha
  have hop' : b.operator? = some op := h.operator ▸ hop
  rw [resolve_eq s hop, resolve_eq u hop']
  exact ⟨rfl, by simp [hname], by simp [hquantifier], h.flags⟩

end Operation

/-! ### Predicates -/

namespace Predicate

theorem isOperator_eq_of_sameForm {a : Action ρ} {b : Action σ} (h : a.SameForm b) :
    a.isOperator = b.isOperator := by
  rw [Action.isOperator, Action.isOperator, h.operator]

theorem find?_isOperator_sameForm {as : List (Action ρ)} {bs : List (Action σ)}
    (h : List.Forall₂ Action.SameForm as bs) :
    Option.Rel Action.SameForm (as.find? Action.isOperator) (bs.find? Action.isOperator) := by
  induction h with
  | nil => exact .none
  | @cons a b as bs hab _ ih =>
    have hop := isOperator_eq_of_sameForm hab
    cases ha : a.isOperator with
    | true =>
      rw [List.find?_cons_of_pos ha, List.find?_cons_of_pos (hop ▸ ha)]
      exact .some hab
    | false =>
      rw [List.find?_cons_of_neg (by simp [ha]), List.find?_cons_of_neg (by simp [← hop, ha])]
      exact ih

theorem SameForm.compile {p : Predicate ρ} {q : Predicate σ} (h : p.SameForm q) :
    p.compile.SameForm q.compile := by
  obtain ⟨as⟩ := p
  obtain ⟨bs⟩ := q
  cases h with
  | nil => exact Operation.sameForm_universal
  | @cons a b as bs hab hrest =>
    cases ha : a.isOperator with
    | true =>
      have hb : b.isOperator = true := isOperator_eq_of_sameForm hab ▸ ha
      rw [compile_of_incomplete (.unselected a as ha), compile_of_incomplete (.unselected b bs hb)]
      exact Operation.sameForm_universal
    | false =>
      have hb : b.isOperator = false := isOperator_eq_of_sameForm hab ▸ ha
      obtain ⟨s, rfl⟩ := Action.eq_select_of_not_isOperator ha
      obtain ⟨u, rfl⟩ := Action.eq_select_of_not_isOperator hb
      have hname : s.field = u.field := by simpa [Action.selector?] using hab.field
      have hquantifier : s.quantifier = u.quantifier := by
        simpa [Action.selector?] using hab.quantifier
      have hfind := find?_isOperator_sameForm hrest
      cases hx : as.find? Action.isOperator with
      | none =>
        cases hy : bs.find? Action.isOperator with
        | none => simpa only [Predicate.compile, hx, hy] using Operation.sameForm_universal
        | some y => rw [hx, hy] at hfind; cases hfind
      | some x =>
        cases hy : bs.find? Action.isOperator with
        | none => rw [hx, hy] at hfind; cases hfind
        | some y =>
          rw [hx, hy] at hfind
          obtain ⟨hxy⟩ := hfind
          simp only [Predicate.compile, hx, hy]
          exact Operation.sameForm_resolve hname hquantifier hxy (List.find?_some hx)

end Predicate

/-! ### Expressions -/

namespace Expression

def WritesAlike (f g : CanonicalForm → CanonicalForm) : Prop :=
  ∀ form other, form.Alike other → (f form).Alike (g other)

theorem WritesAlike.enclose {f g : CanonicalForm → CanonicalForm} (h : WritesAlike f g)
    (parens : Bool) : WritesAlike (Expression.enclose parens f) (Expression.enclose parens g) := by
  intro form other hform
  cases parens with
  | false => exact h _ _ hform
  | true => exact (h _ _ (hform.push "(")).push ")"

theorem SameForm.needsParens_eq {c : Expression ρ} {d : Expression σ} (h : c.SameForm d) :
    c.needsParens = d.needsParens := by
  cases h <;> rfl

theorem WritesAlike.child {c : Expression ρ} {d : Expression σ} (h : c.SameForm d)
    (hwrite : WritesAlike c.write d.write) :
    WritesAlike (Expression.enclose c.needsParens c.write)
      (Expression.enclose d.needsParens d.write) := by
  rw [h.needsParens_eq]
  exact hwrite.enclose d.needsParens

theorem WritesAlike.rest {cs : List (Expression ρ)} {ds : List (Expression σ)}
    (h : List.Forall₂ SameForm cs ds)
    (hwrite : ∀ c ∈ cs, ∀ d : Expression σ, c.SameForm d → WritesAlike c.write d.write)
    (separator : String) : WritesAlike (writeRest separator cs) (writeRest separator ds) := by
  induction h with
  | nil => exact fun _ _ hform => hform
  | @cons c d cs ds hcd _ ih =>
    have hchild := WritesAlike.child hcd (hwrite c (by simp) d hcd)
    have hrest := ih fun e he => hwrite e (by simp [he])
    intro form other hform
    simp only [writeRest]
    exact hrest _ _ (hchild _ _ (hform.push separator))

theorem SameForm.writesAlike {e : Expression ρ} {f : Expression σ} (h : e.SameForm f) :
    WritesAlike e.write f.write := by
  induction e generalizing f with
  | leaf p =>
    cases h with
    | leaf hpq =>
      intro form other hform
      simpa only [write] using hpq.compile.write hform
  | all cs ih =>
    cases h with
    | all hcs =>
      cases hcs with
      | nil => exact fun _ _ hform => hform.push "TRUEPREDICATE"
      | @cons c d cs ds hcd hcs =>
        have hchild := WritesAlike.child hcd (ih c (by simp) hcd)
        have hrest := WritesAlike.rest hcs (fun e he f => ih e (by simp [he])) " AND "
        exact fun form other hform => hrest _ _ (hchild _ _ hform)
  | any cs ih =>
    cases h with
    | any hcs =>
      cases hcs with
      | nil => exact fun _ _ hform => hform.push "FALSEPREDICATE"
      | @cons c d cs ds hcd hcs =>
        have hchild := WritesAlike.child hcd (ih c (by simp) hcd)
        have hrest := WritesAlike.rest hcs (fun e he f => ih e (by simp [he])) " OR "
        exact fun form other hform => hrest _ _ (hchild _ _ hform)
  | negation c ih =>
    cases h with
    | negation hcd =>
      have hinner := (ih hcd).enclose true
      exact fun form other hform => hinner _ _ (hform.push "NOT ")

/-- Expressions that differ in their operands at most have the same canonical text, and as many
parameters. -/
theorem text_eq_of_sameForm (e : Expression ρ) (f : Expression σ) (h : e.SameForm f) :
    e.text = f.text ∧ e.canonical.params.length = f.canonical.params.length := by
  have halike := h.writesAlike .empty .empty ⟨rfl, rfl⟩
  exact ⟨halike.text, halike.count⟩

theorem text_eq_of_sameForm_spelled :
    let name : Selector Record := .plain (.named "name")
    let tags : Selector Record := .any (.named "tags")
    let e : Expression Record := .any
      [.leaf ⟨[.select name, .equalTo (.string "$2 OR (TRUEPREDICATE)")]⟩,
        .negation (.all [.leaf ⟨[.select tags, .oneOf []]⟩,
          .leaf ⟨[.select name, .like (.likeOrNever "*) OR (")]⟩])]
    let f : Expression Record := .any
      [.leaf ⟨[.select name, .equalTo (.number (.unsigned 7))]⟩,
        .negation (.all [.leaf ⟨[.select tags, .oneOf [.string "a", .absent]]⟩,
          .leaf ⟨[.select name, .like (.likeOrNever "Ed?")]⟩])]
    e.SameForm f ∧ e.text = f.text ∧
      e.canonical.params.length = f.canonical.params.length := by
  intro name tags e f
  have hequal : Predicate.SameForm (ρ := Record) (σ := Record)
      ⟨[.select name, .equalTo (.string "$2 OR (TRUEPREDICATE)")]⟩
      ⟨[.select name, .equalTo (.number (.unsigned 7))]⟩ :=
    .cons ⟨rfl, rfl, rfl, rfl⟩ (.cons ⟨rfl, rfl, rfl, rfl⟩ .nil)
  have hset : Predicate.SameForm (ρ := Record) (σ := Record) ⟨[.select tags, .oneOf []]⟩
      ⟨[.select tags, .oneOf [.string "a", .absent]]⟩ :=
    .cons ⟨rfl, rfl, rfl, rfl⟩ (.cons ⟨rfl, rfl, rfl, rfl⟩ .nil)
  have hglob : Predicate.SameForm (ρ := Record) (σ := Record)
      ⟨[.select name, .like (.likeOrNever "*) OR (")]⟩
      ⟨[.select name, .like (.likeOrNever "Ed?")]⟩ :=
    .cons ⟨rfl, rfl, rfl, rfl⟩ (.cons ⟨rfl, rfl, rfl, rfl⟩ .nil)
  have hinner := SameForm.negation (.all (.cons (.leaf hset) (.cons (.leaf hglob) .nil)))
  have h : e.SameForm f := .any (.cons (.leaf hequal) (.cons hinner .nil))
  exact ⟨h, text_eq_of_sameForm e f h⟩

end Expression

end RecordQuery
