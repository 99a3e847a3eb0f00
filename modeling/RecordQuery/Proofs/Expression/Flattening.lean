import RecordQuery.Proofs.Expression.Combination
import RecordQuery.Proofs.Expression.Placeholders

/-!
# Flattening

AND and OR flatten their first operand and never the second one. So a conjunction that comes from
calls of AND, OR and NOT has two children at least and does not begin with a conjunction, and
likewise a disjunction. There is no further restriction: every tree of that shape comes from such
calls. The leaves keep their order whatever is flattened.
-/

namespace RecordQuery

variable {ρ : Type}

namespace Combination

/-- Calls of AND, OR and NOT only, on operands that are built in the same way. -/
inductive Chained {α : Type} : Combination α → Prop where
  | leaf (a : α) : Chained (.leaf a)
  | and {c d : Combination α} (hc : Chained c) (hd : Chained d) : Chained (.and c d)
  | or {c d : Combination α} (hc : Chained c) (hd : Chained d) : Chained (.or c d)
  | not {c : Combination α} (hc : Chained c) : Chained (.not c)

end Combination

namespace Expression

inductive Within (x : Expression ρ) : Expression ρ → Prop where
  | root : Within x x
  | child {c e : Expression ρ} (hc : c ∈ e.children) (h : Within x c) : Within x e

/-- A conjunction or disjunction with this property has two children at least, and the first one
has another connective. -/
def LeftFlat (e : Expression ρ) : Prop :=
  ∀ k, e.connective? = some k → k ≠ .not →
    2 ≤ e.children.length ∧ ∀ c ∈ e.children.head?, c.connective? ≠ some k

/-- The walk comes upon the leaves of `e` and then upon those of `f`, all of them, and the
parameters are theirs in this order. -/
structure Concatenates (e f g : Expression ρ) : Prop where
  leaves : g.leaves = e.leaves ++ f.leaves
  visits : g.walk.filterMap Visit.leaf? = g.leaves
  walk : g.walk.filterMap Visit.leaf? =
    e.walk.filterMap Visit.leaf? ++ f.walk.filterMap Visit.leaf?
  params : g.canonical.params = e.canonical.params ++ f.canonical.params

/-! ### Joining two expressions -/

/-- What AND and OR have in common: the result has the connective `k`, and `f` is put after the
children of `e` if `e` has that connective already, and after `e` otherwise. -/
structure Joins (k : Connective) (e f g : Expression ρ) : Prop where
  connective : g.connective? = some k
  children : g.children = (if e.connective? = some k then e.children else [e]) ++ [f]

theorem joins_and (e f : Expression ρ) : Joins .and e f (e.and f) := by
  cases e <;> exact ⟨rfl, rfl⟩

theorem joins_or (e f : Expression ρ) : Joins .or e f (e.or f) := by
  cases e <;> exact ⟨rfl, rfl⟩

theorem leaves_of_connective {e : Expression ρ} {k : Connective} (h : e.connective? = some k) :
    e.leaves = e.children.flatMap leaves := by
  cases e with
  | leaf p => cases h
  | all cs => exact leaves_all cs
  | any cs => exact leaves_any cs
  | negation c => simp [children]

section Joins

variable {k : Connective} {e f g x : Expression ρ}

theorem Joins.leaves (h : Joins k e f g) : g.leaves = e.leaves ++ f.leaves := by
  have hg := leaves_of_connective h.connective
  by_cases hk : e.connective? = some k
  · have he := leaves_of_connective hk
    simp [hg, he, h.children, hk]
  · simp [hg, h.children, hk]

theorem Joins.concatenates (h : Joins k e f g) : Concatenates e f g where
  leaves := h.leaves
  visits := leaf?_walk g
  walk := by simp only [leaf?_walk, h.leaves]
  params := by simp only [canonical_params, allParams_layout, h.leaves, List.flatMap_append]

theorem Joins.within (h : Joins k e f g) (hx : Within x g) : x = g ∨ Within x e ∨ Within x f := by
  cases hx with
  | root => exact .inl rfl
  | @child c _ hc hx =>
    rw [h.children, List.mem_append, List.mem_singleton] at hc
    obtain hc | rfl := hc
    · refine .inr (.inl ?_)
      by_cases hk : e.connective? = some k
      · rw [if_pos hk] at hc
        exact .child hc hx
      · rw [if_neg hk, List.mem_singleton] at hc
        rwa [← hc]
    · exact .inr (.inr hx)

theorem Joins.leftFlat (h : Joins k e f g) (he : e.LeftFlat) : g.LeftFlat := by
  intro j hj hne
  obtain rfl : k = j := Option.some.inj (h.connective.symm.trans hj)
  rw [h.children]
  by_cases hk : e.connective? = some k
  · obtain ⟨htwo, hhead⟩ := he k hk hne
    rw [if_pos hk, List.head?_append_of_ne_nil _ (List.ne_nil_of_length_pos (by omega))]
    exact ⟨by simp; omega, hhead⟩
  · rw [if_neg hk]
    exact ⟨by simp, by simpa using hk⟩

theorem Joins.leftFlat_within (h : Joins k e f g) (he : ∀ x, Within x e → x.LeftFlat)
    (hf : ∀ x, Within x f → x.LeftFlat) (hx : Within x g) : x.LeftFlat := by
  obtain rfl | hx | hx := h.within hx
  · exact h.leftFlat (he e .root)
  · exact he x hx
  · exact hf x hx

end Joins

theorem eq_of_children {e f : Expression ρ} {k : Connective} (he : e.connective? = some k)
    (hf : f.connective? = some k) (h : e.children = f.children) : e = f := by
  have hconn : e.connective? = f.connective? := he.trans hf.symm
  cases e with
  | leaf p => cases he
  | all cs =>
    cases f with
    | all ds => exact congrArg all h
    | _ => cases hconn
  | any cs =>
    cases f with
    | any ds => exact congrArg any h
    | _ => cases hconn
  | negation c =>
    cases f with
    | negation d => exact congrArg negation (List.singleton_inj.mp h)
    | _ => cases hconn

end Expression

/-! ### The trees that calls build -/

namespace Combination

open Expression

theorem Chained.leftFlat {c : Combination (Predicate ρ)} (h : c.Chained) :
    ∀ x, Within x c.expression → x.LeftFlat := by
  induction h with
  | leaf p =>
    intro x hx
    rw [expression] at hx
    cases hx with
    | root => intro k hk; cases hk
    | child hc => cases hc
  | and _ _ ihc ihd =>
    intro x hx
    rw [expression] at hx
    exact (joins_and _ _).leftFlat_within ihc ihd hx
  | or _ _ ihc ihd =>
    intro x hx
    rw [expression] at hx
    exact (joins_or _ _).leftFlat_within ihc ihd hx
  | not _ ih =>
    intro x hx
    rw [expression, Expression.not] at hx
    cases hx with
    | root =>
      intro k hk hne
      exact absurd (Option.some.inj hk).symm hne
    | child hc hx =>
      obtain rfl := List.mem_singleton.mp hc
      exact ih x hx

section Converse

variable {k : Connective} (hk : k ≠ .not)

include hk

theorem exists_joins {c d : Combination (Predicate ρ)} (hc : c.Chained) (hd : d.Chained) :
    ∃ b : Combination (Predicate ρ), b.Chained ∧
      Joins k c.expression d.expression b.expression := by
  cases k with
  | and => exact ⟨.and c d, .and hc hd, by rw [expression]; exact joins_and _ _⟩
  | or => exact ⟨.or c d, .or hc hd, by rw [expression]; exact joins_or _ _⟩
  | not => exact absurd rfl hk

theorem exists_chained_append {cs : List (Expression ρ)}
    (hcs : ∀ e ∈ cs, ∃ d : Combination (Predicate ρ), d.Chained ∧ d.expression = e)
    {c : Combination (Predicate ρ)} (hc : c.Chained) (hconn : c.expression.connective? = some k) :
    ∃ b : Combination (Predicate ρ), b.Chained ∧ b.expression.connective? = some k ∧
      b.expression.children = c.expression.children ++ cs := by
  induction cs generalizing c with
  | nil => exact ⟨c, hc, hconn, by simp⟩
  | cons e es ih =>
    obtain ⟨d, hd, rfl⟩ := hcs e (by simp)
    obtain ⟨b, hb, hjoins⟩ := exists_joins hk hc hd
    have hchildren := hjoins.children
    rw [if_pos hconn] at hchildren
    have hes := fun x hx => hcs x (List.mem_cons_of_mem _ hx)
    obtain ⟨a, ha, haconn, hall⟩ := ih hes hb hjoins.connective
    exact ⟨a, ha, haconn, by simp [hall, hchildren]⟩

theorem exists_chained_of_children {e : Expression ρ} (hconn : e.connective? = some k)
    (hflat : e.LeftFlat)
    (h : ∀ c ∈ e.children, ∃ d : Combination (Predicate ρ), d.Chained ∧ d.expression = c) :
    ∃ c : Combination (Predicate ρ), c.Chained ∧ c.expression = e := by
  obtain ⟨htwo, hhead⟩ := hflat k hconn hk
  obtain ⟨x, y, rest, hcs⟩ : ∃ x y rest, e.children = x :: y :: rest := by
    match e.children, htwo with
    | x :: y :: rest, _ => exact ⟨x, y, rest, rfl⟩
  rw [hcs] at hhead h
  obtain ⟨c, hc, rfl⟩ := h x (by simp)
  obtain ⟨d, hd, rfl⟩ := h y (by simp)
  obtain ⟨b, hb, hjoins⟩ := exists_joins hk hc hd
  have hchildren := hjoins.children
  rw [if_neg (hhead _ rfl)] at hchildren
  have hrest : ∀ z ∈ rest, ∃ d : Combination (Predicate ρ), d.Chained ∧ d.expression = z :=
    fun z hz => h z (by simp [hz])
  obtain ⟨a, ha, haconn, hall⟩ := exists_chained_append hk hrest hb hjoins.connective
  exact ⟨a, ha, eq_of_children haconn hconn (by simp [hall, hchildren, hcs])⟩

end Converse

theorem exists_chained {e : Expression ρ} (h : ∀ x, Within x e → x.LeftFlat) :
    ∃ c : Combination (Predicate ρ), c.Chained ∧ c.expression = e := by
  induction e with
  | leaf p => exact ⟨.leaf p, .leaf p, by rw [expression]⟩
  | all cs ih =>
    have hcs := fun c hc => ih c hc fun x hx => h x (.child hc hx)
    exact exists_chained_of_children (k := .and) (by decide) rfl (h _ .root) hcs
  | any cs ih =>
    have hcs := fun c hc => ih c hc fun x hx => h x (.child hc hx)
    exact exists_chained_of_children (k := .or) (by decide) rfl (h _ .root) hcs
  | negation c ih =>
    obtain ⟨d, hd, rfl⟩ := ih fun x hx => h x (.child (List.mem_singleton_self _) hx)
    exact ⟨.not d, .not hd, by rw [expression, Expression.not]⟩

/-- Calls of AND, OR and NOT build the trees that are flat on the left at every node, and no
others. Whatever their operands are, AND and OR neither lose nor repeat nor reorder leaves. -/
theorem chained_iff_leftFlat_and_concatenates :
    (∀ e : Expression ρ, (∃ c : Combination (Predicate ρ), c.Chained ∧ c.expression = e) ↔
      ∀ x, Within x e → x.LeftFlat) ∧
    ∀ e f : Expression ρ, Concatenates e f (e.and f) ∧ Concatenates e f (e.or f) := by
  refine ⟨fun e => ⟨?_, exists_chained⟩, fun e f => ⟨?_, ?_⟩⟩
  · rintro ⟨c, hc, rfl⟩
    exact hc.leftFlat
  · exact (joins_and e f).concatenates
  · exact (joins_or e f).concatenates

example (p q r : Predicate ρ) :
    (Expression.leaf p).and ((Expression.leaf q).and (.leaf r)) =
      .all [.leaf p, .all [.leaf q, .leaf r]] := rfl

end Combination

end RecordQuery
