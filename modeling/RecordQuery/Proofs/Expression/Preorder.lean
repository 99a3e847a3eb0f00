import Mathlib.Data.List.Forall2
import Mathlib.Data.List.Lex
import Mathlib.Data.List.Nodup
import RecordQuery.Proofs.Expression.Tree

/-!
# Walks in pre-order

Every node has an address, which is how one comes to it from the root. A walk visits the addresses
of a tree in lexicographic order: a node before all that is below it, and that from left to right.
The numbers of children that it reports do what parentheses would do. So the visits to one tree can
be taken off the front of a longer listing in one way only, and no two trees have the same walk.
-/

namespace RecordQuery

variable {ρ : Type}

/-- The numbers of the children that lead to a node from the root. -/
abbrev Address := List Nat

namespace Address

def Above (b a : Address) : Prop := b <+: a ∧ b ≠ a

instance : DecidableRel Above := fun b a => inferInstanceAs (Decidable (b <+: a ∧ b ≠ a))

theorem above_iff {b a : Address} : Above b a ↔ ∃ n < a.length, a.take n = b := by
  constructor
  · rintro ⟨⟨rest, rfl⟩, hne⟩
    have hrest : rest ≠ [] := by
      rintro rfl
      exact hne (List.append_nil b).symm
    have hpos := List.length_pos_of_ne_nil hrest
    exact ⟨b.length, by rw [List.length_append]; omega, List.take_left⟩
  · rintro ⟨n, hn, rfl⟩
    refine ⟨List.take_prefix n a, fun h => ?_⟩
    have hlen := congrArg List.length h
    rw [List.length_take] at hlen
    omega

theorem countP_above {addresses : List Address} (hnodup : addresses.Nodup) {a : Address}
    (h : ∀ n, a.take n ∈ addresses) : addresses.countP (Above · a) = a.length := by
  have hinj : ∀ m ∈ List.range a.length, ∀ n ∈ List.range a.length,
      a.take m = a.take n → m = n := by
    intro m hm n hn heq
    have hlen := congrArg List.length heq
    rw [List.length_take, List.length_take] at hlen
    rw [List.mem_range] at hm hn
    omega
  have hperm : (addresses.filter (Above · a)).Perm ((List.range a.length).map a.take) := by
    refine (List.perm_ext_iff_of_nodup (hnodup.filter _)
      (List.nodup_range.map_on hinj)).mpr fun b => ?_
    simp only [List.mem_filter, decide_eq_true_eq, above_iff, List.mem_map, List.mem_range]
    constructor
    · exact fun hb => hb.2
    · rintro ⟨n, hn, rfl⟩
      exact ⟨h n, n, hn, rfl⟩
  rw [List.countP_eq_length_filter, hperm.length_eq, List.length_map, List.length_range]

end Address

namespace Expression

theorem induction_children {motive : Expression ρ → Prop}
    (node : ∀ e, (∀ c ∈ e.children, motive c) → motive e) (e : Expression ρ) : motive e := by
  induction e with
  | leaf p => exact node _ fun c hc => by cases hc
  | all cs ih => exact node _ ih
  | any cs ih => exact node _ ih
  | negation c ih => exact node _ fun d hd => by rwa [List.mem_singleton.mp hd]

def visitAt (depth : Nat) (e : Expression ρ) : Visit ρ :=
  match e with
  | .leaf p => .leaf depth p
  | .all cs => .compound depth .and cs.length
  | .any cs => .compound depth .or cs.length
  | .negation _ => .compound depth .not 1

theorem walkAt_eq (depth : Nat) (e : Expression ρ) :
    e.walkAt depth = e.visitAt depth :: walkListAt (depth + 1) e.children := by
  cases e with
  | leaf p => rfl
  | all cs => rfl
  | any cs => rfl
  | negation c => simp [walkAt, visitAt, children, walkListAt]

/-! ### What a walk tells -/

theorem length_children_of_visitAt {e f : Expression ρ} {depth : Nat}
    (h : e.visitAt depth = f.visitAt depth) : e.children.length = f.children.length := by
  cases e <;> cases f <;> simp_all [visitAt, children]

theorem eq_of_visitAt {e f : Expression ρ} {depth : Nat} (h : e.visitAt depth = f.visitAt depth)
    (hchildren : e.children = f.children) : e = f := by
  cases e <;> cases f <;> simp_all [visitAt, children]

/-- Whether the visits to a tree, with more visits after them, tell what the tree is and where
these begin. -/
def Cancels (e : Expression ρ) : Prop :=
  ∀ (f : Expression ρ) (depth : Nat) (u v : List (Visit ρ)),
    e.walkAt depth ++ u = f.walkAt depth ++ v → e = f ∧ u = v

theorem cancels_list {cs ds : List (Expression ρ)} (hcs : ∀ c ∈ cs, c.Cancels)
    (hlen : cs.length = ds.length) {depth : Nat} {u v : List (Visit ρ)}
    (h : walkListAt depth cs ++ u = walkListAt depth ds ++ v) : cs = ds ∧ u = v := by
  induction cs generalizing ds with
  | nil =>
    obtain rfl := List.length_eq_zero_iff.mp hlen.symm
    exact ⟨rfl, h⟩
  | cons c cs ih =>
    cases ds with
    | nil => simp at hlen
    | cons d ds =>
      rw [walkListAt, walkListAt, List.append_assoc, List.append_assoc] at h
      obtain ⟨rfl, hrest⟩ := hcs c (by simp) d depth _ _ h
      obtain ⟨rfl, huv⟩ := ih (fun e he => hcs e (by simp [he])) (by simpa using hlen) hrest
      exact ⟨rfl, huv⟩

theorem cancels (e : Expression ρ) : e.Cancels := by
  induction e using induction_children with
  | node e ih =>
    intro f depth u v h
    rw [walkAt_eq, walkAt_eq, List.cons_append, List.cons_append] at h
    obtain ⟨hvisit, hrest⟩ := List.cons.inj h
    -- the visit to a node tells how many of the visits after it are to children
    have hlen := length_children_of_visitAt hvisit
    obtain ⟨hchildren, huv⟩ := cancels_list ih hlen hrest
    exact ⟨eq_of_visitAt hvisit hchildren, huv⟩

theorem walk_injective : Function.Injective (walk : Expression ρ → List (Visit ρ)) := by
  intro e f h
  have happend : e.walkAt 0 ++ [] = f.walkAt 0 ++ [] := congrArg (· ++ []) h
  exact (e.cancels f 0 [] [] happend).1

/-! ### Addresses -/

def nodeAt? (e : Expression ρ) : Address → Option (Expression ρ)
  | [] => some e
  | i :: rest => e.children[i]?.bind (nodeAt? · rest)

theorem nodeAt?_append (e : Expression ρ) (a b : Address) :
    e.nodeAt? (a ++ b) = (e.nodeAt? a).bind (nodeAt? · b) := by
  induction a generalizing e with
  | nil => rfl
  | cons i rest ih =>
    rw [List.cons_append, nodeAt?, nodeAt?, Option.bind_assoc]
    exact Option.bind_congr fun c _ => ih c

mutual

def addresses : Expression ρ → List Address
  | .leaf _ => [[]]
  | .all cs => [] :: addressesFrom 0 cs
  | .any cs => [] :: addressesFrom 0 cs
  | .negation c => [] :: c.addresses.map (0 :: ·)

def addressesFrom (i : Nat) : List (Expression ρ) → List Address
  | [] => []
  | c :: cs => c.addresses.map (i :: ·) ++ addressesFrom (i + 1) cs

end

theorem addresses_eq (e : Expression ρ) : e.addresses = [] :: addressesFrom 0 e.children := by
  cases e with
  | leaf p => rfl
  | all cs => rfl
  | any cs => rfl
  | negation c => simp [addresses, children, addressesFrom]

theorem mem_addressesFrom {i : Nat} {cs : List (Expression ρ)} {a : Address} :
    a ∈ addressesFrom i cs ↔
      ∃ j c rest, cs[j]? = some c ∧ rest ∈ c.addresses ∧ (i + j) :: rest = a := by
  induction cs generalizing i with
  | nil => simp [addressesFrom]
  | cons c cs ih =>
    rw [addressesFrom, List.mem_append, List.mem_map, ih]
    constructor
    · rintro (⟨rest, hrest, rfl⟩ | ⟨j, d, rest, hd, hrest, rfl⟩)
      · exact ⟨0, c, rest, rfl, hrest, rfl⟩
      · exact ⟨j + 1, d, rest, hd, hrest, by congr 1; omega⟩
    · rintro ⟨j, d, rest, hd, hrest, rfl⟩
      cases j with
      | zero =>
        obtain rfl : c = d := by simpa using hd
        exact .inl ⟨rest, hrest, rfl⟩
      | succ j => exact .inr ⟨j, d, rest, hd, hrest, by congr 1; omega⟩

theorem mem_addresses {e : Expression ρ} {a : Address} :
    a ∈ e.addresses ↔ (e.nodeAt? a).isSome := by
  induction e using induction_children generalizing a with
  | node e ih =>
    cases a with
    | nil => simp [addresses_eq, nodeAt?]
    | cons i rest =>
      have hchild : i :: rest ∈ e.addresses ↔
          ∃ c, e.children[i]? = some c ∧ rest ∈ c.addresses := by
        rw [addresses_eq, List.mem_cons, mem_addressesFrom]
        simp
      rw [hchild, nodeAt?, Option.isSome_bind, Option.any_eq_true]
      refine exists_congr fun c => and_congr_right fun hc => ?_
      exact ih c (List.mem_of_getElem? hc)

theorem take_mem_addresses {e : Expression ρ} {a : Address} (h : a ∈ e.addresses) (n : Nat) :
    a.take n ∈ e.addresses := by
  rw [mem_addresses] at h ⊢
  rw [← List.take_append_drop n a, nodeAt?_append] at h
  exact Option.isSome_of_isSome_bind h

theorem pairwise_addressesFrom {cs : List (Expression ρ)}
    (hcs : ∀ c ∈ cs, c.addresses.Pairwise (· < ·)) (i : Nat) :
    (addressesFrom i cs).Pairwise (· < ·) := by
  induction cs generalizing i with
  | nil => exact List.Pairwise.nil
  | cons c cs ih =>
    have hc : (c.addresses.map (i :: ·)).Pairwise (· < ·) :=
      (hcs c (by simp)).map _ fun a b hab => List.cons_lt_cons_self.mpr hab
    refine List.pairwise_append.mpr
      ⟨hc, ih (fun d hd => hcs d (by simp [hd])) (i + 1), fun a ha b hb => ?_⟩
    obtain ⟨rest, -, rfl⟩ := List.mem_map.mp ha
    obtain ⟨j, d, later, -, -, rfl⟩ := mem_addressesFrom.mp hb
    exact List.cons_lt_cons_iff.mpr (.inl (by omega))

/-- Addresses come in lexicographic order, none of them twice. -/
theorem pairwise_addresses (e : Expression ρ) : e.addresses.Pairwise (· < ·) := by
  induction e using induction_children with
  | node e ih =>
    rw [addresses_eq, List.pairwise_cons]
    refine ⟨fun a ha => ?_, pairwise_addressesFrom ih 0⟩
    obtain ⟨j, c, rest, -, -, rfl⟩ := mem_addressesFrom.mp ha
    exact List.nil_lt_cons _ _

/-! ### Visits at addresses -/

def Visits (e : Expression ρ) (depth : Nat) (a : Address) (v : Visit ρ) : Prop :=
  ∃ x, e.nodeAt? a = some x ∧ v = x.visitAt (depth + a.length)

theorem Visits.child {e c : Expression ρ} {i depth : Nat} (hc : e.children[i]? = some c)
    {a : Address} {v : Visit ρ} (h : c.Visits (depth + 1) a v) : e.Visits depth (i :: a) v := by
  obtain ⟨x, hx, rfl⟩ := h
  refine ⟨x, by rw [nodeAt?, hc, Option.bind_some, hx], ?_⟩
  rw [List.length_cons, Nat.add_right_comm, Nat.add_assoc]

theorem visits_list {e : Expression ρ} {depth : Nat} (skipped : List (Expression ρ))
    {cs : List (Expression ρ)} (hchildren : e.children = skipped ++ cs)
    (hcs : ∀ c ∈ cs, List.Forall₂ (c.Visits (depth + 1)) c.addresses (c.walkAt (depth + 1))) :
    List.Forall₂ (e.Visits depth) (addressesFrom skipped.length cs)
      (walkListAt (depth + 1) cs) := by
  induction cs generalizing skipped with
  | nil => exact .nil
  | cons c cs ih =>
    have hat : e.children[skipped.length]? = some c := by simp [hchildren]
    have hc : List.Forall₂ (e.Visits depth) (c.addresses.map (skipped.length :: ·))
        (c.walkAt (depth + 1)) :=
      List.forall₂_map_left_iff.mpr ((hcs c (by simp)).imp fun a v => Visits.child hat)
    have hrest := ih (skipped ++ [c]) (by simp [hchildren]) fun d hd => hcs d (by simp [hd])
    rw [List.length_append, List.length_singleton] at hrest
    exact List.rel_append hc hrest

theorem visits_walkAt (e : Expression ρ) (depth : Nat) :
    List.Forall₂ (e.Visits depth) e.addresses (e.walkAt depth) := by
  induction e using induction_children generalizing depth with
  | node e ih =>
    rw [addresses_eq, walkAt_eq]
    refine .cons ⟨e, rfl, rfl⟩ ?_
    exact visits_list [] rfl fun c hc => ih c hc (depth + 1)

/-- A listing of all nodes of a tree in pre-order, with the addresses that belong to it. -/
structure Preorder (e : Expression ρ) (addresses : List Address) (visits : List (Visit ρ)) :
    Prop where
  mem_iff : ∀ a, a ∈ addresses ↔ (e.nodeAt? a).isSome
  /-- No node is listed twice, and each comes before all that is below it or to the right of it. -/
  ordered : addresses.Pairwise (· < ·)
  visits : List.Forall₂ (fun a v => ∃ x, e.nodeAt? a = some x ∧
    v = x.visitAt (addresses.countP (Address.Above · a))) addresses visits

/-- The walk of a tree lists its nodes in pre-order, and there is no other tree with this walk. -/
theorem walk_preorder_injective :
    (∀ e : Expression ρ, ∃ addresses, e.Preorder addresses e.walk) ∧
      Function.Injective (walk : Expression ρ → List (Visit ρ)) := by
  refine ⟨fun e => ⟨e.addresses, fun _ => mem_addresses, e.pairwise_addresses, ?_⟩,
    walk_injective⟩
  have hnodup : e.addresses.Nodup := e.pairwise_addresses.imp ne_of_lt
  refine (e.visits_walkAt 0).imp ?_
  rintro a v ⟨x, hx, rfl⟩
  have ha : a ∈ e.addresses := mem_addresses.mpr (by rw [hx, Option.isSome_some])
  rw [Address.countP_above hnodup (take_mem_addresses ha), Nat.zero_add]
  exact ⟨x, hx, rfl⟩

-- An empty conjunction is as deep as a leaf beside it, but takes no visit for a child.
example (p : Predicate ρ) :
    (all [all [], leaf p]).walk = [.compound 0 .and 2, .compound 1 .and 0, .leaf 1 p] := rfl

end Expression

end RecordQuery
