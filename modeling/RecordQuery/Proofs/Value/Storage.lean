import RecordQuery.Proofs.Value.Order

/-!
# Equal and identical values

Identity tells numbers apart by their representation, equality does not. Nowhere else do the two
differ, however deep the numbers stand in lists: equal lists are of one length at every depth, a NaN
is neither equal nor identical to itself, and the two zeros are both.
-/

namespace RecordQuery

namespace Number

inductive Storage where
  | signed
  | unsigned
  | float
deriving DecidableEq

def storage : Number → Storage
  | .signed _ => .signed
  | .unsigned _ => .unsigned
  | .float _ => .float

theorem identical_iff {n m : Number} :
    n.identical m = true ↔ n.compare m = some .eq ∧ n.storage = m.storage := by
  cases n with
  | signed a => cases m <;> simp [identical, compare, storage, Int64.toInt_inj]
  | unsigned a => cases m <;> simp [identical, compare, storage, UInt64.toNat_inj]
  | float x => cases m <;> simp [identical, compare, storage, toDouble, Double.equal]

end Number

theorem Timestamp.millis_toInt_inj {t u : Timestamp} :
    t.millis.toInt = u.millis.toInt ↔ t = u := by
  cases t
  cases u
  simp [Int64.toInt_inj]

namespace Value

def part? (v : Value) : List Nat → Option Value
  | [] => some v
  | i :: address => v.elements[i]?.bind fun w => part? w address

/-- Numbers that stand at one address in both values are represented alike. -/
def SameStorage (a b : Value) : Prop :=
  ∀ address n m, a.part? address = some (.number n) → b.part? address = some (.number m) →
    n.storage = m.storage

theorem sameStorage_number {n m : Number} :
    SameStorage (.number n) (.number m) ↔ n.storage = m.storage := by
  constructor
  · intro h
    exact h [] n m rfl rfl
  · intro h address k l hk hl
    cases address with
    | nil =>
      cases hk
      cases hl
      exact h
    | cons i address => cases hk

theorem sameStorage_of_atom {a : Value} (hnumber : a.number? = none) (helements : a.elements = [])
    (b : Value) : SameStorage a b := by
  intro address n m hn hm
  cases address with
  | nil =>
    cases hn
    cases hnumber
  | cons i address => simp [part?, helements] at hn

theorem sameStorage_cons {a b : Value} {as bs : List Value} :
    SameStorage (.list (a :: as)) (.list (b :: bs)) ↔
      SameStorage a b ∧ SameStorage (.list as) (.list bs) := by
  constructor
  · intro h
    refine ⟨fun address n m hn hm => h (0 :: address) n m hn hm, fun address n m hn hm => ?_⟩
    cases address with
    | nil => cases hn
    | cons i address => exact h ((i + 1) :: address) n m hn hm
  · intro h address n m hn hm
    obtain ⟨hhead, htail⟩ := h
    cases address with
    | nil => cases hn
    | cons i address =>
      cases i with
      | zero => exact hhead address n m hn hm
      | succ i => exact htail (i :: address) n m hn hm

theorem compareLists_cons_eq_iff {a b : Value} {as bs : List Value} :
    compareLists (a :: as) (b :: bs) = some .eq ↔
      a.compare b = some .eq ∧ compareLists as bs = some .eq := by
  constructor
  · intro h
    obtain ⟨hhead, htail⟩ | ⟨-, hne⟩ := compareLists_cons h
    · exact ⟨hhead, htail⟩
    · exact absurd rfl hne
  · intro h
    rw [compareLists, h.1]
    exact h.2

theorem identicalLists_iff {as : List Value}
    (h : ∀ a ∈ as, ∀ b, a.identical b = true ↔ a.compare b = some .eq ∧ SameStorage a b)
    (bs : List Value) : identicalLists as bs = true ↔
      compareLists as bs = some .eq ∧ SameStorage (.list as) (.list bs) := by
  induction as generalizing bs with
  | nil =>
    cases bs with
    | nil =>
      have hstorage : SameStorage (.list []) (.list []) := sameStorage_of_atom rfl rfl _
      simp [identicalLists, compareLists, hstorage]
    | cons b bs => simp [identicalLists, compareLists]
  | cons a as ih =>
    cases bs with
    | nil => simp [identicalLists, compareLists]
    | cons b bs =>
      have hhead := h a (by simp) b
      have htail := ih (fun c hc => h c (by simp [hc])) bs
      rw [identicalLists, Bool.and_eq_true, hhead, htail, compareLists_cons_eq_iff,
        sameStorage_cons, and_and_and_comm]

theorem identical_iff (a b : Value) :
    a.identical b = true ↔ a.compare b = some .eq ∧ SameStorage a b := by
  induction a generalizing b with
  | number n =>
    cases b with
    | number m => rw [identical, compare, sameStorage_number, Number.identical_iff]
    | _ => simp [identical, compare]
  | list as ih =>
    cases b with
    | list bs => rw [identical, compare, identicalLists_iff ih]
    | _ => simp [identical, compare]
  | timestamp t =>
    rw [and_iff_left (sameStorage_of_atom rfl rfl b)]
    cases b with
    | timestamp u => simp [identical, compare, Timestamp.millis_toInt_inj]
    | _ => simp [identical, compare]
  | bool x =>
    rw [and_iff_left (sameStorage_of_atom rfl rfl b)]
    cases b with
    | bool y => cases x <;> cases y <;> decide
    | _ => simp [identical, compare]
  | _ =>
    rw [and_iff_left (sameStorage_of_atom rfl rfl b)]
    cases b <;> simp [identical, compare, UInt32.toNat_inj]

/-- Two values are identical if they are equal and the numbers in them are represented alike. So
where no representations are mixed, identity and equality are one. -/
theorem identical_iff_sameAs (a b : Value) :
    (a.identical b = true ↔ a.sameAs b = true ∧ SameStorage a b) ∧
      (SameStorage a b → a.identical b = a.sameAs b) := by
  have hiff : a.identical b = true ↔ a.sameAs b = true ∧ SameStorage a b := by
    rw [sameAs_iff, identical_iff]
  refine ⟨hiff, fun h => ?_⟩
  rw [Bool.eq_iff_iff, hiff, and_iff_left h]

theorem identical_iff_sameAs_zeros :
    let zeros (bits : UInt64) : Value := .list [.number (.signed 1), .number (.float ⟨bits⟩)]
    let a : Value := .list [zeros 0, .absent]
    let b : Value := .list [zeros 0x8000000000000000, .absent]
    let c : Value := .list [.number (.float ⟨0x7FF8000000000000⟩)]
    SameStorage a b ∧ a.sameAs b = true ∧ a.identical b = true ∧
      SameStorage c c ∧ c.sameAs c = false ∧ c.identical c = false := by
  intro zeros a b c
  have hnil : SameStorage (.list []) (.list []) := sameStorage_of_atom rfl rfl _
  have hzeros : SameStorage (zeros 0) (zeros 0x8000000000000000) :=
    sameStorage_cons.mpr ⟨sameStorage_number.mpr rfl,
      sameStorage_cons.mpr ⟨sameStorage_number.mpr rfl, hnil⟩⟩
  have hab : SameStorage a b :=
    sameStorage_cons.mpr ⟨hzeros, sameStorage_cons.mpr ⟨sameStorage_of_atom rfl rfl _, hnil⟩⟩
  have hc : SameStorage c c := sameStorage_cons.mpr ⟨sameStorage_number.mpr rfl, hnil⟩
  have hequal : a.sameAs b = true := by decide
  have hnan : c.sameAs c = false := by decide
  exact ⟨hab, hequal, (identical_iff_sameAs a b).1.mpr ⟨hequal, hab⟩,
    hc, hnan, ((identical_iff_sameAs c c).2 hc).trans hnan⟩

end Value

end RecordQuery
