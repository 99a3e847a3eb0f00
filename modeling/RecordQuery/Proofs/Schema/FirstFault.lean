import RecordQuery.Proofs.Schema.Outcome

/-!
# The first fault

A derivation fails with the first thing that is wrong: parameters come before the kind of the
declaration, the kind before the fields, and a field before those after it. What is wrong with a
field depends on those before it, but only on the names of the fields that are not left out.
-/

namespace RecordQuery.Schema

section

variable [Grammar]

def Member.isLeftOut (m : Member) : Bool :=
  match Options.ofAttributes m.attributes with
  | .error _ => false
  | .ok o => o.skip

def Uses (members : List Member) (name : String) : Prop :=
  ∃ m ∈ members, ∃ o, Options.ofAttributes m.attributes = .ok o ∧ o.skip = false ∧
    m.fieldName o = name

/-- What is wrong with a field after other ones. -/
inductive Offends (before : List Member) (m : Member) : Fault → Prop where
  | options {f : OptionsFault} (h : Options.ofAttributes m.attributes = .error f) :
    Offends before m (.options f)
  | duplicate {o : Options} (ho : Options.ofAttributes m.attributes = .ok o)
    (hskip : o.skip = false) (hused : Uses before (m.fieldName o)) :
    Offends before m (.duplicate (m.fieldName o))
  | constantName {o : Options} (ho : Options.ofAttributes m.attributes = .ok o)
    (hskip : o.skip = false) (hfresh : ¬ Uses before (m.fieldName o))
    (hname : ConstantName.isNameable (m.fieldName o) = false) :
    Offends before m (.constantName (ConstantName.ofField (m.fieldName o)))

def Harmless (members : List Member) : Prop :=
  ∀ before m after f, members = before ++ m :: after → ¬ Offends before m f

/-- The fault that comes first in a declaration. -/
inductive FirstFault : Declaration → Fault → Prop where
  | generic (name : String) {parameters : List Token} (body : Body) (h : parameters ≠ []) :
    FirstFault ⟨name, parameters, body⟩ .generic
  | unnamedFields (name : String) : FirstFault ⟨name, [], .unnamed⟩ .unnamedFields
  | notStructure (name : String) : FirstFault ⟨name, [], .choice⟩ .notStructure
  | field (name : String) {before : List Member} {m : Member} (after : List Member) {f : Fault}
    (hbefore : Harmless before) (h : Offends before m f) :
    FirstFault ⟨name, [], .named (before ++ m :: after)⟩ f

/-! ### One field -/

theorem uses_iff {members : List Member} {name : String} :
    Uses members name ↔ name ∈ (constantsOf members).map (·.fieldName) := by
  simp only [Uses, constantsOf, List.mem_map, List.mem_filterMap]
  constructor
  · intro h
    obtain ⟨m, hm, o, ho, hskip, rfl⟩ := h
    exact ⟨_, ⟨m, hm, constant?_of_keep ho hskip⟩, rfl⟩
  · intro h
    obtain ⟨c, ⟨m, hm, hc⟩, rfl⟩ := h
    obtain ⟨o, ho, hskip, rfl⟩ := exists_options_of_constant? hc
    exact ⟨m, hm, o, ho, hskip, rfl⟩

section

variable {before : List Member} {m : Member} {o : Options} {f : Fault}

theorem offends_iff_of_error {g : OptionsFault}
    (hg : Options.ofAttributes m.attributes = .error g) :
    Offends before m f ↔ f = .options g := by
  constructor
  · intro h
    cases h with
    | options h => rw [Except.error.inj (hg.symm.trans h)]
    | duplicate ho => simp [hg] at ho
    | constantName ho => simp [hg] at ho
  · intro h
    rw [h]
    exact .options hg

theorem not_offends_of_skip (ho : Options.ofAttributes m.attributes = .ok o)
    (hskip : o.skip = true) : ¬ Offends before m f := by
  intro h
  cases h with
  | options h => simp [ho] at h
  | duplicate hp hkeep | constantName hp hkeep =>
    rw [← Except.ok.inj (ho.symm.trans hp), hskip] at hkeep
    cases hkeep

theorem offends_iff_of_keep (ho : Options.ofAttributes m.attributes = .ok o)
    (hskip : o.skip = false) :
    Offends before m f ↔
      Uses before (m.fieldName o) ∧ f = .duplicate (m.fieldName o) ∨
      ¬ Uses before (m.fieldName o) ∧ ConstantName.isNameable (m.fieldName o) = false ∧
        f = .constantName (ConstantName.ofField (m.fieldName o)) := by
  constructor
  · intro h
    cases h with
    | options h => simp [ho] at h
    | duplicate hp _ hused =>
      obtain rfl := Except.ok.inj (ho.symm.trans hp)
      exact .inl ⟨hused, rfl⟩
    | constantName hp _ hfresh hname =>
      obtain rfl := Except.ok.inj (ho.symm.trans hp)
      exact .inr ⟨hfresh, hname, rfl⟩
  · intro h
    obtain ⟨hused, rfl⟩ | ⟨hfresh, hname, rfl⟩ := h
    · exact .duplicate ho hskip hused
    · exact .constantName ho hskip hfresh hname

theorem add_eq_error_iff {s : Schema} (hs : s.fieldNames = (constantsOf before).map (·.fieldName)) :
    s.add m = .error f ↔ Offends before m f := by
  cases ho : Options.ofAttributes m.attributes with
  | error g =>
    have hadd : s.add m = .error (.options g) := by simp [add, ho]
    rw [hadd, offends_iff_of_error ho, Except.error.injEq, eq_comm]
  | ok o =>
    cases hskip : o.skip with
    | true =>
      rw [add_of_skip ho hskip]
      exact iff_of_false (by simp) (not_offends_of_skip ho hskip)
    | false =>
      have hfield : s.hasField (m.fieldName o) = true ↔ Uses before (m.fieldName o) := by
        rw [uses_iff, ← hs, hasField, List.contains_iff_mem]
      rw [add_of_constant? (constant?_of_keep ho hskip), offends_iff_of_keep ho hskip, ← hfield,
        ConstantName.isIdentifier_ofField, eq_comm]
      cases s.hasField (m.fieldName o) with
      | true => simp
      | false => cases ConstantName.isNameable (m.fieldName o) <;> simp

end

theorem add_of_isLeftOut {m : Member} (h : m.isLeftOut = true) (s : Schema) :
    s.add m = .ok s := by
  unfold Member.isLeftOut at h
  split at h
  · cases h
  · rename_i o ho
    exact add_of_skip ho h s

/-! ### All fields -/

theorem addAll_append_of_error {s : Schema} {f : Fault} {members : List Member}
    (h : s.addAll members = .error f) (more : List Member) :
    s.addAll (members ++ more) = .error f := by
  obtain ⟨before, m, after, t, rfl, hbefore, hm⟩ := addAll_eq_error_iff.mp h
  exact addAll_eq_error_iff.mpr ⟨before, m, after ++ more, t, by simp, hbefore, hm⟩

theorem addAll_filter_isLeftOut (s : Schema) (members : List Member) :
    s.addAll (members.filter fun m => !m.isLeftOut) = s.addAll members := by
  induction members generalizing s with
  | nil => rfl
  | cons m rest ih =>
    cases hm : m.isLeftOut with
    | true =>
      rw [List.filter_cons_of_neg (by simp [hm]), ih, addAll_cons_of_ok (add_of_isLeftOut hm s)]
    | false =>
      rw [List.filter_cons_of_pos (by simp [hm]), addAll, addAll]
      cases s.add m with
      | error f => rfl
      | ok t => exact ih t

section

variable {name : String} {members : List Member}

theorem fieldNames_of_addAll {s : Schema} (h : addAll ⟨name, [], []⟩ members = .ok s) :
    s.fieldNames = (constantsOf members).map (·.fieldName) := by
  obtain ⟨-, -, rfl⟩ := addAll_eq_ok_iff.mp h
  rfl

theorem harmless_iff : Harmless members ↔ ∃ s, addAll ⟨name, [], []⟩ members = .ok s := by
  constructor
  · intro h
    cases hall : addAll ⟨name, [], []⟩ members with
    | ok s => exact ⟨s, rfl⟩
    | error f =>
      obtain ⟨before, m, after, t, hsplit, hbefore, hm⟩ := addAll_eq_error_iff.mp hall
      have hoffends := (add_eq_error_iff (fieldNames_of_addAll hbefore)).mp hm
      exact absurd hoffends (h before m after f hsplit)
  · intro h before m after f hsplit hoffends
    obtain ⟨s, hs⟩ := h
    rw [hsplit] at hs
    cases hbefore : addAll ⟨name, [], []⟩ before with
    | error g =>
      rw [addAll_append_of_error hbefore] at hs
      cases hs
    | ok t =>
      have hm := (add_eq_error_iff (fieldNames_of_addAll hbefore)).mpr hoffends
      rw [addAll_append_of_ok hbefore, addAll, hm] at hs
      cases hs

theorem addAll_eq_error_iff_offends {f : Fault} :
    addAll ⟨name, [], []⟩ members = .error f ↔
      ∃ before m after, members = before ++ m :: after ∧ Harmless before ∧ Offends before m f := by
  rw [addAll_eq_error_iff]
  constructor
  · intro h
    obtain ⟨before, m, after, t, hsplit, hbefore, hm⟩ := h
    exact ⟨before, m, after, hsplit, harmless_iff.mpr ⟨t, hbefore⟩,
      (add_eq_error_iff (fieldNames_of_addAll hbefore)).mp hm⟩
  · intro h
    obtain ⟨before, m, after, hsplit, hharmless, hoffends⟩ := h
    obtain ⟨t, hbefore⟩ := harmless_iff.mp hharmless
    exact ⟨before, m, after, t, hsplit, hbefore,
      (add_eq_error_iff (fieldNames_of_addAll hbefore)).mpr hoffends⟩

end

theorem derive_eq_error_iff {d : Declaration} {f : Fault} :
    derive d = .error f ↔ FirstFault d f := by
  obtain ⟨name, parameters, body⟩ := d
  cases parameters with
  | cons t ts =>
    have hderive : derive ⟨name, t :: ts, body⟩ = .error .generic := rfl
    rw [hderive, Except.error.injEq]
    constructor
    · intro h
      rw [← h]
      exact .generic name body (by simp)
    · intro h
      cases h
      rfl
  | nil =>
    constructor
    · intro h
      cases body with
      | unnamed =>
        cases h
        exact .unnamedFields name
      | choice =>
        cases h
        exact .notStructure name
      | named members =>
        rw [derive_of_named rfl rfl, addAll_eq_error_iff_offends] at h
        obtain ⟨before, m, after, rfl, hbefore, hm⟩ := h
        exact .field name after hbefore hm
    · intro h
      cases h with
      | generic _ _ hne => exact absurd rfl hne
      | unnamedFields => rfl
      | notStructure => rfl
      | field _ after hbefore hm =>
        rw [derive_of_named rfl rfl]
        exact addAll_eq_error_iff_offends.mpr ⟨_, _, after, rfl, hbefore, hm⟩

/-- A derivation fails with the fault that comes first and with no other one. Fields that are left
out make no difference to the outcome, and neither do fields after a fault. -/
theorem derive_eq_error_iff_firstFault :
    (∀ d f, derive d = .error f ↔ FirstFault d f) ∧
    ∀ name parameters members,
      derive ⟨name, parameters, .named (members.filter fun m => !m.isLeftOut)⟩ =
        derive ⟨name, parameters, .named members⟩ ∧
      ∀ more f, derive ⟨name, parameters, .named members⟩ = .error f →
        derive ⟨name, parameters, .named (members ++ more)⟩ = .error f := by
  refine ⟨fun d f => derive_eq_error_iff, fun name parameters members => ⟨?_, fun more f h => ?_⟩⟩
  · simp only [derive, addAll_filter_isLeftOut]
  · cases parameters with
    | cons t ts => exact h
    | nil =>
      rw [derive_of_named rfl rfl] at h ⊢
      exact addAll_append_of_error h more

end

theorem derive_eq_error_iff_firstFault_alias :
    let directive (ts : List Token) : Attribute := .list ⟨false, ["record"]⟩ ts
    let renamed : List Token := [.word "rename", .mark '=' false, .text "name"]
    let members : List Member := [⟨"name", "String", []⟩,
      ⟨"secret", "String", [directive (renamed ++ [.mark ',' false, .word "skip"])]⟩,
      ⟨"alias", "String", [directive renamed]⟩]
    let more : List Member := [⟨"age", "u8", [directive [.word "hidden"]]⟩]
    derive ⟨"User", [], .named members⟩ = .error (.duplicate "name") ∧
      FirstFault ⟨"User", [], .named members⟩ (.duplicate "name") ∧
      derive ⟨"User", [], .named (members ++ more)⟩ = .error (.duplicate "name") := by
  intro directive renamed members more
  have h : derive ⟨"User", [], .named members⟩ = .error (.duplicate "name") := by
    unfold members directive renamed
    rfl
  obtain ⟨hiff, hfields⟩ := derive_eq_error_iff_firstFault
  exact ⟨h, (hiff _ _).mp h, (hfields "User" [] members).2 more _ h⟩

end RecordQuery.Schema
