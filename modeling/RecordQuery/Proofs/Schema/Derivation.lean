import Mathlib.Data.List.Nodup
import RecordQuery.Schema.Derive

/-!
# Successful derivations

Adding a field either fails or puts one constant at the end of the schema, if any. So a derivation
that succeeds lists the constants of the declared fields in their order, and it succeeds exactly if
the options of all fields can be read, their names differ and their constants can be named.
-/

namespace RecordQuery.Schema

def extend (s : Schema) (cs : List Constant) : Schema :=
  { s with constants := s.constants ++ cs, fieldNames := s.fieldNames ++ cs.map (·.fieldName) }

theorem extend_nil (s : Schema) : s.extend [] = s := by
  simp [extend]

theorem extend_append (s : Schema) (cs ds : List Constant) :
    (s.extend cs).extend ds = s.extend (cs ++ ds) := by
  simp [extend]

structure Accepts (s : Schema) (c : Constant) : Prop where
  fresh : c.fieldName ∉ s.fieldNames
  identifier : ConstantName.isIdentifier c.identifier = true

theorem accepts_extend_iff {s : Schema} {c : Constant} {cs : List Constant} :
    (s.extend cs).Accepts c ↔ s.Accepts c ∧ c.fieldName ∉ cs.map (·.fieldName) := by
  constructor
  · rintro ⟨hfresh, hident⟩
    simp only [extend, List.mem_append, not_or] at hfresh
    exact ⟨⟨hfresh.1, hident⟩, hfresh.2⟩
  · rintro ⟨⟨hfresh, hident⟩, hcs⟩
    refine ⟨?_, hident⟩
    simp only [extend, List.mem_append, not_or]
    exact ⟨hfresh, hcs⟩

structure AcceptsAll (s : Schema) (cs : List Constant) : Prop where
  nodup : (cs.map (·.fieldName)).Nodup
  accepts : ∀ c ∈ cs, s.Accepts c

theorem acceptsAll_cons_iff {s : Schema} {c : Constant} {cs : List Constant} :
    s.AcceptsAll (c :: cs) ↔ s.Accepts c ∧ (s.extend [c]).AcceptsAll cs := by
  constructor
  · rintro ⟨hnodup, haccepts⟩
    rw [List.map_cons, List.nodup_cons] at hnodup
    refine ⟨haccepts c (by simp), hnodup.2, fun d hd => ?_⟩
    have hne : d.fieldName ∉ [c].map (·.fieldName) := by
      intro hmem
      have heq : d.fieldName = c.fieldName := by simpa using hmem
      exact hnodup.1 (heq ▸ List.mem_map_of_mem hd)
    exact accepts_extend_iff.mpr ⟨haccepts d (by simp [hd]), hne⟩
  · rintro ⟨hc, hnodup, haccepts⟩
    have hboth := fun d hd => accepts_extend_iff.mp (haccepts d hd)
    refine ⟨?_, ?_⟩
    · rw [List.map_cons, List.nodup_cons]
      refine ⟨fun hmem => ?_, hnodup⟩
      obtain ⟨d, hd, heq⟩ := List.mem_map.mp hmem
      exact (hboth d hd).2 (by simp [heq])
    · intro d hd
      obtain rfl | hd := List.mem_cons.mp hd
      · exact hc
      · exact (hboth d hd).1

variable [Grammar]

def Member.Readable (m : Member) : Prop := ∃ o, Options.ofAttributes m.attributes = .ok o

/-- The constant for a field, unless its options leave it out or cannot be read. -/
def Member.constant? (m : Member) : Option Constant :=
  match Options.ofAttributes m.attributes with
  | .error _ => none
  | .ok o =>
    if o.skip then none
    else some ⟨ConstantName.ofField (m.fieldName o), m.fieldName o, m.name, m.type⟩

def constantsOf (members : List Member) : List Constant := members.filterMap Member.constant?

/-! ### One field -/

theorem constant?_of_skip {m : Member} {o : Options}
    (ho : Options.ofAttributes m.attributes = .ok o) (hskip : o.skip = true) :
    m.constant? = none := by
  simp [Member.constant?, ho, hskip]

theorem constant?_of_keep {m : Member} {o : Options}
    (ho : Options.ofAttributes m.attributes = .ok o) (hskip : o.skip = false) :
    m.constant? =
      some ⟨ConstantName.ofField (m.fieldName o), m.fieldName o, m.name, m.type⟩ := by
  simp [Member.constant?, ho, hskip]

theorem exists_options_of_constant? {m : Member} {c : Constant} (h : m.constant? = some c) :
    ∃ o, Options.ofAttributes m.attributes = .ok o ∧ o.skip = false ∧
      c = ⟨ConstantName.ofField (m.fieldName o), m.fieldName o, m.name, m.type⟩ := by
  unfold Member.constant? at h
  split at h
  · cases h
  · rename_i o ho
    cases hskip : o.skip with
    | true => simp [hskip] at h
    | false =>
      rw [hskip] at h
      exact ⟨o, ho, hskip, (Option.some.inj h).symm⟩

theorem add_of_constant? {m : Member} {c : Constant} (h : m.constant? = some c) (s : Schema) :
    s.add m =
      if s.hasField c.fieldName then .error (.duplicate c.fieldName)
      else if !ConstantName.isIdentifier c.identifier then .error (.constantName c.identifier)
      else .ok (s.extend [c]) := by
  obtain ⟨o, ho, hskip, rfl⟩ := exists_options_of_constant? h
  simp [add, ho, hskip, extend]

theorem add_of_skip {m : Member} {o : Options} (ho : Options.ofAttributes m.attributes = .ok o)
    (hskip : o.skip = true) (s : Schema) : s.add m = .ok s := by
  simp [add, ho, hskip]

theorem add_eq_ok_iff {s t : Schema} {m : Member} :
    s.add m = .ok t ↔ m.Readable ∧ (∀ c ∈ m.constant?, s.Accepts c) ∧
      t = s.extend m.constant?.toList := by
  cases hc : m.constant? with
  | none =>
    have hstop : s.add m = .ok t ↔ m.Readable ∧ t = s := by
      cases ho : Options.ofAttributes m.attributes with
      | error f => simp [add, Member.Readable, ho]
      | ok o =>
        have hskip : o.skip = true := by
          by_contra hskip
          rw [constant?_of_keep ho (by simpa using hskip)] at hc
          cases hc
        rw [add_of_skip ho hskip, Except.ok.injEq, eq_comm]
        exact (and_iff_right ⟨o, ho⟩).symm
    simpa [extend_nil] using hstop
  | some c =>
    obtain ⟨o, ho, -⟩ := exists_options_of_constant? hc
    have hread : m.Readable := ⟨o, ho⟩
    have haccepts : s.Accepts c ↔
        s.hasField c.fieldName = false ∧ ConstantName.isIdentifier c.identifier = true :=
      ⟨fun h => ⟨by simpa [hasField] using h.fresh, h.identifier⟩,
        fun h => ⟨by simpa [hasField] using h.1, h.2⟩⟩
    rw [add_of_constant? hc]
    cases hfield : s.hasField c.fieldName with
    | true => simp [haccepts, hfield]
    | false =>
      cases hident : ConstantName.isIdentifier c.identifier with
      | true => simp [haccepts, hfield, hident, hread, eq_comm]
      | false => simp [haccepts, hident]

/-! ### All fields -/

theorem addAll_eq_ok_iff {s t : Schema} {members : List Member} :
    s.addAll members = .ok t ↔ (∀ m ∈ members, m.Readable) ∧ s.AcceptsAll (constantsOf members) ∧
      t = s.extend (constantsOf members) := by
  induction members generalizing s with
  | nil =>
    have hnil : s.AcceptsAll [] := ⟨List.nodup_nil, by simp⟩
    simp [addAll, constantsOf, extend_nil, hnil, eq_comm]
  | cons m rest ih =>
    have hstep : s.addAll (m :: rest) = .ok t ↔ ∃ u, s.add m = .ok u ∧ u.addAll rest = .ok t := by
      rw [addAll]
      cases s.add m <;> simp
    have hcons : constantsOf (m :: rest) = m.constant?.toList ++ constantsOf rest := by
      cases hc : m.constant? <;> simp [constantsOf, hc]
    simp only [hstep, add_eq_ok_iff, ih, List.forall_mem_cons, hcons]
    cases hc : m.constant? with
    | none => simp [extend_nil, and_assoc]
    | some c =>
      simp only [Option.mem_def, Option.some.injEq, forall_eq', Option.toList_some,
        List.singleton_append, acceptsAll_cons_iff, and_assoc]
      constructor
      · rintro ⟨u, hread, hc, rfl, hrest, haccepts, rfl⟩
        exact ⟨hread, hrest, hc, haccepts, by simp [extend_append]⟩
      · rintro ⟨hread, hrest, hc, haccepts, rfl⟩
        exact ⟨_, hread, hc, rfl, hrest, haccepts, by simp [extend_append]⟩

theorem derive_of_named {d : Declaration} {members : List Member} (hp : d.parameters = [])
    (hb : d.body = .named members) : derive d = addAll ⟨d.name, [], []⟩ members := by
  simp [derive, hp, hb]

/-- A derivation succeeds exactly for structures without parameters whose fields can be read, have
different names and give names to constants, and then says what the schema is. -/
theorem derive_eq_ok_iff {d : Declaration} {s : Schema} :
    derive d = .ok s ↔ d.parameters = [] ∧ ∃ members, d.body = .named members ∧
      (∀ m ∈ members, m.Readable) ∧
      ((constantsOf members).map (·.fieldName)).Nodup ∧
      (∀ c ∈ constantsOf members, ConstantName.isIdentifier c.identifier = true) ∧
      s = ⟨d.name, constantsOf members, (constantsOf members).map (·.fieldName)⟩ := by
  cases hp : d.parameters with
  | cons t ts => simp [derive, hp]
  | nil =>
    cases hb : d.body with
    | unnamed => simp [derive, hp, hb]
    | choice => simp [derive, hp, hb]
    | named members =>
      have hempty : ∀ cs : List Constant, AcceptsAll ⟨d.name, [], []⟩ cs ↔
          (cs.map (·.fieldName)).Nodup ∧
            ∀ c ∈ cs, ConstantName.isIdentifier c.identifier = true := by
        intro cs
        constructor
        · intro h
          exact ⟨h.nodup, fun c hc => (h.accepts c hc).identifier⟩
        · rintro ⟨hnodup, hident⟩
          exact ⟨hnodup, fun c hc => ⟨by simp, hident c hc⟩⟩
      rw [derive_of_named hp hb]
      simp [addAll_eq_ok_iff, hempty, extend, and_assoc]

end RecordQuery.Schema
