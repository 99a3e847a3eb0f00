import RecordQuery.Proofs.Schema.Derivation
import RecordQuery.Schema.AttributeReader

/-!
# Listed fields

Which constants belong to a list of declared fields is said here without the derivation: the fields
are taken in order, one that its options leave out has no constant, and each other one has one that
describes it. A derivation succeeds with these constants, and only with these.
-/

namespace RecordQuery.Schema

/-- The constant is that of a declared field with the given options: it goes by the new name or else
by the declared one, and reads the values of the declared field, which are of the declared type. -/
structure Describes (c : Constant) (m : Member) (o : Options) : Prop where
  fieldName : c.fieldName = o.rename.getD (plainName m.name)
  identifier : c.identifier = ConstantName.ofField c.fieldName
  member : c.member = m.name
  type : c.type = m.type
  reads : c.field = ⟨c.fieldName, Record.read m.name⟩

theorem describes_iff {c : Constant} {m : Member} {o : Options} :
    Describes c m o ↔
      c = ⟨ConstantName.ofField (m.fieldName o), m.fieldName o, m.name, m.type⟩ := by
  constructor
  · rintro ⟨hname, hident, hmember, htype, -⟩
    obtain ⟨identifier, fieldName, member, type⟩ := c
    simp only at hname hident hmember htype
    rw [hident, hname, hmember, htype]
    rfl
  · rintro rfl
    exact ⟨rfl, rfl, rfl, rfl, rfl⟩

section

variable [Grammar]

/-- The constants for declared fields, in the order of their declarations. -/
inductive Listed : List Member → List Constant → Prop where
  | nil : Listed [] []
  | skip {m : Member} {o : Options} {members : List Member} {cs : List Constant}
    (ho : Options.ofAttributes m.attributes = .ok o) (hskip : o.skip = true)
    (h : Listed members cs) : Listed (m :: members) cs
  | keep {m : Member} {o : Options} {members : List Member} {c : Constant} {cs : List Constant}
    (ho : Options.ofAttributes m.attributes = .ok o) (hskip : o.skip = false)
    (hc : Describes c m o) (h : Listed members cs) : Listed (m :: members) (c :: cs)

theorem listed_iff {members : List Member} {cs : List Constant} :
    Listed members cs ↔ (∀ m ∈ members, m.Readable) ∧ cs = constantsOf members := by
  constructor
  · intro h
    induction h with
    | nil => exact ⟨by simp, rfl⟩
    | skip ho hskip _ ih =>
      obtain ⟨hread, rfl⟩ := ih
      refine ⟨List.forall_mem_cons.mpr ⟨⟨_, ho⟩, hread⟩, ?_⟩
      rw [constantsOf, constantsOf, List.filterMap_cons_none (constant?_of_skip ho hskip)]
    | keep ho hskip hc _ ih =>
      obtain ⟨hread, rfl⟩ := ih
      refine ⟨List.forall_mem_cons.mpr ⟨⟨_, ho⟩, hread⟩, ?_⟩
      rw [constantsOf, constantsOf, List.filterMap_cons_some (constant?_of_keep ho hskip),
        describes_iff.mp hc]
  · rintro ⟨hread, rfl⟩
    induction members with
    | nil => exact .nil
    | cons m rest ih =>
      obtain ⟨⟨o, ho⟩, hrest⟩ := List.forall_mem_cons.mp hread
      have hlisted := ih hrest
      cases hskip : o.skip with
      | true =>
        rw [constantsOf, List.filterMap_cons_none (constant?_of_skip ho hskip)]
        exact .skip ho hskip hlisted
      | false =>
        rw [constantsOf, List.filterMap_cons_some (constant?_of_keep ho hskip)]
        exact .keep ho hskip (describes_iff.mpr rfl) hlisted

/-- A derivation succeeds exactly with the constants listed for the fields of a structure without
parameters, where their names differ and name constants, and each such structure has its schema. -/
theorem derive_eq_ok_iff_listed (d : Declaration) :
    (∀ s, derive d = .ok s ↔ d.parameters = [] ∧ ∃ members, d.body = .named members ∧
      Listed members s.constants ∧ s.recordName = d.name ∧
      s.fieldNames = s.constants.map (·.fieldName) ∧ s.fieldNames.Nodup ∧
      ∀ c ∈ s.constants, ConstantName.isIdentifier c.identifier = true) ∧
    ∀ members, d.parameters = [] → d.body = .named members → (∀ m ∈ members, m.Readable) →
      ∃ cs, Listed members cs ∧ ((cs.map (·.fieldName)).Nodup →
        (∀ c ∈ cs, ConstantName.isIdentifier c.identifier = true) →
        derive d = .ok ⟨d.name, cs, cs.map (·.fieldName)⟩) := by
  refine ⟨fun s => ?_, fun members hparams hbody hread => ?_⟩
  · rw [derive_eq_ok_iff]
    refine and_congr_right fun _ => exists_congr fun members => and_congr_right fun _ => ?_
    constructor
    · rintro ⟨hread, hnodup, hident, rfl⟩
      exact ⟨listed_iff.mpr ⟨hread, rfl⟩, rfl, rfl, hnodup, hident⟩
    · rintro ⟨hlisted, hrecord, hnames, hnodup, hident⟩
      obtain ⟨hread, hcs⟩ := listed_iff.mp hlisted
      obtain ⟨recordName, constants, fieldNames⟩ := s
      simp only at hcs hrecord hnames hnodup hident
      rw [hnames] at hnodup
      rw [hcs] at hnodup hident
      exact ⟨hread, hnodup, hident, by rw [hrecord, hnames, hcs]⟩
  · refine ⟨constantsOf members, listed_iff.mpr ⟨hread, rfl⟩, fun hnodup hident => ?_⟩
    exact derive_eq_ok_iff.mpr ⟨hparams, members, hbody, hread, hnodup, hident, rfl⟩

end

theorem derive_eq_ok_iff_listed_task :
    let directive (ts : List Token) : Attribute := .list ⟨false, ["record"]⟩ ts
    let renamed (name : String) : List Token := [.word "rename", .mark '=' false, .text name]
    let members : List Member :=
      [⟨"r#type", "String", []⟩, ⟨"done", "u64", [directive [.word "skip"]]⟩,
        ⟨"completed", "bool", [.word ⟨false, ["doc"]⟩, directive (renamed "done")]⟩]
    let s : Schema := ⟨"Task", [⟨"TYPE", "type", "r#type", "String"⟩,
      ⟨"DONE", "done", "completed", "bool"⟩], ["type", "done"]⟩
    (∀ m ∈ members, m.Readable) ∧ Listed members s.constants ∧ s.fieldNames.Nodup ∧
      derive ⟨"Task", [], .named members⟩ = .ok s := by
  intro directive renamed members s
  have hlisted : Listed members s.constants := by
    refine .keep (o := ⟨false, none⟩) rfl rfl (describes_iff.mpr ?_) ?_
    · decide
    · refine .skip (o := ⟨true, none⟩) rfl rfl (.keep (o := ⟨false, some "done"⟩) rfl rfl ?_ .nil)
      exact describes_iff.mpr (by decide)
  have hread := (listed_iff.mp hlisted).1
  obtain ⟨-, hconverse⟩ := derive_eq_ok_iff_listed ⟨"Task", [], .named members⟩
  obtain ⟨cs, hcs, hderive⟩ := hconverse members rfl rfl hread
  obtain rfl : cs = s.constants := by
    rw [(listed_iff.mp hcs).2, (listed_iff.mp hlisted).2]
  exact ⟨hread, hlisted, by decide, hderive (by decide) (by decide)⟩

end RecordQuery.Schema
