import RecordQuery.Proofs.Schema.Derivation
import RecordQuery.Schema.AttributeReader

/-!
# Directives

The directives of a field are its attributes that are named `record`. The first one decides alone:
whatever others say, a schema comes out as if they were not there. So a field that is to be left
out by a later directive is listed nevertheless, and a later directive may hold anything.
-/

namespace RecordQuery.Schema

namespace Attribute

def isDirective (a : Attribute) : Bool := a.path.isName "record"

def isSkip : Attribute → Bool
  | .word p => p.isName "skip"
  | _ => false

def hasSkip [Grammar] : Attribute → Bool
  | .list _ ts =>
    match Grammar.list ts with
    | .ok items => items.any isSkip
    | .error _ => false
  | _ => false

end Attribute

open Attribute (isSkip)

namespace Member

def directives (m : Member) : List Attribute := m.attributes.filter Attribute.isDirective

def trim (m : Member) : Member := { m with attributes := m.directives.take 1 }

theorem directives_trim (m : Member) : m.trim.directives = m.directives.take 1 := by
  have hmem : ∀ a ∈ m.directives, a.isDirective = true := fun a ha => (List.mem_filter.mp ha).2
  exact List.filter_eq_self.mpr fun a ha => hmem a (List.mem_of_mem_take ha)

end Member

namespace Options

theorem skip_apply {o t : Options} {a : Attribute} (h : o.apply a = .ok t) :
    t.skip = (o.skip || isSkip a) := by
  cases a with
  | word p =>
    by_cases hp : p.isName "skip" = true
    · rw [apply, if_pos hp] at h
      cases h
      simp [isSkip, hp]
    · rw [apply, if_neg hp] at h
      cases h
  | list p ts => cases h
  | value p text =>
    have hsame : t.skip = o.skip := by
      simp only [apply] at h
      split at h
      · cases text with
        | none => cases h
        | some name =>
          by_cases hname : name.isEmpty = true
          · simp [hname] at h
          · simp only [hname] at h
            cases h
            rfl
      · cases h
    simp [hsame, isSkip]

theorem skip_applyAll {o t : Options} {items : List Attribute} (h : o.applyAll items = .ok t) :
    t.skip = (o.skip || items.any isSkip) := by
  induction items generalizing o with
  | nil =>
    cases h
    simp
  | cons a rest ih =>
    rw [applyAll] at h
    cases ho : o.apply a with
    | error f => simp [ho] at h
    | ok u =>
      have hrest := ih (o := u) (by simpa [ho] using h)
      rw [hrest, skip_apply ho, List.any_cons, Bool.or_assoc]

end Options

section

variable [Grammar]

/-- An attribute that can be read leaves a field out exactly if `skip` is among its items. -/
theorem Options.skip_ofAttribute {o : Options} {a : Attribute} (h : Options.ofAttribute a = .ok o) :
    o.skip = a.hasSkip := by
  cases a with
  | word p => cases h
  | value p text => cases h
  | list p ts =>
    simp only [Options.ofAttribute, Options.ofTokens] at h
    cases hts : Grammar.list ts with
    | error m => simp [hts] at h
    | ok items =>
      have hskip := Options.skip_applyAll (by simpa [hts] using h)
      simpa [Attribute.hasSkip, hts, Options.default] using hskip

namespace Member

def asksForSkip (m : Member) : Bool := m.directives.any Attribute.hasSkip

theorem ofAttributes_eq (m : Member) :
    Options.ofAttributes m.attributes =
      m.directives.head?.elim (.ok Options.default) Options.ofAttribute := by
  have hfind : m.directives.head? = m.attributes.find? Attribute.isDirective := List.head?_filter
  have hof : Options.ofAttributes m.attributes =
      (m.attributes.find? Attribute.isDirective).elim (.ok Options.default)
        Options.ofAttribute := by
    unfold Options.ofAttributes Attribute.isDirective
    cases m.attributes.find? (·.path.isName "record") <;> rfl
  rw [hof, hfind]

theorem ofAttributes_trim (m : Member) :
    Options.ofAttributes m.trim.attributes = Options.ofAttributes m.attributes := by
  rw [ofAttributes_eq, ofAttributes_eq, directives_trim]
  cases m.directives <;> rfl

end Member

theorem add_trim (s : Schema) (m : Member) : s.add m.trim = s.add m := by
  unfold add
  rw [m.ofAttributes_trim]
  rfl

theorem addAll_trim (s : Schema) (members : List Member) :
    s.addAll (members.map Member.trim) = s.addAll members := by
  induction members generalizing s with
  | nil => rfl
  | cons m rest ih =>
    rw [List.map_cons, addAll, addAll, add_trim]
    cases s.add m with
    | error f => rfl
    | ok t => exact ih t

/-! ### Fields that are left out -/

namespace Member

theorem constant?_eq_none_iff {m : Member} (h : m.Readable) :
    m.constant? = none ↔ ∃ a ∈ m.directives.head?, a.hasSkip = true := by
  obtain ⟨o, ho⟩ := h
  have hnone : m.constant? = none ↔ o.skip = true := by
    cases hskip : o.skip <;> simp [constant?, ho, hskip]
  rw [ofAttributes_eq] at ho
  rw [hnone]
  cases hd : m.directives with
  | nil =>
    rw [hd] at ho
    cases ho
    simp [Options.default]
  | cons a rest =>
    rw [hd] at ho
    simp [Options.skip_ofAttribute ho]

theorem heeded_iff {m : Member} (h : m.Readable) :
    ((∀ a ∈ m.directives, ∃ o, Options.ofAttribute a = .ok o) ∧
      ((!m.asksForSkip) = false → ∃ b ∈ m.directives.head?, b.hasSkip = true)) ↔
    ∀ a ∈ m.directives.tail, (∃ o, Options.ofAttribute a = .ok o) ∧
      (a.hasSkip = true → ∃ b ∈ m.directives.head?, b.hasSkip = true) := by
  rw [Readable, ofAttributes_eq] at h
  rw [asksForSkip]
  cases hd : m.directives with
  | nil => simp
  | cons a rest =>
    rw [hd] at h
    have hfirst : ∃ o, Options.ofAttribute a = .ok o := h
    cases hskip : a.hasSkip with
    | true => simp [hskip, hfirst]
    | false => simp [hskip, hfirst, forall_and]

end Member

theorem constantsOf_filter_iff {members : List Member} (p : Member → Bool) :
    constantsOf (members.filter p) = constantsOf members ↔
      ∀ m ∈ members, p m = false → m.constant? = none := by
  induction members with
  | nil => simp [constantsOf]
  | cons m rest ih =>
    have hle : (constantsOf (rest.filter p)).length ≤ (constantsOf rest).length :=
      ((List.filter_sublist).filterMap Member.constant?).length_le
    unfold constantsOf at ih hle ⊢
    rw [List.forall_mem_cons, ← ih]
    cases hp : p m with
    | true => cases hc : m.constant? <;> simp [hp, hc]
    | false =>
      cases hc : m.constant? with
      | none => simp [hp, hc]
      | some c =>
        -- without `m` there are too few constants
        refine iff_of_false (fun heq => ?_) (by simp)
        have hlen := congrArg List.length heq
        simp only [List.filter_cons, hp, List.filterMap_cons, hc, List.length_cons] at hlen
        simp at hlen
        omega

theorem derive_filter_iff {name : String} {parameters : List Token} {members : List Member}
    {s : Schema} (h : derive ⟨name, parameters, .named members⟩ = .ok s) (p : Member → Bool) :
    derive ⟨name, parameters, .named (members.filter p)⟩ = .ok s ↔
      ∀ m ∈ members, p m = false → m.constant? = none := by
  obtain ⟨hparams, _, hbody, hread, hnodup, hident, rfl⟩ := derive_eq_ok_iff.mp h
  cases hbody
  rw [← constantsOf_filter_iff, derive_eq_ok_iff]
  constructor
  · rintro ⟨-, _, hbody, -, -, -, hs⟩
    cases hbody
    exact (congrArg Schema.constants hs).symm
  · intro heq
    refine ⟨hparams, _, rfl, fun m hm => hread m (List.mem_of_mem_filter hm), ?_⟩
    rw [heq]
    exact ⟨hnodup, hident, rfl⟩

/-- Only the first directive of a field has a say. So every directive is heeded, in that each of
them can be read and a field is left out if any of them says so, exactly if the further directives
of each field can be read and leave it out only where the first one does. -/
theorem derive_reads_first_directive (name : String) (parameters : List Token)
    (members : List Member) :
    derive ⟨name, parameters, .named (members.map Member.trim)⟩ =
      derive ⟨name, parameters, .named members⟩ ∧
    ∀ s, derive ⟨name, parameters, .named members⟩ = .ok s →
      (((∀ m ∈ members, ∀ a ∈ m.directives, ∃ o, Options.ofAttribute a = .ok o) ∧
        derive ⟨name, parameters, .named (members.filter fun m => !m.asksForSkip)⟩ = .ok s) ↔
      ∀ m ∈ members, ∀ a ∈ m.directives.tail, (∃ o, Options.ofAttribute a = .ok o) ∧
        (a.hasSkip = true → ∃ b ∈ m.directives.head?, b.hasSkip = true)) := by
  refine ⟨?_, fun s h => ?_⟩
  · simp only [derive, addAll_trim]
  · obtain ⟨-, _, hbody, hread, -⟩ := derive_eq_ok_iff.mp h
    cases hbody
    rw [derive_filter_iff h, ← forall₂_and]
    refine forall₂_congr fun m hm => ?_
    rw [Member.constant?_eq_none_iff (hread m hm)]
    exact m.heeded_iff (hread m hm)

end

theorem derive_reads_first_directive_skip :
    let directive (ts : List Token) : Attribute := .list ⟨false, ["record"]⟩ ts
    let members : List Member := [⟨"name", "String", []⟩, ⟨"secret", "String",
      [directive [.word "skip"], directive [.word "rename", .mark '=' false, .text "key"]]⟩]
    let s : Schema := ⟨"User", [⟨"NAME", "name", "name", "String"⟩], ["name"]⟩
    derive ⟨"User", [], .named members⟩ = .ok s ∧
      (∀ m ∈ members, ∀ a ∈ m.directives, ∃ o, Options.ofAttribute a = .ok o) ∧
      derive ⟨"User", [], .named (members.filter fun m => !m.asksForSkip)⟩ = .ok s := by
  intro directive members s
  have h : derive ⟨"User", [], .named members⟩ = .ok s := by
    unfold members s directive
    rfl
  obtain ⟨-, hiff⟩ := derive_reads_first_directive "User" [] members
  have hlater : ∀ m ∈ members, ∀ a ∈ m.directives.tail, (∃ o, Options.ofAttribute a = .ok o) ∧
      (a.hasSkip = true → ∃ b ∈ m.directives.head?, b.hasSkip = true) := by
    intro m hm a ha
    obtain rfl | hm := List.mem_cons.mp hm
    · cases ha
    · obtain rfl := List.mem_singleton.mp hm
      obtain rfl := List.mem_singleton.mp ha
      exact ⟨⟨⟨false, some "key"⟩, rfl⟩, fun _ => ⟨directive [.word "skip"], rfl, rfl⟩⟩
  exact ⟨h, (hiff s h).mpr hlater⟩

/-- A field that a later directive leaves out is listed, and a later directive with an unknown item
is no fault. -/
theorem later_directive_unheeded :
    let directive (ts : List Token) : Attribute := .list ⟨false, ["record"]⟩ ts
    let rename (name : String) : Attribute :=
      directive [.word "rename", .mark '=' false, .text name]
    let secret : Member := ⟨"secret", "String", [rename "key", directive [.word "skip"]]⟩
    let age : Member := ⟨"age", "u8", [rename "years", directive [.word "hidden"]]⟩
    derive ⟨"User", [], .named [secret, age]⟩ = .ok ⟨"User", [⟨"KEY", "key", "secret", "String"⟩,
        ⟨"YEARS", "years", "age", "u8"⟩], ["key", "years"]⟩ ∧
      secret.asksForSkip = true ∧
      ∃ a ∈ age.directives, Options.ofAttribute a = .error .unknown := by
  intro directive rename secret age
  refine ⟨?_, ?_, directive [.word "hidden"], ?_, ?_⟩
  · unfold secret age rename directive
    rfl
  · unfold secret rename directive
    rfl
  · unfold age rename directive
    exact List.mem_filter.mpr ⟨by simp, rfl⟩
  · rfl

end RecordQuery.Schema
