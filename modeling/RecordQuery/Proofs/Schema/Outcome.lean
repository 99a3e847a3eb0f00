import RecordQuery.Proofs.Schema.ConstantName
import RecordQuery.Proofs.Text.Laws
import RecordQuery.Schema.AttributeReader

/-!
# Outcomes of derivations

The first fault among the fields decides. A derivation ends with a schema or with a fault that has
a wording, except at a listed field of a new name after which no constant can be named: there it
breaks off. A name does for a constant exactly if it begins with a letter, an underscore or another
separator and goes on with letters, digits and separators, so that only a rename can fail to.
-/

namespace RecordQuery.Schema

namespace ConstantName

/-- Whether a constant can be named after a field of this name. -/
def isNameable (name : String) : Bool :=
  match name.toList with
  | [] => false
  | c :: rest =>
    (isSeparator c || Lexeme.isStart c) && rest.all fun c => isSeparator c || Lexeme.isContinue c

theorem toUpper_cases (c : Char) :
    c.toUpper = c ∨ ∀ d ∈ [c, c.toUpper], d.toNat < 128 ∧ d.isAlpha = true := by
  by_cases h : 97 ≤ c.toNat ∧ c.toNat ≤ 122
  · have hcode : c.toUpper.toNat = c.toNat - 32 := by rw [toNat_toUpper, if_pos h]
    have hlower : c.isAlpha = true := isAlpha_iff.mpr (.inr h)
    have hupper : c.toUpper.isAlpha = true := isAlpha_iff.mpr (by omega)
    have hascii : c.toNat < 128 ∧ c.toUpper.toNat < 128 := by omega
    simp [hascii, hlower, hupper]
  · exact .inl (toUpper_of_not_lower h)

theorem isStart_toUpper (c : Char) : Lexeme.isStart c.toUpper = Lexeme.isStart c := by
  obtain h | h := toUpper_cases c
  · rw [h]
  · have hstart : ∀ d ∈ [c, c.toUpper], Lexeme.isStart d = true :=
      fun d hd => by simp [Lexeme.isStart, h d hd]
    rw [hstart c (by simp), hstart c.toUpper (by simp)]

theorem isContinue_toUpper (c : Char) : Lexeme.isContinue c.toUpper = Lexeme.isContinue c := by
  obtain h | h := toUpper_cases c
  · rw [h]
  · have hcontinue : ∀ d ∈ [c, c.toUpper], Lexeme.isContinue d = true :=
      fun d hd => by simp [Lexeme.isContinue, Char.isAlphanum, h d hd]
    rw [hcontinue c (by simp), hcontinue c.toUpper (by simp)]

theorem all_isContinue_capitalize (b : Bool) (s : List Char) :
    (capitalize b s).all Lexeme.isContinue =
      s.all fun c => isSeparator c || Lexeme.isContinue c := by
  have hline : Lexeme.isContinue '_' = true := by decide
  induction s generalizing b with
  | nil => rfl
  | cons c rest ih =>
    rw [capitalize, List.all_cons]
    by_cases hu : isUpper c = true
    · have hs := isSeparator_of_isUpper hu
      rw [if_pos hu, List.all_append, ih, hs, Bool.false_or]
      cases b with
      | true => simp [hline]
      | false => simp
    · rw [if_neg hu]
      by_cases hs : isSeparator c = true
      · rw [if_pos hs, List.all_cons, ih, hline, hs, Bool.true_or]
      · rw [if_neg hs, List.all_cons, ih, isContinue_toUpper]
        simp [hs]

theorem isIdentifier_ofField (name : String) : isIdentifier (ofField name) = isNameable name := by
  rw [isIdentifier, isNameable, ofField, String.toList_ofList]
  cases name.toList with
  | nil => rfl
  | cons c rest =>
    -- at the start no underscore is put before a capital, so the first character is on its own
    rw [capitalize]
    by_cases hu : isUpper c = true
    · have hs := isSeparator_of_isUpper hu
      rw [if_pos hu]
      change (Lexeme.isStart c && (capitalize false rest).all Lexeme.isContinue) = _
      rw [all_isContinue_capitalize]
      simp [hs]
    · rw [if_neg hu]
      by_cases hs : isSeparator c = true
      · have hline : Lexeme.isStart '_' = true := by decide
        rw [if_pos hs]
        simp [hline, hs, all_isContinue_capitalize]
      · rw [if_neg hs]
        simp [hs, isStart_toUpper, all_isContinue_capitalize]

theorem isNameable_of_isIdentifier {name : String} (h : isIdentifier name = true) :
    isNameable name = true := by
  rw [isIdentifier] at h
  rw [isNameable]
  cases hname : name.toList with
  | nil => simp [hname] at h
  | cons c rest =>
    simp only [hname, Bool.and_eq_true, List.all_eq_true] at h
    have hrest : ∀ x ∈ rest, (isSeparator x || Lexeme.isContinue x) = true :=
      fun x hx => by simp [h.2 x hx]
    simpa [h.1] using hrest

end ConstantName

/-! ### The first fault -/

theorem message?_eq_none_iff {f : Fault} :
    f.message? = none ↔ ∃ identifier, f = .constantName identifier := by
  cases f <;> simp [Fault.message?]

section

variable [Grammar]

theorem addAll_cons_of_ok {s t : Schema} {m : Member} (h : s.add m = .ok t)
    (rest : List Member) : s.addAll (m :: rest) = t.addAll rest := by
  simp only [addAll, h]

theorem addAll_append_of_ok {s t : Schema} {before : List Member} (h : s.addAll before = .ok t)
    (after : List Member) : s.addAll (before ++ after) = t.addAll after := by
  induction before generalizing s with
  | nil =>
    cases h
    rfl
  | cons m rest ih =>
    cases hm : s.add m with
    | error f => simp [addAll, hm] at h
    | ok u =>
      rw [addAll_cons_of_ok hm] at h
      rw [List.cons_append, addAll_cons_of_ok hm, ih h]

theorem addAll_eq_error_iff {s : Schema} {f : Fault} {members : List Member} :
    s.addAll members = .error f ↔ ∃ before m after t, members = before ++ m :: after ∧
      s.addAll before = .ok t ∧ t.add m = .error f := by
  constructor
  · -- the schema is general, for each field that has no fault leads on to another one
    intro h
    induction members generalizing s with
    | nil => cases h
    | cons n rest ih =>
      cases hn : s.add n with
      | error g =>
        rw [addAll, hn] at h
        exact ⟨[], n, rest, s, rfl, rfl, hn.trans h⟩
      | ok u =>
        rw [addAll_cons_of_ok hn] at h
        obtain ⟨before, m, after, t, rfl, hbefore, hm⟩ := ih h
        exact ⟨n :: before, m, after, t, rfl, by rw [addAll_cons_of_ok hn, hbefore], hm⟩
  · rintro ⟨before, m, after, t, rfl, hbefore, hm⟩
    rw [addAll_append_of_ok hbefore, addAll, hm]

theorem add_eq_constantName_iff {s : Schema} {m : Member} {identifier : String} :
    s.add m = .error (.constantName identifier) ↔
      ∃ o, Options.ofAttributes m.attributes = .ok o ∧ o.skip = false ∧
        m.fieldName o ∉ s.fieldNames ∧ ConstantName.isNameable (m.fieldName o) = false ∧
        identifier = ConstantName.ofField (m.fieldName o) := by
  cases ho : Options.ofAttributes m.attributes with
  | error f => simp [add, ho]
  | ok o =>
    cases hskip : o.skip with
    | true => simp [add_of_skip ho hskip, hskip]
    | false =>
      rw [add_of_constant? (constant?_of_keep ho hskip)]
      simp only [hasField, List.contains_iff_mem, ConstantName.isIdentifier_ofField,
        Except.ok.injEq, exists_eq_left', hskip, true_and]
      by_cases hfield : m.fieldName o ∈ s.fieldNames
      · simp [hfield]
      · rw [if_neg hfield]
        cases hname : ConstantName.isNameable (m.fieldName o) with
        | true => simp
        | false =>
          have hswap : ConstantName.ofField (m.fieldName o) = identifier ↔
              identifier = ConstantName.ofField (m.fieldName o) := eq_comm
          simp [hfield, hswap]

/-! ### How a derivation ends -/

def Settles (d : Declaration) : Prop :=
  (∃ s, derive d = .ok s) ∨ ∃ f text, derive d = .error f ∧ f.message? = some text

/-- A declared field that a derivation cannot get past: it is listed, the fields before it make up
a schema without its name, and no constant can be named after it. -/
def BreaksOffAt (d : Declaration) (m : Member) (o : Options) : Prop :=
  d.parameters = [] ∧ ∃ before after s, d.body = .named (before ++ m :: after) ∧
    derive { d with body := .named before } = .ok s ∧
    Options.ofAttributes m.attributes = .ok o ∧ o.skip = false ∧
    m.fieldName o ∉ s.fieldNames ∧ ConstantName.isNameable (m.fieldName o) = false

theorem derive_eq_constantName_iff {d : Declaration} {identifier : String} :
    derive d = .error (.constantName identifier) ↔
      ∃ m o, BreaksOffAt d m o ∧ identifier = ConstantName.ofField (m.fieldName o) := by
  cases hp : d.parameters with
  | cons t ts => simp [derive, BreaksOffAt, hp]
  | nil =>
    cases hb : d.body with
    | unnamed => simp [derive, BreaksOffAt, hp, hb]
    | choice => simp [derive, BreaksOffAt, hp, hb]
    | named members =>
      have hderive : ∀ ms, derive { d with body := .named ms } = addAll ⟨d.name, [], []⟩ ms :=
        fun ms => derive_of_named hp rfl
      rw [derive_of_named hp hb, addAll_eq_error_iff]
      simp only [BreaksOffAt, hb, hderive, Body.named.injEq, add_eq_constantName_iff]
      constructor
      · rintro ⟨before, m, after, t, rfl, hbefore, o, ho, hskip, hfresh, hname, rfl⟩
        exact ⟨m, o, ⟨hp, before, after, t, rfl, hbefore, ho, hskip, hfresh, hname⟩, rfl⟩
      · rintro ⟨m, o, ⟨-, before, after, t, rfl, hbefore, ho, hskip, hfresh, hname⟩, rfl⟩
        exact ⟨before, m, after, t, rfl, hbefore, o, ho, hskip, hfresh, hname, rfl⟩

theorem not_settles_iff {d : Declaration} :
    ¬ Settles d ↔ ∃ identifier, derive d = .error (.constantName identifier) := by
  rw [Settles]
  cases hd : derive d with
  | ok s => simp
  | error f =>
    have htext : (∃ text, f.message? = some text) ↔ f.message? ≠ none := by
      rw [Option.ne_none_iff_exists']
    simp [htext, message?_eq_none_iff]

theorem BreaksOffAt.exists_rename {d : Declaration} {m : Member} {o : Options}
    (h : BreaksOffAt d m o) (hname : ConstantName.isIdentifier (plainName m.name) = true) :
    ∃ name, o.rename = some name ∧ ConstantName.isNameable name = false := by
  obtain ⟨-, _, _, _, -, -, -, -, -, hbad⟩ := h
  cases hrename : o.rename with
  | none =>
    have hplain : m.fieldName o = plainName m.name := by simp [Member.fieldName, hrename]
    rw [hplain, ConstantName.isNameable_of_isIdentifier hname] at hbad
    cases hbad
  | some name =>
    have hfield : m.fieldName o = name := by simp [Member.fieldName, hrename]
    rw [hfield] at hbad
    exact ⟨name, rfl, hbad⟩

/-- A derivation settles unless there is a field at which it breaks off. It then ends there with
the name that is no identifier, and the field, if it is declared by an identifier, is renamed. -/
theorem settles_iff (d : Declaration) :
    (Settles d ↔ ∀ m o, ¬ BreaksOffAt d m o) ∧
    ∀ m o, BreaksOffAt d m o →
      derive d = .error (.constantName (ConstantName.ofField (m.fieldName o))) ∧
      (ConstantName.isIdentifier (plainName m.name) = true → ∃ name, o.rename = some name ∧
        ConstantName.isNameable name = false) := by
  refine ⟨?_, fun m o h => ⟨?_, h.exists_rename⟩⟩
  · rw [← not_iff_not, not_settles_iff]
    simp only [derive_eq_constantName_iff]
    constructor
    · rintro ⟨_, m, o, h, -⟩ hno
      exact hno m o h
    · intro h
      push Not at h
      obtain ⟨m, o, h⟩ := h
      exact ⟨_, m, o, h, rfl⟩
  · exact derive_eq_constantName_iff.mpr ⟨m, o, h, rfl⟩

end

theorem settles_iff_second :
    let directive (ts : List Token) : Attribute := .list ⟨false, ["record"]⟩ ts
    let renamed (name : String) : List Token := [.word "rename", .mark '=' false, .text name]
    let first : Member :=
      ⟨"first", "String", [directive (renamed "1st" ++ [.mark ',' false, .word "skip"])]⟩
    let kind : Member := ⟨"r#type", "u64", [directive (renamed "-user id")]⟩
    let second : Member := ⟨"second", "String", [directive (renamed "2nd")]⟩
    let d : Declaration := ⟨"User", [], .named [first, kind, second]⟩
    BreaksOffAt d second ⟨false, some "2nd"⟩ ∧ ¬ Settles d ∧
      derive d = .error (.constantName "2ND") ∧
      ∃ name, some "2nd" = some name ∧ ConstantName.isNameable name = false := by
  intro directive renamed first kind second d
  have hbefore : derive { d with body := .named [first, kind] } =
      .ok ⟨"User", [⟨"_USER_ID", "-user id", "r#type", "u64"⟩], ["-user id"]⟩ := by
    unfold d first kind directive renamed
    rfl
  have hoptions : Options.ofAttributes second.attributes = .ok ⟨false, some "2nd"⟩ := by
    unfold second directive renamed
    rfl
  have hbreaks : BreaksOffAt d second ⟨false, some "2nd"⟩ :=
    ⟨rfl, [first, kind], [], _, rfl, hbefore, hoptions, rfl, by decide, by decide⟩
  obtain ⟨hiff, hat⟩ := settles_iff d
  obtain ⟨hderive, hrename⟩ := hat second _ hbreaks
  have hcapitals : ConstantName.ofField "2nd" = "2ND" := by decide
  refine ⟨hbreaks, fun h => hiff.mp h second _ hbreaks, ?_, hrename (by decide)⟩
  rw [hderive, ← hcapitals]
  rfl

/-- A derivation that breaks off over a name that is neither empty nor taken. -/
theorem rename_breaks_off :
    let first : Member :=
      ⟨"first", "String",
        [.list ⟨false, ["record"]⟩ [.word "rename", .mark '=' false, .text "1st"]]⟩
    derive ⟨"User", [], .named [first]⟩ = .error (.constantName "1ST") ∧
      ¬ Settles ⟨"User", [], .named [first]⟩ := by
  intro first
  have h : derive ⟨"User", [], .named [first]⟩ = .error (.constantName "1ST") := by
    unfold first
    rfl
  exact ⟨h, not_settles_iff.mpr ⟨_, h⟩⟩

end RecordQuery.Schema
