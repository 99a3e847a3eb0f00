import RecordQuery.Proofs.Schema.Derivation
import RecordQuery.Schema.AttributeReader

/-!
# Names of constants

A constant is named by the words of a field's name, in capitals and with underscores between them.
So two names give the same constant exactly if they consist of the same words up to the case of
ASCII letters. A derivation sees to it that the names of fields differ, which is less: a schema may
have two constants of one name.
-/

namespace RecordQuery.Schema

namespace ConstantName

/-! ### Capitals -/

theorem toNat_toUpper (c : Char) :
    c.toUpper.toNat = if 97 ≤ c.toNat ∧ c.toNat ≤ 122 then c.toNat - 32 else c.toNat := by
  have hlower : ('a'.val ≤ c.val ∧ c.val ≤ 'z'.val) ↔ 97 ≤ c.toNat ∧ c.toNat ≤ 122 := Iff.rfl
  unfold Char.toUpper
  by_cases h : 'a'.val ≤ c.val ∧ c.val ≤ 'z'.val
  · rw [dif_pos h, if_pos (hlower.mp h)]
    have hc := hlower.mp h
    change (c.val + ('A'.val - 'a'.val)).toNat = c.val.toNat - 32
    change 97 ≤ c.val.toNat ∧ c.val.toNat ≤ 122 at hc
    have hshift : ('A'.val - 'a'.val).toNat = 2 ^ 32 - 32 := by decide
    rw [UInt32.toNat_add, hshift]
    omega
  · rw [dif_neg h, if_neg (fun hc => h (hlower.mpr hc))]

theorem toUpper_of_not_lower {c : Char} (h : ¬ (97 ≤ c.toNat ∧ c.toNat ≤ 122)) :
    c.toUpper = c := by
  apply Char.toNat_inj.mp
  rw [toNat_toUpper, if_neg h]

theorem toUpper_of_isUpper {c : Char} (h : isUpper c = true) : c.toUpper = c := by
  apply toUpper_of_not_lower
  intro hc
  have hascii : c.toNat < 128 := by omega
  rw [isUpper, if_pos hascii] at h
  have hle : c.toNat ≤ 90 := (of_decide_eq_true h).2
  omega

theorem toUpper_ne {c d : Char} (hd : ¬ (65 ≤ d.toNat ∧ d.toNat ≤ 90)) (h : c ≠ d) :
    c.toUpper ≠ d := by
  intro hc
  have hcode : c.toUpper.toNat = d.toNat := congrArg Char.toNat hc
  rw [toNat_toUpper] at hcode
  apply h
  apply Char.toNat_inj.mp
  split at hcode
  · omega
  · exact hcode

theorem isSeparator_of_isUpper {c : Char} (h : isUpper c = true) : isSeparator c = false := by
  by_contra hs
  simp only [isSeparator, Bool.not_eq_false, Bool.or_eq_true, beq_iff_eq] at hs
  obtain ((rfl | rfl) | rfl) | rfl := hs <;> exact absurd h (by decide)

/-! ### Words -/

/-- The words of a name. A separator ends a word, and so does a capital after a character that is
neither a capital nor a separator; `afterLower` says whether there is such a character before. -/
def words (afterLower : Bool) : List Char → List (List Char)
  | [] => [[]]
  | c :: rest =>
    if isUpper c then
      (if afterLower then [[]] else []) ++ (words false rest).modifyHead (c :: ·)
    else if isSeparator c then [] :: words false rest
    else (words true rest).modifyHead (c :: ·)

theorem words_ne_nil (b : Bool) (s : List Char) : words b s ≠ [] := by
  induction s generalizing b with
  | nil => simp [words]
  | cons c rest ih =>
    have hfalse := ih false
    have htrue := ih true
    rw [words]
    by_cases hu : isUpper c = true
    · simp [hu, hfalse]
    · by_cases hs : isSeparator c = true
      · simp [hu, hs]
      · simp [hu, hs, htrue]

theorem underscore_not_mem_modifyHead {c : Char} (hc : c ≠ '_') {ws : List (List Char)}
    (h : ∀ w ∈ ws, '_' ∉ w) : ∀ w ∈ ws.modifyHead (c :: ·), '_' ∉ w := by
  intro w hw
  cases ws with
  | nil => cases hw
  | cons v vs =>
    have hv := h v (by simp)
    obtain rfl | hw := List.mem_cons.mp hw
    · simp [hc.symm, hv]
    · exact h w (by simp [hw])

theorem underscore_not_mem_words (b : Bool) (s : List Char) : ∀ w ∈ words b s, '_' ∉ w := by
  induction s generalizing b with
  | nil => simp [words]
  | cons c rest ih =>
    rw [words]
    by_cases hu : isUpper c = true
    · have hc : c ≠ '_' := by
        rintro rfl
        cases hu
      have hrest := underscore_not_mem_modifyHead hc (ih false)
      rw [if_pos hu]
      cases b with
      | true => simpa using hrest
      | false => simpa using hrest
    · rw [if_neg hu]
      by_cases hs : isSeparator c = true
      · rw [if_pos hs]
        simpa using ih false
      · have hc : c ≠ '_' := by
          rintro rfl
          exact hs rfl
        rw [if_neg hs]
        exact underscore_not_mem_modifyHead hc (ih true)

def inCapitals (ws : List (List Char)) : List (List Char) := ws.map (·.map Char.toUpper)

def join (ws : List (List Char)) : List Char := ['_'].intercalate (inCapitals ws)

theorem join_cons_nil {ws : List (List Char)} (h : ws ≠ []) : join ([] :: ws) = '_' :: join ws := by
  obtain ⟨w, rest, rfl⟩ := List.exists_cons_of_ne_nil h
  simp [join, inCapitals, List.intercalate_cons_cons]

theorem join_modifyHead (c : Char) {ws : List (List Char)} (h : ws ≠ []) :
    join (ws.modifyHead (c :: ·)) = c.toUpper :: join ws := by
  obtain ⟨w, rest, rfl⟩ := List.exists_cons_of_ne_nil h
  cases rest with
  | nil => simp [join, inCapitals]
  | cons v rest => simp [join, inCapitals, List.intercalate_cons_cons]

theorem capitalize_eq_join (b : Bool) (s : List Char) : capitalize b s = join (words b s) := by
  induction s generalizing b with
  | nil => simp [capitalize, words, join, inCapitals]
  | cons c rest ih =>
    have hfalse := words_ne_nil false rest
    have htrue := words_ne_nil true rest
    have hnext : (words false rest).modifyHead (c :: ·) ≠ [] := by simpa using hfalse
    rw [capitalize, words]
    by_cases hu : isUpper c = true
    · rw [if_pos hu, if_pos hu, ih]
      cases b with
      | true =>
        change '_' :: c :: join (words false rest) =
          join ([] :: (words false rest).modifyHead (c :: ·))
        rw [join_cons_nil hnext, join_modifyHead c hfalse, toUpper_of_isUpper hu]
      | false =>
        change c :: join (words false rest) = join ((words false rest).modifyHead (c :: ·))
        rw [join_modifyHead c hfalse, toUpper_of_isUpper hu]
    · rw [if_neg hu, if_neg hu]
      by_cases hs : isSeparator c = true
      · rw [if_pos hs, if_pos hs, ih, join_cons_nil hfalse]
      · rw [if_neg hs, if_neg hs, ih, join_modifyHead c htrue]

theorem splitOn_join (b : Bool) (s : List Char) :
    (join (words b s)).splitOn '_' = inCapitals (words b s) := by
  apply List.splitOn_intercalate
  · intro w hw hmem
    obtain ⟨v, hv, rfl⟩ := List.mem_map.mp hw
    obtain ⟨c, hc, hup⟩ := List.mem_map.mp hmem
    have hne : c ≠ '_' := by
      rintro rfl
      exact underscore_not_mem_words b s v hv hc
    exact toUpper_ne (by decide) hne hup
  · simpa [inCapitals] using words_ne_nil b s

/-- Two names that consist of the same words, up to the case of ASCII letters. -/
def SameWords (x y : String) : Prop :=
  inCapitals (words false x.toList) = inCapitals (words false y.toList)

instance (x y : String) : Decidable (SameWords x y) := inferInstanceAs (Decidable (_ = _))

theorem ofField_eq_iff {x y : String} : ofField x = ofField y ↔ SameWords x y := by
  rw [ofField, ofField, String.ofList_inj, capitalize_eq_join, capitalize_eq_join]
  constructor
  · intro h
    have hsplit := congrArg (·.splitOn '_') h
    simp only [splitOn_join] at hsplit
    exact hsplit
  · intro h
    exact congrArg (['_'].intercalate ·) h

end ConstantName

theorem identifier_of_mem_constantsOf [Grammar] {members : List Member} {c : Constant}
    (h : c ∈ constantsOf members) : c.identifier = ConstantName.ofField c.fieldName := by
  obtain ⟨m, -, hm⟩ := List.mem_filterMap.mp h
  obtain ⟨o, -, -, rfl⟩ := exists_options_of_constant? hm
  rfl

/-- The fields of a schema have different names, and its constants have so exactly if no two of
these names consist of the same words. -/
theorem nodup_identifiers_iff [Grammar] {d : Declaration} {s : Schema} (h : derive d = .ok s) :
    s.fieldNames.Nodup ∧ ((s.constants.map (·.identifier)).Nodup ↔
      s.fieldNames.Pairwise fun x y => ¬ ConstantName.SameWords x y) := by
  obtain ⟨-, members, -, -, hnodup, -, rfl⟩ := derive_eq_ok_iff.mp h
  have hnames : (constantsOf members).map (·.identifier) =
      ((constantsOf members).map (·.fieldName)).map ConstantName.ofField := by
    rw [List.map_map]
    exact List.map_congr_left fun c hc => identifier_of_mem_constantsOf hc
  refine ⟨hnodup, ?_⟩
  rw [hnames, List.Nodup, List.pairwise_map]
  simp only [ne_eq, ConstantName.ofField_eq_iff]

theorem nodup_identifiers_iff_users :
    let rename (name : String) : Attribute :=
      .list ⟨false, ["record"]⟩ [.word "rename", .mark '=' false, .text name]
    let d : Declaration := ⟨"User", [], .named [⟨"user_id", "u64", []⟩, ⟨"userid", "u64", []⟩,
      ⟨"nick", "String", [rename "User.name"]⟩]⟩
    let s : Schema := ⟨"User", [⟨"USER_ID", "user_id", "user_id", "u64"⟩,
      ⟨"USERID", "userid", "userid", "u64"⟩, ⟨"USER_NAME", "User.name", "nick", "String"⟩],
      ["user_id", "userid", "User.name"]⟩
    derive d = .ok s ∧ s.fieldNames.Nodup ∧ (s.constants.map (·.identifier)).Nodup := by
  intro rename d s
  have h : derive d = .ok s := by
    unfold d s rename
    rfl
  have hwords : s.fieldNames.Pairwise fun x y => ¬ ConstantName.SameWords x y := by decide
  obtain ⟨hnodup, hiff⟩ := nodup_identifiers_iff h
  exact ⟨h, hnodup, hiff.mpr hwords⟩

/-- A derivation that succeeds with two constants of one name. -/
theorem identifiers_not_nodup :
    let rename (name : String) : Attribute :=
      .list ⟨false, ["record"]⟩ [.word "rename", .mark '=' false, .text name]
    let d : Declaration := ⟨"User", [], .named [⟨"created_at", "u64", []⟩,
      ⟨"modified", "u64", [rename "createdAt"]⟩]⟩
    let s : Schema := ⟨"User", [⟨"CREATED_AT", "created_at", "created_at", "u64"⟩,
      ⟨"CREATED_AT", "createdAt", "modified", "u64"⟩], ["created_at", "createdAt"]⟩
    derive d = .ok s ∧ ¬ (s.constants.map (·.identifier)).Nodup := by
  intro rename d s
  have h : derive d = .ok s := by
    unfold d s rename
    rfl
  exact ⟨h, by decide⟩

end RecordQuery.Schema
