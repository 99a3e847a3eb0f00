import RecordQuery.Proofs.Text.Occurrence

/-!
# Searching in bytes

In UTF-8 no character begins inside another and none is the beginning of another. So a text that is
not empty can occur in the bytes of another only where it occurs in its characters, and strings may
be searched byte by byte.
-/

namespace RecordQuery.Text

def bytes (s : String) : List UInt8 := s.toByteArray.data.toList

def encode (s : List Char) : List UInt8 := s.flatMap String.utf8EncodeChar

theorem bytes_eq_encode (s : String) : bytes s = encode s.toList := by
  rw [bytes, ← String.utf8Encode_toList, List.utf8Encode, List.toList_data_toByteArray, encode]

@[simp]
theorem encode_nil : encode [] = [] := rfl

@[simp]
theorem encode_cons (c : Char) (s : List Char) :
    encode (c :: s) = String.utf8EncodeChar c ++ encode s := rfl

@[simp]
theorem encode_append (s t : List Char) : encode (s ++ t) = encode s ++ encode t := by
  simp [encode]

theorem encode_eq_nil_iff {s : List Char} : encode s = [] ↔ s = [] := by
  cases s <;> simp [String.utf8EncodeChar_ne_nil]

theorem encodeChar_cancel {c d : Char} {x y : List UInt8}
    (h : String.utf8EncodeChar c ++ x = String.utf8EncodeChar d ++ y) : c = d ∧ x = y := by
  have hdecode (c : Char) (x : List UInt8) :
      (String.utf8EncodeChar c ++ x).toByteArray.utf8DecodeChar? 0 = some c := by
    rw [List.toByteArray_append, ByteArray.utf8DecodeChar?_utf8EncodeChar_append]
  have hc := hdecode c x
  rw [h, hdecode d y] at hc
  obtain rfl := Option.some.inj hc
  exact ⟨rfl, List.append_cancel_left h⟩

theorem exists_of_encode_eq_append {s p : List Char} {x : List UInt8}
    (h : encode s = encode p ++ x) : ∃ t, s = p ++ t ∧ encode t = x := by
  induction p generalizing s with
  | nil => exact ⟨s, rfl, h⟩
  | cons d p ih =>
    cases s with
    | nil => simp [String.utf8EncodeChar_ne_nil] at h
    | cons c rest =>
      rw [encode_cons, encode_cons, List.append_assoc] at h
      obtain ⟨rfl, hrest⟩ := encodeChar_cancel h
      obtain ⟨t, rfl, ht⟩ := ih hrest
      exact ⟨t, rfl, ht⟩

theorem isFirstByte_iff {c : Char} {x y : List UInt8} {b : UInt8}
    (h : String.utf8EncodeChar c = x ++ b :: y) : b.IsUTF8FirstByte ↔ x = [] := by
  have hlength : x.length < (String.utf8EncodeChar c).length := by
    rw [h, List.length_append, List.length_cons]
    omega
  have hb : (String.utf8EncodeChar c)[x.length] = b := by simp [h]
  rw [← hb, UInt8.isUTF8FirstByte_getElem_utf8EncodeChar, List.length_eq_zero_iff]

theorem exists_encode_eq_cons {p : List Char} (h : p ≠ []) :
    ∃ b x, encode p = b :: x ∧ b.IsUTF8FirstByte := by
  obtain ⟨c, rest, rfl⟩ := List.exists_cons_of_ne_nil h
  obtain ⟨b, x, hc⟩ := List.exists_cons_of_ne_nil (String.utf8EncodeChar_ne_nil (c := c))
  exact ⟨b, x ++ encode rest, by rw [encode_cons, hc, List.cons_append],
    (isFirstByte_iff (x := []) hc).mpr rfl⟩

/-- Where the bytes of a text that is not empty stand among the bytes of another, that text stands
among the characters. -/
theorem exists_of_encode_eq {s p : List Char} {x y : List UInt8} (hp : p ≠ [])
    (h : encode s = x ++ encode p ++ y) :
    ∃ before after, s = before ++ p ++ after ∧ encode before = x ∧ encode after = y := by
  induction s generalizing x with
  | nil =>
    obtain ⟨b, z, hb, -⟩ := exists_encode_eq_cons hp
    simp [hb] at h
  | cons c rest ih =>
    by_cases hx : x = []
    · rw [hx, List.nil_append] at h
      obtain ⟨after, hs, hafter⟩ := exists_of_encode_eq_append h
      exact ⟨[], after, hs, hx.symm, hafter⟩
    · rw [encode_cons, List.append_assoc, List.append_eq_append_iff] at h
      obtain ⟨x', rfl, hrest⟩ | ⟨z, hc, hz⟩ := h
      · rw [← List.append_assoc] at hrest
        obtain ⟨before, after, rfl, rfl, hafter⟩ := ih hrest
        exact ⟨c :: before, after, rfl, rfl, hafter⟩
      · obtain ⟨b, w, hb, hfirst⟩ := exists_encode_eq_cons hp
        cases z with
        | nil =>
          rw [List.append_nil] at hc
          obtain ⟨before, after, rfl, hbefore, hafter⟩ := ih (x := []) (by simpa using hz.symm)
          exact ⟨c :: before, after, rfl, by rw [encode_cons, hbefore, hc, List.append_nil], hafter⟩
        | cons d z =>
          -- the text would begin inside the character `c`
          rw [hb, List.cons_append, List.cons_append] at hz
          obtain rfl := (List.cons.inj hz).1
          exact absurd ((isFirstByte_iff hc).mp hfirst) hx

theorem encode_prefix_iff {p s : List Char} : encode p <+: encode s ↔ p <+: s := by
  constructor
  · intro h
    obtain ⟨x, hx⟩ := h
    obtain ⟨after, rfl, -⟩ := exists_of_encode_eq_append hx.symm
    exact List.prefix_append p after
  · intro h
    obtain ⟨after, rfl⟩ := h
    exact ⟨encode after, (encode_append p after).symm⟩

theorem encode_suffix_iff {p s : List Char} : encode p <:+ encode s ↔ p <:+ s := by
  constructor
  · intro h
    by_cases hp : p = []
    · rw [hp]
      exact List.nil_suffix
    · obtain ⟨x, hx⟩ := h
      obtain ⟨before, after, rfl, -, hafter⟩ :=
        exists_of_encode_eq (y := []) hp (by simpa using hx.symm)
      rw [encode_eq_nil_iff.mp hafter, List.append_nil]
      exact List.suffix_append before p
  · intro h
    obtain ⟨before, rfl⟩ := h
    exact ⟨encode before, (encode_append before p).symm⟩

theorem encode_infix_iff {p s : List Char} : encode p <:+: encode s ↔ p <:+: s := by
  constructor
  · intro h
    by_cases hp : p = []
    · rw [hp]
      exact List.nil_infix
    · obtain ⟨x, y, hxy⟩ := h
      obtain ⟨before, after, rfl, -, -⟩ := exists_of_encode_eq hp hxy.symm
      exact ⟨before, after, rfl⟩
  · intro h
    obtain ⟨before, after, rfl⟩ := h
    exact ⟨encode before, encode after, by simp⟩

def matchBytes (op : Operator) (subject operand : List UInt8) : Bool :=
  match op with
  | .beginsWith => operand.isPrefixOf subject
  | .endsWith => operand.isSuffixOf subject
  | .contains => occursIn operand subject
  | _ => false

theorem matchBytes_bytes (op : Operator) (subject operand : String) :
    matchBytes op (bytes subject) (bytes operand) =
      Value.matchChars op subject.toList operand.toList := by
  rw [bytes_eq_encode, bytes_eq_encode, Bool.eq_iff_iff]
  cases op with
  | beginsWith =>
    simp only [matchBytes, Value.matchChars, List.isPrefixOf_iff_prefix, encode_prefix_iff]
  | endsWith =>
    simp only [matchBytes, Value.matchChars, List.isSuffixOf_iff_suffix, encode_suffix_iff]
  | contains => simp only [matchBytes, Value.matchChars, occursIn_iff, encode_infix_iff]
  | _ => rfl

end RecordQuery.Text
