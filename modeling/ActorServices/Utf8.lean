import Mathlib.Data.List.Basic

set_option autoImplicit false

namespace ActorServices.Utf8

def encode (text : List Char) : List UInt8 := text.flatMap String.utf8EncodeChar

/-- The text, if the bytes are valid. -/
def decode (bytes : List UInt8) : Option (List Char) :=
  (String.fromUTF8? bytes.toByteArray).map String.toList

@[simp] theorem encode_nil : encode [] = [] := rfl

theorem encode_cons (c : Char) (text : List Char) :
    encode (c :: text) = String.utf8EncodeChar c ++ encode text :=
  List.flatMap_cons

@[simp] theorem encode_append (front back : List Char) :
    encode (front ++ back) = encode front ++ encode back :=
  List.flatMap_append

theorem encode_nonempty {text : List Char} (nonempty : text ≠ []) : encode text ≠ [] := by
  cases text with
  | nil => exact absurd rfl nonempty
  | cons c rest =>
      rw [encode_cons]
      intro empty
      exact String.utf8EncodeChar_ne_nil (List.append_eq_nil_iff.mp empty).1

section Bytes

/-- `ByteArray.toList` from an index on. -/
theorem toList_loop (bytes : ByteArray) (index : Nat) (done : List UInt8) :
    ByteArray.toList.loop bytes index done = done.reverse ++ bytes.data.toList.drop index := by
  fun_induction ByteArray.toList.loop bytes index done with
  | case1 index done inside ih =>
      have bound : index < bytes.data.toList.length := by simpa using inside
      have read : bytes.get! index = bytes.data[index]! := by
        cases bytes
        rfl
      rw [ih, List.drop_eq_getElem_cons bound, read, getElem!_pos bytes.data index inside]
      simp only [List.reverse_cons, List.append_assoc, List.singleton_append,
        Array.getElem_toList]
  | case2 index done outside =>
      have past : bytes.data.toList.length ≤ index := by simpa using Nat.le_of_not_lt outside
      rw [List.drop_eq_nil_of_le past, List.append_nil]

theorem toList_toByteArray (bytes : List UInt8) : bytes.toByteArray.toList = bytes := by
  rw [ByteArray.toList, toList_loop, List.toList_data_toByteArray]
  rfl

/-- The bytes of a string are the encodings of its characters. -/
theorem toUTF8_toList (text : String) : text.toUTF8.toList = encode text.toList := by
  have same : text.toUTF8 = (encode text.toList).toByteArray := String.utf8Encode_toList.symm
  rw [same, toList_toByteArray]

theorem toUTF8_data (text : String) : text.toUTF8.data.toList = encode text.toList := by
  rw [← toUTF8_toList, ByteArray.toList, toList_loop]
  rfl

theorem utf8ByteSize_eq (text : String) : text.utf8ByteSize = (encode text.toList).length := by
  rw [← toUTF8_data, Array.length_toList]
  rfl

end Bytes

theorem encode_injective : Function.Injective encode := by
  intro first second same
  have arrays : (String.ofList first).toByteArray = (String.ofList second).toByteArray := by
    rw [String.toByteArray_ofList, String.toByteArray_ofList]
    exact congrArg List.toByteArray same
  have texts := congrArg String.toList (String.toByteArray_inj.mp arrays)
  rwa [String.toList_ofList, String.toList_ofList] at texts

/-- Bytes are read as a text exactly when they are its encoding. -/
theorem decode_eq_some {bytes : List UInt8} {text : List Char} :
    decode bytes = some text ↔ encode text = bytes := by
  constructor
  · intro decoded
    obtain ⟨whole, read, characters⟩ := Option.map_eq_some_iff.mp decoded
    unfold String.fromUTF8? at read
    split at read
    · cases read
      have again := toUTF8_toList (String.fromUTF8 bytes.toByteArray ‹_›)
      rw [characters] at again
      rw [← again]
      exact toList_toByteArray bytes
    · cases read
  · intro encoded
    have valid : bytes.toByteArray.IsValidUTF8 := .intro text (by rw [← encoded]; rfl)
    have read : String.fromUTF8? bytes.toByteArray =
        some (String.fromUTF8 bytes.toByteArray valid) := dif_pos valid
    have again := toUTF8_toList (String.fromUTF8 bytes.toByteArray valid)
    have characters : (String.fromUTF8 bytes.toByteArray valid).toList = text := by
      apply encode_injective
      rw [← again, encoded]
      exact toList_toByteArray bytes
    rw [decode, read, Option.map_some, characters]

@[simp] theorem decode_encode (text : List Char) : decode (encode text) = some text :=
  decode_eq_some.mpr rfl

section Ascii

theorem encodeChar_ascii {c : Char} (small : c.toNat < 128) :
    String.utf8EncodeChar c = [UInt8.ofNat c.toNat] := by
  have low : c.val.toNat ≤ 0x7f := by
    have same : c.val.toNat = c.toNat := rfl
    omega
  exact if_pos low

/-- A byte below 128 is an encoding of its own. -/
theorem encodeChar_byte {c : Char} {byte : UInt8} (small : byte.toNat < 128)
    (among : byte ∈ String.utf8EncodeChar c) :
    String.utf8EncodeChar c = [byte] ∧ c.toNat = byte.toNat := by
  have bound : c.toNat < 0x110000 := by
    cases c.valid with
    | inl low => exact Nat.lt_trans low (by decide)
    | inr high => exact high.2
  by_cases ascii : c.toNat < 128
  · rw [encodeChar_ascii ascii, List.mem_singleton] at among
    rw [encodeChar_ascii ascii, among, UInt8.toNat_ofNat']
    exact ⟨rfl, by omega⟩
  · exfalso
    have high : ∀ value : Nat, value < 256 → 128 ≤ value → byte ≠ UInt8.ofNat value := by
      intro value fits large same
      rw [same, UInt8.toNat_ofNat'] at small
      omega
    have code : c.val.toNat = c.toNat := rfl
    simp only [String.utf8EncodeChar, code] at among
    rw [if_neg (by omega)] at among
    split at among
    · simp only [List.mem_cons, List.not_mem_nil, or_false] at among
      cases among with
      | inl first => exact high _ (by omega) (by omega) first
      | inr second => exact high _ (by omega) (by omega) second
    · split at among
      · simp only [List.mem_cons, List.not_mem_nil, or_false] at among
        obtain first | second | third := among
        · exact high _ (by omega) (by omega) first
        · exact high _ (by omega) (by omega) second
        · exact high _ (by omega) (by omega) third
      · simp only [List.mem_cons, List.not_mem_nil, or_false] at among
        obtain first | second | third | fourth := among
        · exact high _ (by omega) (by omega) first
        · exact high _ (by omega) (by omega) second
        · exact high _ (by omega) (by omega) third
        · exact high _ (by omega) (by omega) fourth

/-- Encoded text splits at an ASCII byte where the text has that character. -/
theorem encode_split {text : List Char} {front back : List UInt8} {byte : UInt8}
    (small : byte.toNat < 128) (split : encode text = front ++ byte :: back) :
    ∃ before c after, text = before ++ c :: after ∧ c.toNat = byte.toNat ∧
      encode before = front ∧ encode after = back := by
  induction text generalizing front with
  | nil => exact absurd split.symm (List.append_ne_nil_of_right_ne_nil _ (List.cons_ne_nil _ _))
  | cons c rest ih =>
      rw [encode_cons] at split
      cases List.append_eq_append_iff.mp split with
      | inl longer =>
          obtain ⟨middle, before, after⟩ := longer
          obtain ⟨early, found, late, same, code, encoded, tail⟩ := ih after
          refine ⟨c :: early, found, late, ?_, code, ?_, tail⟩
          · rw [same, List.cons_append]
          · rw [encode_cons, encoded, before]
      | inr inner =>
          obtain ⟨middle, within, after⟩ := inner
          cases middle with
          | nil =>
              have next : encode rest = [] ++ byte :: back := after.symm
              obtain ⟨early, found, late, same, code, encoded, tail⟩ := ih next
              refine ⟨c :: early, found, late, ?_, code, ?_, tail⟩
              · rw [same, List.cons_append]
              · rw [encode_cons, encoded, List.append_nil, within, List.append_nil]
          | cons other middle =>
              rw [List.cons_append] at after
              injection after with same after
              subst same
              have among : byte ∈ String.utf8EncodeChar c := by
                rw [within]
                exact List.mem_append_right _ List.mem_cons_self
              obtain ⟨single, code⟩ := encodeChar_byte small among
              rw [single] at within
              cases front with
              | nil =>
                  injection within with _ empty
                  subst empty
                  exact ⟨[], c, rest, rfl, code, rfl, after.symm⟩
              | cons other front =>
                  injection within with _ empty
                  have tail := (List.append_eq_nil_iff.mp empty.symm).2
                  exact absurd tail (List.cons_ne_nil _ _)

end Ascii

end ActorServices.Utf8
