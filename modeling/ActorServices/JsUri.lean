import ActorServices.JsText
import ActorServices.Routing

set_option autoImplicit false

namespace ActorServices.Js

open Routing

/-- The code units of a character. -/
def utf16 (c : Char) : JsString :=
  if c.toNat < 0x10000 then [UInt16.ofNat c.toNat]
  else [UInt16.ofNat (0xD800 + (c.toNat - 0x10000) / 0x400),
    UInt16.ofNat (0xDC00 + (c.toNat - 0x10000) % 0x400)]

/-- The text as a JavaScript string. -/
def ofString (text : String) : JsString := text.toList.flatMap utf16

def isHigh (u : UInt16) : Bool := 0xD800 ≤ u.toNat && u.toNat < 0xDC00

def isLow (u : UInt16) : Bool := 0xDC00 ≤ u.toNat && u.toNat < 0xE000

/-- The characters of a string, if no surrogate in it is alone. -/
def characters : JsString → Option (List Char)
  | [] => some []
  | u :: rest =>
      if isHigh u then
        match rest with
        | low :: rest =>
            if isLow low then
              (characters rest).map fun text =>
                Char.ofNat (0x10000 + (u.toNat - 0xD800) * 0x400 + (low.toNat - 0xDC00)) :: text
            else none
        | [] => none
      else if isLow u then none
      else (characters rest).map fun text => Char.ofNat u.toNat :: text

theorem characters_utf16 (c : Char) (rest : JsString) :
    characters (utf16 c ++ rest) = (characters rest).map fun text => c :: text := by
  have bound : c.toNat < 0x110000 := by
    cases c.valid with
    | inl low => exact Nat.lt_trans low (by decide)
    | inr high => exact high.2
  unfold utf16
  split
  · rename_i basic
    have value : (UInt16.ofNat c.toNat).toNat = c.toNat := UInt16.toNat_ofNat_of_lt' basic
    have whole : ¬ (0xD800 ≤ c.toNat ∧ c.toNat < 0xE000) := by
      have code : c.val.toNat = c.toNat := rfl
      rcases c.valid with low | high
      · rw [code] at low
        omega
      · have above := high.1
        rw [code] at above
        omega
    have high : isHigh (UInt16.ofNat c.toNat) = false := by
      simp only [isHigh, value, Bool.and_eq_false_iff, decide_eq_false_iff_not]
      omega
    have low : isLow (UInt16.ofNat c.toNat) = false := by
      simp only [isLow, value, Bool.and_eq_false_iff, decide_eq_false_iff_not]
      omega
    rw [List.cons_append, List.nil_append, characters.eq_def]
    simp only [high, low, value, Bool.false_eq_true, ↓reduceIte, Char.ofNat_toNat]
  · rename_i astral
    have first : (UInt16.ofNat (0xD800 + (c.toNat - 0x10000) / 0x400)).toNat =
        0xD800 + (c.toNat - 0x10000) / 0x400 := by
      rw [UInt16.toNat_ofNat']
      omega
    have second : (UInt16.ofNat (0xDC00 + (c.toNat - 0x10000) % 0x400)).toNat =
        0xDC00 + (c.toNat - 0x10000) % 0x400 := by
      rw [UInt16.toNat_ofNat']
      omega
    have high : isHigh (UInt16.ofNat (0xD800 + (c.toNat - 0x10000) / 0x400)) = true := by
      simp only [isHigh, first, Bool.and_eq_true, decide_eq_true_eq]
      omega
    have low : isLow (UInt16.ofNat (0xDC00 + (c.toNat - 0x10000) % 0x400)) = true := by
      simp only [isLow, second, Bool.and_eq_true, decide_eq_true_eq]
      omega
    have code : 0x10000 + (0xD800 + (c.toNat - 0x10000) / 0x400 - 0xD800) * 0x400 +
        (0xDC00 + (c.toNat - 0x10000) % 0x400 - 0xDC00) = c.toNat := by omega
    rw [List.cons_append, List.cons_append, List.nil_append, characters.eq_def]
    simp only [high, low, ↓reduceIte, first, second, code, Char.ofNat_toNat]

/-- The characters of a text are read back. -/
@[simp] theorem characters_ofString (text : String) :
    characters (ofString text) = some text.toList := by
  have all : ∀ cs : List Char, characters (cs.flatMap utf16) = some cs := by
    intro cs
    induction cs with
    | nil => rfl
    | cons c cs ih => rw [List.flatMap_cons, characters_utf16, ih, Option.map_some]
  exact all text.toList

theorem characters_eq_nil {text : JsString} (read : characters text = some []) : text = [] := by
  fun_cases characters text with
  | case1 => rfl
  | case2 u high low rest pair =>
      rw [characters.eq_def] at read
      simp [high, pair] at read
  | case3 u high low rest unpaired =>
      rw [characters.eq_def] at read
      simp [high, unpaired] at read
  | case4 u high =>
      rw [characters.eq_def] at read
      simp [high] at read
  | case5 u rest other low =>
      rw [characters.eq_def] at read
      simp [other, low] at read
  | case6 u rest other unlow =>
      rw [characters.eq_def] at read
      simp [other, unlow] at read

theorem toNat_ofNat {n : Nat} (valid : n.isValidChar) : (Char.ofNat n).toNat = n := by
  rw [Char.ofNat, dif_pos valid]
  rfl

/-- A character of ASCII is a code unit of its own. -/
theorem unit_of_characters {text : JsString} {cs : List Char} (read : characters text = some cs)
    {c : Char} (among : c ∈ cs) (small : c.toNat < 128) : unit c ∈ text := by
  fun_induction characters text generalizing cs with
  | case1 =>
      cases read
      cases among
  | case2 u high low rest pair ih =>
      obtain ⟨more, others, rfl⟩ := Option.map_eq_some_iff.mp read
      rcases List.mem_cons.mp among with first | later
      · simp only [isHigh, isLow, Bool.and_eq_true, decide_eq_true_eq] at high pair
        have valid : (0x10000 + (u.toNat - 0xD800) * 0x400 + (low.toNat - 0xDC00)).isValidChar :=
          .inr ⟨by omega, by omega⟩
        rw [first, toNat_ofNat valid] at small
        omega
      · exact List.mem_cons_of_mem _ (List.mem_cons_of_mem _ (ih others later))
  | case3 => cases read
  | case4 => cases read
  | case5 => cases read
  | case6 u rest unhigh unlow ih =>
      obtain ⟨more, others, rfl⟩ := Option.map_eq_some_iff.mp read
      rcases List.mem_cons.mp among with first | later
      · simp only [isHigh, isLow, Bool.and_eq_true, decide_eq_true_eq] at unhigh unlow
        have bound := u.toNat_lt
        have valid : u.toNat.isValidChar := by
          by_cases low : u.toNat < 0xD800
          · exact .inl low
          · exact .inr ⟨by omega, by omega⟩
        have same : unit c = u := by
          rw [first, unit, toNat_ofNat valid, UInt16.ofNat_toNat]
        exact List.mem_cons.mpr (.inl same)
      · exact List.mem_cons_of_mem _ (ih others later)

/-- What `encodeURIComponent` leaves as it is. -/
def isUnreserved (c : Char) : Bool :=
  c.isAlphanum || c == '-' || c == '_' || c == '.' || c == '!' || c == '~' || c == '*' ||
    c == Char.ofNat 39 || c == '(' || c == ')'

def upperHexDigit (n : Nat) : Char := Char.ofNat (if n < 10 then 48 + n else 55 + n)

def percent (byte : UInt8) : List Char :=
  ['%', upperHexDigit (byte.toNat / 16), upperHexDigit (byte.toNat % 16)]

def encodeCharacter (c : Char) : List Char :=
  if isUnreserved c then [c] else (String.utf8EncodeChar c).flatMap percent

/-- `encodeURIComponent`, which throws at a surrogate that is alone. -/
def encodeURIComponent (text : JsString) : Option String :=
  (characters text).map fun cs => String.ofList (cs.flatMap encodeCharacter)

section Decode

theorem alphanum_small {c : Char} (letter : c.isAlphanum = true) : c.toNat < 128 := by
  have code : c.val.toNat = c.toNat := rfl
  delta Char.isAlphanum Char.isAlpha Char.isUpper Char.isLower Char.isDigit at letter
  simp only [Bool.or_eq_true, Bool.and_eq_true, decide_eq_true_eq, UInt32.le_iff_toNat_le,
    ge_iff_le, code] at letter
  rcases letter with (upper | lower) | digit
  · exact Nat.lt_of_le_of_lt upper.2 (by decide)
  · exact Nat.lt_of_le_of_lt lower.2 (by decide)
  · exact Nat.lt_of_le_of_lt digit.2 (by decide)

theorem unreserved_small {c : Char} (plain : isUnreserved c = true) :
    c.toNat < 128 ∧ c.toNat ≠ 37 ∧ c ≠ '/' := by
  have table : ∀ n, n < 128 → isUnreserved (Char.ofNat n) = true → n ≠ 37 ∧ n ≠ 47 := by
    decide
  have small : c.toNat < 128 := by
    simp only [isUnreserved, Bool.or_eq_true, beq_iff_eq] at plain
    rcases plain with ((((((((letter | same) | same) | same) | same) | same) | same) | same) |
      same) | same
    · exact alphanum_small letter
    all_goals
      rw [same]
      decide
  have entry := table c.toNat small
  rw [Char.ofNat_toNat] at entry
  obtain ⟨percent, slash⟩ := entry plain
  refine ⟨small, percent, ?_⟩
  rintro rfl
  exact slash rfl

theorem percentDecode_other {byte : UInt8} (other : byte ≠ 37) (rest : List UInt8) :
    percentDecode (byte :: rest) = byte :: percentDecode rest := by
  match rest with
  | [] => rfl
  | [_] => rfl
  | _ :: _ :: _ => rw [percentDecode, if_neg other]

theorem percentDecode_percent (byte : UInt8) (rest : List UInt8) :
    percentDecode (Utf8.encode (percent byte) ++ rest) = byte :: percentDecode rest := by
  have digits : ∀ n, n < 16 → (upperHexDigit n).toNat < 128 ∧
      hexDigit (UInt8.ofNat (upperHexDigit n).toNat) = some (UInt8.ofNat n) := by
    decide
  have bound := byte.toNat_lt
  obtain ⟨highAscii, high⟩ := digits (byte.toNat / 16) (by omega)
  obtain ⟨lowAscii, low⟩ := digits (byte.toNat % 16) (Nat.mod_lt _ (by decide))
  have value : 16 * UInt8.ofNat (byte.toNat / 16) + UInt8.ofNat (byte.toNat % 16) = byte := by
    apply UInt8.toNat_inj.mp
    simp only [UInt8.toNat_add, UInt8.toNat_mul, UInt8.toNat_ofNat']
    have sixteen : (16 : UInt8).toNat = 16 := rfl
    rw [sixteen]
    omega
  have bytes : Utf8.encode (percent byte) = [37,
      UInt8.ofNat (upperHexDigit (byte.toNat / 16)).toNat,
      UInt8.ofNat (upperHexDigit (byte.toNat % 16)).toNat] := by
    simp only [percent, Utf8.encode_cons, Utf8.encode_nil, Utf8.encodeChar_ascii highAscii,
      Utf8.encodeChar_ascii lowAscii]
    rfl
  rw [bytes]
  simp only [List.cons_append, List.nil_append, percentDecode, ↓reduceIte, high, low, value]

theorem percentDecode_character (c : Char) (rest : List UInt8) :
    percentDecode (Utf8.encode (encodeCharacter c) ++ rest) =
      String.utf8EncodeChar c ++ percentDecode rest := by
  unfold encodeCharacter
  split
  · rename_i plain
    obtain ⟨small, percent, -⟩ := unreserved_small plain
    have other : UInt8.ofNat c.toNat ≠ 37 := by
      intro same
      have codes := congrArg UInt8.toNat same
      rw [UInt8.toNat_ofNat_of_lt' (Nat.lt_trans small (by decide))] at codes
      exact percent codes
    rw [Utf8.encode_cons, Utf8.encode_nil, List.append_nil, Utf8.encodeChar_ascii small,
      List.singleton_append, percentDecode_other other]
    rfl
  · generalize String.utf8EncodeChar c = bytes
    induction bytes with
    | nil => rfl
    | cons byte bytes ih =>
        rw [List.flatMap_cons, Utf8.encode_append, List.append_assoc, percentDecode_percent, ih,
          List.cons_append]

theorem percentDecode_encoded (cs : List Char) :
    percentDecode (Utf8.encode (cs.flatMap encodeCharacter)) = Utf8.encode cs := by
  induction cs with
  | nil => rfl
  | cons c cs ih =>
      rw [List.flatMap_cons, Utf8.encode_append, percentDecode_character, ih, Utf8.encode_cons]

/-- The parameter of a path is the text that was encoded into it. -/
theorem paramText_encodeURIComponent {text : JsString} {part : String}
    (encoded : encodeURIComponent text = some part) :
    paramText part = (characters text).map String.ofList := by
  obtain ⟨cs, read, same⟩ := Option.map_eq_some_iff.mp encoded
  rw [read, ← same, paramText, String.toList_ofList, percentDecode_encoded, Utf8.decode_encode,
    Option.map_some]

/-- What it consists of. -/
theorem encodeURIComponent_plain {text : JsString} {part : String}
    (encoded : encodeURIComponent text = some part) :
    ∀ c ∈ part.toList, isUnreserved c = true ∨ c = '%' := by
  have digits : ∀ n, n < 16 → isUnreserved (upperHexDigit n) = true := by decide
  obtain ⟨cs, -, same⟩ := Option.map_eq_some_iff.mp encoded
  rw [← same, String.toList_ofList]
  intro c among
  obtain ⟨source, -, inside⟩ := List.mem_flatMap.mp among
  unfold encodeCharacter at inside
  split at inside
  · rename_i plain
    exact .inl (List.mem_singleton.mp inside ▸ plain)
  · obtain ⟨byte, -, inside⟩ := List.mem_flatMap.mp inside
    have bound := byte.toNat_lt
    simp only [percent, List.mem_cons, List.not_mem_nil, or_false] at inside
    rcases inside with sign | high | low
    · exact .inr sign
    · exact .inl (high ▸ digits (byte.toNat / 16) (by omega))
    · exact .inl (low ▸ digits (byte.toNat % 16) (Nat.mod_lt _ (by decide)))

/-- It is one segment of the path. -/
theorem encodeURIComponent_segment {text : JsString} {part : String}
    (encoded : encodeURIComponent text = some part) : '/' ∉ part.toList := by
  intro among
  rcases encodeURIComponent_plain encoded '/' among with plain | sign
  · exact (unreserved_small plain).2.2 rfl
  · exact absurd sign (by decide)

theorem encodeURIComponent_nonempty {text : JsString} {part : String} (some_text : text ≠ [])
    (encoded : encodeURIComponent text = some part) : part ≠ "" := by
  have character : ∀ c, encodeCharacter c ≠ [] := by
    intro c
    unfold encodeCharacter
    split
    · exact List.cons_ne_nil _ _
    · intro empty
      cases bytes : String.utf8EncodeChar c with
      | nil => exact String.utf8EncodeChar_ne_nil bytes
      | cons byte rest =>
          rw [bytes, List.flatMap_cons] at empty
          cases empty
  obtain ⟨cs, read, same⟩ := Option.map_eq_some_iff.mp encoded
  cases cs with
  | nil => exact absurd (characters_eq_nil read) some_text
  | cons c cs =>
      rintro rfl
      have empty := congrArg String.toList same
      rw [String.toList_ofList, List.flatMap_cons] at empty
      exact character c (List.append_eq_nil_iff.mp empty).1

end Decode

end ActorServices.Js
