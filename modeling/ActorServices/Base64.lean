import Mathlib.Algebra.Group.Nat.Defs
import Mathlib.Data.Fintype.Basic

set_option autoImplicit false

namespace ActorServices.Base64

/-- The symbols of the sextets, and one for the padding. -/
structure Alphabet (α : Type) where
  symbol : Fin 64 → α
  value : α → Option (Fin 64)
  pad : α
  value_symbol : ∀ sextet, value (symbol sextet) = some sextet
  value_pad : value pad = none

/-- The place of a word that has six bits for each place. -/
def sextet (word place : Nat) : Fin 64 := ⟨word / 64 ^ place % 64, Nat.mod_lt _ (by decide)⟩

/-- The place of a word that has eight bits for each place. -/
def octet (word place : Nat) : UInt8 := UInt8.ofNat (word / 256 ^ place)

/-- A group that is not full is filled up with zero bits, to the end of its last sextet. -/
def sextets : List UInt8 → List (Fin 64)
  | [] => []
  | [a] =>
      let word := a.toNat * 65536
      [sextet word 3, sextet word 2]
  | [a, b] =>
      let word := a.toNat * 65536 + b.toNat * 256
      [sextet word 3, sextet word 2, sextet word 1]
  | a :: b :: c :: bytes =>
      let word := a.toNat * 65536 + b.toNat * 256 + c.toNat
      sextet word 3 :: sextet word 2 :: sextet word 1 :: sextet word 0 :: sextets bytes

/-- The bytes of the sextets; what is left over of the last one is dropped. -/
def octets : List (Fin 64) → Option (List UInt8)
  | [] => some []
  | [_] => none
  | [s, t] => some [octet (s.val * 262144 + t.val * 4096) 2]
  | [s, t, u] =>
      let word := s.val * 262144 + t.val * 4096 + u.val * 64
      some [octet word 2, octet word 1]
  | s :: t :: u :: v :: rest =>
      let word := s.val * 262144 + t.val * 4096 + u.val * 64 + v.val
      (octets rest).map ([octet word 2, octet word 1, octet word 0] ++ ·)

section Groups

theorem sextet_val (word place : Nat) : (sextet word place).val = word / 64 ^ place % 64 := rfl

theorem octet_eq {word place : Nat} {byte : UInt8}
    (same : word / 256 ^ place % 256 = byte.toNat) : octet word place = byte := by
  apply UInt8.toNat.inj
  rw [octet, UInt8.toNat_ofNat', same]

theorem octets_one (a : UInt8) : octets (sextets [a]) = some [a] := by
  have small := a.toNat_lt
  simp only [sextets, octets, Option.some.injEq, List.cons.injEq, and_true]
  apply octet_eq
  simp only [sextet_val]
  omega

theorem octets_two (a b : UInt8) : octets (sextets [a, b]) = some [a, b] := by
  have small := a.toNat_lt
  have small' := b.toNat_lt
  simp only [sextets, octets, Option.some.injEq, List.cons.injEq, and_true]
  constructor
  · apply octet_eq
    simp only [sextet_val]
    omega
  · apply octet_eq
    simp only [sextet_val]
    omega

theorem octets_three (a b c : UInt8) (bytes : List UInt8) :
    octets (sextets (a :: b :: c :: bytes)) =
      (octets (sextets bytes)).map ([a, b, c] ++ ·) := by
  have small := a.toNat_lt
  have small' := b.toNat_lt
  have small'' := c.toNat_lt
  have whole (word : Nat) (bound : word < 16777216) :
      (sextet word 3).val * 262144 + (sextet word 2).val * 4096 + (sextet word 1).val * 64 +
        (sextet word 0).val = word := by
    simp only [sextet_val]
    omega
  have first : octet (a.toNat * 65536 + b.toNat * 256 + c.toNat) 2 = a :=
    octet_eq (by omega)
  have second : octet (a.toNat * 65536 + b.toNat * 256 + c.toNat) 1 = b :=
    octet_eq (by omega)
  have third : octet (a.toNat * 65536 + b.toNat * 256 + c.toNat) 0 = c :=
    octet_eq (by omega)
  simp only [sextets, octets]
  rw [whole _ (by omega), first, second, third]

/-- The sextets of bytes tell the bytes. -/
theorem octets_sextets (bytes : List UInt8) : octets (sextets bytes) = some bytes := by
  induction bytes using sextets.induct with
  | case1 => rfl
  | case2 a => exact octets_one a
  | case3 a b => exact octets_two a b
  | case4 a b c bytes ih =>
      rw [octets_three, ih]
      rfl

/-- No group of bytes is left with a single sextet. -/
theorem sextets_length (bytes : List UInt8) : (sextets bytes).length % 4 ≠ 1 := by
  induction bytes using sextets.induct with
  | case1 => decide
  | case2 a => simp [sextets]
  | case3 a b => simp [sextets]
  | case4 a b c bytes ih =>
      simp only [sextets, List.length_cons]
      omega

end Groups

section Text

variable {α : Type} (alphabet : Alphabet α)

/-- How many symbols are missing to the next multiple of four. -/
def missing (length : Nat) : Nat := (4 - length % 4) % 4

def encode (bytes : List UInt8) : List α :=
  (sextets bytes).map alphabet.symbol ++
    List.replicate (missing (sextets bytes).length) alphabet.pad

variable {alphabet}

theorem symbol_ne_pad (sextet : Fin 64) : alphabet.symbol sextet ≠ alphabet.pad := by
  intro same
  have value := alphabet.value_symbol sextet
  rw [same, alphabet.value_pad] at value
  cases value

theorem values_symbols (values : List (Fin 64)) :
    (values.map alphabet.symbol).mapM alphabet.value = some values := by
  induction values with
  | nil => rfl
  | cons sextet values ih =>
      simp only [List.map_cons, List.mapM_cons, alphabet.value_symbol, ih]
      rfl

theorem encode_length (bytes : List UInt8) : (encode alphabet bytes).length % 4 = 0 := by
  simp only [encode, missing, List.length_append, List.length_map, List.length_replicate]
  omega

variable (alphabet) [DecidableEq α]

def dropPad (text : List α) : List α :=
  if text.getLast? = some alphabet.pad then text.dropLast else text

/-- Up to two padding symbols go, where the length is a multiple of four. -/
def unpad (text : List α) : List α :=
  if text.length % 4 = 0 then dropPad alphabet (dropPad alphabet text) else text

/-- The forgiving decoding of a text, white space apart. -/
def decode (space : α → Bool) (text : List α) : Option (List UInt8) :=
  ((unpad alphabet (text.filter (!space ·))).mapM alphabet.value).bind octets

variable {alphabet}

theorem dropPad_concat (text : List α) : dropPad alphabet (text ++ [alphabet.pad]) = text := by
  simp only [dropPad, List.getLast?_concat, ↓reduceIte, List.dropLast_concat]

theorem dropPad_symbols (values : List (Fin 64)) :
    dropPad alphabet (values.map alphabet.symbol) = values.map alphabet.symbol := by
  rw [dropPad, if_neg]
  intro last
  rw [List.getLast?_map, Option.map_eq_some_iff] at last
  obtain ⟨sextet, _, same⟩ := last
  exact symbol_ne_pad sextet same

theorem unpad_encode (bytes : List UInt8) :
    unpad alphabet (encode alphabet bytes) = (sextets bytes).map alphabet.symbol := by
  have whole := sextets_length bytes
  have short : missing (sextets bytes).length = 0 ∨ missing (sextets bytes).length = 1 ∨
      missing (sextets bytes).length = 2 := by
    unfold missing
    omega
  rw [unpad, if_pos (encode_length bytes), encode]
  rcases short with none | one | two
  · rw [none, List.replicate_zero, List.append_nil, dropPad_symbols, dropPad_symbols]
  · rw [one, List.replicate_one, dropPad_concat, dropPad_symbols]
  · have pads : List.replicate 2 alphabet.pad = [alphabet.pad] ++ [alphabet.pad] := rfl
    rw [two, pads, ← List.append_assoc, dropPad_concat, dropPad_concat]

/-- What is encoded with an alphabet free of white space decodes to itself. -/
theorem decode_encode {space : α → Bool}
    (printed : ∀ sextet, space (alphabet.symbol sextet) = false)
    (padded : space alphabet.pad = false) (bytes : List UInt8) :
    decode alphabet space (encode alphabet bytes) = some bytes := by
  have kept : (encode alphabet bytes).filter (!space ·) = encode alphabet bytes := by
    apply List.filter_eq_self.mpr
    intro symbol among
    rw [encode, List.mem_append] at among
    cases among with
    | inl body =>
        obtain ⟨sextet, _, same⟩ := List.mem_map.mp body
        rw [← same, printed, Bool.not_false]
    | inr padding => rw [List.eq_of_mem_replicate padding, padded, Bool.not_false]
  rw [decode, kept, unpad_encode, values_symbols]
  exact octets_sextets bytes

end Text

end ActorServices.Base64
