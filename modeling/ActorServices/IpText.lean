import Mathlib.Algebra.Group.Nat.Defs
import Mathlib.Data.List.Basic
import Mathlib.Data.Fintype.Basic

set_option autoImplicit false

/- The text of IP addresses, as Rust's `core::net` reads it: dotted octets, or groups of
hexadecimal digits with at most one gap and perhaps dotted octets at the end. -/
namespace ActorServices.IpText

/-- A reader takes what it reads off the front of a text, or fails and takes nothing. -/
abbrev Reader (α : Type) : Type := StateT (List Char) Option α

/-- `char::to_digit`. -/
def toDigit (radix : Nat) (c : Char) : Option Nat :=
  let value :=
    if 48 ≤ c.toNat ∧ c.toNat ≤ 57 then some (c.toNat - 48)
    else if 97 ≤ c.toNat ∧ c.toNat ≤ 122 then some (c.toNat - 87)
    else if 65 ≤ c.toNat ∧ c.toNat ≤ 90 then some (c.toNat - 55)
    else none
  value.filter (· < radix)

def isDigit (radix : Nat) (c : Char) : Bool := (toDigit radix c).isSome

def digitsValue (radix : Nat) (digits : List Char) : Nat :=
  (digits.filterMap (toDigit radix)).foldl (fun number digit => radix * number + digit) 0

def readChar (expected : Char) : Reader Unit
  | c :: rest => if c = expected then some ((), rest) else none
  | [] => none

/-- All the digits that stand there, if they are not too many and their number is below the
limit. Where no zero may stand in front, `0` itself may. -/
def readNumber (radix maxDigits limit : Nat) (zeroPrefix : Bool) : Reader Nat := fun input =>
  let digits := input.takeWhile (isDigit radix)
  if digits = [] ∨ maxDigits < digits.length then none
  else if !zeroPrefix ∧ digits.head? = some '0' ∧ 1 < digits.length then none
  else if limit ≤ digitsValue radix digits then none
  else some (digitsValue radix digits, input.dropWhile (isDigit radix))

def readOctet : Reader Nat := readNumber 10 3 256 false

def readGroup : Reader Nat := readNumber 16 4 65536 true

def readIpv4 : Reader (BitVec 32) := do
  let a ← readOctet
  readChar '.'
  let b ← readOctet
  readChar '.'
  let c ← readOctet
  readChar '.'
  let d ← readOctet
  return BitVec.ofNat 32 (((a * 256 + b) * 256 + c) * 256 + d)

/-- A colon stands in front of every group but the first. -/
def separated {α : Type} (first : Bool) (reader : Reader α) : Reader α :=
  if first then reader else readChar ':' >>= fun _ => reader

/-- At most so many groups, and whether the last two were dotted octets. -/
def readGroups : Nat → Bool → Reader (List Nat × Bool)
  | 0, _ => return ([], false)
  | left + 1, first =>
      (do
        guard (0 < left)
        let address ← separated first readIpv4
        return ([address.toNat / 65536, address.toNat % 65536], true)) <|>
      (do
        let group ← separated first readGroup
        let (groups, dotted) ← readGroups left false
        return (group :: groups, dotted)) <|>
      return ([], false)

def groupsValue (groups : List Nat) : BitVec 128 :=
  BitVec.ofNat 128 (groups.foldl (fun value group => 65536 * value + group) 0)

/-- Eight groups, or fewer around `::`, which stands for at least one group of zeros. -/
def readIpv6 : Reader (BitVec 128) := do
  let (head, dotted) ← readGroups 8 true
  if head.length = 8 then return groupsValue head
  guard !dotted
  readChar ':'
  readChar ':'
  let (tail, _) ← readGroups (7 - head.length) true
  return groupsValue (head ++ List.replicate (8 - head.length - tail.length) 0 ++ tail)

def readIp : Reader (BitVec 32 ⊕ BitVec 128) := (.inl <$> readIpv4) <|> (.inr <$> readIpv6)

/-- The address, if the whole text is one. -/
def parse (text : List Char) : Option (BitVec 32 ⊕ BitVec 128) :=
  match readIp text with
  | some (address, []) => some address
  | _ => none

example : parse "::ffff:1.2.3.4".toList = some (.inr 0xFFFF01020304#128) := by decide +kernel
example : parse "01.2.3.4".toList = none := by decide +kernel

section Reader

variable {α β : Type}

theorem bind_some {first : Reader α} {next : α → Reader β} {input rest : List Char} {value : α}
    (read : first input = some (value, rest)) : (first >>= next) input = next value rest := by
  show (first input).bind _ = _
  rw [read]
  rfl

theorem map_some {reader : Reader α} (convert : α → β) {input rest : List Char} {value : α}
    (read : reader input = some (value, rest)) :
    (convert <$> reader) input = some (convert value, rest) := by
  show (reader >>= fun value => pure (convert value)) input = _
  rw [bind_some read]
  rfl

theorem orElse_some {first second : Reader α} {input : List Char} {found : α × List Char}
    (read : first input = some found) : (first <|> second) input = some found := by
  show (first input).orElse _ = _
  rw [read]
  rfl

theorem orElse_none {first second : Reader α} {input : List Char} (failed : first input = none) :
    (first <|> second) input = second input := by
  show (first input).orElse _ = _
  rw [failed]
  rfl

theorem guard_some {test : Prop} [Decidable test] {input rest : List Char} {value : Unit}
    (read : (guard test : Reader Unit) input = some (value, rest)) : rest = input := by
  unfold guard at read
  split at read
  · cases read
    rfl
  · cases read

theorem readChar_some {expected : Char} {input rest : List Char} {value : Unit}
    (read : readChar expected input = some (value, rest)) : input = expected :: rest := by
  cases input with
  | nil => cases read
  | cons c others =>
      simp only [readChar] at read
      split at read
      · rename_i same
        cases read
        rw [same]
      · cases read

@[simp] theorem readChar_cons (c : Char) (rest : List Char) :
    readChar c (c :: rest) = some ((), rest) :=
  if_pos rfl

end Reader

section Consumes

variable {α β : Type}

/-- What a reader takes off the front is made of such characters. -/
def Consumes (allowed : Char → Bool) (reader : Reader α) : Prop :=
  ∀ input value rest, reader input = some (value, rest) →
    ∃ used, input = used ++ rest ∧ ∀ c ∈ used, allowed c = true

variable {allowed : Char → Bool}

theorem consumes_pure (value : α) : Consumes allowed (pure value : Reader α) := by
  intro input result rest read
  cases read
  exact ⟨[], rfl, List.forall_mem_nil _⟩

theorem consumes_bind {first : Reader α} {next : α → Reader β} (head : Consumes allowed first)
    (tail : ∀ value, Consumes allowed (next value)) : Consumes allowed (first >>= next) := by
  intro input result rest read
  obtain ⟨⟨value, middle⟩, began, ended⟩ := Option.bind_eq_some_iff.mp read
  obtain ⟨front, split, plain⟩ := head input value middle began
  obtain ⟨back, split', plain'⟩ := tail value middle result rest ended
  refine ⟨front ++ back, ?_, List.forall_mem_append.mpr ⟨plain, plain'⟩⟩
  rw [split, split', List.append_assoc]

theorem consumes_map {reader : Reader α} (convert : α → β) (consumes : Consumes allowed reader) :
    Consumes allowed (convert <$> reader) :=
  consumes_bind consumes fun _ => consumes_pure _

theorem consumes_orElse {first second : Reader α} (left : Consumes allowed first)
    (right : Consumes allowed second) : Consumes allowed (first <|> second) := by
  intro input result rest read
  cases taken : first input with
  | some found => exact left input result rest (taken.trans ((orElse_some taken).symm.trans read))
  | none => exact right input result rest ((orElse_none taken).symm.trans read)

theorem consumes_readChar {expected : Char} (plain : allowed expected = true) :
    Consumes allowed (readChar expected) := by
  intro input value rest read
  refine ⟨[expected], readChar_some read, ?_⟩
  rw [List.forall_mem_singleton]
  exact plain

theorem consumes_readNumber {radix : Nat} (maxDigits limit : Nat) (zeroPrefix : Bool)
    (digits : ∀ c, isDigit radix c = true → allowed c = true) :
    Consumes allowed (readNumber radix maxDigits limit zeroPrefix) := by
  intro input value rest read
  refine ⟨input.takeWhile (isDigit radix), ?_, ?_⟩
  · have left : rest = input.dropWhile (isDigit radix) := by
      simp only [readNumber] at read
      split at read
      · cases read
      · split at read
        · cases read
        · split at read
          · cases read
          · cases read
            rfl
    rw [left, List.takeWhile_append_dropWhile]
  · intro c among
    exact digits c (List.all_eq_true.mp List.all_takeWhile c among)

theorem consumes_separated {reader : Reader α} (first : Bool) (colon : allowed ':' = true)
    (consumes : Consumes allowed reader) : Consumes allowed (separated first reader) := by
  cases first with
  | true => exact consumes
  | false => exact consumes_bind (consumes_readChar colon) fun _ => consumes

theorem consumes_guard (test : Prop) [Decidable test] :
    Consumes allowed (guard test : Reader Unit) := by
  intro input value rest read
  exact ⟨[], (guard_some read).symm, List.forall_mem_nil _⟩

/-- Digits, dots and colons. -/
def isAddressChar (c : Char) : Bool := isDigit 16 c || c == '.' || c == ':'

theorem address_of_digit {c : Char} (digit : isDigit 16 c = true) : isAddressChar c = true := by
  rw [isAddressChar, digit]
  rfl

theorem addressChar_range {c : Char} (plain : isAddressChar c = true) :
    46 ≤ c.toNat ∧ c.toNat ≤ 102 := by
  simp only [isAddressChar, Bool.or_eq_true, beq_iff_eq] at plain
  rcases plain with (digit | dot) | colon
  · simp only [isDigit, toDigit] at digit
    split at digit
    · omega
    · split at digit
      · simp only [Option.filter_some, Option.isSome_ite, decide_eq_true_eq] at digit
        omega
      · split at digit
        · omega
        · cases digit
  · rw [dot]
    decide
  · rw [colon]
    decide

/-- A decimal digit is a hexadecimal one. -/
theorem digit_decimal {c : Char} (digit : isDigit 10 c = true) : isDigit 16 c = true := by
  unfold isDigit toDigit at digit ⊢
  rw [Option.isSome_filter] at digit ⊢
  rw [Option.any_eq_true_iff_get] at digit ⊢
  obtain ⟨present, small⟩ := digit
  refine ⟨present, ?_⟩
  simp only [decide_eq_true_eq] at small ⊢
  omega

theorem consumes_readOctet : Consumes isAddressChar readOctet :=
  consumes_readNumber _ _ _ fun _ digit => address_of_digit (digit_decimal digit)

theorem consumes_readGroup : Consumes isAddressChar readGroup :=
  consumes_readNumber _ _ _ fun _ digit => address_of_digit digit

theorem consumes_readIpv4 : Consumes isAddressChar readIpv4 := by
  have dot : Consumes isAddressChar (readChar '.') := consumes_readChar (by decide)
  apply consumes_bind consumes_readOctet
  intro a
  apply consumes_bind dot
  intro _
  apply consumes_bind consumes_readOctet
  intro b
  apply consumes_bind dot
  intro _
  apply consumes_bind consumes_readOctet
  intro c
  apply consumes_bind dot
  intro _
  apply consumes_bind consumes_readOctet
  intro d
  exact consumes_pure _

theorem consumes_readGroups (left : Nat) (first : Bool) :
    Consumes isAddressChar (readGroups left first) := by
  have colon : isAddressChar ':' = true := by decide
  induction left generalizing first with
  | zero => exact consumes_pure _
  | succ left ih =>
      apply consumes_orElse
      · apply consumes_bind (consumes_guard _)
        intro _
        apply consumes_bind (consumes_separated first colon consumes_readIpv4)
        intro address
        exact consumes_pure _
      · apply consumes_orElse
        · apply consumes_bind (consumes_separated first colon consumes_readGroup)
          intro group
          apply consumes_bind (ih false)
          intro more
          exact consumes_pure _
        · exact consumes_pure _

theorem consumes_readIpv6 : Consumes isAddressChar readIpv6 := by
  have colon : Consumes isAddressChar (readChar ':') := consumes_readChar (by decide)
  apply consumes_bind (consumes_readGroups 8 true)
  intro head
  dsimp only
  split
  · exact consumes_pure _
  · apply consumes_bind (consumes_guard _)
    intro _
    apply consumes_bind colon
    intro _
    apply consumes_bind colon
    intro _
    apply consumes_bind (consumes_readGroups _ true)
    intro tail
    exact consumes_pure _

/-- An address is made of address characters: no blank and no comma is in it. -/
theorem parse_plain {text : List Char} {address : BitVec 32 ⊕ BitVec 128}
    (parsed : parse text = some address) : ∀ c ∈ text, isAddressChar c = true := by
  have consumes : Consumes isAddressChar readIp :=
    consumes_orElse (consumes_map _ consumes_readIpv4) (consumes_map _ consumes_readIpv6)
  unfold parse at parsed
  split at parsed
  · rename_i found read
    obtain ⟨used, whole, plain⟩ := consumes text found [] read
    rw [List.append_nil] at whole
    rw [whole]
    exact plain
  · cases parsed

end Consumes

section Written

/-- The next character is no digit. -/
def Stops (radix : Nat) (rest : List Char) : Prop := rest.head?.any (isDigit radix) = false

theorem readNumber_digits {radix maxDigits limit : Nat} {zeroPrefix : Bool}
    {digits rest : List Char} (plain : ∀ c ∈ digits, isDigit radix c = true)
    (stops : Stops radix rest) (nonempty : digits ≠ []) (few : digits.length ≤ maxDigits)
    (zero : zeroPrefix = true ∨ digits.head? ≠ some '0' ∨ digits.length ≤ 1)
    (small : digitsValue radix digits < limit) :
    readNumber radix maxDigits limit zeroPrefix (digits ++ rest) =
      some (digitsValue radix digits, rest) := by
  have taken : (digits ++ rest).takeWhile (isDigit radix) = digits := by
    rw [List.takeWhile_append_of_pos plain]
    cases rest with
    | nil => exact List.append_nil _
    | cons c rest =>
        have other : isDigit radix c = false := stops
        rw [List.takeWhile_cons_of_neg (by simp [other]), List.append_nil]
  have left : (digits ++ rest).dropWhile (isDigit radix) = rest := by
    rw [List.dropWhile_append_of_pos plain]
    cases rest with
    | nil => rfl
    | cons c rest =>
        have other : isDigit radix c = false := stops
        rw [List.dropWhile_cons_of_neg (by simp [other])]
  have present : ¬ (digits = [] ∨ maxDigits < digits.length) := by
    rw [not_or, Nat.not_lt]
    exact ⟨nonempty, few⟩
  have unpadded : ¬ (!zeroPrefix ∧ digits.head? = some '0' ∧ 1 < digits.length) := by
    intro padded
    obtain ⟨strict, first, long⟩ := padded
    rcases zero with free | other | short
    · rw [free] at strict
      cases strict
    · exact other first
    · omega
  simp only [readNumber, taken, left, if_neg present, if_neg unpadded,
    if_neg (Nat.not_le.mpr small)]

/-- The numeral of an octet. -/
def octetText (n : Nat) : List Char := Nat.toDigits 10 n

/-- Four hexadecimal digits. -/
def groupText (n : Nat) : List Char :=
  [Nat.digitChar (n / 4096), Nat.digitChar (n / 256 % 16), Nat.digitChar (n / 16 % 16),
    Nat.digitChar (n % 16)]

theorem readOctet_written {n : Nat} (small : n < 256) {rest : List Char}
    (stops : Stops 10 rest) : readOctet (octetText n ++ rest) = some (n, rest) := by
  have checked : ∀ n : Fin 256, let digits := octetText n
      digits.all (isDigit 10) = true ∧ digits ≠ [] ∧ digits.length ≤ 3 ∧
        (digits.head? ≠ some '0' ∨ digits.length ≤ 1) ∧ digitsValue 10 digits = n := by
    decide +kernel
  obtain ⟨plain, nonempty, few, zero, value⟩ := checked ⟨n, small⟩
  dsimp only at plain nonempty few zero value
  have read : readOctet (octetText n ++ rest) = some (digitsValue 10 (octetText n), rest) :=
    readNumber_digits (List.all_eq_true.mp plain) stops nonempty few (.inr zero)
      (value.symm ▸ small)
  rw [read, value]

theorem readGroup_written {n : Nat} (small : n < 65536) {rest : List Char}
    (stops : Stops 16 rest) : readGroup (groupText n ++ rest) = some (n, rest) := by
  have digit : ∀ d < 16, toDigit 16 (Nat.digitChar d) = some d := by decide
  have first := digit (n / 4096) (by omega)
  have second := digit (n / 256 % 16) (by omega)
  have third := digit (n / 16 % 16) (by omega)
  have fourth := digit (n % 16) (by omega)
  have plain : ∀ c ∈ groupText n, isDigit 16 c = true := by
    simp [groupText, isDigit, first, second, third, fourth]
  have value : digitsValue 16 (groupText n) = n := by
    simp only [digitsValue, groupText, List.filterMap_cons, first, second, third, fourth,
      List.filterMap_nil, List.foldl_cons, List.foldl_nil]
    omega
  have read : readGroup (groupText n ++ rest) = some (digitsValue 16 (groupText n), rest) :=
    readNumber_digits plain stops (List.cons_ne_nil _ _) (Nat.le_refl 4) (.inl rfl)
      (value.symm ▸ small)
  rw [read, value]

/-- An address as dotted octets. -/
def ipv4Text (address : BitVec 32) : List Char :=
  let n := address.toNat
  octetText (n / 16777216) ++ '.' :: (octetText (n / 65536 % 256) ++ '.' ::
    (octetText (n / 256 % 256) ++ '.' :: (octetText (n % 256) ++ [])))

theorem readIpv4_written (address : BitVec 32) :
    readIpv4 (ipv4Text address) = some (address, []) := by
  have bound := address.isLt
  have dot : ∀ rest : List Char, Stops 10 ('.' :: rest) := fun _ => rfl
  have stop : Stops 10 ([] : List Char) := rfl
  unfold readIpv4 ipv4Text
  rw [bind_some (readOctet_written (by omega) (dot _)), bind_some (readChar_cons _ _),
    bind_some (readOctet_written (by omega) (dot _)), bind_some (readChar_cons _ _),
    bind_some (readOctet_written (by omega) (dot _)), bind_some (readChar_cons _ _),
    bind_some (readOctet_written (by omega) stop)]
  have value : ((address.toNat / 16777216 * 256 + address.toNat / 65536 % 256) * 256 +
      address.toNat / 256 % 256) * 256 + address.toNat % 256 = address.toNat := by
    omega
  rw [value, BitVec.ofNat_toNat, BitVec.setWidth_eq]
  rfl

/-- Groups with a colon in front of each but the first. -/
def groupsText : Bool → List Nat → List Char
  | _, [] => []
  | true, group :: groups => groupText group ++ groupsText false groups
  | false, group :: groups => ':' :: (groupText group ++ groupsText false groups)

/-- Dotted octets have a dot. -/
theorem readIpv4_dotted {input rest : List Char} {address : BitVec 32}
    (read : readIpv4 input = some (address, rest)) : '.' ∈ input := by
  obtain ⟨⟨octet, middle⟩, began, ended⟩ := Option.bind_eq_some_iff.mp read
  obtain ⟨used, whole, _⟩ := consumes_readOctet input octet middle began
  obtain ⟨⟨_, others⟩, dot, _⟩ := Option.bind_eq_some_iff.mp ended
  rw [whole, readChar_some dot]
  exact List.mem_append_right _ List.mem_cons_self

theorem separated_dotted {first : Bool} {input rest : List Char} {address : BitVec 32}
    (read : separated first readIpv4 input = some (address, rest)) : '.' ∈ input := by
  cases first with
  | true => exact readIpv4_dotted read
  | false =>
      obtain ⟨⟨_, others⟩, colon, dotted⟩ := Option.bind_eq_some_iff.mp read
      rw [readChar_some colon]
      exact List.mem_cons_of_mem _ (readIpv4_dotted dotted)

theorem groupText_plain {group : Nat} (small : group < 65536) : '.' ∉ groupText group := by
  have digit : ∀ d < 16, Nat.digitChar d ≠ '.' := by decide
  simp only [groupText, List.mem_cons, List.not_mem_nil, or_false, not_or]
  exact ⟨(digit _ (by omega)).symm, (digit _ (by omega)).symm, (digit _ (by omega)).symm,
    (digit _ (by omega)).symm⟩

theorem groupsText_plain (first : Bool) {groups : List Nat}
    (small : ∀ group ∈ groups, group < 65536) : '.' ∉ groupsText first groups := by
  induction groups generalizing first with
  | nil => exact List.not_mem_nil
  | cons group groups ih =>
      rw [List.forall_mem_cons] at small
      have front := groupText_plain small.1
      have back := ih false small.2
      cases first with
      | true =>
          rw [groupsText, List.mem_append, not_or]
          exact ⟨front, back⟩
      | false =>
          rw [groupsText, List.mem_cons, List.mem_append, not_or, not_or]
          exact ⟨by decide, front, back⟩

theorem readGroups_written (first : Bool) {groups : List Nat}
    (small : ∀ group ∈ groups, group < 65536) :
    readGroups groups.length first (groupsText first groups) = some ((groups, false), []) := by
  induction groups generalizing first with
  | nil => rfl
  | cons group groups ih =>
      have undotted := groupsText_plain first small
      rw [List.forall_mem_cons] at small
      have rest := ih false small.2
      have stops : Stops 16 (groupsText false groups) := by
        cases groups with
        | nil => rfl
        | cons _ _ => rfl
      have group_ : separated first readGroup (groupsText first (group :: groups)) =
          some (group, groupsText false groups) := by
        have plain := readGroup_written small.1 stops
        cases first with
        | true => exact plain
        | false => exact (bind_some (readChar_cons _ _)).trans plain
      rw [List.length_cons, readGroups, orElse_none]
      · apply orElse_some
        rw [bind_some group_, bind_some rest]
        rfl
      · -- dotted octets do not start here, for want of a dot
        apply Option.eq_none_iff_forall_not_mem.mpr
        intro found read
        obtain ⟨⟨_, same⟩, guarded, later⟩ := Option.bind_eq_some_iff.mp read
        obtain ⟨⟨address, others⟩, dotted, _⟩ := Option.bind_eq_some_iff.mp later
        rw [guard_some guarded] at dotted
        exact undotted (separated_dotted dotted)

/-- The lowest groups of a number, the highest of them first. -/
def wordGroups : Nat → Nat → List Nat
  | 0, _ => []
  | count + 1, n => wordGroups count (n / 65536) ++ [n % 65536]

theorem wordGroups_length (count n : Nat) : (wordGroups count n).length = count := by
  induction count generalizing n with
  | zero => rfl
  | succ count ih => rw [wordGroups, List.length_append, ih, List.length_singleton]

theorem wordGroups_small (count n : Nat) : ∀ group ∈ wordGroups count n, group < 65536 := by
  induction count generalizing n with
  | zero => exact List.forall_mem_nil _
  | succ count ih =>
      rw [wordGroups, List.forall_mem_append, List.forall_mem_singleton]
      exact ⟨ih _, Nat.mod_lt _ (by decide)⟩

theorem wordGroups_value (count n : Nat) :
    (wordGroups count n).foldl (fun value group => 65536 * value + group) 0 =
      n % 65536 ^ count := by
  induction count generalizing n with
  | zero => exact (Nat.mod_one n).symm
  | succ count ih =>
      rw [wordGroups, List.foldl_append, ih, List.foldl_cons, List.foldl_nil, Nat.pow_succ',
        Nat.mod_mul]
      omega

/-- An address as eight groups of four digits. -/
def ipv6Text (address : BitVec 128) : List Char := groupsText true (wordGroups 8 address.toNat)

theorem readIpv6_written (address : BitVec 128) :
    readIpv6 (ipv6Text address) = some (address, []) := by
  have length := wordGroups_length 8 address.toNat
  have read := readGroups_written true (wordGroups_small 8 address.toNat)
  rw [length] at read
  have value : groupsValue (wordGroups 8 address.toNat) = address := by
    have bound : address.toNat < 65536 ^ 8 := address.isLt
    rw [groupsValue, wordGroups_value, Nat.mod_eq_of_lt bound, BitVec.ofNat_toNat,
      BitVec.setWidth_eq]
  unfold readIpv6 ipv6Text
  rw [bind_some read]
  dsimp only
  rw [if_pos length, value]
  rfl

theorem parse_ipv4Text (address : BitVec 32) : parse (ipv4Text address) = some (.inl address) := by
  have read : readIp (ipv4Text address) = some (.inl address, []) :=
    orElse_some (map_some _ (readIpv4_written address))
  simp only [parse, read]

theorem parse_ipv6Text (address : BitVec 128) : parse (ipv6Text address) = some (.inr address) := by
  have undotted := groupsText_plain true (wordGroups_small 8 address.toNat)
  have failed : (Sum.inl <$> readIpv4 : Reader (BitVec 32 ⊕ BitVec 128)) (ipv6Text address) =
      none := by
    apply Option.eq_none_iff_forall_not_mem.mpr
    intro found read
    obtain ⟨⟨dotted, others⟩, began, _⟩ := Option.bind_eq_some_iff.mp read
    exact undotted (readIpv4_dotted began)
  have read : readIp (ipv6Text address) = some (.inr address, []) :=
    (orElse_none failed).trans (map_some _ (readIpv6_written address))
  simp only [parse, read]

end Written

end ActorServices.IpText
