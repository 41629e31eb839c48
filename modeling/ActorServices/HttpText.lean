import Mathlib.Algebra.Group.Nat.Defs
import Mathlib.Data.List.DropRight

set_option autoImplicit false

namespace ActorServices.Http

/-- `slice::windows` for a positive size. -/
def windows {α : Type} (size : Nat) (items : List α) : List (List α) :=
  (List.range (items.length + 1 - size)).map fun start => (items.drop start).take size

/-- First index of `needle` within `haystack`, if present. -/
def findSubsequence (haystack needle : List UInt8) : Option Nat :=
  if needle.isEmpty || haystack.length < needle.length then none
  else (windows needle.length haystack).findIdx? (· == needle)

section Find

variable {haystack needle : List UInt8} {index : Nat}

/-- The needle stands at this index. -/
def StandsAt (needle haystack : List UInt8) (index : Nat) : Prop := needle <+: haystack.drop index

theorem StandsAt.bound (stands : StandsAt needle haystack index) (nonempty : needle ≠ []) :
    index + needle.length ≤ haystack.length := by
  have positive : 0 < needle.length := List.length_pos_iff.mpr nonempty
  have fits := List.IsPrefix.length_le stands
  rw [List.length_drop] at fits
  omega

theorem not_standsAt_short (nonempty : needle ≠ []) (short : haystack.length < needle.length)
    (index : Nat) : ¬ StandsAt needle haystack index := by
  intro stands
  have bound := stands.bound nonempty
  omega

theorem window_iff :
    (haystack.drop index).take needle.length = needle ↔ StandsAt needle haystack index := by
  rw [StandsAt, List.prefix_iff_eq_take, eq_comm]

theorem StandsAt.append (stands : StandsAt needle haystack index) (nonempty : needle ≠ [])
    (suffix : List UInt8) : StandsAt needle (haystack ++ suffix) index := by
  have bound := stands.bound nonempty
  rw [StandsAt, List.drop_append_of_le_length (by omega)]
  exact List.IsPrefix.trans stands (List.prefix_append _ _)

/-- What stands within the front of a text stands there without the rest. -/
theorem StandsAt.front {suffix : List UInt8} (stands : StandsAt needle (haystack ++ suffix) index)
    (bound : index + needle.length ≤ haystack.length) : StandsAt needle haystack index := by
  rw [StandsAt, List.drop_append_of_le_length (by omega)] at stands
  have fits : needle.length ≤ (haystack.drop index).length := by
    rw [List.length_drop]
    omega
  exact List.prefix_of_prefix_length_le stands (List.prefix_append _ _) fits

theorem findSubsequence_some (nonempty : needle ≠ []) :
    findSubsequence haystack needle = some index ↔
      StandsAt needle haystack index ∧ ∀ earlier < index, ¬ StandsAt needle haystack earlier := by
  have positive : 0 < needle.length := List.length_pos_iff.mpr nonempty
  have present : needle.isEmpty = false := by simpa using nonempty
  by_cases short : haystack.length < needle.length
  · have none := not_standsAt_short nonempty short
    simp [findSubsequence, present, short, none index]
  · simp only [findSubsequence, present, short, Bool.or_self, decide_false, Bool.false_eq_true,
      ↓reduceIte, windows, List.findIdx?_eq_some_iff_getElem, List.length_map, List.length_range,
      List.getElem_map, List.getElem_range, beq_iff_eq]
    constructor
    · intro found
      obtain ⟨bound, stands, first⟩ := found
      refine ⟨window_iff.mp stands, ?_⟩
      intro earlier before early
      exact first earlier before (window_iff.mpr early)
    · intro found
      obtain ⟨stands, first⟩ := found
      have bound := stands.bound nonempty
      refine ⟨by omega, window_iff.mpr stands, ?_⟩
      intro earlier before early
      exact first earlier before (window_iff.mp early)

theorem findSubsequence_none (nonempty : needle ≠ []) :
    findSubsequence haystack needle = none ↔ ∀ index, ¬ StandsAt needle haystack index := by
  have present : needle.isEmpty = false := by simpa using nonempty
  by_cases short : haystack.length < needle.length
  · have none := not_standsAt_short nonempty short
    simp [findSubsequence, present, short, none]
  · simp only [findSubsequence, present, short, Bool.or_self, decide_false, Bool.false_eq_true,
      ↓reduceIte, windows, List.findIdx?_eq_none_iff, List.mem_map, List.mem_range]
    constructor
    · intro absent index stands
      have bound := stands.bound nonempty
      have apart := absent needle ⟨index, by omega, window_iff.mpr stands⟩
      simp at apart
    · intro absent window among
      obtain ⟨index, bound, rfl⟩ := among
      rw [beq_eq_false_iff_ne]
      intro same
      exact absent index (window_iff.mp same)

/-- An occurrence that is found stays the first. -/
theorem findSubsequence_append (nonempty : needle ≠ [])
    (found : findSubsequence haystack needle = some index) (suffix : List UInt8) :
    findSubsequence (haystack ++ suffix) needle = some index := by
  rw [findSubsequence_some nonempty] at found ⊢
  have bound := found.1.bound nonempty
  refine ⟨found.1.append nonempty suffix, ?_⟩
  intro earlier before early
  exact found.2 earlier before (early.front (by omega))

/-- A new occurrence ends in the suffix. -/
theorem findSubsequence_late (nonempty : needle ≠ [])
    (absent : findSubsequence haystack needle = none) {suffix : List UInt8}
    (found : findSubsequence (haystack ++ suffix) needle = some index) :
    haystack.length < index + needle.length := by
  by_contra early
  have stands := ((findSubsequence_some nonempty).mp found).1
  exact (findSubsequence_none nonempty).mp absent index (stands.front (by omega))

end Find

/-- `char::is_whitespace`: the `White_Space` property. -/
def isWhitespace (c : Char) : Bool :=
  let code := c.toNat
  (9 ≤ code && code ≤ 13) || code == 0x20 || code == 0x85 || code == 0xA0 || code == 0x1680 ||
    (0x2000 ≤ code && code ≤ 0x200A) || code == 0x2028 || code == 0x2029 || code == 0x202F ||
    code == 0x205F || code == 0x3000

def trim (text : List Char) : List Char := (text.dropWhile isWhitespace).rdropWhile isWhitespace

theorem trim_plain {text : List Char} (plain : ∀ c ∈ text, isWhitespace c = false) :
    trim text = text := by
  have drop : text.dropWhile isWhitespace = text := by
    cases text with
    | nil => rfl
    | cons c rest =>
        rw [List.dropWhile_cons_of_neg]
        rw [plain c List.mem_cons_self]
        decide
  rw [trim, drop, List.rdropWhile_eq_self_iff]
  intro nonempty
  rw [plain _ (List.getLast_mem nonempty)]
  decide

def toAsciiLowercase (text : List Char) : List Char := text.map Char.toLower

def eqIgnoreAsciiCase (left right : List Char) : Bool :=
  toAsciiLowercase left == toAsciiLowercase right

/-- `split("\r\n")`. -/
def splitCrlf : List Char → List (List Char)
  | [] => [[]]
  | '\r' :: '\n' :: rest => [] :: splitCrlf rest
  | c :: rest =>
      match splitCrlf rest with
      | [] => [[c]]
      | line :: lines => (c :: line) :: lines

/-- `split_once(':')`. -/
def splitOnceColon (line : List Char) : Option (List Char × List Char) :=
  match line.dropWhile (· ≠ ':') with
  | [] => none
  | _ :: value => some (line.takeWhile (· ≠ ':'), value)

/-- One more digit, unless it is none or the number leaves `usize`. -/
def pushDigit (number : Nat) (c : Char) : Option Nat :=
  if c.isDigit then
    let next := 10 * number + (c.toNat - 48)
    if next < 2 ^ 64 then some next else none
  else none

/-- `parse::<usize>()`: digits, after a plus sign if there is one. -/
def parseUsize (value : List Char) : Option Nat :=
  match value with
  | [] => none
  | ['+'] => none
  | '+' :: digits => digits.foldlM pushDigit 0
  | digits => digits.foldlM pushDigit 0

end ActorServices.Http
