import Mathlib.Data.Fintype.Basic
import Mathlib.Data.List.DropRight

set_option autoImplicit false

namespace ActorServices.Js

/-- A string is its UTF-16 code units. -/
abbrev JsString : Type := List UInt16

def unit (c : Char) : UInt16 := UInt16.ofNat c.toNat

def ascii (text : String) : JsString := text.toList.map unit

def swapUnit (old new : Char) (u : UInt16) : UInt16 := if u = unit old then unit new else u

/-- `replace(/x/g, "y")` of single characters. -/
def replaceUnit (old new : Char) (text : JsString) : JsString := text.map (swapUnit old new)

/-- `replace(/x+$/, "")` of a single character. -/
def stripTrailing (c : Char) (text : JsString) : JsString := text.rdropWhile (· == unit c)

def indexOf (text : JsString) (c : Char) : Int :=
  match text.findIdx? (· == unit c) with
  | some index => index
  | none => -1

/-- `left || right` of strings: the empty one is falsy. -/
def orElse (left right : JsString) : JsString := if left = [] then right else left

@[simp] theorem orElse_empty (text : JsString) : orElse text [] = text := by
  unfold orElse
  split
  · rename_i empty
    exact empty.symm
  · rfl

section Lemmas

theorem stripTrailing_clean {c : Char} {text : JsString} (clean : unit c ∉ text) (n : Nat) :
    stripTrailing c (text ++ List.replicate n (unit c)) = text := by
  induction n with
  | zero =>
      rw [List.replicate_zero, List.append_nil, stripTrailing, List.rdropWhile_eq_self_iff]
      intro nonempty last
      have same : text.getLast nonempty = unit c := by simpa using last
      exact clean (same ▸ List.getLast_mem nonempty)
  | succ n ih =>
      rw [List.replicate_succ', ← List.append_assoc, stripTrailing, List.rdropWhile_concat_pos]
      · exact ih
      · exact beq_self_eq_true _

theorem indexOf_clean {c : Char} {front : JsString} (clean : unit c ∉ front) (back : JsString) :
    indexOf (front ++ unit c :: back) c = front.length := by
  have found : (front ++ unit c :: back).findIdx? (· == unit c) = some front.length := by
    induction front with
    | nil =>
        rw [List.nil_append, List.findIdx?_cons, beq_self_eq_true]
        rfl
    | cons u front ih =>
        rw [List.mem_cons, not_or] at clean
        have other : (u == unit c) = false := beq_false_of_ne (Ne.symm clean.1)
        rw [List.cons_append, List.findIdx?_cons, other, ih clean.2]
        rfl
  rw [indexOf, found]

/-- What stands before the first occurrence has none, and is not empty if that is not first. -/
theorem take_indexOf {text : JsString} {c : Char} (later : 0 < indexOf text c) :
    text.take (indexOf text c).toNat ≠ [] ∧ unit c ∉ text.take (indexOf text c).toNat := by
  unfold indexOf at later ⊢
  cases found : text.findIdx? (· == unit c) with
  | none =>
      simp only [found] at later
      omega
  | some index =>
      simp only [found] at later
      obtain ⟨inside, -, earlier⟩ := List.findIdx?_eq_some_iff_getElem.mp found
      have positive : 0 < index := Int.natCast_pos.mp later
      constructor
      · intro empty
        have short := congrArg List.length empty
        simp only [Int.toNat_natCast, List.length_take, List.length_nil] at short
        omega
      · intro among
        obtain ⟨place, before, same⟩ := List.mem_iff_getElem.mp among
        simp only [Int.toNat_natCast, List.length_take] at before
        have other := earlier place (by omega)
        rw [List.getElem_take] at same
        exact other (beq_iff_eq.mpr same)

end Lemmas

end ActorServices.Js
