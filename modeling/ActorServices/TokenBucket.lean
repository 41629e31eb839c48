import Mathlib.Algebra.Order.Field.Basic
import Mathlib.Data.List.Induction
import Mathlib.Tactic.Linarith

set_option autoImplicit false

namespace ActorServices.TokenBucket

/-- One use of a bucket: when, and whether a token was taken. -/
structure Use (K : Type) where
  time : K
  taken : Bool
  deriving DecidableEq, Repr

variable {K : Type}

def spent (uses : List (Use K)) : Nat := uses.countP Use.taken

@[simp] theorem spent_nil : spent ([] : List (Use K)) = 0 := rfl

theorem spent_append (front back : List (Use K)) :
    spent (front ++ back) = spent front + spent back :=
  List.countP_append

theorem concat_some {uses : List (Use K)} {last use : Use K} {index : Nat} :
    (uses ++ [last])[index]? = some use ↔
      uses[index]? = some use ∨ (index = uses.length ∧ last = use) := by
  rcases Nat.lt_trichotomy index uses.length with old | rfl | beyond
  · rw [List.getElem?_append_left old]
    exact (or_iff_left fun new => old.ne new.1).symm
  · simp
  · have absent : uses[index]? = none := List.getElem?_eq_none beyond.le
    have none : (uses ++ [last])[index]? = none := by
      apply List.getElem?_eq_none
      rw [List.length_append, List.length_singleton]
      omega
    simp only [absent, none, reduceCtorEq, beyond.ne', false_and, or_self]

variable [Field K] [LinearOrder K]

def refilled (capacity rate tokens elapsed : K) : K := min (tokens + elapsed * rate) capacity

/-- Every window of the past that ends now leaves room for this amount. -/
def Within (capacity rate : K) (uses : List (Use K)) (now amount : K) : Prop :=
  ∀ index first, uses[index]? = some first →
    amount + spent (uses.drop index) ≤ capacity + rate * (now - first.time)

/-- The tokens are the most that every window leaves. -/
def Balance (capacity rate : K) (uses : List (Use K)) (now tokens : K) : Prop :=
  ∀ amount, amount ≤ tokens ↔ Within capacity rate uses now amount

/-- The same of a bucket that was refilled: it holds no more than its capacity. -/
def Refilled (capacity rate : K) (uses : List (Use K)) (now tokens : K) : Prop :=
  ∀ amount, amount ≤ tokens ↔ amount ≤ capacity ∧ Within capacity rate uses now amount

/-- A use takes a token exactly when one more conforms to every window that ends with it. -/
def Greedy (capacity rate : K) (uses : List (Use K)) : Prop :=
  ∀ index use, uses[index]? = some use →
    (use.taken = true ↔ ∀ start first, start ≤ index → uses[start]? = some first →
      (spent ((uses.take index).drop start) : K) + 1 ≤
        capacity + rate * (use.time - first.time))

section Balance

variable {capacity rate tokens now later : K} {uses : List (Use K)}

/-- A bucket that is full has no past. -/
theorem Refilled.full : Refilled capacity rate ([] : List (Use K)) now capacity := by
  intro amount
  constructor
  · intro fits
    exact ⟨fits, fun index first there => absurd there (by simp)⟩
  · exact And.left

variable [IsStrictOrderedRing K]

theorem Within.wait (within : ∀ amount, amount ≤ tokens ↔ Within capacity rate uses now amount)
    (elapsed amount : K) (forward : later = now + elapsed) :
    amount ≤ tokens + elapsed * rate ↔ Within capacity rate uses later amount := by
  have shifted := within (amount - elapsed * rate)
  rw [sub_le_iff_le_add] at shifted
  rw [shifted, forward]
  constructor
  · intro windows index first there
    have window := windows index first there
    linarith
  · intro windows index first there
    have window := windows index first there
    linarith

theorem Balance.wait (balance : Balance capacity rate uses now tokens) (later : K) :
    Refilled capacity rate uses later (refilled capacity rate tokens (later - now)) := by
  intro amount
  have waited := Within.wait balance (later - now) amount (add_sub_cancel now later).symm
  rw [refilled, le_min_iff, waited, and_comm]

theorem within_append {use : Use K} {amount : K} (present : use.time = now) :
    Within capacity rate (uses ++ [use]) now amount ↔
      amount + spent [use] ≤ capacity ∧ Within capacity rate uses now (amount + spent [use]) := by
  constructor
  · intro windows
    constructor
    · have window := windows uses.length use (concat_some.mpr (.inr ⟨rfl, rfl⟩))
      rw [List.drop_left, present, sub_self, mul_zero, add_zero] at window
      exact window
    · intro index first there
      have bound : index < uses.length := (List.getElem?_eq_some_iff.mp there).1
      have window := windows index first (concat_some.mpr (.inl there))
      rw [List.drop_append_of_le_length bound.le, spent_append, Nat.cast_add] at window
      linarith
  · intro windows index first there
    rcases concat_some.mp there with old | ⟨rfl, rfl⟩
    · have bound : index < uses.length := (List.getElem?_eq_some_iff.mp old).1
      have window := windows.2 index first old
      rw [List.drop_append_of_le_length bound.le, spent_append, Nat.cast_add]
      linarith
    · rw [List.drop_left, present, sub_self, mul_zero, add_zero]
      exact windows.1

theorem Refilled.use (refilled : Refilled capacity rate uses now tokens) (taken : Bool) :
    Balance capacity rate (uses ++ [⟨now, taken⟩]) now
      (tokens - spent ([⟨now, taken⟩] : List (Use K))) := by
  intro amount
  rw [within_append rfl, ← refilled, le_sub_iff_add_le]

/-- The history stays greedy when a use takes a token exactly from one that is there. -/
theorem Greedy.append (greedy : Greedy capacity rate uses) (enough : 1 ≤ capacity)
    (refilled : Refilled capacity rate uses now tokens) {taken : Bool}
    (decided : taken = true ↔ 1 ≤ tokens) :
    Greedy capacity rate (uses ++ [⟨now, taken⟩]) := by
  intro index use there
  rcases concat_some.mp there with old | ⟨rfl, rfl⟩
  · have bound : index < uses.length := (List.getElem?_eq_some_iff.mp old).1
    rw [greedy index use old, List.take_append_of_le_length bound.le]
    constructor
    · intro windows start first before opened
      rcases concat_some.mp opened with there | ⟨last, -⟩
      · exact windows start first before there
      · omega
    · intro windows start first before opened
      exact windows start first before (concat_some.mpr (.inl opened))
  · rw [decided, refilled, List.take_left]
    constructor
    · intro windows start first before opened
      rcases concat_some.mp opened with there | ⟨rfl, rfl⟩
      · have window := windows.2 start first there
        linarith
      · rw [List.drop_length, spent_nil, sub_self, mul_zero, add_zero, Nat.cast_zero, zero_add]
        exact windows.1
    · intro windows
      refine ⟨enough, ?_⟩
      intro start first opened
      have bound : start < uses.length := (List.getElem?_eq_some_iff.mp opened).1
      have window := windows start first bound.le (concat_some.mpr (.inl opened))
      linarith

end Balance

end ActorServices.TokenBucket
