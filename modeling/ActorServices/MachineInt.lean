import Mathlib.Algebra.Group.Int.Defs
import Mathlib.Algebra.Group.Nat.Defs

set_option autoImplicit false

namespace ActorServices

/-- In the range of `i64`. -/
def IsI64 (value : Int) : Prop := -2 ^ 63 ≤ value ∧ value ≤ 2 ^ 63 - 1

instance (value : Int) : Decidable (IsI64 value) := inferInstanceAs (Decidable (_ ∧ _))

/-- What an `i64` computation that wraps around leaves of a value. -/
def wrapI64 (value : Int) : Int := Int.bmod value (2 ^ 64)

theorem wrapI64_of_isI64 {value : Int} (fits : IsI64 value) : wrapI64 value = value := by
  unfold IsI64 at fits
  unfold wrapI64
  rw [Int.bmod_def]
  omega

end ActorServices
