import ActorServices.ServiceRows

set_option autoImplicit false

namespace ActorServices.Environment

open Interleave

variable {K V α : Type}

/-- `made` is what was made under the stamp, and nothing else was ever made under its key. -/
structure Sole (entity : Entity K V) (made : V) (stamp : Nat) (shared : Shared K V) : Prop where
  only : ∀ (other : Nat) value, shared.made[other]? = some value →
    entity.key value = entity.key made → other = stamp
  same : ∀ value, shared.made[stamp]? = some value → value = made

/-- What a call on the key of such a row meets: the row, counted up, wherever it finds one, and
readings of the clock at which the row is `live`. If the row is stored all the while it is
`waiting` for the call, and only a call that is `failing` gets an error. No call that finds the
row alive removes it. -/
def findContract (entity : Entity K V) (cacheable : V → String → Prop) (made : V)
    (live : Int → Prop) (waiting failing : Prop) : Contract (Op K V) Op.Reply (Memory V) where
  allows _ op :=
    match op with
    | .repoInsert _ => False
    | .repoTake _ => False
    | .repoDelete _ => False
    | op => op.key? = none ∨ op.key? = some (entity.key made)
  replies _ op reply _ :=
    match op, reply with
    | .cacheGet _, some text => ∃ n, cacheable (entity.bump n made) text
    | .repoGet _, .ok (some value) => ∃ n, value = entity.bump n made
    | .repoGet _, .ok none => ¬ waiting
    | .repoGet _, .error err => failing ∧ ∃ cause, err = .backend cause
    | .nowUnix, now => live now
    | _, _ => True

section Sole

variable {entity : Entity K V} {cacheable : V → String → Prop} {made : V} {stamp : Nat}
  {shared shared' : Shared K V}

theorem Sole.row (sole : Sole entity made stamp shared) {row : Row V}
    (origin : Origin entity shared row) (keyed : entity.key row.value = entity.key made) :
    ∃ n, row.value = entity.bump n made := by
  obtain ⟨value, n, here, counted⟩ := origin
  have same : entity.key value = entity.key made := by
    rw [← keyed, counted, entity.key_bump]
  obtain rfl := sole.only row.stamp value here same
  obtain rfl := sole.same value here
  exact ⟨n, counted⟩

theorem Sole.earlier (sole : Sole entity made stamp shared')
    (grown : shared.made <+: shared'.made) : Sole entity made stamp shared := by
  have later : ∀ (other : Nat) (value : V), shared.made[other]? = some value →
      shared'.made[other]? = some value := by
    intro other value here
    obtain ⟨extra, rest⟩ := grown
    rw [← rest, List.getElem?_append_left (List.getElem?_eq_some_iff.mp here).1, here]
  exact ⟨fun other value here => sole.only other value (later other value here),
    fun value here => sole.same value (later stamp value here)⟩

/-- No key was made a second time. -/
def Unrepeated (entity : Entity K V) (shared : Shared K V) (key : K) : Prop :=
  ∀ (stamp stamp' : Nat) value value', shared.made[stamp]? = some value →
    shared.made[stamp']? = some value' → entity.key value = key → entity.key value' = key →
    stamp = stamp'

theorem Unrepeated.sole (unrepeated : Unrepeated entity shared (entity.key made))
    (here : shared.made[stamp]? = some made) : Sole entity made stamp shared where
  only other value there keyed := unrepeated other stamp value made there here keyed rfl
  same _ there := Option.some.inj (there.symm.trans here)

variable [DecidableEq K] {live : Int → Prop} {waiting failing : Prop}

/-- Every await keeps the contract. -/
theorem find_replies (consistent : Consistent entity cacheable shared)
    (sole : Sole entity made stamp shared) (lives : live shared.clock)
    (waits : waiting → ∃ row, shared.repo (entity.key made) = some row) {choice : Choice}
    (fails : ∀ cause, choice = .failed cause → failing) {op : Op K V}
    {memory remembered : Memory V} {reply : op.Reply}
    (allowed : (findContract entity cacheable made live waiting failing).allows memory op)
    (performed : perform entity shared memory op choice = some (reply, remembered, shared')) :
    (findContract entity cacheable made live waiting failing).replies memory op reply
      remembered := by
  have own : ∀ {key : K}, op.key? = some key → op.key? = none ∨ op.key? = some (entity.key made) →
      key = entity.key made := by
    rintro key here (none_ | key_)
    · rw [here] at none_
      cases none_
    · exact Option.some.inj (here.symm.trans key_)
  cases perform_cases performed
  case hit key entry done found =>
    obtain rfl := own rfl allowed
    obtain ⟨row, -, origin, keyed, fits⟩ := consistent.cached _ entry found
    obtain ⟨n, same⟩ := sole.row origin keyed
    exact ⟨n, same ▸ fits⟩
  case got key row found =>
    obtain rfl := own rfl allowed
    exact sole.row (consistent.stored _ row found) (consistent.keyed _ row found)
  case gotNone key absent =>
    obtain rfl := own rfl allowed
    intro waiting
    obtain ⟨row, found⟩ := waits waiting
    rw [absent] at found
    cases found
  case getFailed cause failed => exact ⟨fails cause failed, cause, rfl⟩
  case read => exact lives
  case inserted => exact allowed.elim
  case conflicted => exact allowed.elim
  case insertFailed => exact allowed.elim
  case took => exact allowed.elim
  case tookNone => exact allowed.elim
  case takeFailed => exact allowed.elim
  case deleted => exact allowed.elim
  case deletedNone => exact allowed.elim
  case deleteFailed => exact allowed.elim
  all_goals trivial

end Sole

section Stays

variable [DecidableEq K] {entity : Entity K V} {programs : Nat → UseCase K V α}
  {before after : Calls K V α} {label : Label Choice (Event K)} {key : K} {stamp : Nat}

/-- A stored row that this step does not remove. -/
theorem present_after (taken : step (service entity) programs before label = some after)
    (spared : ∀ caller, ¬ Removes before label caller key) (present : Present before key stamp) :
    Present after key stamp := by
  obtain ⟨row, stored, rfl⟩ := present
  rcases stored_after taken stored with ⟨n, kept⟩ | ⟨caller, next, memory, removes, -, -⟩
  · exact ⟨_, kept, rfl⟩
  · exact absurd removes (spared caller)

end Stays

end ActorServices.Environment
