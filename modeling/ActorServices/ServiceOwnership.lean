import ActorServices.ServiceInvariant

set_option autoImplicit false

namespace ActorServices.Environment

open Interleave

variable {K V α : Type}

abbrev Calls (K V α : Type) : Type :=
  Config (Op K V) Op.Reply α (Shared K V) (Memory V)

section Made

variable [DecidableEq K] {entity : Entity K V} {programs : Nat → UseCase K V α}
  {before after : Calls K V α}

theorem step_made {label : Label Choice (Event K)}
    (taken : Interleave.step (service entity) programs before label = some after) :
    before.shared.made <+: after.shared.made := by
  obtain ⟨caller, -, -, rfl⟩ | ⟨caller, choice, op, next, memory, reply, remembered, shared, -,
    -, performed, rfl⟩ | ⟨event, shared, -, happened, rfl⟩ := step_cases taken
  · exact List.prefix_rfl
  · obtain ⟨extra, grown⟩ := perform_made performed
    exact ⟨extra, grown.symm⟩
  · exact ⟨[], by simp [happen_made happened]⟩

theorem run_made {labels : List (Label Choice (Event K))}
    (ran : run (service entity) programs before labels = some after) :
    before.shared.made <+: after.shared.made :=
  run_induction (fun _ config => before.shared.made <+: config.shared.made)
    List.prefix_rfl (fun _ _ _ _ _ held _ taken _ _ => held.trans (step_made taken)) ran

end Made

/-- The call removed this row from the repository itself. -/
def Owns (config : Calls K V α) (caller : Nat) (row : Row V) : Prop :=
  ∃ thread, config.threads caller = some thread ∧ thread.memory.held = some row ∧
    thread.memory.owned = true

/-- An owned row is in no store and has no second owner. -/
structure Exclusive (config : Calls K V α) : Prop where
  absent : ∀ caller row key other, Owns config caller row → config.shared.repo key = some other →
    other.stamp ≠ row.stamp
  single : ∀ caller caller' row row', Owns config caller row → Owns config caller' row' →
    row.stamp = row'.stamp → caller = caller'

section Exclusive

variable {entity : Entity K V} {cacheable : V → String → Prop} {config : Calls K V α}
  {shared : Shared K V} {caller : Nat} {memory remembered : Memory V}
  {program next : UseCase K V α}

/-- Moving one call on changes nobody else's ownership, and its own only as
far as its memory says. -/
theorem owns_put {other : Nat} {row : Row V}
    (owns : Owns ⟨shared, config.put caller ⟨next, remembered⟩⟩ other row) :
    (other = caller ∧ remembered.held = some row ∧ remembered.owned = true) ∨
      (other ≠ caller ∧ Owns config other row) := by
  obtain ⟨thread, present, held, owned⟩ := owns
  obtain ⟨same, rfl⟩ | ⟨distinct, present⟩ := put_cases present
  · exact Or.inl ⟨same, held, owned⟩
  · exact Or.inr ⟨distinct, thread, present, held, owned⟩

/-- A call that comes to own nothing new keeps exclusiveness, as long as the
repository only loses rows or gains unowned ones. -/
theorem Exclusive.keep (exclusive : Exclusive config)
    (running : config.threads caller = some ⟨program, memory⟩)
    (memories : remembered.held = memory.held ∧ remembered.owned = memory.owned ∨
      remembered.owned = false)
    (rows : ∀ key row, shared.repo key = some row →
      (∃ key old, config.shared.repo key = some old ∧ old.stamp = row.stamp) ∨
      ∀ other owned, Owns config other owned → row.stamp ≠ owned.stamp) :
    Exclusive ⟨shared, config.put caller ⟨next, remembered⟩⟩ := by
  have before : ∀ other row, Owns ⟨shared, config.put caller ⟨next, remembered⟩⟩ other row →
      Owns config other row := by
    intro other row owns
    obtain ⟨rfl, held, owned⟩ | ⟨-, owns⟩ := owns_put owns
    · obtain ⟨sameHeld, sameOwned⟩ | dropped := memories
      · exact ⟨_, running, sameHeld ▸ held, sameOwned ▸ owned⟩
      · rw [dropped] at owned
        cases owned
    · exact owns
  refine ⟨?_, ?_⟩
  · intro other row key found owns present
    obtain ⟨key', old, here, same⟩ | unowned := rows key found present
    · rw [← same]
      exact exclusive.absent other row key' old (before other row owns) here
    · exact unowned other row (before other row owns)
  · intro left right row row' first second
    exact exclusive.single left right row row' (before left row first) (before right row' second)

theorem Exclusive.start (exclusive : Exclusive config) :
    Exclusive (⟨config.shared, config.put caller ⟨program, Memory.none⟩⟩ : Calls K V α) := by
  have before : ∀ other row, Owns (⟨config.shared,
      config.put caller ⟨program, Memory.none⟩⟩ : Calls K V α) other row →
      Owns config other row := by
    intro other row owns
    rcases owns_put owns with ⟨-, impossible, -⟩ | ⟨-, owns⟩
    · cases impossible
    · exact owns
  refine ⟨?_, ?_⟩
  · intro other row key found owns present
    exact exclusive.absent other row key found (before other row owns) present
  · intro left right row row' first second
    exact exclusive.single left right row row' (before left row first) (before right row' second)

variable [DecidableEq K]

/-- Taking a stored row out makes the taker its one owner. -/
theorem Exclusive.take (exclusive : Exclusive config)
    (consistent : Consistent entity cacheable config.shared) {key : K} {row : Row V}
    (found : config.shared.repo key = some row) :
    Exclusive ⟨config.shared.setRepo key none,
      config.put caller ⟨next, memory.given (some row) true⟩⟩ := by
  have owner : ∀ other taken,
      Owns ⟨config.shared.setRepo key none,
        config.put caller ⟨next, memory.given (some row) true⟩⟩ other taken →
      (other = caller ∧ taken = row) ∨ (Owns config other taken ∧ taken.stamp ≠ row.stamp) := by
    intro other taken owns
    obtain ⟨same, held, -⟩ | ⟨-, owns⟩ := owns_put owns
    · exact Or.inl ⟨same, (Option.some.inj held).symm⟩
    · exact Or.inr ⟨owns, (exclusive.absent other taken key row owns found).symm⟩
  refine ⟨?_, ?_⟩
  · intro other taken key' row' owns present
    dsimp only at present
    rw [setRepo_repo] at present
    split at present
    · cases present
    · rename_i elsewhere
      obtain ⟨-, rfl⟩ | ⟨owns, -⟩ := owner other taken owns
      · intro same
        exact elsewhere (consistent.stamp_unique present found same).1
      · exact exclusive.absent other taken key' row' owns present
  · intro left right first second ownsFirst ownsSecond same
    obtain ⟨rfl, rfl⟩ | ⟨ownsFirst, apart⟩ := owner left first ownsFirst <;>
      obtain ⟨rfl, rfl⟩ | ⟨ownsSecond, apart'⟩ := owner right second ownsSecond
    · rfl
    · exact absurd same.symm apart'
    · exact absurd same apart
    · exact exclusive.single left right first second ownsFirst ownsSecond same

theorem Exclusive.performed (exclusive : Exclusive config)
    (consistent : Consistent entity cacheable config.shared)
    (remembers : ∀ caller thread, config.threads caller = some thread →
      Remembers entity config.shared thread.memory)
    (running : config.threads caller = some ⟨program, memory⟩) {choice : Choice} {op : Op K V}
    {reply : op.Reply}
    (performs : Performs entity config.shared memory choice op reply remembered shared) :
    Exclusive ⟨shared, config.put caller ⟨next, remembered⟩⟩ := by
  have unchanged : ∀ key row, config.shared.repo key = some row →
      (∃ key old, config.shared.repo key = some old ∧ old.stamp = row.stamp) ∨
      ∀ other owned, Owns config other owned → row.stamp ≠ owned.stamp :=
    fun key row present => Or.inl ⟨key, row, present, rfl⟩
  cases performs
  case took key row found => exact exclusive.take consistent found
  case deleted key row done found => exact exclusive.take consistent found
  case inserted value free =>
    refine exclusive.keep running (Or.inr rfl) ?_
    intro key row present
    rw [insert_repo] at present
    split at present
    · -- a fresh stamp is beyond every stamp that a call can hold
      cases present
      refine Or.inr fun other owned ⟨thread, here, held, _⟩ => ?_
      obtain ⟨value, n, made, -⟩ := remembers other thread here owned held
      have bound := (List.getElem?_eq_some_iff.mp made).1
      exact Nat.ne_of_gt bound
    · exact unchanged key row present
  case hit => exact exclusive.keep running (Or.inr rfl) unchanged
  case got => exact exclusive.keep running (Or.inr rfl) unchanged
  all_goals exact exclusive.keep running (Or.inl ⟨rfl, rfl⟩) unchanged

theorem Exclusive.happened (exclusive : Exclusive config) {event : Event K}
    (happened : happen entity config.shared event = some shared) :
    Exclusive ({ config with shared } : Calls K V α) := by
  have rows : ∀ key row, shared.repo key = some row →
      ∃ key old, config.shared.repo key = some old ∧ old.stamp = row.stamp := by
    intro key row present
    cases event with
    | clock now =>
        cases happened
        exact ⟨key, row, present, rfl⟩
    | evict other =>
        cases happened
        exact ⟨key, row, present, rfl⟩
    | increment other n =>
        cases happened
        rw [setRepo_repo] at present
        split at present
        · obtain ⟨old, found, rfl⟩ := Option.map_eq_some_iff.mp present
          exact ⟨other, old, found, rfl⟩
        · exact ⟨key, row, present, rfl⟩
  refine ⟨?_, exclusive.single⟩
  intro other row key found owns present
  obtain ⟨key', old, here, same⟩ := rows key found present
  rw [← same]
  exact exclusive.absent other row key' old owns here

theorem Exclusive.step {programs : Nat → UseCase K V α} {after : Calls K V α}
    {label : Label Choice (Event K)} (exclusive : Exclusive config)
    (consistent : Consistent entity cacheable config.shared)
    (remembers : ∀ caller thread, config.threads caller = some thread →
      Remembers entity config.shared thread.memory)
    (taken : Interleave.step (service entity) programs config label = some after) :
    Exclusive after := by
  rcases step_cases taken with ⟨caller, -, idle, rfl⟩ | ⟨caller, choice, op, next, memory, reply,
    remembered, shared, -, running, performed, rfl⟩ | ⟨event, shared, -, happened, rfl⟩
  · exact exclusive.start
  · exact exclusive.performed consistent remembers running (perform_cases performed)
  · exact exclusive.happened happened

end Exclusive

end ActorServices.Environment
