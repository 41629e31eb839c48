import ActorServices.ServiceOwnership

set_option autoImplicit false

namespace ActorServices.Environment

open Interleave

variable {K V α : Type}

/-- The row stamped so is stored under the key. -/
def Present (config : Calls K V α) (key : K) (stamp : Nat) : Prop :=
  ∃ row, config.shared.repo key = some row ∧ row.stamp = stamp

/-- The step is a `take` or a successful `delete` of the key by this call. -/
def Removes (config : Calls K V α) (label : Label Choice (Event K)) (caller : Nat) (key : K) :
    Prop :=
  ∃ choice op memory, label = .step caller choice ∧ config.Awaits caller op memory ∧
    (op = .repoTake key ∨ op = .repoDelete key ∧ choice = .done)

variable [DecidableEq K] {entity : Entity K V} {programs : Nat → UseCase K V α}
  {before after : Calls K V α} {label : Label Choice (Event K)}

/-- The same row, only counted up, or gone by somebody's removal. -/
theorem stored_after (taken : step (service entity) programs before label = some after)
    {key : K} {row : Row V} (stored : before.shared.repo key = some row) :
    (∃ n, after.shared.repo key = some ⟨entity.bump n row.value, row.stamp⟩) ∨
      (∃ caller next, ∃ memory : Memory V, Removes before label caller key ∧
        after.shared.repo key = none ∧
        after.threads caller = some ⟨next, memory.given (some row) true⟩) := by
  have kept : ∀ shared : Shared K V, shared.repo key = some row →
      ∃ n, shared.repo key = some ⟨entity.bump n row.value, row.stamp⟩ := by
    intro shared present
    exact ⟨0, by rw [present, entity.bump_zero]⟩
  rcases step_cases taken with ⟨caller, -, -, rfl⟩ | ⟨caller, choice, op, next, memory, reply,
    remembered, shared, rfl, running, performed, rfl⟩ | ⟨event, shared, -, happened, rfl⟩
  · exact Or.inl (kept _ stored)
  · cases perform_cases performed
    case inserted value free =>
      apply Or.inl
      apply kept
      rw [insert_repo, if_neg]
      · exact stored
      · intro same
        rw [← same, stored] at free
        cases free
    case took other found row' =>
      by_cases same : key = other
      · subst same
        obtain rfl := Option.some.inj (stored.symm.trans row')
        exact Or.inr ⟨caller, _, memory, ⟨choice, _, memory, rfl, ⟨next, running⟩, Or.inl rfl⟩,
          by rw [setRepo_repo, if_pos rfl], put_self _ _ _⟩
      · exact Or.inl (kept _ (by rw [setRepo_repo, if_neg same]; exact stored))
    case deleted other row' done found =>
      by_cases same : key = other
      · subst same
        obtain rfl := Option.some.inj (stored.symm.trans found)
        exact Or.inr ⟨caller, _, memory, ⟨choice, _, memory, rfl, ⟨next, running⟩,
          Or.inr ⟨rfl, done⟩⟩, by rw [setRepo_repo, if_pos rfl], put_self _ _ _⟩
      · exact Or.inl (kept _ (by rw [setRepo_repo, if_neg same]; exact stored))
    all_goals exact Or.inl (kept _ stored)
  · cases event with
    | clock now =>
        cases happened
        exact Or.inl (kept _ stored)
    | evict other =>
        cases happened
        exact Or.inl (kept _ stored)
    | increment other n =>
        cases happened
        by_cases same : key = other
        · subst same
          refine Or.inl ⟨n, ?_⟩
          rw [setRepo_repo, if_pos rfl, stored]
          rfl
        · exact Or.inl (kept _ (by rw [setRepo_repo, if_neg same]; exact stored))

theorem stored_before (taken : step (service entity) programs before label = some after)
    {key : K} {row : Row V} (stored : after.shared.repo key = some row) :
    Present before key row.stamp ∨
      (row.stamp = before.shared.made.length ∧ entity.key row.value = key ∧
        after.shared.made = before.shared.made ++ [row.value]) := by
  have kept : ∀ other, (before.shared.setRepo other none).repo key = some row →
      Present before key row.stamp := by
    intro other present
    rw [setRepo_repo] at present
    split at present
    · cases present
    · exact ⟨row, present, rfl⟩
  rcases step_cases taken with ⟨caller, -, -, rfl⟩ | ⟨caller, choice, op, next, memory, reply,
    remembered, shared, -, -, performed, rfl⟩ | ⟨event, shared, -, happened, rfl⟩
  · exact Or.inl ⟨row, stored, rfl⟩
  · cases perform_cases performed
    case inserted value free =>
      rw [insert_repo] at stored
      split at stored
      · rename_i same
        cases stored
        exact Or.inr ⟨rfl, same.symm, rfl⟩
      · exact Or.inl ⟨row, stored, rfl⟩
    case took other found row' => exact Or.inl (kept other stored)
    case deleted other row' done found => exact Or.inl (kept other stored)
    all_goals exact Or.inl ⟨row, stored, rfl⟩
  · cases event with
    | clock now =>
        cases happened
        exact Or.inl ⟨row, stored, rfl⟩
    | evict other =>
        cases happened
        exact Or.inl ⟨row, stored, rfl⟩
    | increment other n =>
        cases happened
        rw [setRepo_repo] at stored
        split at stored
        · rename_i same
          subst same
          rcases Option.map_eq_some_iff.mp stored with ⟨old, found, rfl⟩
          exact Or.inl ⟨old, found, rfl⟩
        · exact Or.inl ⟨row, stored, rfl⟩

theorem present_before (taken : step (service entity) programs before label = some after)
    {key : K} {stamp : Nat} (old : stamp < before.shared.made.length)
    (present : Present after key stamp) : Present before key stamp := by
  obtain ⟨row, stored, rfl⟩ := present
  rcases stored_before taken stored with kept | ⟨fresh, -, -⟩
  · exact kept
  · exact absurd fresh (Nat.ne_of_lt old)

theorem present_made (taken : step (service entity) programs before label = some after)
    {stamp : Nat} {value : V} (fresh : before.shared.made.length ≤ stamp)
    (made : after.shared.made[stamp]? = some value) : Present after (entity.key value) stamp := by
  have nothing : before.shared.made[stamp]? = none := List.getElem?_eq_none fresh
  rcases step_cases taken with ⟨caller, -, -, rfl⟩ | ⟨caller, choice, op, next, memory, reply,
    remembered, shared, -, -, performed, rfl⟩ | ⟨event, shared, -, happened, rfl⟩
  · exact absurd (made.symm.trans nothing) nofun
  · cases perform_cases performed
    case inserted other free =>
      have last : stamp = before.shared.made.length := by
        have bound := (List.getElem?_eq_some_iff.mp made).1
        simp only [insert_made, List.length_append, List.length_singleton] at bound
        omega
      subst last
      have same : other = value := by simpa using made
      subst same
      exact ⟨⟨other, before.shared.made.length⟩, Function.update_self _ _ _, rfl⟩
    all_goals exact absurd (made.symm.trans nothing) nofun
  · rw [happen_made happened, nothing] at made
    cases made

theorem run_present_before {labels : List (Label Choice (Event K))}
    (ran : run (service entity) programs before labels = some after) {key : K} {stamp : Nat}
    (old : stamp < before.shared.made.length) (present : Present after key stamp) :
    Present before key stamp := by
  have kept := run_induction (fun _ config => stamp < config.shared.made.length ∧
    (Present config key stamp → Present before key stamp)) ⟨old, id⟩ (by
      intro _ middle _ next _ held _ taken _ _
      exact ⟨Nat.lt_of_lt_of_le held.1 (step_made taken).length_le,
        fun present => held.2 (present_before taken held.1 present)⟩) ran
  exact kept.2 present

theorem cached_before (taken : step (service entity) programs before label = some after) {key : K}
    {entry : Entry V} (present : after.shared.cache key = some entry) :
    before.shared.cache key = some entry ∨ ∃ caller value ttl memory, label = .step caller .done ∧
      before.Awaits caller (.cacheSet key value ttl) memory ∧ entry = ⟨value, memory.held⟩ := by
  have dropped : ∀ other, (before.shared.setCache other none).cache key = some entry →
      before.shared.cache key = some entry := by
    intro other present
    rw [setCache_cache] at present
    split at present
    · cases present
    · exact present
  rcases step_cases taken with ⟨caller, -, -, rfl⟩ | ⟨caller, choice, op, next, memory, reply,
    remembered, shared, rfl, running, performed, rfl⟩ | ⟨event, shared, -, happened, rfl⟩
  · exact Or.inl present
  · cases perform_cases performed
    case set other value ttl done =>
      rw [setCache_cache] at present
      split at present
      · rename_i same
        subst same
        exact Or.inr ⟨caller, value, ttl, memory, by rw [done], ⟨next, running⟩,
          (Option.some.inj present).symm⟩
      · exact Or.inl present
    case unset other => exact Or.inl (dropped other present)
    all_goals exact Or.inl present
  · cases event with
    | clock now =>
        cases happened
        exact Or.inl present
    | evict other =>
        cases happened
        exact Or.inl (dropped other present)
    | increment other n =>
        cases happened
        exact Or.inl present

/-- Some call's next await is the invalidation of this key. -/
def Pending (config : Calls K V α) (key : K) : Prop :=
  ∃ caller memory, config.Awaits caller (.cacheDelete key) memory

/-- An invalidation stays pending until it empties the cache. -/
theorem Pending.step (taken : step (service entity) programs before label = some after)
    (succeeds : Succeeds label) {key : K} {entry : Entry V} (pending : Pending before key)
    (present : after.shared.cache key = some entry) : Pending after key := by
  obtain ⟨waiter, memory, rest, waits⟩ := pending
  have stays : ∀ (shared : Shared K V) caller thread, waiter ≠ caller →
      Pending ⟨shared, before.put caller thread⟩ key := by
    intro shared caller thread distinct
    refine ⟨waiter, memory, rest, ?_⟩
    rw [← waits]
    exact put_other before caller waiter thread distinct
  rcases step_cases taken with ⟨caller, -, idle, rfl⟩ | ⟨caller, choice, op, next, memory', reply,
    remembered, shared, rfl, running, performed, rfl⟩ | ⟨event, shared, -, happened, rfl⟩
  · apply stays
    intro same
    rw [same, idle] at waits
    cases waits
  · by_cases same : waiter = caller
    · subst same
      rw [waits] at running
      cases running
      cases perform_cases performed
      case unset =>
        rw [setCache_cache, if_pos rfl] at present
        cases present
      case unsetLost lost =>
        rw [lost] at succeeds
        exact succeeds.elim
    · exact stays shared caller _ same
  · exact ⟨waiter, memory, rest, waits⟩

def Forward (config : Calls K V α) : Label Choice (Event K) → Prop
  | .event (.clock now) => config.shared.clock ≤ now
  | _ => True

instance (config : Calls K V α) (label : Label Choice (Event K)) :
    Decidable (Forward config label) :=
  match label with
  | .event (.clock now) => inferInstanceAs (Decidable (config.shared.clock ≤ now))
  | .event (.evict _) => .isTrue trivial
  | .event (.increment _ _) => .isTrue trivial
  | .start _ => .isTrue trivial
  | .step _ _ => .isTrue trivial

theorem step_clock (taken : step (service entity) programs before label = some after)
    (forward : Forward before label) : before.shared.clock ≤ after.shared.clock := by
  rcases step_cases taken with ⟨caller, -, -, rfl⟩ | ⟨caller, choice, op, next, memory, reply,
    remembered, shared, -, -, performed, rfl⟩ | ⟨event, shared, rfl, happened, rfl⟩
  · exact Int.le_refl _
  · cases perform_cases performed <;> exact Int.le_refl _
  · cases event with
    | clock now =>
        cases happened
        exact forward
    | evict key =>
        cases happened
        exact Int.le_refl _
    | increment key n =>
        cases happened
        exact Int.le_refl _

/-- No call remembers a reading that the clock has yet to show. -/
def Timed (config : Calls K V α) : Prop :=
  ∀ caller thread now, config.threads caller = some thread → thread.memory.reading = some now →
    now ≤ config.shared.clock

theorem Timed.step (timed : Timed before) (forward : Forward before label)
    (taken : step (service entity) programs before label = some after) : Timed after := by
  intro caller thread now present reading
  have later := step_clock taken forward
  have old : ∀ other : Thread (Op K V) Op.Reply α (Memory V),
      before.threads caller = some other → other.memory.reading = some now →
      now ≤ after.shared.clock :=
    fun other here read => Int.le_trans (timed caller other now here read) later
  rcases step_cases taken with ⟨other, -, -, rfl⟩ | ⟨other, choice, op, next, memory, reply,
    remembered, shared, -, running, performed, rfl⟩ | ⟨event, shared, -, happened, rfl⟩
  · rcases put_cases present with ⟨-, rfl⟩ | ⟨-, present⟩
    · cases reading
    · exact old thread present reading
  · rcases put_cases present with ⟨rfl, rfl⟩ | ⟨-, present⟩
    · cases perform_cases performed
      case read =>
        cases reading
        exact Int.le_refl _
      all_goals exact old _ running reading
    · exact old thread present reading
  · exact old thread present reading

end ActorServices.Environment
