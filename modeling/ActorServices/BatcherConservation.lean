import ActorServices.Batcher

set_option autoImplicit false

namespace ActorServices.Batcher

variable {C : Type} {config : Config C} {state after : State C}

def State.pendingOf (config : Config C) (state : State C) (code : C) : Nat :=
  (state.pending.lookup (config.text code)).getD 0

theorem empty_pendingOf (config : Config C) (drained : state.pending.entries.isEmpty = true)
    (code : C) : state.pendingOf config code = 0 := by
  have empty : state.pending = ∅ := AList.ext (List.isEmpty_iff.mp drained)
  rw [State.pendingOf, empty, AList.lookup_empty, Option.getD_none]

theorem cap_pos : 0 < config.cap := by
  have least : 1 ≤ config.cap := Nat.le_max_right config.maxPending 1
  omega

/-- A step writes one count to the repository, or none. -/
theorem step_issued {event : Event C} (taken : step config state event = some after) :
    after.issued = state.issued ∨
      ∃ code n, after.issued = state.issued ++ [(code, n)] := by
  cases step_turn taken with
  | issue key n next flushing present moved => exact .inr ⟨_, n, by rw [moved]⟩
  | lost moved => exact .inl (by rw [moved])
  | accept code opened moved => exact .inl (by rw [moved])
  | call opened moved => exact .inl (by rw [moved])
  | progress call old new present moves moved => exact .inl (by rw [moved])
  | enqueue call reserved moved => exact .inl (by rw [moved])
  | close idle moved => exact .inl (by rw [moved])
  | count code channel task waiting queued full moved => exact .inl (by rw [moved])
  | asked ack channel waiting queued moved => exact .inl (by rw [moved])
  | leave waiting queued closed moved => exact .inl (by rw [moved])
  | tick waiting moved => exact .inl (by rw [moved])
  | proceed flushing drained moved => exact .inl (by rw [moved])
  | answer ack flushing drained moved => exact .inl (by rw [moved])
  | exit flushing drained moved => exact .inl (by rw [moved])

/-- Only `record` has a hit accepted. -/
theorem step_accepted {event : Event C} (silent : ∀ code, event ≠ .record code)
    (taken : step config state event = some after) : after.accepted = state.accepted := by
  cases event with
  | record code => exact absurd rfl (silent code)
  | flush => grind [step, State.flush]
  | reserve call => grind [step, State.reserve]
  | enqueue call => grind [step, State.enqueue]
  | resume call => grind [step, State.resume]
  | cancel call => grind [step, State.cancel]
  | close => grind [step, State.close]
  | recv => grind [step, State.recv]
  | tick => grind [step, State.tick]
  | issue key => grind [step, State.issue]
  | finish => grind [step, State.finish]

section Accounts

variable [DecidableEq C]

/-- The sum of `n` over the `increment_by` calls issued for the code. -/
def State.issuedTo (state : State C) (code : C) : Nat :=
  (state.issued.map fun write => if write.1 = code then write.2 else 0).sum

def State.queuedOf (state : State C) (code : C) : Nat := state.channel.count (.hit code)

def State.acceptedOf (state : State C) (code : C) : Nat := state.accepted.count code

/-- What the task has counted for the code since it was spawned. -/
def State.handledOf (config : Config C) (state : State C) (code : C) : Nat :=
  state.issuedTo code + state.pendingOf config code

/-- Taking a hit off the channel counts it, and no other code. -/
theorem counted_pendingOf (config : Config C) (state : State C) (code other : C) :
    ((state.counted config code).lookup (config.text other)).getD 0 =
      state.pendingOf config other + if code = other then 1 else 0 := by
  by_cases same : code = other
  · subst same
    simp only [State.counted, AList.lookup_insert, State.pendingOf, Option.getD_some, ↓reduceIte]
  · have apart : config.text other ≠ config.text code :=
      fun equal => same (config.text.injective equal).symm
    simp only [State.counted, AList.lookup_insert_ne apart, State.pendingOf, same, ↓reduceIte,
      Nat.add_zero]

/-- Issuing moves the whole pending count of one code. -/
theorem issue_handledOf (config : Config C) {key : String} {n : Nat}
    (present : state.pending.lookup key = some n) (code : C) :
    State.handledOf config { state with
      pending := state.pending.erase key
      issued := state.issued ++ [(config.text.symm key, n)] } code =
      state.handledOf config code := by
  have write : State.issuedTo { state with
      pending := state.pending.erase key
      issued := state.issued ++ [(config.text.symm key, n)] } code =
      state.issuedTo code + if config.text.symm key = code then n else 0 := by
    simp only [State.issuedTo, List.map_append, List.sum_append, List.map_cons, List.map_nil,
      List.sum_cons, List.sum_nil, Nat.add_zero]
  rw [State.handledOf, write, State.handledOf]
  by_cases same : config.text.symm key = code
  · have named : config.text code = key := by rw [← same, Equiv.apply_symm_apply]
    subst named
    simp only [State.pendingOf, AList.lookup_erase, present, same, ↓reduceIte,
      Option.getD_none, Option.getD_some, Nat.add_zero]
  · have apart : config.text code ≠ key := by
      intro equal
      apply same
      rw [← equal, Equiv.symm_apply_apply]
    simp only [State.pendingOf, AList.lookup_erase_ne apart, same, ↓reduceIte, Nat.add_zero]

/-- The accounts of the batcher: no hit is lost or counted twice. -/
structure Balanced (config : Config C) (state : State C) : Prop where
  conserved : ∀ code, state.acceptedOf code =
    state.issuedTo code + state.pendingOf config code + state.queuedOf code
  positive : ∀ key n, state.pending.lookup key = some n → 1 ≤ n
  bounded : state.task = .waiting → state.pending.entries.length < config.cap

theorem Balanced.start : Balanced config .start where
  conserved _ := rfl
  positive _ _ present := nomatch present
  bounded _ := cap_pos

/-- Flush calls and senders are in no account. -/
theorem Balanced.calls (balanced : Balanced config state) (calls : List FlushCall)
    (closed : Bool) : Balanced config { state with calls, closed } :=
  ⟨balanced.conserved, balanced.positive, balanced.bounded⟩

/-- The task turns to something else. -/
theorem Balanced.turn (balanced : Balanced config state) (task : Task)
    (few : task = .waiting → state.pending.entries.length < config.cap) :
    Balanced config { state with task } :=
  ⟨balanced.conserved, balanced.positive, few⟩

theorem Balanced.accept (balanced : Balanced config state) (code : C) :
    Balanced config { state with
      channel := state.channel ++ [.hit code]
      accepted := state.accepted ++ [code] } := by
  refine ⟨?_, balanced.positive, balanced.bounded⟩
  intro other
  have before := balanced.conserved other
  simp only [State.acceptedOf, State.queuedOf, State.issuedTo, State.pendingOf,
    List.count_append, List.count_singleton, beq_iff_eq, Msg.hit.injEq] at before ⊢
  omega

/-- A message that is no hit changes no account. -/
theorem Balanced.enqueue (balanced : Balanced config state) (call : Nat) :
    Balanced config { state with channel := state.channel ++ [.flush call] } := by
  refine ⟨?_, balanced.positive, balanced.bounded⟩
  intro code
  have before := balanced.conserved code
  have quiet : (state.channel ++ [Msg.flush call]).count (Msg.hit code) =
      state.channel.count (Msg.hit code) := by
    simp [List.count_append]
  simp only [State.acceptedOf, State.queuedOf, State.issuedTo, State.pendingOf, quiet]
    at before ⊢
  exact before

theorem Balanced.asked (balanced : Balanced config state) {ack : Nat} {channel : List (Msg C)}
    (queued : state.channel = .flush ack :: channel) :
    Balanced config { state with channel, task := .flushing (.acknowledge ack) } := by
  refine ⟨?_, balanced.positive, nofun⟩
  intro code
  have before := balanced.conserved code
  simp only [State.queuedOf, queued, List.count_cons] at before
  exact before

theorem Balanced.count (balanced : Balanced config state) {code : C} {channel : List (Msg C)}
    {task : Task} (queued : state.channel = .hit code :: channel)
    (full : task = if config.cap ≤ (state.counted config code).entries.length then
      .flushing .proceed else .waiting) :
    Balanced config { state with channel, pending := state.counted config code, task } := by
  refine ⟨?_, ?_, ?_⟩
  · intro other
    have before := balanced.conserved other
    have moved := counted_pendingOf config state code other
    simp only [State.acceptedOf, State.queuedOf, State.issuedTo, State.pendingOf, queued,
      List.count_cons, beq_iff_eq, Msg.hit.injEq] at before moved ⊢
    omega
  · intro key n present
    by_cases same : key = config.text code
    · rw [same, State.counted, AList.lookup_insert] at present
      cases present
      omega
    · rw [State.counted, AList.lookup_insert_ne same] at present
      exact balanced.positive key n present
  · intro waits
    dsimp only at waits
    by_cases enough : config.cap ≤ (state.counted config code).entries.length
    · rw [full, if_pos enough] at waits
      cases waits
    · exact Nat.lt_of_not_le enough

theorem Balanced.issue (balanced : Balanced config state) {key : String} {n : Nat} {next : After}
    (flushing : state.task = .flushing next) (present : state.pending.lookup key = some n) :
    Balanced config { state with
      pending := state.pending.erase key
      issued := state.issued ++ [(config.text.symm key, n)] } := by
  refine ⟨?_, ?_, ?_⟩
  · intro code
    have moved := issue_handledOf config present code
    have before := balanced.conserved code
    simp only [State.handledOf, State.acceptedOf, State.queuedOf] at before moved ⊢
    omega
  · intro other m kept
    by_cases same : other = key
    · rw [same, AList.lookup_erase] at kept
      cases kept
    · rw [AList.lookup_erase_ne same] at kept
      exact balanced.positive other m kept
  · intro waits
    rw [flushing] at waits
    cases waits

theorem Balanced.step (balanced : Balanced config state) {event : Event C}
    (taken : step config state event = some after) : Balanced config after := by
  have empty : state.pending.entries.isEmpty = true →
      state.pending.entries.length < config.cap := by
    intro drained
    rw [List.isEmpty_iff.mp drained]
    exact cap_pos
  cases step_turn taken with
  | lost moved => exact moved ▸ balanced
  | accept code opened moved => exact moved ▸ balanced.accept code
  | call opened moved => exact moved ▸ balanced.calls _ _
  | progress call old new present moves moved => exact moved ▸ balanced.calls _ _
  | enqueue call reserved moved => exact moved ▸ (balanced.enqueue call).calls _ _
  | close idle moved => exact moved ▸ balanced.calls _ _
  | count code channel task waiting queued full moved => exact moved ▸ balanced.count queued full
  | asked ack channel waiting queued moved => exact moved ▸ balanced.asked queued
  | leave waiting queued closed moved => exact moved ▸ balanced.turn _ nofun
  | tick waiting moved => exact moved ▸ balanced.turn _ nofun
  | issue key n next flushing present moved => exact moved ▸ balanced.issue flushing present
  | proceed flushing drained moved => exact moved ▸ balanced.turn _ fun _ => empty drained
  | answer ack flushing drained moved =>
      exact moved ▸ (balanced.turn .waiting fun _ => empty drained).calls _ _
  | exit flushing drained moved => exact moved ▸ balanced.turn _ nofun

end Accounts

end ActorServices.Batcher
