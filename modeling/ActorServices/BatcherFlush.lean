import ActorServices.BatcherConservation
import ActorServices.BatcherLifecycle

set_option autoImplicit false

namespace ActorServices.Batcher

variable {C : Type} [DecidableEq C] {config : Config C} {state after : State C}
  {base : C → Nat} {ack : Nat}

/-- The flush call `ack` is yet to be acknowledged, and the hits of `base` are
ahead of it: counted, or in front of its message. -/
inductive Ahead (config : Config C) (base : C → Nat) (ack : Nat) (state : State C) : Prop
  | queued (front back : List (Msg C)) (channel : state.channel = front ++ .flush ack :: back)
      (first : .flush ack ∉ front) (task : state.task ≠ .flushing (.acknowledge ack))
      (ahead : ∀ code, base code ≤ state.handledOf config code + front.count (.hit code))
  | flushing (task : state.task = .flushing (.acknowledge ack))
      (ahead : ∀ code, base code ≤ state.handledOf config code)

/-- How the hits accepted before a flush call began, `base`, come to be issued. -/
structure Awaited (config : Config C) (base : C → Nat) (ack : Nat) (state : State C) : Prop where
  accepted : ∀ code, base code ≤ state.acceptedOf code
  sent : state.calls[ack]? = some .sent → Ahead config base ack state
  acknowledged : state.calls[ack]? = some .acknowledged ∨
    state.calls[ack]? = some (.returned true) → ∀ code, base code ≤ state.issuedTo code

/-- The step is not about the call, the accounts or a message. -/
theorem Awaited.calls (awaited : Awaited config base ack state) (calls : List FlushCall)
    (sent : calls[ack]? = some .sent → state.calls[ack]? = some .sent)
    (acknowledged : calls[ack]? = some .acknowledged ∨ calls[ack]? = some (.returned true) →
      state.calls[ack]? = some .acknowledged ∨ state.calls[ack]? = some (.returned true)) :
    Awaited config base ack { state with calls } where
  accepted := awaited.accepted
  sent waits := by
    rcases awaited.sent (sent waits) with ⟨front, back, channel, first, task, ahead⟩ |
      ⟨task, ahead⟩
    · exact .queued front back channel first task ahead
    · exact .flushing task ahead
  acknowledged done := awaited.acknowledged (acknowledged done)

/-- Moving one call on says nothing new of another. -/
theorem set_progress {calls : List FlushCall} (call : Nat) (new : FlushCall)
    {progress : FlushCall} (other : new ≠ progress)
    (found : (calls.set call new)[ack]? = some progress) : calls[ack]? = some progress := by
  by_cases same : call = ack
  · subst same
    rw [List.getElem?_set] at found
    split at found
    · split at found <;> cases found
      exact absurd rfl other
    · exact found
  · rwa [List.getElem?_set_ne same] at found

/-- A call that is neither sent nor acknowledged by this. -/
theorem Awaited.set (awaited : Awaited config base ack state) (call : Nat) (new : FlushCall)
    (sent : new ≠ .sent) (acknowledged : new ≠ .acknowledged) (returned : new ≠ .returned true) :
    Awaited config base ack { state with calls := state.calls.set call new } :=
  awaited.calls _ (set_progress call new sent) fun done =>
    done.imp (set_progress call new acknowledged) (set_progress call new returned)

theorem Awaited.progress (awaited : Awaited config base ack state) {call : Nat}
    {old new : FlushCall} (present : state.calls[call]? = some old) (moves : old.Moves new) :
    Awaited config base ack { state with calls := state.calls.set call new } := by
  cases moves with
  | reserve => exact awaited.set call _ nofun nofun nofun
  | refused => exact awaited.set call _ nofun nofun nofun
  | abandoned => exact awaited.set call _ nofun nofun nofun
  | cancel progress active => exact awaited.set call _ nofun nofun nofun
  | answered =>
      apply awaited.calls _ (set_progress call (.returned true) nofun)
      intro done
      by_cases same : call = ack
      · subst same
        exact Or.inl present
      · rwa [List.getElem?_set_ne same] at done

theorem Awaited.accept (awaited : Awaited config base ack state) (code : C) :
    Awaited config base ack { state with
      channel := state.channel ++ [.hit code]
      accepted := state.accepted ++ [code] } := by
  refine ⟨?_, ?_, awaited.acknowledged⟩
  · intro other
    have before := awaited.accepted other
    simp only [State.acceptedOf, List.count_append] at before ⊢
    omega
  · intro waits
    rcases awaited.sent waits with ⟨front, back, channel, first, task, ahead⟩ | ⟨task, ahead⟩
    · refine .queued front (back ++ [.hit code]) ?_ first task ahead
      simp [channel]
    · exact .flushing task ahead

theorem Awaited.call (awaited : Awaited config base ack state) :
    Awaited config base ack { state with calls := state.calls ++ [.sending] } := by
  have kept : ∀ progress, progress ≠ .sending →
      (state.calls ++ [.sending])[ack]? = some progress → state.calls[ack]? = some progress := by
    intro progress other found
    by_cases bound : ack < state.calls.length
    · rwa [List.getElem?_append_left bound] at found
    · rw [List.getElem?_append_right (by omega)] at found
      have same := List.mem_of_getElem? found
      rw [List.mem_singleton] at same
      exact absurd same other
  exact awaited.calls _ (kept .sent nofun) fun done =>
    done.imp (kept .acknowledged nofun) (kept (.returned true) nofun)

/-- The message goes behind all hits that the channel took before. -/
theorem Awaited.enqueue (awaited : Awaited config base ack state)
    (balanced : Balanced config state) (orderly : Orderly state) {call : Nat}
    (reserved : state.calls[call]? = some .reserved) :
    Awaited config base ack { state with
      channel := state.channel ++ [.flush call]
      calls := state.calls.set call .sent } := by
  refine ⟨awaited.accepted, ?_, ?_⟩
  · intro waits
    by_cases same : call = ack
    · subst same
      have fresh : ¬ (.flush call ∈ state.channel ∨
          state.task = .flushing (.acknowledge call)) := by
        intro posted
        obtain ⟨progress, found, past⟩ := orderly.posted call posted
        rw [reserved] at found
        cases found
        cases past
      refine .queued state.channel [] rfl (fun queued => fresh (Or.inl queued))
        (fun flushing => fresh (Or.inr flushing)) ?_
      intro code
      have accepted := awaited.accepted code
      rw [balanced.conserved code] at accepted
      exact accepted
    · rw [List.getElem?_set_ne same] at waits
      rcases awaited.sent waits with ⟨front, back, channel, first, task, ahead⟩ | ⟨task, ahead⟩
      · refine .queued front (back ++ [.flush call]) ?_ first task ahead
        simp [channel]
      · exact .flushing task ahead
  · intro done
    exact awaited.acknowledged
      (done.imp (set_progress call .sent nofun) (set_progress call .sent nofun))

theorem Awaited.close (awaited : Awaited config base ack state) :
    Awaited config base ack { state with closed := true } where
  accepted := awaited.accepted
  sent waits := by
    rcases awaited.sent waits with ⟨front, back, channel, first, task, ahead⟩ | ⟨task, ahead⟩
    · exact .queued front back channel first task ahead
    · exact .flushing task ahead
  acknowledged := awaited.acknowledged

/-- While the task waits, the message of a sent call is in the channel. -/
theorem Awaited.waiting (awaited : Awaited config base ack state)
    (waiting : state.task = .waiting) (waits : state.calls[ack]? = some .sent) :
    ∃ front back, state.channel = front ++ .flush ack :: back ∧ .flush ack ∉ front ∧
      ∀ code, base code ≤ state.handledOf config code + front.count (.hit code) := by
  rcases awaited.sent waits with ⟨front, back, channel, first, -, ahead⟩ | ⟨task, -⟩
  · exact ⟨front, back, channel, first, ahead⟩
  · rw [waiting] at task
    cases task

theorem Awaited.count (awaited : Awaited config base ack state) {code : C}
    {channel : List (Msg C)} {task : Task} (waiting : state.task = .waiting)
    (queued : state.channel = .hit code :: channel)
    (full : task = if config.cap ≤ (state.counted config code).entries.length then
      .flushing .proceed else .waiting) :
    Awaited config base ack
      { state with channel, pending := state.counted config code, task } := by
  refine ⟨awaited.accepted, ?_, awaited.acknowledged⟩
  intro waits
  obtain ⟨front, back, split, first, ahead⟩ := awaited.waiting waiting waits
  rw [queued] at split
  cases front with
  | nil => cases split
  | cons head front =>
      cases split
      refine .queued front back rfl (fun member => first (List.mem_cons_of_mem _ member)) ?_ ?_
      · dsimp only
        rw [full]
        split <;> nofun
      · intro other
        have before := ahead other
        have moved := counted_pendingOf config state code other
        simp only [State.handledOf, State.issuedTo, State.pendingOf, List.count_cons,
          beq_iff_eq, Msg.hit.injEq] at before moved ⊢
        omega

theorem Awaited.asked (awaited : Awaited config base ack state) {other : Nat}
    {channel : List (Msg C)} (waiting : state.task = .waiting)
    (queued : state.channel = .flush other :: channel) :
    Awaited config base ack { state with channel, task := .flushing (.acknowledge other) } := by
  refine ⟨awaited.accepted, ?_, awaited.acknowledged⟩
  intro waits
  obtain ⟨front, back, split, first, ahead⟩ := awaited.waiting waiting waits
  rw [queued] at split
  cases front with
  | nil =>
      cases split
      exact .flushing rfl ahead
  | cons head front =>
      cases split
      have apart : ack ≠ other := by
        intro same
        exact first (by rw [same]; exact List.mem_cons_self)
      refine .queued front back rfl (fun member => first (List.mem_cons_of_mem _ member)) ?_ ?_
      · intro same
        cases same
        exact apart rfl
      · intro code
        have before := ahead code
        simp only [List.count_cons] at before
        exact before

theorem Awaited.issue (awaited : Awaited config base ack state) {key : String} {n : Nat}
    (present : state.pending.lookup key = some n) :
    Awaited config base ack { state with
      pending := state.pending.erase key
      issued := state.issued ++ [(config.text.symm key, n)] } := by
  have moved := issue_handledOf config present
  refine ⟨awaited.accepted, ?_, ?_⟩
  · intro waits
    rcases awaited.sent waits with ⟨front, back, channel, first, task, ahead⟩ | ⟨task, ahead⟩
    · refine .queued front back channel first task ?_
      intro code
      rw [moved code]
      exact ahead code
    · refine .flushing task ?_
      intro code
      rw [moved code]
      exact ahead code
  · intro done code
    have before := awaited.acknowledged done code
    simp only [State.issuedTo, List.map_append, List.sum_append] at before ⊢
    omega

/-- The task goes on to something that is not about this call. -/
theorem Awaited.rest (awaited : Awaited config base ack state) (task : Task)
    (flushing : state.task ≠ .flushing (.acknowledge ack))
    (next : task ≠ .flushing (.acknowledge ack)) :
    Awaited config base ack { state with task } where
  accepted := awaited.accepted
  sent waits := by
    rcases awaited.sent waits with ⟨front, back, channel, first, -, ahead⟩ | ⟨same, -⟩
    · exact .queued front back channel first next ahead
    · exact absurd same flushing
  acknowledged := awaited.acknowledged

/-- The acknowledgement comes when nothing is pending: all that was ahead of the
call's message has been issued. -/
theorem Awaited.answered (awaited : Awaited config base ack state)
    (flushing : state.task = .flushing (.acknowledge ack))
    (drained : state.pending.entries.isEmpty = true) :
    Awaited config base ack
      { state with task := .waiting, calls := state.acknowledge ack } := by
  by_cases sent : state.calls[ack]? = some .sent
  · have bound : ack < state.calls.length := (List.getElem?_eq_some_iff.mp sent).1
    have moved : (state.acknowledge ack)[ack]? = some .acknowledged := by
      rw [State.acknowledge, if_pos sent, List.getElem?_set_self bound]
    refine ⟨awaited.accepted, ?_, ?_⟩
    · intro waits
      rw [moved] at waits
      cases waits
    · intro done code
      rcases awaited.sent sent with ⟨front, back, channel, first, task, ahead⟩ | ⟨task, ahead⟩
      · exact absurd flushing task
      · have before := ahead code
        rwa [State.handledOf, empty_pendingOf config drained, Nat.add_zero] at before
  · have same : state.acknowledge ack = state.calls := by
      rw [State.acknowledge, if_neg sent]
    rw [same]
    exact ⟨awaited.accepted, fun waits => absurd waits sent, awaited.acknowledged⟩

theorem Awaited.answer (awaited : Awaited config base ack state) {other : Nat}
    (flushing : state.task = .flushing (.acknowledge other))
    (drained : state.pending.entries.isEmpty = true) :
    Awaited config base ack
      { state with task := .waiting, calls := state.acknowledge other } := by
  by_cases same : other = ack
  · subst same
    exact awaited.answered flushing drained
  · have apart : state.task ≠ .flushing (.acknowledge ack) := by
      rw [flushing]
      intro equal
      cases equal
      exact same rfl
    have unchanged : (state.acknowledge other)[ack]? = state.calls[ack]? := by
      unfold State.acknowledge
      split
      · exact List.getElem?_set_ne same
      · rfl
    exact (awaited.rest .waiting apart nofun).calls _ (unchanged ▸ id) (unchanged ▸ id)

theorem Awaited.step (awaited : Awaited config base ack state) (balanced : Balanced config state)
    (orderly : Orderly state) {event : Event C} (taken : step config state event = some after) :
    Awaited config base ack after := by
  cases step_turn taken with
  | lost moved => exact moved ▸ awaited
  | accept code opened moved => exact moved ▸ awaited.accept code
  | call opened moved => exact moved ▸ awaited.call
  | progress call old new present moves moved => exact moved ▸ awaited.progress present moves
  | enqueue call reserved moved => exact moved ▸ awaited.enqueue balanced orderly reserved
  | close idle moved => exact moved ▸ awaited.close
  | count code channel task waiting queued full moved =>
      exact moved ▸ awaited.count waiting queued full
  | asked other channel waiting queued moved => exact moved ▸ awaited.asked waiting queued
  | leave waiting queued closed moved =>
      exact moved ▸ awaited.rest _ (by rw [waiting]; nofun) nofun
  | tick waiting moved => exact moved ▸ awaited.rest _ (by rw [waiting]; nofun) nofun
  | issue key n next flushing present moved => exact moved ▸ awaited.issue present
  | proceed flushing drained moved =>
      exact moved ▸ awaited.rest _ (by rw [flushing]; nofun) nofun
  | answer other flushing drained moved => exact moved ▸ awaited.answer flushing drained
  | exit flushing drained moved =>
      exact moved ▸ awaited.rest _ (by rw [flushing]; nofun) nofun

/-- Every reachable state balances, and a call that has begun is awaited with
what was accepted before. -/
theorem run_sound {events : List (Event C)} (balanced : Balanced config state)
    (orderly : Orderly state) (ran : Trace.run (step config) state events = some after) :
    Balanced config after ∧ Orderly after :=
  Trace.run_preserves (fun state => Balanced config state ∧ Orderly state)
    (fun _ _ _ sound taken => ⟨sound.1.step taken, sound.2.step taken⟩) ⟨balanced, orderly⟩ ran

theorem run_awaited {events : List (Event C)} (balanced : Balanced config state)
    (orderly : Orderly state) (awaited : Awaited config base ack state)
    (ran : Trace.run (step config) state events = some after) : Awaited config base ack after :=
  (Trace.run_preserves
    (fun state => (Balanced config state ∧ Orderly state) ∧ Awaited config base ack state)
    (fun _ _ _ sound taken => ⟨⟨sound.1.1.step taken, sound.1.2.step taken⟩,
      sound.2.step sound.1.1 sound.1.2 taken⟩) ⟨⟨balanced, orderly⟩, awaited⟩ ran).2

/-- A flush call begins with everything accepted so far to wait for. -/
theorem Awaited.begin (taken : state.flush = some after) :
    Awaited config state.acceptedOf state.calls.length after := by
  unfold State.flush at taken
  split at taken <;> cases taken
  have sending : (state.calls ++ [FlushCall.sending])[state.calls.length]? = some .sending := by
    rw [List.getElem?_append_right (Nat.le_refl _), Nat.sub_self]
    rfl
  refine ⟨fun _ => Nat.le_refl _, ?_, ?_⟩
  · intro waits
    rw [sending] at waits
    cases waits
  · intro done
    rw [sending] at done
    rcases done with acknowledged | returned
    · cases acknowledged
    · cases returned

/-- What a run of the batcher has done with the accepted hits. -/
structure Accounted (config : Config C) (events : List (Event C)) (state : State C) : Prop where
  conserved : ∀ code, state.acceptedOf code =
    state.issuedTo code + state.pendingOf config code + state.queuedOf code
  positive : ∀ key n, state.pending.lookup key = some n → 1 ≤ n
  bounded : state.task = .waiting → state.pending.entries.length < max config.maxPending 1
  flushed : ∀ history rest began, events = history ++ .flush :: rest →
    Trace.run (step config) .start history = some began →
    state.calls[began.calls.length]? = some (.returned true) →
    ∀ code, began.acceptedOf code ≤ state.issuedTo code
  exited : state.task = .exited → ∀ code, state.issuedTo code = state.acceptedOf code
  once : ∀ code, state.issuedTo code ≤ state.acceptedOf code

theorem run_accounted {events : List (Event C)}
    (ran : Trace.run (step config) .start events = some state) :
    Accounted config events state := by
  have sound := run_sound .start .start ran
  refine ⟨sound.1.conserved, sound.1.positive, sound.1.bounded, ?_, ?_, ?_⟩
  · intro history rest began split reached returned
    subst split
    obtain ⟨other, same, later⟩ := Trace.run_append_some ran
    cases reached.symm.trans same
    obtain ⟨called, taken, finished⟩ := Trace.run_cons later
    obtain ⟨balanced, orderly⟩ := run_sound .start .start reached
    have awaited := run_awaited (balanced.step taken) (orderly.step taken) (.begin taken) finished
    exact awaited.acknowledged (Or.inr returned)
  · intro exited code
    have total := sound.1.conserved code
    have drained := empty_pendingOf config (sound.2.emptied exited) code
    have silent : state.queuedOf code = 0 := by
      rw [State.queuedOf, (sound.2.ended (Or.inl exited)).2, List.count_nil]
    omega
  · intro code
    have total := sound.1.conserved code
    omega

/-- Neither batcher loses a count or makes one up, whatever the callers, the
ticker and the task do and in which order. -/
theorem batchers_conserve (maxPending : Nat) :
    (∀ events state, Trace.run (step (hitBatcher maxPending)) .start events = some state →
      Accounted (hitBatcher maxPending) events state) ∧
    (∀ events state, Trace.run (step (viewBatcher maxPending)) .start events = some state →
      Accounted (viewBatcher maxPending) events state) :=
  ⟨fun _ _ ran => run_accounted ran, fun _ _ ran => run_accounted ran⟩

/-- Two hits on one code and a `flush`, of which the first hit is pending and the
second still queued when the call begins. -/
def flushedEvents : List (Event UrlShortener.ShortCode) :=
  [.record ⟨"a"⟩, .recv, .record ⟨"a"⟩, .flush, .reserve 0, .tick, .issue "a", .finish,
    .enqueue 0, .record ⟨"b"⟩, .recv, .recv, .issue "a", .finish, .resume 0]

theorem batchers_conserve_flushed : ∃ state,
    Trace.run (step (hitBatcher 2)) .start flushedEvents = some state ∧
      state.calls[0]? = some (.returned true) ∧
      Accounted (hitBatcher 2) flushedEvents state := by
  have returned : (Trace.run (step (hitBatcher 2)) .start flushedEvents).map
      (fun state => state.calls[0]?) = some (some (.returned true)) := by
    decide +kernel
  obtain ⟨state, ran, call⟩ := Option.map_eq_some_iff.mp returned
  exact ⟨state, ran, call, (batchers_conserve 2).1 flushedEvents state ran⟩

end ActorServices.Batcher
