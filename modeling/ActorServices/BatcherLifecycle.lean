import ActorServices.Batcher

set_option autoImplicit false

namespace ActorServices.Batcher

variable {C : Type} {config : Config C} {state after : State C}

/-- The message of the call is not in the channel yet. -/
def FlushCall.unsent : FlushCall → Bool
  | .sending => true
  | .reserved => true
  | _ => false

/-- The life of the task and of the flush calls: the senders go when no call is
in progress, and the task ends when the senders are gone and nothing is left. -/
structure Orderly (state : State C) : Prop where
  closed : state.closed = true → state.calls.all FlushCall.ended = true
  ended : state.task = .exited ∨ state.task = .flushing .exit →
    state.closed = true ∧ state.channel = []
  emptied : state.task = .exited → state.pending.entries.isEmpty = true
  posted : ∀ ack, .flush ack ∈ state.channel ∨ state.task = .flushing (.acknowledge ack) →
    ∃ progress, state.calls[ack]? = some progress ∧ progress.unsent = false

theorem Orderly.start : Orderly (State.start (C := C)) where
  closed := nofun
  ended := by rintro (exited | flushing) <;> contradiction
  emptied := nofun
  posted := by rintro ack (queued | flushing) <;> contradiction

/-- While a call is in progress, the senders are there. -/
theorem Orderly.opened (orderly : Orderly state) {call : Nat} {progress : FlushCall}
    (present : state.calls[call]? = some progress) (active : progress.ended = false) :
    state.closed = false := by
  by_contra closed
  have all := orderly.closed (by simpa using closed)
  have ended := List.all_eq_true.mp all progress (List.mem_of_getElem? present)
  rw [active] at ended
  cases ended

/-- A call in progress moves on. -/
theorem Orderly.set (orderly : Orderly state) {call : Nat} {old : FlushCall} (new : FlushCall)
    (present : state.calls[call]? = some old) (active : old.ended = false)
    (sent : old.unsent = true ∨ new.unsent = false) :
    Orderly { state with calls := state.calls.set call new } where
  closed := by
    intro closed
    have opened := orderly.opened present active
    exact absurd closed (by rw [opened]; simp)
  ended := orderly.ended
  emptied := orderly.emptied
  posted := by
    intro ack waits
    obtain ⟨progress, found, past⟩ := orderly.posted ack waits
    by_cases same : call = ack
    · subst same
      rcases sent with unsent | sent
      · rw [present] at found
        cases found
        rw [unsent] at past
        cases past
      · have bound : call < state.calls.length := (List.getElem?_eq_some_iff.mp present).1
        exact ⟨new, List.getElem?_set_self bound, sent⟩
    · exact ⟨progress, by rw [List.getElem?_set_ne same, found], past⟩

theorem Orderly.progress (orderly : Orderly state) {call : Nat} {old new : FlushCall}
    (present : state.calls[call]? = some old) (moves : old.Moves new) :
    Orderly { state with calls := state.calls.set call new } := by
  cases moves with
  | reserve => exact orderly.set _ present rfl (Or.inl rfl)
  | refused => exact orderly.set _ present rfl (Or.inl rfl)
  | answered => exact orderly.set _ present rfl (Or.inr rfl)
  | abandoned => exact orderly.set _ present rfl (Or.inr rfl)
  | cancel progress active => exact orderly.set _ present active (Or.inr rfl)

theorem Orderly.accept (orderly : Orderly state) (code : C) (opened : state.closed = false) :
    Orderly { state with
      channel := state.channel ++ [.hit code]
      accepted := state.accepted ++ [code] } := by
  refine ⟨orderly.closed, ?_, orderly.emptied, ?_⟩
  · intro ending
    have closed := (orderly.ended ending).1
    rw [opened] at closed
    cases closed
  · intro ack waits
    apply orderly.posted ack
    simpa using waits

theorem Orderly.call (orderly : Orderly state) (opened : state.closed = false) :
    Orderly { state with calls := state.calls ++ [.sending] } := by
  refine ⟨?_, orderly.ended, orderly.emptied, ?_⟩
  · intro closed
    dsimp only at closed
    rw [opened] at closed
    cases closed
  · intro ack waits
    obtain ⟨progress, found, past⟩ := orderly.posted ack waits
    have bound : ack < state.calls.length := (List.getElem?_eq_some_iff.mp found).1
    exact ⟨progress, by rw [List.getElem?_append_left bound, found], past⟩

theorem Orderly.enqueue (orderly : Orderly state) {call : Nat}
    (reserved : state.calls[call]? = some .reserved) :
    Orderly { state with
      channel := state.channel ++ [.flush call]
      calls := state.calls.set call .sent } := by
  have moved := orderly.set .sent reserved rfl (Or.inl rfl)
  refine ⟨moved.closed, ?_, moved.emptied, ?_⟩
  · intro ending
    have opened := orderly.opened reserved rfl
    exact absurd (orderly.ended ending).1 (by rw [opened]; simp)
  · intro ack waits
    by_cases same : ack = call
    · subst same
      have bound : ack < state.calls.length := (List.getElem?_eq_some_iff.mp reserved).1
      exact ⟨.sent, List.getElem?_set_self bound, rfl⟩
    · apply moved.posted ack
      simpa [same] using waits

theorem Orderly.close (orderly : Orderly state)
    (idle : state.calls.all FlushCall.ended = true) : Orderly { state with closed := true } where
  closed _ := idle
  ended ending := ⟨rfl, (orderly.ended ending).2⟩
  emptied := orderly.emptied
  posted := orderly.posted

/-- The task goes on, with no flush to answer that was not queued. -/
theorem Orderly.turn (orderly : Orderly state) (task : Task) (channel : List (Msg C))
    (pending : AList (fun _ : String => Nat)) (lives : task ≠ .exited)
    (stays : task ≠ .flushing .exit)
    (queued : ∀ ack, .flush ack ∈ channel ∨ task = .flushing (.acknowledge ack) →
      .flush ack ∈ state.channel) :
    Orderly { state with task, channel, pending } where
  closed := orderly.closed
  ended := by
    intro ending
    rcases ending with exited | leaving
    · exact absurd exited lives
    · exact absurd leaving stays
  emptied := fun exited => absurd exited lives
  posted := fun ack waits => orderly.posted ack (Or.inl (queued ack waits))

theorem Orderly.count (orderly : Orderly state) {code : C} {channel : List (Msg C)}
    {task : Task} (queued : state.channel = .hit code :: channel)
    (full : task = if config.cap ≤ (state.counted config code).entries.length then
      .flushing .proceed else .waiting) :
    Orderly { state with channel, pending := state.counted config code, task } := by
  have next : task = .flushing .proceed ∨ task = .waiting := by
    rw [full]
    split
    · exact Or.inl rfl
    · exact Or.inr rfl
  apply orderly.turn
  · rcases next with rfl | rfl <;> nofun
  · rcases next with rfl | rfl <;> nofun
  · intro ack waits
    rw [queued]
    rcases waits with member | flushing
    · exact List.mem_cons_of_mem _ member
    · rcases next with rfl | rfl <;> cases flushing

theorem Orderly.asked (orderly : Orderly state) {ack : Nat} {channel : List (Msg C)}
    (queued : state.channel = .flush ack :: channel) :
    Orderly { state with channel, task := .flushing (.acknowledge ack) } := by
  apply orderly.turn
  · nofun
  · nofun
  · intro other waits
    rw [queued]
    rcases waits with member | flushing
    · exact List.mem_cons_of_mem _ member
    · cases flushing
      exact List.mem_cons_self

/-- The final flush begins when the senders are gone and nothing is left. -/
theorem Orderly.leave (orderly : Orderly state) (queued : state.channel = [])
    (closed : state.closed = true) : Orderly { state with task := .flushing .exit } where
  closed := orderly.closed
  ended _ := ⟨closed, queued⟩
  emptied := nofun
  posted ack waits := orderly.posted ack (Or.inl (waits.resolve_right nofun))

theorem Orderly.issue (orderly : Orderly state) {next : After}
    (flushing : state.task = .flushing next) (pending : AList (fun _ : String => Nat))
    (issued : List (C × Nat)) : Orderly { state with pending, issued } := by
  refine ⟨orderly.closed, orderly.ended, ?_, orderly.posted⟩
  intro exited
  rw [flushing] at exited
  cases exited

theorem Orderly.answer (orderly : Orderly state) (ack : Nat) :
    Orderly { state with task := .waiting, calls := state.acknowledge ack } := by
  have waits : Orderly { state with task := .waiting } :=
    orderly.turn _ _ _ nofun nofun fun ack waits => waits.resolve_right nofun
  unfold State.acknowledge
  split
  · rename_i sent
    exact waits.set .acknowledged sent rfl (Or.inr rfl)
  · exact waits

theorem Orderly.exit (orderly : Orderly state) (flushing : state.task = .flushing .exit)
    (drained : state.pending.entries.isEmpty = true) :
    Orderly { state with task := .exited } where
  closed := orderly.closed
  ended _ := orderly.ended (Or.inr flushing)
  emptied _ := drained
  posted ack waits := orderly.posted ack (Or.inl (waits.resolve_right nofun))

theorem Orderly.step (orderly : Orderly state) {event : Event C}
    (taken : step config state event = some after) : Orderly after := by
  cases step_turn taken with
  | lost moved => exact moved ▸ orderly
  | accept code opened moved => exact moved ▸ orderly.accept code opened
  | call opened moved => exact moved ▸ orderly.call opened
  | progress call old new present moves moved => exact moved ▸ orderly.progress present moves
  | enqueue call reserved moved => exact moved ▸ orderly.enqueue reserved
  | close idle moved => exact moved ▸ orderly.close idle
  | count code channel task waiting queued full moved => exact moved ▸ orderly.count queued full
  | asked ack channel waiting queued moved => exact moved ▸ orderly.asked queued
  | leave waiting queued closed moved => exact moved ▸ orderly.leave queued closed
  | tick waiting moved =>
      exact moved ▸ orderly.turn _ _ _ nofun nofun fun ack waits => waits.resolve_right nofun
  | issue key n next flushing present moved => exact moved ▸ orderly.issue flushing _ _
  | proceed flushing drained moved =>
      exact moved ▸ orderly.turn _ _ _ nofun nofun fun ack waits => waits.resolve_right nofun
  | answer ack flushing drained moved => exact moved ▸ orderly.answer ack
  | exit flushing drained moved => exact moved ▸ orderly.exit flushing drained

end ActorServices.Batcher
