import ActorServices.ServerModel

set_option autoImplicit false

namespace ActorServices.Server

variable {A : Type}

/-- When the accept loop goes on by itself: at once at its top and where it sees the signal,
and otherwise when its timer goes off. The runtime is taken to be punctual. -/
def State.due (config : Config) (state : State A) : Option Nat :=
  match state.accept with
  | .top => some state.clock
  | .acquiring | .accepting =>
      if state.flag ∨ state.flagClosed then some state.clock else none
  | .sleeping wake => some wake
  | .draining since => some (since + config.shutdownGrace)
  | .returned _ _ => none

/-- The server with the time at which the signal was given. -/
structure Stopping (A : Type) where
  server : State A
  signalled : Option Nat

def Stopping.start (config : Config) : Stopping A := ⟨.start config, none⟩

def Stopping.noted (before : Stopping A) : Event A → Option Nat
  | .shutdown => some (before.signalled.getD before.server.clock)
  | _ => before.signalled

/-- Time does not pass beyond what the loop does by itself. -/
def Stopping.mayPass (config : Config) (before : Stopping A) : Event A → Bool
  | .elapse millis =>
      match before.server.due config with
      | some due => decide (before.server.clock + millis ≤ due)
      | none => true
  | _ => true

def Stopping.step (config : Config) (before : Stopping A) (event : Event A) :
    Option (Stopping A) :=
  if before.mayPass config event then
    (Server.step config before.server event).map fun server => ⟨server, before.noted event⟩
  else none

/-- What the loop still does by itself after the signal. -/
def State.finish (config : Config) (state : State A) : List (Event A) :=
  match state.accept with
  | .top => [.check, .elapse config.shutdownGrace, .timedOut]
  | .acquiring | .accepting => [.stop, .elapse config.shutdownGrace, .timedOut]
  | .sleeping wake =>
      [.elapse (wake - state.clock), .wake, .check, .elapse config.shutdownGrace, .timedOut]
  | .draining since => [.elapse (since + config.shutdownGrace - state.clock), .timedOut]
  | .returned _ _ => []

def State.hasReturned (state : State A) : Bool :=
  match state.accept with
  | .returned _ _ => true
  | _ => false

/-- Where the clock is, by where the loop is. `limit` is the time of the signal, or the
clock as long as there is none. -/
def State.InTime (config : Config) (state : State A) (limit : Nat) : Prop :=
  match state.accept with
  | .top => state.clock ≤ limit + 50
  | .acquiring | .accepting => state.clock ≤ limit
  | .sleeping wake => state.clock ≤ wake ∧ wake ≤ limit + 50
  | .draining since => since ≤ limit + 50 ∧ state.clock ≤ since + config.shutdownGrace
  | .returned _ at_ => at_ ≤ limit + 50 + config.shutdownGrace

/-- The flag is set exactly when the signal was given, and the clock is in time. -/
structure Stopping.Sound (config : Config) (stopping : Stopping A) : Prop where
  signalled : stopping.server.flag = stopping.signalled.isSome
  past : ∀ at_, stopping.signalled = some at_ → at_ ≤ stopping.server.clock
  inTime : stopping.server.InTime config (stopping.signalled.getD stopping.server.clock)

section Steps

variable {config : Config} {before after : Stopping A} {state next : State A}

/-- A later limit leaves the clock in time. -/
theorem State.InTime.later {limit later : Nat} (inTime : state.InTime config limit)
    (grown : limit ≤ later) : state.InTime config later := by
  unfold State.InTime at inTime ⊢
  cases place : state.accept <;> rw [place] at inTime <;> dsimp only at inTime ⊢ <;> omega

/-- Time passes up to what is due. -/
theorem inTime_elapse {millis limit : Nat} (inTime : state.InTime config limit)
    (within : ∀ due, state.due config = some due → state.clock + millis ≤ due)
    (passed : state.due config = none → state.clock + millis ≤ limit ∨ state.hasReturned) :
    State.InTime config { state with clock := state.clock + millis } limit := by
  unfold State.InTime at inTime ⊢
  unfold State.due at within passed
  unfold State.hasReturned at passed
  cases place : state.accept with
  | top =>
      rw [place] at inTime within
      have still := within state.clock rfl
      dsimp only at inTime ⊢
      omega
  | acquiring =>
      rw [place] at inTime within passed
      dsimp only at inTime within passed ⊢
      split at within
      · have still := within state.clock rfl
        omega
      · rename_i running
        rw [if_neg running] at passed
        exact (passed rfl).resolve_right nofun
  | accepting =>
      rw [place] at inTime within passed
      dsimp only at inTime within passed ⊢
      split at within
      · have still := within state.clock rfl
        omega
      · rename_i running
        rw [if_neg running] at passed
        exact (passed rfl).resolve_right nofun
  | sleeping wake =>
      rw [place] at inTime within
      exact ⟨within wake rfl, inTime.2⟩
  | draining since =>
      rw [place] at inTime within
      exact ⟨inTime.1, within _ rfl⟩
  | returned since at_ =>
      rw [place] at inTime
      exact inTime

/-- A step that leaves the clock and the loop alone. -/
theorem inTime_apart {limit : Nat} (inTime : state.InTime config limit)
    (accept : next.accept = state.accept) (clock : next.clock = state.clock) :
    next.InTime config limit := by
  unfold State.InTime at inTime ⊢
  rw [accept, clock]
  exact inTime

theorem move_apart {conn : Nat} {old new : Stage}
    {post : Task A → Mailbox (Cmd A) → Mailbox (Cmd A)}
    (taken : state.move conn old new post = some next) :
    next.accept = state.accept ∧ next.clock = state.clock ∧ next.flag = state.flag := by
  obtain ⟨task, found, stage, rfl⟩ := move_some taken
  exact ⟨rfl, rfl, rfl⟩

theorem handle_apart (taken : state.handle = some next) :
    next.accept = state.accept ∧ next.clock = state.clock ∧ next.flag = state.flag := by
  cases handle_cases taken with
  | register id addr mailbox took moved => exact moved ▸ ⟨rfl, rfl, rfl⟩
  | deregister id mailbox took moved => exact moved ▸ ⟨rfl, rfl, rfl⟩
  | answer id mailbox task took found querying moved => exact moved ▸ ⟨rfl, rfl, rfl⟩
  | unheard id mailbox took moved => exact moved ▸ ⟨rfl, rfl, rfl⟩

/-- What a step that takes no time leaves of all this. -/
structure Kept (config : Config) (state next : State A) (limit : Nat) : Prop where
  clock : next.clock = state.clock
  flag : next.flag = state.flag
  inTime : next.InTime config limit

theorem Kept.apart {limit : Nat} (inTime : state.InTime config limit)
    (same : next.accept = state.accept ∧ next.clock = state.clock ∧ next.flag = state.flag) :
    Kept config state next limit :=
  ⟨same.2.1, same.2.2, inTime_apart inTime same.1 same.2.1⟩

/-- The steps of the accept loop, one by one. -/
theorem inTime_step {event : Event A} {limit : Nat} (inTime : state.InTime config limit)
    (running : state.flag = false → state.clock ≤ limit)
    (timeless : ∀ millis, event ≠ .elapse millis) (unsignalled : event ≠ .shutdown)
    (taken : Server.step config state event = some next) : Kept config state next limit := by
  unfold State.InTime at inTime
  cases event with
  | elapse millis => exact absurd rfl (timeless millis)
  | shutdown => exact absurd rfl unsignalled
  | closeFlag => exact Option.some.inj taken ▸ .apart inTime ⟨rfl, rfl, rfl⟩
  | check =>
      simp only [Server.step, State.check] at taken
      split at taken
      · rename_i place
        rw [place] at inTime
        cases taken
        refine ⟨rfl, rfl, ?_⟩
        cases flag : state.flag with
        | true => exact ⟨inTime, Nat.le_add_right _ _⟩
        | false => exact running flag
      · cases taken
  | stop =>
      simp only [Server.step, State.stop] at taken
      split at taken
      · split at taken
        · rename_i place
          rw [place] at inTime
          cases taken
          exact ⟨rfl, rfl, Nat.le_trans inTime (Nat.le_add_right _ _), Nat.le_add_right _ _⟩
        · rename_i place
          rw [place] at inTime
          cases taken
          exact ⟨rfl, rfl, Nat.le_trans inTime (Nat.le_add_right _ _), Nat.le_add_right _ _⟩
        · cases taken
      · cases taken
  | acquire =>
      simp only [Server.step, State.acquire] at taken
      split at taken
      · rename_i place
        rw [place.1] at inTime
        cases taken
        exact ⟨rfl, rfl, inTime⟩
      · cases taken
  | accept addr =>
      simp only [Server.step, State.acceptOk] at taken
      split at taken
      · rename_i place
        rw [place] at inTime
        cases taken
        exact ⟨rfl, rfl, Nat.le_trans inTime (Nat.le_add_right _ _)⟩
      · cases taken
  | acceptFailed =>
      simp only [Server.step, State.acceptFailed] at taken
      split at taken
      · rename_i place
        rw [place] at inTime
        cases taken
        exact ⟨rfl, rfl, Nat.le_add_right _ _, Nat.add_le_add_right inTime _⟩
      · cases taken
  | wake =>
      simp only [Server.step, State.wake] at taken
      split at taken
      · rename_i wake place
        rw [place] at inTime
        split at taken
        · cases taken
          exact ⟨rfl, rfl, Nat.le_trans inTime.1 inTime.2⟩
        · cases taken
      · cases taken
  | drained =>
      simp only [Server.step, State.drained] at taken
      split at taken
      · rename_i since place
        rw [place] at inTime
        split at taken
        · cases taken
          exact ⟨rfl, rfl, Nat.le_trans inTime.2 (Nat.add_le_add_right inTime.1 _)⟩
        · cases taken
      · cases taken
  | timedOut =>
      simp only [Server.step, State.timedOut] at taken
      split at taken
      · rename_i since place
        rw [place] at inTime
        split at taken
        · cases taken
          exact ⟨rfl, rfl, Nat.le_trans inTime.2 (Nat.add_le_add_right inTime.1 _)⟩
        · cases taken
      · cases taken
  | enter conn =>
      simp only [Server.step, State.enter] at taken
      exact .apart inTime (move_apart taken)
  | guard conn =>
      simp only [Server.step, State.guard] at taken
      exact .apart inTime (move_apart taken)
  | query conn =>
      simp only [Server.step, State.query] at taken
      exact .apart inTime (move_apart taken)
  | unguard conn =>
      simp only [Server.step, State.unguard] at taken
      exact .apart inTime (move_apart taken)
  | release conn =>
      obtain ⟨left, moved, rfl⟩ := Option.map_eq_some_iff.mp taken
      have same := move_apart moved
      exact .apart inTime ⟨same.1, same.2.1, same.2.2⟩
  | handle => exact .apart inTime (handle_apart taken)

theorem Stopping.Sound.step {event : Event A} (sound : before.Sound config)
    (taken : before.step config event = some after) : after.Sound config := by
  obtain ⟨signalled, past, inTime⟩ := sound
  unfold Stopping.step at taken
  split at taken
  · rename_i may
    obtain ⟨server, moved, rfl⟩ := Option.map_eq_some_iff.mp taken
    have limit : before.signalled.getD before.server.clock ≤ before.server.clock := by
      cases noted : before.signalled with
      | none => exact Nat.le_refl _
      | some at_ => exact past at_ noted
    by_cases timeless : ∃ millis, event = .elapse millis
    · obtain ⟨millis, rfl⟩ := timeless
      have same : { before.server with clock := before.server.clock + millis } = server :=
        Option.some.inj moved
      subst same
      have grown : before.signalled.getD before.server.clock ≤
          before.signalled.getD (before.server.clock + millis) := by
        cases before.signalled with
        | none => exact Nat.le_add_right _ _
        | some at_ => exact Nat.le_refl _
      refine ⟨signalled, fun at_ noted => Nat.le_trans (past at_ noted) (Nat.le_add_right _ _), ?_⟩
      apply inTime_elapse (inTime.later grown)
      · intro due found
        simp only [Stopping.mayPass, found, decide_eq_true_eq] at may
        exact may
      · intro none
        cases noted : before.signalled with
        | none => exact .inl (Nat.le_refl _)
        | some at_ =>
            refine .inr ?_
            rw [noted] at signalled
            unfold State.due at none
            unfold State.hasReturned
            cases place : before.server.accept <;>
              simp_all
    · by_cases shutdown : event = .shutdown
      · subst shutdown
        have same : { before.server with flag := true } = server := Option.some.inj moved
        subst same
        refine ⟨rfl, ?_, ?_⟩
        · intro at_ noted
          exact Option.some.inj noted ▸ limit
        · exact inTime_apart inTime rfl rfl
      · have noted : before.noted event = before.signalled := by
          cases event with
          | shutdown => exact absurd rfl shutdown
          | _ => rfl
        have running : before.server.flag = false →
            before.server.clock ≤ before.signalled.getD before.server.clock := by
          intro flag
          rw [signalled] at flag
          cases none : before.signalled with
          | none => exact Nat.le_refl _
          | some at_ =>
              rw [none] at flag
              cases flag
        have kept := inTime_step inTime running (fun millis same => timeless ⟨millis, same⟩)
          shutdown moved
        refine ⟨?_, ?_, ?_⟩
        · show server.flag = _
          rw [kept.flag, noted]
          exact signalled
        · show ∀ at_, before.noted event = some at_ → at_ ≤ server.clock
          rw [kept.clock, noted]
          exact past
        · show server.InTime config ((before.noted event).getD server.clock)
          rw [kept.clock, noted]
          exact kept.inTime
  · cases taken

theorem Stopping.Sound.start (config : Config) :
    (Stopping.start config : Stopping A).Sound config where
  signalled := rfl
  past := nofun
  inTime := Nat.le_add_right _ _

end Steps

section Return

variable (config : Config) (stopping : Stopping A)

/-- The grace is over. -/
theorem drain_returns (since : Nat) (draining : stopping.server.accept = .draining since)
    (within : stopping.server.clock ≤ since + config.shutdownGrace) :
    ∃ after, Trace.run (Stopping.step config) stopping
        [.elapse (since + config.shutdownGrace - stopping.server.clock), .timedOut] = some after ∧
      after.server.hasReturned = true := by
  have passed : stopping.server.clock + (since + config.shutdownGrace - stopping.server.clock) =
      since + config.shutdownGrace := Nat.add_sub_cancel' within
  refine ⟨⟨{ stopping.server with
    clock := since + config.shutdownGrace
    accept := .returned since (since + config.shutdownGrace) }, stopping.signalled⟩, ?_, rfl⟩
  simp [Trace.run, Stopping.step, Stopping.mayPass, State.due, draining, passed, Server.step,
    State.timedOut, Stopping.noted]

/-- The loop sees the flag at its top. -/
theorem check_returns (top : stopping.server.accept = .top) (flag : stopping.server.flag = true) :
    ∃ after, Trace.run (Stopping.step config) stopping
        [.check, .elapse config.shutdownGrace, .timedOut] = some after ∧
      after.server.hasReturned = true := by
  let draining : Stopping A :=
    ⟨{ stopping.server with accept := .draining stopping.server.clock }, stopping.signalled⟩
  obtain ⟨after, ran, returned⟩ := drain_returns config draining stopping.server.clock rfl
    (Nat.le_add_right _ _)
  have first : Stopping.step config stopping .check = some draining := by
    simp [Stopping.step, Stopping.mayPass, Server.step, State.check, top, flag, Stopping.noted,
      draining]
  refine ⟨after, ?_, returned⟩
  have whole : draining.server.clock = stopping.server.clock := rfl
  rw [whole, Nat.add_sub_cancel_left] at ran
  rw [Trace.run, first]
  exact ran

/-- The loop sees the signal where it waits for a permit or a connection. -/
theorem stop_returns (place : stopping.server.accept = .acquiring ∨
      stopping.server.accept = .accepting) (flag : stopping.server.flag = true) :
    ∃ after, Trace.run (Stopping.step config) stopping
        [.stop, .elapse config.shutdownGrace, .timedOut] = some after ∧
      after.server.hasReturned = true := by
  have first : ∃ draining : Stopping A, Stopping.step config stopping .stop = some draining ∧
      draining.server.accept = .draining stopping.server.clock ∧
      draining.server.clock = stopping.server.clock := by
    rcases place with place | place
    · refine ⟨⟨{ stopping.server with accept := .draining stopping.server.clock },
        stopping.signalled⟩, ?_, rfl, rfl⟩
      simp [Stopping.step, Stopping.mayPass, Server.step, State.stop, place, flag, Stopping.noted]
    · refine ⟨⟨{ stopping.server with
          accept := .draining stopping.server.clock
          available := stopping.server.available + 1 }, stopping.signalled⟩, ?_, rfl, rfl⟩
      simp [Stopping.step, Stopping.mayPass, Server.step, State.stop, place, flag, Stopping.noted]
  obtain ⟨draining, stopped, accept, clock⟩ := first
  have within : draining.server.clock ≤ stopping.server.clock + config.shutdownGrace :=
    clock ▸ Nat.le_add_right _ _
  obtain ⟨after, ran, returned⟩ := drain_returns config draining _ accept within
  refine ⟨after, ?_, returned⟩
  rw [clock, Nat.add_sub_cancel_left] at ran
  rw [Trace.run, stopped]
  exact ran

/-- The loop backs off, and sees the flag after that. -/
theorem wake_returns (wake : Nat) (place : stopping.server.accept = .sleeping wake)
    (flag : stopping.server.flag = true) (within : stopping.server.clock ≤ wake) :
    ∃ after, Trace.run (Stopping.step config) stopping
        [.elapse (wake - stopping.server.clock), .wake, .check, .elapse config.shutdownGrace,
          .timedOut] = some after ∧
      after.server.hasReturned = true := by
  have passed : stopping.server.clock + (wake - stopping.server.clock) = wake :=
    Nat.add_sub_cancel' within
  let slept : Stopping A := ⟨{ stopping.server with clock := wake }, stopping.signalled⟩
  let awake : Stopping A :=
    ⟨{ stopping.server with clock := wake, accept := .top }, stopping.signalled⟩
  have first : Stopping.step config stopping (.elapse (wake - stopping.server.clock)) =
      some slept := by
    simp [Stopping.step, Stopping.mayPass, State.due, place, passed, Server.step, Stopping.noted,
      slept]
  have second : Stopping.step config slept .wake = some awake := by
    simp [Stopping.step, Stopping.mayPass, Server.step, State.wake, place, Stopping.noted, slept,
      awake]
  obtain ⟨after, ran, returned⟩ := check_returns config awake rfl flag
  refine ⟨after, ?_, returned⟩
  rw [Trace.run, first, Option.bind_some, Trace.run, second]
  exact ran

theorem finish_returns (flag : stopping.server.flag = true) (sound : stopping.Sound config) :
    ∃ after, Trace.run (Stopping.step config) stopping (stopping.server.finish config) =
        some after ∧
      after.server.hasReturned = true := by
  have inTime := sound.inTime
  unfold State.InTime at inTime
  unfold State.finish
  cases place : stopping.server.accept with
  | top => exact check_returns config stopping place flag
  | acquiring => exact stop_returns config stopping (.inl place) flag
  | accepting => exact stop_returns config stopping (.inr place) flag
  | sleeping wake =>
      rw [place] at inTime
      exact wake_returns config stopping wake place flag inTime.1
  | draining since =>
      rw [place] at inTime
      exact drain_returns config stopping since place inTime.2
  | returned since at_ =>
      refine ⟨stopping, rfl, ?_⟩
      unfold State.hasReturned
      rw [place]

end Return

/-- However its connections behave, `run` returns within the grace and the back-off of one
failed `accept` after the signal; and at any time until then it needs nothing but its own
steps to do so. -/
theorem shutdown_in_time (config : Config) {events : List (Event A)} {stopping : Stopping A}
    (ran : Trace.run (Stopping.step config) (.start config) events = some stopping) {at_ : Nat}
    (signalled : stopping.signalled = some at_) :
    (stopping.server.hasReturned = false →
        stopping.server.clock ≤ at_ + 50 + config.shutdownGrace) ∧
      (∀ since returned, stopping.server.accept = .returned since returned →
        returned ≤ at_ + 50 + config.shutdownGrace) ∧
      ∃ after, Trace.run (Stopping.step config) stopping (stopping.server.finish config) =
          some after ∧
        after.server.hasReturned = true := by
  have sound : stopping.Sound config := Trace.run_preserves (Stopping.Sound config)
    (fun _ _ _ held taken => held.step taken) (.start config) ran
  have flag : stopping.server.flag = true := by rw [sound.signalled, signalled]; rfl
  have inTime := sound.inTime
  rw [signalled] at inTime
  unfold State.InTime at inTime
  refine ⟨?_, ?_, finish_returns config stopping flag sound⟩
  · intro still
    unfold State.hasReturned at still
    cases place : stopping.server.accept with
    | returned since returned =>
        rw [place] at still
        cases still
    | _ =>
        rw [place] at inTime
        dsimp only [Option.getD] at inTime
        omega
  · intro since returned place
    rw [place] at inTime
    exact inTime

/-- `accept` has just failed when the signal comes, and a connection stays. -/
def stopEvents : List (Event String) :=
  [.check, .acquire, .accept "127.0.0.1:50000", .enter 0, .guard 0, .check, .acquire, .elapse 7,
    .acceptFailed, .shutdown, .elapse 50, .wake, .check, .elapse 9000]

theorem shutdown_in_time_failing : ∃ stopping : Stopping String,
    Trace.run (Stopping.step ⟨2, 10000, by decide⟩) (.start ⟨2, 10000, by decide⟩) stopEvents =
        some stopping ∧
      stopping.signalled = some 7 ∧ stopping.server.clock = 9057 ∧
      (stopping.server.hasReturned = false → stopping.server.clock ≤ 7 + 50 + 10000) ∧
      (∀ since returned, stopping.server.accept = .returned since returned →
        returned ≤ 7 + 50 + 10000) ∧
      ∃ after, Trace.run (Stopping.step ⟨2, 10000, by decide⟩) stopping
          (stopping.server.finish ⟨2, 10000, by decide⟩) = some after ∧
        after.server.hasReturned = true := by
  have draining : (Trace.run (Stopping.step ⟨2, 10000, by decide⟩) (.start ⟨2, 10000, by decide⟩)
      stopEvents).map (fun stopping => (stopping.signalled, stopping.server.clock)) =
      some (some 7, 9057) := by
    decide +kernel
  obtain ⟨stopping, ran, shown⟩ := Option.map_eq_some_iff.mp draining
  have signalled : stopping.signalled = some 7 := congrArg Prod.fst shown
  exact ⟨stopping, ran, signalled, congrArg Prod.snd shown,
    shutdown_in_time ⟨2, 10000, by decide⟩ ran signalled⟩

end ActorServices.Server
