import ActorServices.ConnectionShutdown

set_option autoImplicit false

/- The connection with its clock: `request_timeout`, the deadline of the current request
and the time that an idle read may take. -/
namespace ActorServices.Connection

open Http

/-- `limit` is when the timer of the awaited read goes off: the end of an idle read, or the
`dl` of the request. -/
structure Timed where
  conn : State
  now : Nat
  deadline : Option Nat
  limit : Nat
  deriving DecidableEq, Repr

def Timed.start : Timed := ⟨.start, 0, none, 0⟩

inductive TimedEvent
  | wait (ticks : Nat)
  | io (event : Event)
  deriving DecidableEq, Repr

section Operations

variable (maxBodyBytes requestTimeout : Nat)

/-- What a step of the connection does to its timers. A head that is still incomplete arms
the deadline (`get_or_insert_with`), a complete one uses it or a fresh one
(`unwrap_or_else`), and the next request starts without one. -/
def Timed.armed (timed : Timed) (event : Event) (next : State) : Timed :=
  match event, next.pc with
  | .turn, .readIdle => { timed with conn := next, limit := timed.now + requestTimeout }
  | .turn, .readHead =>
      { timed with
        conn := next
        deadline := some (timed.deadline.getD (timed.now + requestTimeout))
        limit := timed.deadline.getD (timed.now + requestTimeout) }
  | .turn, .body _ _ =>
      { timed with conn := next, limit := timed.deadline.getD (timed.now + requestTimeout) }
  | .written, _ => { timed with conn := next, deadline := none }
  | _, _ => { timed with conn := next }

/-- No read is awaited beyond its limit, and no idle one beyond the signal: the runtime's
timers are taken to be punctual. Elsewhere time may pass as the scheduler likes. -/
def Timed.mayWait (timed : Timed) (ticks : Nat) : Bool :=
  match timed.conn.pc with
  | .readIdle =>
      !timed.conn.flag && !timed.conn.flagClosed && decide (timed.now + ticks ≤ timed.limit)
  | .readHead => decide (timed.now + ticks ≤ timed.limit)
  | .readBody _ _ => decide (timed.now + ticks ≤ timed.limit)
  | _ => true

def timedStep (timed : Timed) : TimedEvent → Option Timed
  | .wait ticks =>
      if timed.mayWait ticks then some { timed with now := timed.now + ticks } else none
  | .io event =>
      if event = .timeout ∧ timed.now < timed.limit then none
      else (step maxBodyBytes timed.conn event).map (timed.armed requestTimeout event)

/-- The time spent in reads. What `write_all` waits for the peer, without a timeout, is not
counted. -/
def countWait (waited : Nat) (timed : Timed) (event : TimedEvent) (_ : Timed) : Nat :=
  match event with
  | .wait ticks => if timed.conn.pc.reads then waited + ticks else waited
  | .io _ => waited

def waitedFrom (timed : Timed) (events : List TimedEvent) : Nat :=
  Trace.account (timedStep maxBodyBytes requestTimeout) countWait timed 0 events

def TimedEvent.io? : TimedEvent → Option Event
  | .wait _ => none
  | .io event => some event

/-- What a peer may take of the connection's time in reads before its next request is read. -/
def State.allowance (conn : State) : Nat :=
  if conn.buf.isEmpty then (if conn.flag then 0 else 2 * requestTimeout) else requestTimeout

/-- The same while a response is still to be written. -/
def State.later (conn : State) (keepAlive : Bool) : Nat :=
  match keepAlive, conn.flag with
  | false, _ => 0
  | true, true => requestTimeout
  | true, false => 2 * requestTimeout

/-- How much longer a peer may have the connection wait in reads before it is either answered or
dropped. -/
def Timed.allowance (timed : Timed) : Nat :=
  match timed.conn.pc with
  | .parse =>
      match timed.deadline with
      | some deadline => deadline - timed.now
      | none => timed.conn.allowance requestTimeout
  | .idle => if timed.conn.flag then 0 else 2 * requestTimeout
  | .readIdle =>
      if timed.conn.flag then requestTimeout else timed.limit - timed.now + requestTimeout
  | .readHead | .body _ _ | .readBody _ _ => timed.limit - timed.now
  | .complete _ _ | .refuse _ | .closed => 0
  | .route _ _ keepAlive => timed.conn.later requestTimeout keepAlive
  | .reply response _ => timed.conn.later requestTimeout response.keepAlive

end Operations

/-- What the timers of a connection are at. -/
structure Timed.Sound (requestTimeout : Nat) (timed : Timed) : Prop where
  deadline : ∀ deadline, timed.deadline = some deadline → deadline ≤ timed.now + requestTimeout
  limit : timed.limit ≤ timed.now + requestTimeout
  begun : timed.conn.pc = .parse → timed.conn.buf = [] → timed.deadline = none
  awaited : timed.conn.pc = .readHead → timed.deadline = some timed.limit

section Steps

variable {maxBodyBytes requestTimeout : Nat} {timed after : Timed} {next : State} {event : Event}

theorem sound_start (requestTimeout : Nat) : Timed.Sound requestTimeout .start where
  deadline := nofun
  limit := Nat.zero_le _
  begun _ _ := rfl
  awaited := nofun

theorem Timed.Sound.getD (sound : timed.Sound requestTimeout) :
    timed.deadline.getD (timed.now + requestTimeout) ≤ timed.now + requestTimeout := by
  cases armed : timed.deadline with
  | none => exact Nat.le_refl _
  | some deadline => exact sound.deadline deadline armed

@[simp]
theorem armed_conn (requestTimeout : Nat) (timed : Timed) (event : Event) (next : State) :
    (timed.armed requestTimeout event next).conn = next := by
  unfold Timed.armed
  split <;> rfl

/-- Only a turn arms a timer. -/
theorem armed_unturned (other : event ≠ .turn) (unwritten : event ≠ .written) :
    timed.armed requestTimeout event next = { timed with conn := next } := by
  unfold Timed.armed
  split
  · exact absurd rfl other
  · exact absurd rfl other
  · exact absurd rfl other
  · exact absurd rfl unwritten
  · rfl

theorem sound_io (sound : timed.Sound requestTimeout)
    (passage : Passage maxBodyBytes timed.conn event next) :
    (timed.armed requestTimeout event next).Sound requestTimeout := by
  have fresh := sound.getD
  obtain ⟨deadline, limit, begun, awaited⟩ := sound
  cases passage with
  | shutdown => exact ⟨deadline, limit, begun, awaited⟩
  | closeFlag => exact ⟨deadline, limit, begun, awaited⟩
  | await place parsed =>
      by_cases empty : timed.conn.buf.isEmpty = true
      · rw [if_pos empty]
        exact ⟨deadline, limit, nofun, nofun⟩
      · rw [if_neg empty]
        refine ⟨?_, fresh, nofun, fun _ => rfl⟩
        intro set same
        exact Option.some.inj same ▸ fresh
  | malformed err place parsed final => exact ⟨deadline, limit, nofun, nofun⟩
  | large head headLen place parsed excess => exact ⟨deadline, limit, nofun, nofun⟩
  | accept head headLen place parsed fits => exact ⟨deadline, fresh, nofun, nofun⟩
  | rest place =>
      cases flag : timed.conn.flag with
      | true => exact ⟨deadline, limit, nofun, nofun⟩
      | false => exact ⟨deadline, Nat.le_refl _, nofun, nofun⟩
  | short head total place less => exact ⟨deadline, limit, nofun, nofun⟩
  | whole head total place enough => exact ⟨deadline, limit, nofun, nofun⟩
  | route head total place => exact ⟨deadline, limit, nofun, nofun⟩
  | readHead chunk place nonempty fits =>
      refine ⟨deadline, limit, fun _ empty => ?_, nofun⟩
      exact absurd (List.append_eq_nil_iff.mp empty).2 nonempty
  | readBody chunk head total place nonempty fits => exact ⟨deadline, limit, nofun, nofun⟩
  | truncated place => exact ⟨deadline, limit, nofun, nofun⟩
  | late place => exact ⟨deadline, limit, nofun, nofun⟩
  | lateBody head total place => exact ⟨deadline, limit, nofun, nofun⟩
  | close _ read unwritten other =>
      rw [armed_unturned other unwritten]
      exact ⟨deadline, limit, nofun, nofun⟩
  | reply head total keepAlive reply place => exact ⟨deadline, limit, nofun, nofun⟩
  | served response total place =>
      refine ⟨nofun, limit, fun _ _ => rfl, fun reads => ?_⟩
      have place : (if response.keepAlive then Pc.parse else .closed) = .readHead := reads
      split at place <;> cases place
  | refused response place => exact ⟨nofun, limit, nofun, nofun⟩
  | unserved response total place => exact ⟨deadline, limit, nofun, nofun⟩
  | unrefused response place => exact ⟨deadline, limit, nofun, nofun⟩

theorem allowance_begun (conn : State) (begun : ¬conn.buf.isEmpty) :
    conn.allowance requestTimeout = requestTimeout := if_neg begun

theorem allowance_fresh (conn : State) (empty : conn.buf.isEmpty) :
    conn.allowance requestTimeout = if conn.flag then 0 else 2 * requestTimeout := if_pos empty

theorem allowance_later (conn : State) :
    conn.allowance requestTimeout ≤ conn.later requestTimeout true := by
  unfold State.allowance State.later
  cases conn.flag with
  | false =>
      show (if conn.buf.isEmpty then 2 * requestTimeout else requestTimeout) ≤ 2 * requestTimeout
      split <;> omega
  | true =>
      show (if conn.buf.isEmpty then 0 else requestTimeout) ≤ requestTimeout
      split <;> omega

theorem later_le (conn : State) (keepAlive : Bool) :
    conn.later requestTimeout keepAlive ≤ 2 * requestTimeout := by
  unfold State.later
  split <;> omega

/-- The signal takes time from the peer, wherever it finds the connection. -/
theorem allowance_shutdown (requestTimeout : Nat) (timed : Timed) :
    Timed.allowance requestTimeout { timed with conn := { timed.conn with flag := true } } ≤
      timed.allowance requestTimeout := by
  have fresh : State.allowance requestTimeout { timed.conn with flag := true } ≤
      timed.conn.allowance requestTimeout := by
    unfold State.allowance
    split
    · exact Nat.zero_le _
    · exact Nat.le_refl _
  have later (keepAlive : Bool) : State.later requestTimeout { timed.conn with flag := true }
      keepAlive ≤ timed.conn.later requestTimeout keepAlive := by
    unfold State.later
    cases keepAlive with
    | false => exact Nat.le_refl _
    | true =>
        cases timed.conn.flag with
        | false =>
            show requestTimeout ≤ 2 * requestTimeout
            omega
        | true => exact Nat.le_refl _
  cases place : timed.conn.pc with
  | parse =>
      simp only [Timed.allowance, place]
      cases timed.deadline with
      | some deadline => exact Nat.le_refl _
      | none => exact fresh
  | idle =>
      simp only [Timed.allowance, place, if_true]
      exact Nat.zero_le _
  | readIdle =>
      simp only [Timed.allowance, place, if_true]
      split <;> omega
  | route head total keepAlive =>
      simp only [Timed.allowance, place]
      exact later keepAlive
  | reply response total =>
      simp only [Timed.allowance, place]
      exact later response.keepAlive
  | _ =>
      simp only [Timed.allowance, place]
      exact Nat.le_refl _

/-- Nothing but a request that is routed gives a peer more time. -/
theorem allowance_io (sound : timed.Sound requestTimeout)
    (passage : Passage maxBodyBytes timed.conn event next) :
    (timed.armed requestTimeout event next).allowance requestTimeout ≤
        timed.allowance requestTimeout ∨
      timed.conn.flag = false ∧ next.routed.length = timed.conn.routed.length + 1 ∧
        (timed.armed requestTimeout event next).allowance requestTimeout ≤
          timed.allowance requestTimeout + 2 * requestTimeout := by
  obtain ⟨deadline, limit, begun, awaited⟩ := sound
  cases passage with
  | shutdown => exact .inl (allowance_shutdown requestTimeout timed)
  | closeFlag => exact .inl (Nat.le_refl _)
  | await place parsed =>
      refine .inl ?_
      by_cases empty : timed.conn.buf.isEmpty = true
      · have none : timed.conn.buf = [] := List.isEmpty_iff.mp empty
        rw [if_pos empty]
        show Timed.allowance requestTimeout
          { timed with conn := { timed.conn with pc := .idle } } ≤ _
        simp only [Timed.allowance, place, begun place none, allowance_fresh timed.conn empty]
        exact Nat.le_refl _
      · rw [if_neg empty]
        simp only [Timed.allowance, Timed.armed, place, allowance_begun timed.conn empty]
        cases timed.deadline with
        | none => exact Nat.le_of_eq (Nat.add_sub_cancel_left _ _)
        | some deadline => exact Nat.le_refl _
  | malformed err place parsed final => exact .inl (Nat.zero_le _)
  | large head headLen place parsed excess => exact .inl (Nat.zero_le _)
  | accept head headLen place parsed fits =>
      have some : ¬timed.conn.buf.isEmpty := by
        intro empty
        rw [List.isEmpty_iff.mp empty, parseHead_nil] at parsed
        cases parsed
      refine .inl ?_
      simp only [Timed.allowance, Timed.armed, place, allowance_begun timed.conn some]
      cases timed.deadline with
      | none => exact Nat.le_of_eq (Nat.add_sub_cancel_left _ _)
      | some deadline => exact Nat.le_refl _
  | rest place =>
      refine .inl ?_
      cases flag : timed.conn.flag with
      | true => exact Nat.zero_le _
      | false =>
          simp only [Timed.allowance, Timed.armed, place, flag, Bool.false_eq_true, if_false]
          omega
  | short head total place less =>
      refine .inl ?_
      simp only [Timed.allowance, Timed.armed, place]
      exact Nat.le_refl _
  | whole head total place enough => exact .inl (Nat.zero_le _)
  | route head total place =>
      cases flag : timed.conn.flag with
      | true =>
          refine .inl ?_
          simp only [Timed.allowance, Timed.armed, State.later, Bool.not_true, Bool.and_false]
          exact Nat.zero_le _
      | false =>
          refine .inr ⟨rfl, List.length_append, ?_⟩
          exact Nat.le_trans (later_le _ _) (Nat.le_add_left _ _)
  | readHead chunk place nonempty fits =>
      have some : ¬(timed.conn.buf ++ chunk).isEmpty := fun empty =>
        nonempty (List.append_eq_nil_iff.mp (List.isEmpty_iff.mp empty)).2
      refine .inl ?_
      rcases place with place | place
      · have least : requestTimeout ≤ timed.allowance requestTimeout := by
          simp only [Timed.allowance, place]
          split <;> omega
        refine Nat.le_trans ?_ least
        simp only [Timed.allowance, Timed.armed]
        cases armed : timed.deadline with
        | none => exact Nat.le_of_eq (allowance_begun _ some)
        | some set =>
            have bound := deadline set armed
            show set - timed.now ≤ requestTimeout
            omega
      · simp only [Timed.allowance, Timed.armed, place, awaited place]
        exact Nat.le_refl _
  | readBody chunk head total place nonempty fits =>
      refine .inl ?_
      simp only [Timed.allowance, Timed.armed, place]
      exact Nat.le_refl _
  | truncated place => exact .inl (Nat.zero_le _)
  | late place => exact .inl (Nat.zero_le _)
  | lateBody head total place => exact .inl (Nat.zero_le _)
  | close _ read unwritten other =>
      rw [armed_unturned other unwritten]
      exact .inl (Nat.zero_le _)
  | reply head total keepAlive reply place =>
      refine .inl ?_
      simp only [Timed.allowance, Timed.armed, place, Reply.response]
      exact Nat.le_refl _
  | served response total place =>
      refine .inl ?_
      simp only [Timed.allowance, Timed.armed, place]
      cases response.keepAlive with
      | false => exact Nat.zero_le _
      | true =>
          exact allowance_later { timed.conn with buf := timed.conn.buf.drop total }
  | refused response place => exact .inl (Nat.zero_le _)
  | unserved response total place => exact .inl (Nat.zero_le _)
  | unrefused response place => exact .inl (Nat.zero_le _)

theorem passage_routed {conn : State} (passage : Passage maxBodyBytes conn event next) :
    conn.routed.length ≤ next.routed.length := by
  cases passage with
  | route head total place => exact Nat.le.intro List.length_append.symm
  | _ => exact Nat.le_refl _

/-- Once the signal is given a peer has one `request_timeout` at most. -/
theorem allowance_flagged (sound : timed.Sound requestTimeout) (flag : timed.conn.flag = true) :
    timed.allowance requestTimeout ≤ requestTimeout := by
  have limit := sound.limit
  have later (keepAlive : Bool) :
      timed.conn.later requestTimeout keepAlive ≤ requestTimeout := by
    unfold State.later
    rw [flag]
    split <;> simp_all
  cases place : timed.conn.pc with
  | parse =>
      simp only [Timed.allowance, place]
      cases armed : timed.deadline with
      | some deadline =>
          have bound := sound.deadline deadline armed
          show deadline - timed.now ≤ requestTimeout
          omega
      | none =>
          simp only [State.allowance, flag, if_true]
          split <;> omega
  | idle => simp only [Timed.allowance, place, flag, if_true, Nat.zero_le]
  | readIdle => simp only [Timed.allowance, place, flag, if_true, Nat.le_refl]
  | route head total keepAlive =>
      simp only [Timed.allowance, place]
      exact later keepAlive
  | reply response total =>
      simp only [Timed.allowance, place]
      exact later response.keepAlive
  | _ =>
      simp only [Timed.allowance, place]
      omega

/-- Time that passes in a read is taken from what the peer has left. -/
theorem allowance_wait {ticks : Nat} (may : timed.mayWait ticks = true) :
    (if timed.conn.pc.reads then ticks else 0) +
        Timed.allowance requestTimeout { timed with now := timed.now + ticks } ≤
      timed.allowance requestTimeout := by
  cases place : timed.conn.pc with
  | parse =>
      simp only [Timed.allowance, place, Pc.reads]
      cases timed.deadline with
      | some deadline =>
          simp only [Bool.false_eq_true, if_false]
          omega
      | none => exact Nat.le_of_eq (Nat.zero_add _)
  | readIdle =>
      simp only [Timed.mayWait, place, Bool.and_eq_true, Bool.not_eq_true', decide_eq_true_eq]
        at may
      obtain ⟨⟨flag, _⟩, within⟩ := may
      simp only [Timed.allowance, place, Pc.reads, flag, if_true, Bool.false_eq_true, if_false]
      omega
  | readHead =>
      simp only [Timed.mayWait, place, decide_eq_true_eq] at may
      simp only [Timed.allowance, place, Pc.reads, if_true]
      omega
  | readBody head total =>
      simp only [Timed.mayWait, place, decide_eq_true_eq] at may
      simp only [Timed.allowance, place, Pc.reads, if_true]
      omega
  | body head total =>
      simp only [Timed.allowance, place, Pc.reads, Bool.false_eq_true, if_false]
      omega
  | _ =>
      simp only [Timed.allowance, place, Pc.reads, Bool.false_eq_true, if_false]
      exact Nat.le_of_eq (Nat.zero_add _)

theorem timedStep_cases {label : TimedEvent}
    (taken : timedStep maxBodyBytes requestTimeout timed label = some after) :
    (∃ ticks, label = .wait ticks ∧ timed.mayWait ticks = true ∧
        after = { timed with now := timed.now + ticks }) ∨
      ∃ event next, label = .io event ∧ step maxBodyBytes timed.conn event = some next ∧
        after = timed.armed requestTimeout event next := by
  cases label with
  | wait ticks =>
      simp only [timedStep] at taken
      split at taken
      · next may => exact .inl ⟨ticks, rfl, may, (Option.some.inj taken).symm⟩
      · cases taken
  | io event =>
      simp only [timedStep] at taken
      split at taken
      · cases taken
      · obtain ⟨next, moved, same⟩ := Option.map_eq_some_iff.mp taken
        exact .inr ⟨event, next, rfl, moved, same.symm⟩

theorem timed_flag {label : TimedEvent}
    (taken : timedStep maxBodyBytes requestTimeout timed label = some after)
    (flag : timed.conn.flag = true) : after.conn.flag = true := by
  obtain ⟨ticks, rfl, may, rfl⟩ | ⟨event, next, rfl, moved, rfl⟩ := timedStep_cases taken
  · exact flag
  · rw [armed_conn]
    exact step_flag moved flag

theorem sound_step {label : TimedEvent} (sound : timed.Sound requestTimeout)
    (taken : timedStep maxBodyBytes requestTimeout timed label = some after) :
    after.Sound requestTimeout := by
  obtain ⟨ticks, rfl, may, rfl⟩ | ⟨event, next, rfl, moved, rfl⟩ := timedStep_cases taken
  · obtain ⟨deadline, limit, begun, awaited⟩ := sound
    refine ⟨?_, ?_, begun, awaited⟩
    · intro set armed
      have bound := deadline set armed
      show set ≤ timed.now + ticks + requestTimeout
      omega
    · show timed.limit ≤ timed.now + ticks + requestTimeout
      omega
  · exact sound_io sound (step_passage moved)

/-- What is waited in a step and what is left of the peer's time after it comes to no more
than was left before it, with two times `request_timeout` for a request that is routed. -/
theorem allowance_step {label : TimedEvent} (sound : timed.Sound requestTimeout)
    (taken : timedStep maxBodyBytes requestTimeout timed label = some after) :
    (timed.conn.flag = true → countWait 0 timed label after + after.allowance requestTimeout ≤
        timed.allowance requestTimeout) ∧
      countWait 0 timed label after + after.allowance requestTimeout +
          2 * requestTimeout * timed.conn.routed.length ≤
        timed.allowance requestTimeout + 2 * requestTimeout * after.conn.routed.length := by
  obtain ⟨ticks, rfl, may, rfl⟩ | ⟨event, next, rfl, moved, rfl⟩ := timedStep_cases taken
  · have spent : (if timed.conn.pc.reads then ticks else 0) +
        Timed.allowance requestTimeout { timed with now := timed.now + ticks } ≤
          timed.allowance requestTimeout := allowance_wait may
    simp only [countWait, Nat.zero_add]
    exact ⟨fun _ => spent, Nat.add_le_add_right spent _⟩
  · simp only [countWait, Nat.zero_add, armed_conn]
    rcases allowance_io sound (step_passage moved) with less | ⟨running, routed, less⟩
    · have more := Nat.mul_le_mul_left (2 * requestTimeout) (passage_routed (step_passage moved))
      exact ⟨fun _ => less, Nat.add_le_add less more⟩
    · refine ⟨fun flag => ?_, ?_⟩
      · rw [running] at flag
        cases flag
      · rw [routed, Nat.mul_add, Nat.mul_one]
        omega

theorem countWait_add (waited : Nat) (timed : Timed) (label : TimedEvent) (after : Timed) :
    countWait waited timed label after = waited + countWait 0 timed label after := by
  unfold countWait
  split
  · split <;> omega
  · rfl

end Steps

section Runs

variable {maxBodyBytes requestTimeout : Nat} {timed middle : Timed} {events : List TimedEvent}

theorem sound_run (ran : Trace.run (timedStep maxBodyBytes requestTimeout) .start events = some
    timed) : timed.Sound requestTimeout :=
  Trace.run_preserves (Timed.Sound requestTimeout)
    (fun _ _ _ sound taken => sound_step sound taken) (sound_start requestTimeout) ran

/-- Without its clock it is a run of the connection, so that all that is known of the
connection's runs is known of the timed ones. -/
theorem timed_simulates
    (ran : Trace.run (timedStep maxBodyBytes requestTimeout) timed events = some middle) :
    Trace.run (step maxBodyBytes) timed.conn (events.filterMap TimedEvent.io?) =
      some middle.conn := by
  induction events generalizing timed with
  | nil => exact Option.some.inj ran ▸ rfl
  | cons label events ih =>
      obtain ⟨next, taken, rest⟩ := Trace.run_cons ran
      obtain ⟨ticks, rfl, may, rfl⟩ | ⟨event, conn, rfl, moved, rfl⟩ := timedStep_cases taken
      · have later := ih rest
        exact later
      · have later := ih rest
        rw [armed_conn] at later
        show (step maxBodyBytes timed.conn event).bind _ = _
        rw [moved]
        exact later

/-- However a peer spreads its bytes, and wherever the time goes that is not spent in reads:
a connection waits in its reads no longer than two times `request_timeout` for each request
that the peer completes, and two times more. Its writes are not bounded so. -/
theorem waiting_bounded
    (ran : Trace.run (timedStep maxBodyBytes requestTimeout) .start events = some timed) :
    waitedFrom maxBodyBytes requestTimeout .start events ≤
      2 * requestTimeout * (timed.conn.routed.length + 1) := by
  have any : Trace.Throughout (timedStep maxBodyBytes requestTimeout) (fun _ _ => True)
      .start events := fun _ _ _ _ _ _ => trivial
  have held : timed.Sound requestTimeout ∧
      waitedFrom maxBodyBytes requestTimeout .start events + timed.allowance requestTimeout ≤
        2 * requestTimeout * (timed.conn.routed.length + 1) := by
    apply Trace.account_invariant (fun (timed : Timed) waited => timed.Sound requestTimeout ∧
      waited + timed.allowance requestTimeout ≤
        2 * requestTimeout * (timed.conn.routed.length + 1)) _ _ any ran
    · intro middle waited label next held _ taken
      obtain ⟨sound, within⟩ := held
      have spent := (allowance_step sound taken).2
      rw [countWait_add]
      rw [Nat.mul_add] at within ⊢
      exact ⟨sound_step sound taken, by omega⟩
    · refine ⟨sound_start requestTimeout, Nat.le_of_eq ?_⟩
      show 0 + 2 * requestTimeout = 2 * requestTimeout * (0 + 1)
      omega
  exact Nat.le_trans (Nat.le_add_right _ _) held.2

/-- From the signal on a connection waits in its reads for one `request_timeout` at most, however
the peer spreads its bytes and whatever it still sends. -/
theorem shutdown_waiting
    (reached : Trace.run (timedStep maxBodyBytes requestTimeout) .start events = some middle)
    (signalled : middle.conn.flag = true) {later : List TimedEvent}
    (ran : Trace.run (timedStep maxBodyBytes requestTimeout) middle later = some timed) :
    waitedFrom maxBodyBytes requestTimeout middle later ≤ requestTimeout := by
  have any : Trace.Throughout (timedStep maxBodyBytes requestTimeout) (fun _ _ => True)
      middle later := fun _ _ _ _ _ _ => trivial
  have sound := sound_run reached
  have held : timed.Sound requestTimeout ∧ timed.conn.flag = true ∧
      waitedFrom maxBodyBytes requestTimeout middle later + timed.allowance requestTimeout ≤
        requestTimeout := by
    apply Trace.account_invariant (fun (timed : Timed) waited => timed.Sound requestTimeout ∧
      timed.conn.flag = true ∧ waited + timed.allowance requestTimeout ≤ requestTimeout)
      _ _ any ran
    · intro middle waited label next held _ taken
      obtain ⟨sound, flag, within⟩ := held
      have spent := (allowance_step sound taken).1 flag
      rw [countWait_add]
      exact ⟨sound_step sound taken, timed_flag taken flag, by omega⟩
    · refine ⟨sound, signalled, ?_⟩
      rw [Nat.zero_add]
      exact allowance_flagged sound signalled
  exact Nat.le_trans (Nat.le_add_right _ _) held.2.2

end Runs

/-- A peer that sends a byte whenever the timer is about to go off. -/
def trickle : List TimedEvent :=
  [.io .turn, .io .turn, .wait 30, .io (.bytes "G".toUTF8.toList), .io .turn, .wait 29,
    .io (.bytes "E".toUTF8.toList), .wait 5, .io .turn]

def trickled : Timed :=
  ⟨⟨"GE".toUTF8.toList, .readHead, false, false, [], []⟩, 64, some 60, 60⟩

theorem waiting_bounded_trickle :
    waitedFrom 64 30 .start trickle = 59 ∧
      waitedFrom 64 30 .start trickle ≤ 2 * 30 * (trickled.conn.routed.length + 1) := by
  have ran : Trace.run (timedStep 64 30) .start trickle = some trickled := by decide +kernel
  exact ⟨by decide +kernel, waiting_bounded ran⟩

/-- The signal finds the connection in an idle read whose bytes have just come in. -/
def signalled : Timed :=
  ⟨⟨[], .readIdle, true, false, [], []⟩, 20, none, 30⟩

def closing : Timed :=
  ⟨⟨"GE".toUTF8.toList, .refuse requestTimeout, true, false, [], []⟩, 50, some 50, 50⟩

theorem shutdown_waiting_idle :
    waitedFrom 64 30 signalled [.io (.bytes "G".toUTF8.toList), .io .turn, .wait 10,
        .io (.bytes "E".toUTF8.toList), .io .turn, .wait 20, .io .timeout] ≤ 30 := by
  have reached : Trace.run (timedStep 64 30) .start
      [.io .turn, .io .turn, .wait 20, .io .shutdown] = some signalled := by decide +kernel
  have ran : Trace.run (timedStep 64 30) signalled [.io (.bytes "G".toUTF8.toList), .io .turn,
      .wait 10, .io (.bytes "E".toUTF8.toList), .io .turn, .wait 20, .io .timeout] =
      some closing := by decide +kernel
  exact shutdown_waiting reached rfl ran

end ActorServices.Connection
