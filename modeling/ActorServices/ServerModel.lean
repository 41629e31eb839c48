import Mathlib.Algebra.Group.Nat.Defs
import Mathlib.Data.List.AList
import ActorServices.Mailbox
import ActorServices.Trace

set_option autoImplicit false

/- `tcp-actor-server`: the accept loop, the connection tasks as far as permits
and the registry go, the registry actor, and the drain. -/
namespace ActorServices.Server

/-- `usize::MAX` and `u32::MAX`. -/
def usizeMax : Nat := 2 ^ 64 - 1
def u32Max : Nat := 2 ^ 32 - 1

/-- `Semaphore::MAX_PERMITS`: `Semaphore::new` panics beyond. -/
def maxPermits : Nat := usizeMax / 8

/-- The part of `Config` that the accept loop reads. Times are in milliseconds. -/
structure Config where
  maxConnections : Nat
  shutdownGrace : Nat
  accepted : maxConnections ≤ maxPermits

/-- Messages the registry understands. The reply sender of a query is the
connection whose request it is for. -/
inductive Cmd (A : Type)
  | register (id : Nat) (addr : A)
  | deregister (id : Nat)
  | activeCount (id : Nat)
  deriving DecidableEq, Repr

def Cmd.id {A : Type} : Cmd A → Nat
  | .register id _ => id
  | .deregister id => id
  | .activeCount id => id

/-- How far a connection task is: spawned; inside `handle_connection` before its
guard is made, with it (or awaiting `active_count` with it) and after it was
dropped; and ended, with its permit released. -/
inductive Stage
  | spawned
  | entered
  | guarded
  | querying
  | unguarded
  | ended
  deriving DecidableEq, Repr

structure Task (A : Type) where
  id : Nat
  addr : A
  stage : Stage
  deriving DecidableEq, Repr

/-- The stages between the call of `handle_connection` and its return. -/
def Stage.inside : Stage → Bool
  | .spawned => false
  | .ended => false
  | _ => true

def Stage.holdsPermit : Stage → Bool
  | .ended => false
  | _ => true

/-- Where `Server::run` is. It awaits a permit in `acquiring`, and a connection
with that permit in `accepting`. -/
inductive Accept
  | top
  | acquiring
  | accepting
  | sleeping (wake : Nat)
  | draining (since : Nat)
  | returned (since at_ : Nat)
  deriving DecidableEq, Repr

/-- An answered query: the commands ahead of it in mailbox order, and the count
that was sent back. -/
structure Answer (A : Type) where
  id : Nat
  ahead : List (Cmd A)
  count : Nat
  deriving DecidableEq, Repr

/-- `answers` lists the replies to queries; no step reads it. -/
structure State (A : Type) where
  clock : Nat
  flag : Bool
  flagClosed : Bool
  accept : Accept
  available : Nat
  tasks : List (Task A)
  mailbox : Mailbox (Cmd A)
  conns : AList (fun _ : Nat => A)
  answers : List (Answer A)

def State.start {A : Type} (config : Config) : State A where
  clock := 0
  flag := false
  flagClosed := false
  accept := .top
  available := config.maxConnections
  tasks := []
  mailbox := .empty
  conns := ∅
  answers := []

inductive Event (A : Type)
  | elapse (millis : Nat)
  | shutdown
  | closeFlag
  | check
  | stop
  | acquire
  | accept (addr : A)
  | acceptFailed
  | wake
  | drained
  | timedOut
  | enter (conn : Nat)
  | guard (conn : Nat)
  | query (conn : Nat)
  | unguard (conn : Nat)
  | release (conn : Nat)
  | handle
  deriving DecidableEq, Repr

section Operations

variable {A : Type} (config : Config) (state : State A)

/-- `next_id`, which starts at 1 and grows with every accepted connection. -/
def State.nextId : Nat := state.tasks.length + 1

/-- `*brk.borrow()` at the top of the loop. -/
def State.check : Option (State A) :=
  if state.accept = .top then
    some { state with accept := if state.flag then .draining state.clock else .acquiring }
  else none

/-- `brk.changed()`: the flag was set, or its sender is gone. A permit that was
acquired is dropped. -/
def State.stop : Option (State A) :=
  if state.flag ∨ state.flagClosed then
    match state.accept with
    | .acquiring => some { state with accept := .draining state.clock }
    | .accepting =>
        some { state with accept := .draining state.clock, available := state.available + 1 }
    | _ => none
  else none

/-- `acquire_owned`. Nothing closes the semaphore. -/
def State.acquire : Option (State A) :=
  if state.accept = .acquiring ∧ 0 < state.available then
    some { state with accept := .accepting, available := state.available - 1 }
  else none

def State.acceptOk (addr : A) : Option (State A) :=
  if state.accept = .accepting then
    some { state with
      accept := .top
      tasks := state.tasks ++ [⟨state.nextId, addr, .spawned⟩] }
  else none

def State.acceptFailed : Option (State A) :=
  if state.accept = .accepting then
    some { state with accept := .sleeping (state.clock + 50), available := state.available + 1 }
  else none

def State.wake : Option (State A) :=
  match state.accept with
  | .sleeping wake => if wake ≤ state.clock then some { state with accept := .top } else none
  | _ => none

/-- `u32::try_from(max_conns).unwrap_or(u32::MAX)`. -/
def Config.drainPermits : Nat :=
  if config.maxConnections ≤ u32Max then config.maxConnections else u32Max

/-- `acquire_many_owned` succeeds; the permits are given back as `run` returns. -/
def State.drained : Option (State A) :=
  match state.accept with
  | .draining since =>
      if config.drainPermits ≤ state.available then
        some { state with accept := .returned since state.clock }
      else none
  | _ => none

/-- The grace has elapsed first. -/
def State.timedOut : Option (State A) :=
  match state.accept with
  | .draining since =>
      if since + config.shutdownGrace ≤ state.clock then
        some { state with accept := .returned since state.clock }
      else none
  | _ => none

/-- A connection task goes from one stage to the next, and may post a message. -/
def State.move (conn : Nat) (old new : Stage)
    (post : Task A → Mailbox (Cmd A) → Mailbox (Cmd A)) : Option (State A) :=
  match state.tasks[conn]? with
  | some task =>
      if task.stage = old then
        some { state with
          tasks := state.tasks.set conn { task with stage := new }
          mailbox := post task state.mailbox }
      else none
  | none => none

def State.enter (conn : Nat) : Option (State A) :=
  state.move conn .spawned .entered fun _ mailbox => mailbox

/-- `Registry::guard`. -/
def State.guard (conn : Nat) : Option (State A) :=
  state.move conn .entered .guarded fun task mailbox =>
    mailbox.post (.register task.id task.addr)

def State.query (conn : Nat) : Option (State A) :=
  state.move conn .guarded .querying fun task mailbox => mailbox.post (.activeCount task.id)

/-- `handle_connection` returns or unwinds: in both cases its guard is dropped,
and after that the permit of the task around it. -/
def State.unguard (conn : Nat) : Option (State A) :=
  state.move conn .guarded .unguarded fun task mailbox => mailbox.post (.deregister task.id)

def State.release (conn : Nat) : Option (State A) :=
  (state.move conn .unguarded .ended fun _ mailbox => mailbox).map fun after =>
    { after with available := after.available + 1 }

def State.answer (id : Nat) : State A :=
  match state.tasks[id - 1]? with
  | some task =>
      if task.stage = .querying then
        { state with
          tasks := state.tasks.set (id - 1) { task with stage := .guarded }
          answers := state.answers ++
            [⟨id, state.mailbox.handled, state.conns.entries.length⟩] }
      else state
  | none => state

def State.handle : Option (State A) :=
  match state.mailbox.take with
  | none => none
  | some (.register id addr, mailbox) =>
      some { state with mailbox, conns := state.conns.insert id addr }
  | some (.deregister id, mailbox) => some { state with mailbox, conns := state.conns.erase id }
  | some (.activeCount id, mailbox) => some { state.answer id with mailbox }

def step : Event A → Option (State A)
  | .elapse millis => some { state with clock := state.clock + millis }
  | .shutdown => some { state with flag := true }
  | .closeFlag => some { state with flagClosed := true }
  | .check => state.check
  | .stop => state.stop
  | .acquire => state.acquire
  | .accept addr => state.acceptOk addr
  | .acceptFailed => state.acceptFailed
  | .wake => state.wake
  | .drained => state.drained config
  | .timedOut => state.timedOut config
  | .enter conn => state.enter conn
  | .guard conn => state.guard conn
  | .query conn => state.query conn
  | .unguard conn => state.unguard conn
  | .release conn => state.release conn
  | .handle => state.handle

end Operations

section Steps

variable {A : Type} {config : Config} {state after : State A}

def Accept.permits : Accept → Nat
  | .accepting => 1
  | _ => 0

theorem move_some {conn : Nat} {old new : Stage}
    {post : Task A → Mailbox (Cmd A) → Mailbox (Cmd A)}
    (taken : state.move conn old new post = some after) :
    ∃ task, state.tasks[conn]? = some task ∧ task.stage = old ∧
      after = { state with
        tasks := state.tasks.set conn { task with stage := new }
        mailbox := post task state.mailbox } := by
  unfold State.move at taken
  split at taken
  · rename_i task found
    split at taken
    · rename_i stage
      cases taken
      exact ⟨task, found, stage, rfl⟩
    · cases taken
  · cases taken

/-- All that the registry actor does with a message. Of a query it may be that
nobody awaits the reply. -/
inductive Handled (state after : State A) : Prop
  | register (id : Nat) (addr : A) (mailbox : Mailbox (Cmd A))
      (took : state.mailbox.take = some (.register id addr, mailbox))
      (moved : after = { state with mailbox, conns := state.conns.insert id addr })
  | deregister (id : Nat) (mailbox : Mailbox (Cmd A))
      (took : state.mailbox.take = some (.deregister id, mailbox))
      (moved : after = { state with mailbox, conns := state.conns.erase id })
  | answer (id : Nat) (mailbox : Mailbox (Cmd A)) (task : Task A)
      (took : state.mailbox.take = some (.activeCount id, mailbox))
      (found : state.tasks[id - 1]? = some task) (querying : task.stage = .querying)
      (moved : after = { state with
        mailbox
        tasks := state.tasks.set (id - 1) { task with stage := .guarded }
        answers := state.answers ++
          [⟨id, state.mailbox.handled, state.conns.entries.length⟩] })
  | unheard (id : Nat) (mailbox : Mailbox (Cmd A))
      (took : state.mailbox.take = some (.activeCount id, mailbox))
      (moved : after = { state with mailbox })

theorem handle_cases (taken : state.handle = some after) : Handled state after := by
  unfold State.handle at taken
  split at taken
  · cases taken
  · rename_i id addr mailbox took
    exact .register id addr mailbox took (Option.some.inj taken).symm
  · rename_i id mailbox took
    exact .deregister id mailbox took (Option.some.inj taken).symm
  · rename_i id mailbox took
    cases taken
    unfold State.answer
    split
    · rename_i task found
      split
      · rename_i querying
        exact .answer id mailbox task took found querying rfl
      · exact .unheard id mailbox took rfl
    · exact .unheard id mailbox took rfl

/-- All that a step does: time and the flag are outside the server, the accept
loop goes on with the permits that there are, `run` returns, or a connection or
the registry acts. -/
inductive Turn (config : Config) (state after : State A) : Prop
  | outside (clock : Nat) (flag flagClosed : Bool)
      (moved : after = { state with clock, flag, flagClosed })
  | loop (accept : Accept) (available : Nat)
      (kept : available + accept.permits = state.available + state.accept.permits)
      (serving : ∀ since at_, accept ≠ .returned since at_)
      (moved : after = { state with accept, available })
  | drained (since : Nat) (draining : state.accept = .draining since)
      (free : config.drainPermits ≤ state.available)
      (moved : after = { state with accept := .returned since state.clock })
  | timedOut (since : Nat) (draining : state.accept = .draining since)
      (elapsed : since + config.shutdownGrace ≤ state.clock)
      (moved : after = { state with accept := .returned since state.clock })
  | accept (addr : A) (accepting : state.accept = .accepting)
      (moved : after = { state with
        accept := .top
        tasks := state.tasks ++ [⟨state.nextId, addr, .spawned⟩] })
  | enter (conn : Nat) (taken : state.enter conn = some after)
  | guard (conn : Nat) (taken : state.guard conn = some after)
  | query (conn : Nat) (taken : state.query conn = some after)
  | unguard (conn : Nat) (taken : state.unguard conn = some after)
  | release (conn : Nat) (task : Task A) (found : state.tasks[conn]? = some task)
      (stage : task.stage = .unguarded)
      (moved : after = { state with
        tasks := state.tasks.set conn { task with stage := .ended }
        available := state.available + 1 })
  | handle (taken : state.handle = some after)

theorem step_turn {event : Event A} (taken : step config state event = some after) :
    Turn config state after := by
  cases event with
  | elapse millis => cases taken; exact .outside _ _ _ rfl
  | shutdown => cases taken; exact .outside _ _ _ rfl
  | closeFlag => cases taken; exact .outside _ _ _ rfl
  | check =>
      simp only [step, State.check] at taken
      split at taken
      · rename_i top
        cases taken
        apply Turn.loop _ _ _ _ rfl
        · rw [top]
          split <;> rfl
        · intro since at_ returned
          split at returned <;> cases returned
      · cases taken
  | stop =>
      simp only [step, State.stop] at taken
      split at taken
      · split at taken
        · rename_i acquiring
          cases taken
          exact .loop (.draining state.clock) _ (by rw [acquiring]; rfl) nofun rfl
        · rename_i accepting
          cases taken
          exact .loop (.draining state.clock) _ (by rw [accepting]; rfl) nofun rfl
        · cases taken
      · cases taken
  | acquire =>
      simp only [step, State.acquire] at taken
      split at taken
      · rename_i free
        cases taken
        refine .loop .accepting _ ?_ nofun rfl
        rw [free.1]
        simp only [Accept.permits]
        omega
      · cases taken
  | accept addr =>
      simp only [step, State.acceptOk] at taken
      split at taken
      · rename_i accepting
        exact .accept addr accepting (Option.some.inj taken).symm
      · cases taken
  | acceptFailed =>
      simp only [step, State.acceptFailed] at taken
      split at taken
      · rename_i accepting
        cases taken
        exact .loop (.sleeping _) _ (by rw [accepting]; rfl) nofun rfl
      · cases taken
  | wake =>
      simp only [step, State.wake] at taken
      split at taken
      · rename_i wake sleeping
        split at taken <;> cases taken
        exact .loop .top _ (by rw [sleeping]; rfl) nofun rfl
      · cases taken
  | drained =>
      simp only [step, State.drained] at taken
      split at taken
      · rename_i since draining
        split at taken <;> cases taken
        rename_i free
        exact .drained since draining free rfl
      · cases taken
  | timedOut =>
      simp only [step, State.timedOut] at taken
      split at taken
      · rename_i since draining
        split at taken <;> cases taken
        rename_i elapsed
        exact .timedOut since draining elapsed rfl
      · cases taken
  | enter conn => exact .enter conn taken
  | guard conn => exact .guard conn taken
  | query conn => exact .query conn taken
  | unguard conn => exact .unguard conn taken
  | release conn =>
      obtain ⟨moved, left, rfl⟩ := Option.map_eq_some_iff.mp taken
      obtain ⟨task, found, stage, rfl⟩ := move_some left
      exact .release conn task found stage rfl
  | handle => exact .handle taken

end Steps

end ActorServices.Server
