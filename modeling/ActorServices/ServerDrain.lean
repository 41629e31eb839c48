import Mathlib.Data.List.Count
import ActorServices.ServerModel

set_option autoImplicit false

namespace ActorServices.Server

variable {A : Type} {config : Config} {state after : State A}

def Task.holdsPermit (task : Task A) : Bool := task.stage.holdsPermit

def State.holders (state : State A) : Nat := state.tasks.countP Task.holdsPermit

/-- Every permit is free, with the accept loop or with one connection task. -/
def Balanced (config : Config) (state : State A) : Prop :=
  state.available + state.accept.permits + state.holders = config.maxConnections

theorem countP_set_of_found {α : Type} (p : α → Bool) {items : List α} {index : Nat} {item : α}
    (found : items[index]? = some item) (new : α) :
    (items.set index new).countP p + (if p item then 1 else 0) =
      items.countP p + (if p new then 1 else 0) := by
  obtain ⟨bound, same⟩ := List.getElem?_eq_some_iff.mp found
  have counted : (if p items[index] then 1 else 0) ≤ items.countP p :=
    List.boole_getElem_le_countP bound
  rw [List.countP_set bound]
  rw [same] at counted ⊢
  omega

/-- A task that keeps its permit leaves the balance alone. -/
theorem Balanced.set (balanced : Balanced config state) {conn : Nat} {task : Task A}
    (found : state.tasks[conn]? = some task) (new : Stage)
    (kept : new.holdsPermit = task.stage.holdsPermit) (mailbox : Mailbox (Cmd A))
    (conns : AList (fun _ : Nat => A)) (answers : List (Answer A)) :
    Balanced config { state with
      tasks := state.tasks.set conn { task with stage := new }, mailbox, conns, answers } := by
  have moved := countP_set_of_found Task.holdsPermit found { task with stage := new }
  have same : Task.holdsPermit { task with stage := new } = task.holdsPermit := kept
  rw [same] at moved
  unfold Balanced State.holders at balanced ⊢
  dsimp only
  omega

theorem Balanced.start : Balanced config (State.start (A := A) config) := rfl

theorem Balanced.move (balanced : Balanced config state) {conn : Nat} {old new : Stage}
    {post : Task A → Mailbox (Cmd A) → Mailbox (Cmd A)}
    (taken : state.move conn old new post = some after)
    (kept : new.holdsPermit = old.holdsPermit) : Balanced config after := by
  obtain ⟨task, found, rfl, rfl⟩ := move_some taken
  exact balanced.set found new kept _ state.conns state.answers

/-- A task that ends gives its permit back. -/
theorem Balanced.release (balanced : Balanced config state) {conn : Nat} {task : Task A}
    (found : state.tasks[conn]? = some task) (stage : task.stage = .unguarded) :
    Balanced config { state with
      tasks := state.tasks.set conn { task with stage := .ended }
      available := state.available + 1 } := by
  have count := countP_set_of_found Task.holdsPermit found { task with stage := .ended }
  have held : task.holdsPermit = true := by rw [Task.holdsPermit, stage]; rfl
  have released : Task.holdsPermit { task with stage := .ended } = false := rfl
  rw [held, released, if_pos rfl, if_neg Bool.false_ne_true] at count
  unfold Balanced State.holders at balanced ⊢
  dsimp only
  omega

/-- The permit that the accept loop held goes to the new task. -/
theorem Balanced.accept (balanced : Balanced config state) (addr : A)
    (accepting : state.accept = .accepting) :
    Balanced config { state with
      accept := .top
      tasks := state.tasks ++ [⟨state.nextId, addr, .spawned⟩] } := by
  unfold Balanced State.holders at balanced ⊢
  simp only [accepting, Accept.permits, List.countP_append, List.countP_singleton,
    Task.holdsPermit, Stage.holdsPermit, ↓reduceIte] at balanced ⊢
  omega

theorem Balanced.loop (balanced : Balanced config state) (accept : Accept) (available : Nat)
    (kept : available + accept.permits = state.available + state.accept.permits) :
    Balanced config { state with accept, available } := by
  unfold Balanced at balanced ⊢
  rw [← balanced, ← kept]
  rfl

theorem Balanced.handle (balanced : Balanced config state)
    (taken : state.handle = some after) : Balanced config after := by
  cases handle_cases taken with
  | register id addr mailbox took moved => exact moved ▸ balanced
  | deregister id mailbox took moved => exact moved ▸ balanced
  | answer id mailbox task took found querying moved =>
      rw [moved]
      exact balanced.set found .guarded (by rw [querying]; rfl) mailbox state.conns _
  | unheard id mailbox took moved => exact moved ▸ balanced

theorem Balanced.step (balanced : Balanced config state) {event : Event A}
    (taken : step config state event = some after) : Balanced config after := by
  cases step_turn taken with
  | outside clock flag flagClosed moved => exact moved ▸ balanced
  | loop accept available kept serving moved => exact moved ▸ balanced.loop accept available kept
  | drained since draining free moved =>
      exact moved ▸ balanced.loop (.returned since state.clock) _ (by rw [draining]; rfl)
  | timedOut since draining elapsed moved =>
      exact moved ▸ balanced.loop (.returned since state.clock) _ (by rw [draining]; rfl)
  | accept addr accepting moved => exact moved ▸ balanced.accept addr accepting
  | enter conn taken => exact balanced.move taken rfl
  | guard conn taken => exact balanced.move taken rfl
  | query conn taken => exact balanced.move taken rfl
  | unguard conn taken => exact balanced.move taken rfl
  | release conn task found stage moved => exact moved ▸ balanced.release found stage
  | handle taken => exact balanced.handle taken

/-- No connection task is running. -/
def AllEnded (state : State A) : Prop := ∀ task ∈ state.tasks, task.stage = .ended

/-- What the drain is for: if `run` has returned before the grace was over, all
connection tasks have ended. -/
def DrainSound (config : Config) (state : State A) : Prop :=
  ∀ since at_, state.accept = .returned since at_ → at_ - since < config.shutdownGrace →
    AllEnded state

/-- With no permit out, no task is running. -/
theorem allEnded_of_holders (none : state.holders = 0) : AllEnded state := by
  intro task member
  have free := List.countP_eq_zero.mp none task member
  unfold Task.holdsPermit at free
  cases stage : task.stage with
  | ended => rfl
  | _ => simp [stage, Stage.holdsPermit] at free

/-- With no task running, no task changes its stage. -/
theorem move_ended (ended : AllEnded state) {conn : Nat} {old new : Stage}
    {post : Task A → Mailbox (Cmd A) → Mailbox (Cmd A)}
    (taken : state.move conn old new post = some after) : old = .ended := by
  obtain ⟨task, found, rfl, -⟩ := move_some taken
  exact ended task (List.mem_of_getElem? found)

theorem DrainSound.start : DrainSound config (State.start (A := A) config) := nofun

/-- A step that leaves the accept loop where it is, and no task running. -/
theorem DrainSound.same (sound : DrainSound config state) (accept : after.accept = state.accept)
    (ended : AllEnded state → AllEnded after) : DrainSound config after := by
  intro since at_ returned early
  rw [accept] at returned
  exact ended (sound since at_ returned early)

theorem DrainSound.move (sound : DrainSound config state) {conn : Nat} {old new : Stage}
    {post : Task A → Mailbox (Cmd A) → Mailbox (Cmd A)}
    (taken : state.move conn old new post = some after) (running : old ≠ .ended) :
    DrainSound config after := by
  have accept : after.accept = state.accept := by
    obtain ⟨task, -, -, rfl⟩ := move_some taken
    rfl
  apply sound.same accept
  intro ended
  exact absurd (move_ended ended taken) running

theorem DrainSound.handle (sound : DrainSound config state) (taken : state.handle = some after) :
    DrainSound config after := by
  cases handle_cases taken with
  | register id addr mailbox took moved => exact moved ▸ sound
  | deregister id mailbox took moved => exact moved ▸ sound
  | answer id mailbox task took found querying moved =>
      have accept : after.accept = state.accept := by rw [moved]
      apply sound.same accept
      intro ended
      have stage := ended task (List.mem_of_getElem? found)
      cases querying.symm.trans stage
  | unheard id mailbox took moved => exact moved ▸ sound

/-- All permits are back, so every task has released its own. -/
theorem DrainSound.drained (balanced : Balanced config state)
    (bounded : config.maxConnections ≤ u32Max) (since : Nat)
    (free : config.drainPermits ≤ state.available) :
    DrainSound config { state with accept := .returned since state.clock } := by
  intro started at_ returned early
  unfold Config.drainPermits at free
  rw [if_pos bounded] at free
  unfold Balanced at balanced
  have none : state.holders = 0 := by omega
  exact allEnded_of_holders none

theorem DrainSound.timedOut {since : Nat} (elapsed : since + config.shutdownGrace ≤ state.clock) :
    DrainSound config { state with accept := .returned since state.clock } := by
  intro started at_ returned early
  cases returned
  omega

theorem DrainSound.step (sound : DrainSound config state) (balanced : Balanced config state)
    (bounded : config.maxConnections ≤ u32Max) {event : Event A}
    (taken : step config state event = some after) : DrainSound config after := by
  cases step_turn taken with
  | outside clock flag flagClosed moved => exact moved ▸ sound
  | loop accept available kept serving moved =>
      intro since at_ returned
      rw [moved] at returned
      exact absurd returned (serving since at_)
  | drained since draining free moved => exact moved ▸ .drained balanced bounded since free
  | timedOut since draining elapsed moved => exact moved ▸ .timedOut elapsed
  | accept addr accepting moved =>
      intro since at_ returned
      rw [moved] at returned
      cases returned
  | enter conn taken => exact sound.move taken nofun
  | guard conn taken => exact sound.move taken nofun
  | query conn taken => exact sound.move taken nofun
  | unguard conn taken => exact sound.move taken nofun
  | release conn task found stage moved =>
      have accept : after.accept = state.accept := by rw [moved]
      apply sound.same accept
      intro ended
      have still := ended task (List.mem_of_getElem? found)
      cases stage.symm.trans still
  | handle taken => exact sound.handle taken

/-- One connection is accepted, and then the server is told to stop. -/
def overrun (addr : A) : List (Event A) :=
  [.check, .acquire, .accept addr, .shutdown, .check, .drained]

/-- With more connections than `u32::MAX`, the drain does not ask for all permits:
it succeeds although the connection has not even been polled. -/
theorem overrun_returns (addr : A) (many : u32Max < config.maxConnections)
    (grace : 0 < config.shutdownGrace) : ∃ state,
    Trace.run (step config) (.start config) (overrun addr) = some state ∧
      ¬ DrainSound config state := by
  have positive : 0 < config.maxConnections := by omega
  have capped : config.drainPermits ≤ config.maxConnections - 1 := by
    unfold Config.drainPermits
    rw [if_neg (by omega)]
    omega
  have ran : Trace.run (step config) (.start config) (overrun addr) = some
      { State.start config with
        flag := true
        accept := .returned 0 0
        available := config.maxConnections - 1
        tasks := [⟨1, addr, .spawned⟩] } := by
    simp [overrun, Trace.run, step, State.check, State.start, State.acquire, positive,
      State.acceptOk, State.nextId, State.drained, capped]
  refine ⟨_, ran, ?_⟩
  intro sound
  have ended := sound 0 0 rfl grace ⟨1, addr, .spawned⟩ (by simp)
  cases ended

/-- The drain is sound in every run exactly when the number of connections fits
into the `u32` that it asks for, or no grace is given. -/
theorem drain_sound_iff [Inhabited A] (config : Config) :
    (∀ events (state : State A), Trace.run (step config) (.start config) events = some state →
      DrainSound config state) ↔
    config.maxConnections ≤ u32Max ∨ config.shutdownGrace = 0 := by
  constructor
  · intro always
    by_contra excess
    have many : u32Max < config.maxConnections := by omega
    have grace : 0 < config.shutdownGrace := by omega
    obtain ⟨state, ran, unsound⟩ := overrun_returns (default : A) many grace
    exact unsound (always _ state ran)
  · intro condition events state ran
    rcases condition with bounded | none
    · have both := Trace.run_preserves
        (fun state : State A => Balanced config state ∧ DrainSound config state)
        (fun _ _ _ held taken => ⟨held.1.step taken, held.2.step held.1 bounded taken⟩)
        ⟨.start, .start⟩ ran
      exact both.2
    · intro since at_ returned early
      omega

/-- `MAX_CONNECTIONS=4294967296` and a grace of ten seconds. -/
def overrunConfig : Config := ⟨2 ^ 32, 10000, by decide⟩

theorem drain_leaves_connection : ∃ state,
    Trace.run (step overrunConfig) (.start overrunConfig) (overrun "127.0.0.1:50000") =
        some state ∧
      ¬ DrainSound overrunConfig state :=
  overrun_returns "127.0.0.1:50000" (by decide) (by decide)

end ActorServices.Server
