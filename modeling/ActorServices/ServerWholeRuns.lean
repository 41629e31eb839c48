import ActorServices.ConnectionBounds
import ActorServices.ServerWhole

set_option autoImplicit false

namespace ActorServices.TcpServer

open Http Connection

variable {A : Type} {config : Server.Config} {maxBodyBytes : Nat} {state after : State A}
  {events : List (Event A)}

/-- Below the connections the whole server makes a run of the accept loop, the tasks and the
registry. -/
theorem server_simulates
    (ran : Trace.run (step config maxBodyBytes) (.start config) events = some state) :
    ∃ below, Trace.run (Server.step config) (.start config) below = some state.server := by
  apply Trace.run_preserves (fun state : State A => ∃ below,
    Trace.run (Server.step config) (.start config) below = some state.server) _ ⟨[], rfl⟩ ran
  intro middle event next held taken
  obtain ⟨below, reached⟩ := held
  rcases (step_turn taken).server with same | ⟨event, moved⟩
  · exact ⟨below, same ▸ reached⟩
  · exact ⟨below ++ [event], Trace.run_through reached moved rfl⟩

theorem server_invariant (inv : Server.State A → Prop)
    (preserved : ∀ middle event next, inv middle → Server.step config middle event = some next →
      inv next)
    (initial : inv (.start config))
    (ran : Trace.run (step config maxBodyBytes) (.start config) events = some state) :
    inv state.server := by
  obtain ⟨below, reached⟩ := server_simulates ran
  exact Trace.run_preserves inv preserved initial reached

/-- What is true of a connection when it starts, and stays true whatever the server lets it
do. -/
structure Kept (maxBodyBytes : Nat) (holds : Peer → Prop) : Prop where
  start : ∀ flag flagClosed, holds (.start flag flagClosed)
  signal : ∀ peer, holds peer → holds { peer with conn := { peer.conn with flag := true } } ∧
    holds { peer with conn := { peer.conn with flagClosed := true } }
  io : ∀ peer event conn, holds peer → own event = true →
    Connection.step maxBodyBytes peer.conn event = some conn →
    holds { peer with conn, lost := peer.lost || event == .writeError }
  status : ∀ peer status, holds peer → holds { peer with status }
  answer : ∀ peer head total keepAlive active connections requests status, holds peer →
    peer.conn.pc = .route head total keepAlive →
    holds { peer with
      conn := { peer.conn with
        pc := .reply ((route head active connections requests).response head keepAlive) total }
      status }
  unwind : ∀ peer, holds peer → holds { peer with lost := true }

theorem mem_put {index : Nat} {old new peer : Peer} {holds : Peer → Prop}
    (all : ∀ peer ∈ state.peers, holds peer) (found : state.guarded index = some old)
    (one : holds old → holds new) (member : peer ∈ state.peers.set index new) : holds peer := by
  obtain ⟨task, there, stage, here⟩ := guarded_some found
  rcases List.mem_or_eq_of_mem_set member with kept | same
  · exact all peer kept
  · exact same ▸ one (all old (List.mem_of_getElem? here))

theorem Kept.turn {holds : Peer → Prop} (kept : Kept maxBodyBytes holds)
    (all : ∀ peer ∈ state.peers, holds peer) (turn : Turn config maxBodyBytes state after) :
    ∀ peer ∈ after.peers, holds peer := by
  cases turn with
  | loop event server which taken moved =>
      subst moved
      intro peer member
      cases event with
      | shutdown =>
          obtain ⟨before, held, rfl⟩ := List.mem_map.mp member
          exact (kept.signal before (all before held)).1
      | closeFlag =>
          obtain ⟨before, held, rfl⟩ := List.mem_map.mp member
          exact (kept.signal before (all before held)).2
      | accept addr =>
          rcases List.mem_append.mp member with held | fresh
          · exact all peer held
          · rw [List.mem_singleton] at fresh
            exact fresh ▸ kept.start state.server.flag state.server.flagClosed
      | _ => exact all peer member
  | enter index server taken moved => exact moved ▸ all
  | pass event server which taken moved => exact moved ▸ all
  | io index peer event conn mine found taken moved =>
      subst moved
      exact fun other => mem_put all found fun held => kept.io peer event conn held mine taken
  | query index peer server found taken moved =>
      subst moved
      exact fun other => mem_put all found fun held => kept.status peer _ held
  | received index peer answer found held moved =>
      subst moved
      exact fun other => mem_put all found fun held => kept.status peer _ held
  | load index peer active found status moved =>
      subst moved
      exact fun other => mem_put all found fun held => kept.status peer _ held
  | report index peer head total keepAlive active connections found place status moved =>
      subst moved
      exact fun other => mem_put all found fun held =>
        kept.answer peer head total keepAlive active _ _ .idle held place
  | reply index peer head total keepAlive found place moved =>
      subst moved
      exact fun other => mem_put all found fun held =>
        kept.answer peer head total keepAlive 0 0 0 .idle held place
  | unguard index peer server found closed taken moved => exact moved ▸ all
  | unwind index peer server found taken moved =>
      subst moved
      exact fun other => mem_put all found fun held => kept.unwind peer held

/-- It is then true of every connection in every state that the server reaches. -/
theorem Kept.run {holds : Peer → Prop} (kept : Kept maxBodyBytes holds)
    (ran : Trace.run (step config maxBodyBytes) (.start config) events = some state) :
    ∀ peer ∈ state.peers, holds peer :=
  Trace.run_preserves (fun state : State A => ∀ peer ∈ state.peers, holds peer)
    (fun _ _ _ all taken => kept.turn all (step_turn taken))
    (fun _ member => absurd member List.not_mem_nil) ran

/-- Every connection makes a run of its own. -/
theorem connection_simulates (maxBodyBytes : Nat) : Kept maxBodyBytes fun peer =>
    ∃ alone, Trace.run (Connection.step maxBodyBytes) .start alone = some peer.conn where
  start flag flagClosed := by
    cases flag with
    | false =>
        cases flagClosed with
        | false => exact ⟨[], rfl⟩
        | true => exact ⟨[.closeFlag], rfl⟩
    | true =>
        cases flagClosed with
        | false => exact ⟨[.shutdown], rfl⟩
        | true => exact ⟨[.shutdown, .closeFlag], rfl⟩
  signal peer held := by
    obtain ⟨alone, reached⟩ := held
    exact ⟨⟨alone ++ [.shutdown], Trace.run_through reached rfl rfl⟩,
      ⟨alone ++ [.closeFlag], Trace.run_through reached rfl rfl⟩⟩
  io peer event conn held mine taken := by
    obtain ⟨alone, reached⟩ := held
    exact ⟨alone ++ [event], Trace.run_through reached taken rfl⟩
  status peer status held := held
  answer peer head total keepAlive active connections requests status held place := by
    obtain ⟨alone, reached⟩ := held
    have moved : Connection.step maxBodyBytes peer.conn
        (.routed (route head active connections requests)) = some _ := replied_route place _
    exact ⟨alone ++ [_], Trace.run_through reached moved rfl⟩
  unwind peer held := held

/-- The stages that a task goes through. -/
inductive Restaged (index : Nat) : Server.Event A → Server.Stage → Server.Stage → Prop
  | enter : Restaged index (.enter index) .spawned .entered
  | guard : Restaged index (.guard index) .entered .guarded
  | query : Restaged index (.query index) .guarded .querying
  | handle : Restaged index .handle .querying .guarded
  | unguard : Restaged index (.unguard index) .guarded .unguarded
  | release : Restaged index (.release index) .unguarded .ended

/-- All that an event does to the list of tasks. -/
inductive Tasked (below next : Server.State A) : Server.Event A → Prop
  | same (event : Server.Event A) (other : ∀ addr, event ≠ .accept addr)
      (silent : ∀ index, event ≠ .enter index)
      (tasks : next.tasks = below.tasks) : Tasked below next event
  | accept (addr : A) (tasks : next.tasks = below.tasks ++ [⟨below.nextId, addr, .spawned⟩]) :
      Tasked below next (.accept addr)
  | stage (event : Server.Event A) (index : Nat) (task : Server.Task A) (new : Server.Stage)
      (found : below.tasks[index]? = some task) (restaged : Restaged index event task.stage new)
      (tasks : next.tasks = below.tasks.set index { task with stage := new }) :
      Tasked below next event

section Tasks

variable {below next : Server.State A}

theorem tasked_move {event : Server.Event A} {index : Nat} {old new : Server.Stage}
    {post : Server.Task A → Mailbox (Server.Cmd A) → Mailbox (Server.Cmd A)}
    (restaged : Restaged index event old new) (taken : below.move index old new post = some next) :
    Tasked below next event := by
  obtain ⟨task, found, stage, rfl⟩ := Server.move_some taken
  exact .stage event index task new found (stage ▸ restaged) rfl

theorem tasked_handle (taken : below.handle = some next) : Tasked below next .handle := by
  cases Server.handle_cases taken with
  | register id addr mailbox took moved => exact .same .handle (by simp) (by simp) (moved ▸ rfl)
  | deregister id mailbox took moved => exact .same .handle (by simp) (by simp) (moved ▸ rfl)
  | answer id mailbox task took found querying moved =>
      exact .stage .handle (id - 1) task .guarded found (querying ▸ .handle) (moved ▸ rfl)
  | unheard id mailbox took moved => exact .same .handle (by simp) (by simp) (moved ▸ rfl)

theorem server_tasked {event : Server.Event A}
    (taken : Server.step config below event = some next) : Tasked below next event := by
  cases event with
  | elapse millis => exact .same _ (by simp) (by simp) (Option.some.inj taken ▸ rfl)
  | shutdown => exact .same _ (by simp) (by simp) (Option.some.inj taken ▸ rfl)
  | closeFlag => exact .same _ (by simp) (by simp) (Option.some.inj taken ▸ rfl)
  | enter index =>
      simp only [Server.step, Server.State.enter] at taken
      exact tasked_move .enter taken
  | guard index =>
      simp only [Server.step, Server.State.guard] at taken
      exact tasked_move .guard taken
  | query index =>
      simp only [Server.step, Server.State.query] at taken
      exact tasked_move .query taken
  | unguard index =>
      simp only [Server.step, Server.State.unguard] at taken
      exact tasked_move .unguard taken
  | release index =>
      obtain ⟨moved, left, rfl⟩ := Option.map_eq_some_iff.mp taken
      obtain ⟨task, found, stage, rfl⟩ := Server.move_some left
      exact .stage _ index task .ended found (stage ▸ .release) rfl
  | handle => exact tasked_handle taken
  | accept addr =>
      simp only [Server.step, Server.State.acceptOk] at taken
      split at taken
      · exact .accept addr (Option.some.inj taken ▸ rfl)
      · cases taken
  | check =>
      simp only [Server.step, Server.State.check] at taken
      split at taken
      · exact .same _ (by simp) (by simp) (Option.some.inj taken ▸ rfl)
      · cases taken
  | stop =>
      simp only [Server.step, Server.State.stop] at taken
      split at taken
      · split at taken
        · exact .same _ (by simp) (by simp) (Option.some.inj taken ▸ rfl)
        · exact .same _ (by simp) (by simp) (Option.some.inj taken ▸ rfl)
        · cases taken
      · cases taken
  | acquire =>
      simp only [Server.step, Server.State.acquire] at taken
      split at taken
      · exact .same _ (by simp) (by simp) (Option.some.inj taken ▸ rfl)
      · cases taken
  | acceptFailed =>
      simp only [Server.step, Server.State.acceptFailed] at taken
      split at taken
      · exact .same _ (by simp) (by simp) (Option.some.inj taken ▸ rfl)
      · cases taken
  | wake =>
      simp only [Server.step, Server.State.wake] at taken
      split at taken
      · split at taken
        · exact .same _ (by simp) (by simp) (Option.some.inj taken ▸ rfl)
        · cases taken
      · cases taken
  | drained =>
      simp only [Server.step, Server.State.drained] at taken
      split at taken
      · split at taken
        · exact .same _ (by simp) (by simp) (Option.some.inj taken ▸ rfl)
        · cases taken
      · cases taken
  | timedOut =>
      simp only [Server.step, Server.State.timedOut] at taken
      split at taken
      · split at taken
        · exact .same _ (by simp) (by simp) (Option.some.inj taken ▸ rfl)
        · cases taken
      · cases taken

end Tasks

/-- A change of the peers that only a receiver of the signal sees. -/
structure Unseen (change : Peer → Peer) : Prop where
  pc : ∀ peer, (change peer).conn.pc = peer.conn.pc
  routed : ∀ peer, (change peer).conn.routed = peer.conn.routed
  lost : ∀ peer, (change peer).lost = peer.lost
  status : ∀ peer, (change peer).status = peer.status

theorem peersAfter_unseen (state : State A) (event : Server.Event A)
    (other : ∀ addr, event ≠ .accept addr) :
    ∃ change, Unseen change ∧ state.peersAfter event = state.peers.map change := by
  have trivial : Unseen id := ⟨fun _ => rfl, fun _ => rfl, fun _ => rfl, fun _ => rfl⟩
  cases event with
  | shutdown =>
      exact ⟨fun peer => { peer with conn := { peer.conn with flag := true } },
        ⟨fun _ => rfl, fun _ => rfl, fun _ => rfl, fun _ => rfl⟩, rfl⟩
  | closeFlag =>
      exact ⟨fun peer => { peer with conn := { peer.conn with flagClosed := true } },
        ⟨fun _ => rfl, fun _ => rfl, fun _ => rfl, fun _ => rfl⟩, rfl⟩
  | accept addr => exact absurd rfl (other addr)
  | _ => exact ⟨id, trivial, (List.map_id state.peers).symm⟩

/-- What a step of the accept loop, the registry or the surroundings does to tasks and
connections. -/
inductive Looped (state : State A) (server : Server.State A) (peers : List Peer) : Prop
  | accept (addr : A) (tasks : server.tasks = state.server.tasks ++
        [⟨state.server.nextId, addr, .spawned⟩])
      (grown : peers = state.peers ++ [.start state.server.flag state.server.flagClosed])
  | same (change : Peer → Peer) (unseen : Unseen change)
      (tasks : server.tasks = state.server.tasks) (kept : peers = state.peers.map change)
  | resumed (index : Nat) (task : Server.Task A) (found : state.server.tasks[index]? = some task)
      (stage : task.stage = .querying)
      (tasks : server.tasks = state.server.tasks.set index { task with stage := .guarded })
      (kept : peers = state.peers)

theorem loop_looped {event : Server.Event A} {server : Server.State A}
    (which : loops event = true) (taken : Server.step config state.server event = some server) :
    Looped state server (state.peersAfter event) := by
  cases server_tasked taken with
  | same _ other silent tasks =>
      obtain ⟨change, unseen, kept⟩ := peersAfter_unseen state event other
      exact .same change unseen tasks kept
  | accept addr tasks => exact .accept addr tasks rfl
  | stage _ index task new found restaged tasks =>
      generalize stage : task.stage = old at restaged
      cases restaged with
      | handle => exact .resumed index task found stage tasks rfl
      | _ => cases which

end ActorServices.TcpServer
