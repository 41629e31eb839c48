import ActorServices.HeadRequests
import ActorServices.ServerLiveSet

set_option autoImplicit false

/- The whole of `tcp-actor-server`: the accept loop and the registry, and in every
connection task the loop of `handle_connection` over its own stream and buffer, with the
counters that all tasks share. -/
namespace ActorServices.TcpServer

open Http Connection

/-- How far a `/status` request is: `active_count` is awaited first, and the two counters
are loaded after it, one by one. -/
inductive Status
  | idle
  | asked
  | counted (active : Nat)
  | loaded (active : Nat) (connectionsTotal : UInt64)
  deriving DecidableEq, Repr

/-- The locals of one `handle_connection`. It is `lost` if a write fails or the task
unwinds; no step reads that. -/
structure Peer where
  conn : Connection.State
  status : Status
  lost : Bool
  deriving DecidableEq, Repr

/-- The receiver of the watch channel shows what was sent before it was cloned. -/
def Peer.start (flag flagClosed : Bool) : Peer :=
  ⟨{ Connection.State.start with flag, flagClosed }, .idle, false⟩

/-- The figures of one `/status` response. -/
structure Report where
  active : Nat
  connectionsTotal : UInt64
  requestsTotal : UInt64
  deriving DecidableEq, Repr

/-- `peers` are the connections in the order of their tasks. `reports` lists the figures of
the `/status` responses that were made; no step reads it. -/
structure State (A : Type) where
  server : Server.State A
  peers : List Peer
  connectionsTotal : UInt64
  requestsTotal : UInt64
  reports : List Report

def State.start {A : Type} (config : Server.Config) : State A :=
  ⟨.start config, [], 0, 0, []⟩

inductive Event (A : Type)
  | loop (event : Server.Event A)
  | enter (index : Nat)
  | guard (index : Nat)
  | io (index : Nat) (event : Connection.Event)
  | query (index : Nat)
  | received (index : Nat)
  | loadConnections (index : Nat)
  | answer (index : Nat)
  | unguard (index : Nat)
  | unwind (index : Nat)
  | release (index : Nat)
  deriving DecidableEq, Repr

section Operations

variable {A : Type} (config : Server.Config) (maxBodyBytes : Nat) (state : State A)

/-- The events of the accept loop, the registry and the surroundings. -/
def loops : Server.Event A → Bool
  | .enter _ | .guard _ | .query _ | .unguard _ | .release _ => false
  | _ => true

/-- What a connection does by itself or with its peer: it is not given the signal by
itself, and a request is routed in steps of its own. -/
def own : Connection.Event → Bool
  | .shutdown | .closeFlag | .routed _ => false
  | _ => true

/-- `GET` and `HEAD` of `/status`. -/
def asksStatus (head : RequestHead) : Bool :=
  (head.method == "GET" || head.method == "HEAD") && head.path == "/status"

/-- Every receiver sees what is sent on the watch channel. -/
def State.peersAfter : Server.Event A → List Peer
  | .shutdown => state.peers.map fun peer => { peer with conn := { peer.conn with flag := true } }
  | .closeFlag =>
      state.peers.map fun peer => { peer with conn := { peer.conn with flagClosed := true } }
  | .accept _ => state.peers ++ [.start state.server.flag state.server.flagClosed]
  | _ => state.peers

def State.loop (event : Server.Event A) : Option (State A) :=
  if loops event then
    (Server.step config state.server event).map fun server =>
      { state with server, peers := state.peersAfter event }
  else none

/-- A connection inside its loop that awaits no reply of the registry. -/
def State.guarded (index : Nat) : Option Peer :=
  match state.server.tasks[index]?, state.peers[index]? with
  | some task, some peer => if task.stage = .guarded then some peer else none
  | _, _ => none

def State.put (index : Nat) (peer : Peer) : State A :=
  { state with peers := state.peers.set index peer }

/-- `on_connect`, the first thing in `handle_connection`. -/
def State.enter (index : Nat) : Option (State A) :=
  (state.server.enter index).map fun server =>
    { state with server, connectionsTotal := state.connectionsTotal + 1 }

def State.guard (index : Nat) : Option (State A) :=
  (state.server.guard index).map fun server => { state with server }

/-- `on_request`, when a whole request is there. -/
def requestsIn (conn : Connection.State) (event : Connection.Event) : UInt64 :=
  match conn.pc, event with
  | .complete _ _, .turn => 1
  | _, _ => 0

def State.io (index : Nat) (event : Connection.Event) : Option (State A) :=
  if own event then
    (state.guarded index).bind fun peer =>
      (Connection.step maxBodyBytes peer.conn event).map fun conn =>
        { state.put index { peer with conn, lost := peer.lost || event == .writeError } with
          requestsTotal := state.requestsTotal + requestsIn peer.conn event }
  else none

/-- `active_count` of a `/status` request. -/
def State.query (index : Nat) : Option (State A) :=
  (state.guarded index).bind fun peer =>
    match peer.conn.pc, peer.status with
    | .route head _ _, .idle =>
        if asksStatus head then
          (state.server.query index).map fun server =>
            { state.put index { peer with status := .asked } with server }
        else none
    | _, _ => none

/-- The reply to its last query is there. -/
def State.received (index : Nat) : Option (State A) :=
  (state.guarded index).bind fun peer =>
    if peer.status = .asked then
      (state.server.answers.reverse.find? fun answer => answer.id == index + 1).map fun answer =>
        state.put index { peer with status := .counted answer.count }
    else none

def State.loadConnections (index : Nat) : Option (State A) :=
  (state.guarded index).bind fun peer =>
    match peer.status with
    | .counted active =>
        some (state.put index { peer with status := .loaded active state.connectionsTotal })
    | _ => none

/-- `route` returns: at once, or for a `/status` request once `requests_total` is loaded
as well. -/
def State.answer (index : Nat) : Option (State A) :=
  (state.guarded index).bind fun peer =>
    match peer.conn.pc with
    | .route head _ _ =>
        if asksStatus head then
          match peer.status with
          | .loaded active total =>
              (peer.conn.replied
                (route head active total.toNat state.requestsTotal.toNat)).map fun conn =>
                { state.put index { peer with conn, status := .idle } with
                  reports := state.reports ++ [⟨active, total, state.requestsTotal⟩] }
          | _ => none
        else
          (peer.conn.replied (route head 0 0 0)).map fun conn =>
            state.put index { peer with conn, status := .idle }
    | _ => none

/-- `handle_connection` returns. -/
def State.unguard (index : Nat) : Option (State A) :=
  (state.guarded index).bind fun peer =>
    if peer.conn.pc = .closed then
      (state.server.unguard index).map fun server => { state with server }
    else none

/-- A panic unwinds it, and drops its guard all the same. -/
def State.unwind (index : Nat) : Option (State A) :=
  (state.guarded index).bind fun peer =>
    (state.server.unguard index).map fun server =>
      { state.put index { peer with lost := true } with server }

def State.release (index : Nat) : Option (State A) :=
  (state.server.release index).map fun server => { state with server }

def step : Event A → Option (State A)
  | .loop event => state.loop config event
  | .enter index => state.enter index
  | .guard index => state.guard index
  | .io index event => state.io maxBodyBytes index event
  | .query index => state.query index
  | .received index => state.received index
  | .loadConnections index => state.loadConnections index
  | .answer index => state.answer index
  | .unguard index => state.unguard index
  | .unwind index => state.unwind index
  | .release index => state.release index

end Operations

section Steps

variable {A : Type} {config : Server.Config} {maxBodyBytes : Nat} {state after : State A}

theorem guarded_some {index : Nat} {peer : Peer} (found : state.guarded index = some peer) :
    ∃ task, state.server.tasks[index]? = some task ∧ task.stage = .guarded ∧
      state.peers[index]? = some peer := by
  unfold State.guarded at found
  split at found
  · rename_i task other there here
    split at found
    · rename_i stage
      exact ⟨task, there, stage, Option.some.inj found ▸ here⟩
    · cases found
  · cases found

/-- All that a step does. -/
inductive Turn (config : Server.Config) (maxBodyBytes : Nat) (state after : State A) : Prop
  | loop (event : Server.Event A) (server : Server.State A) (which : loops event = true)
      (taken : Server.step config state.server event = some server)
      (moved : after = { state with server, peers := state.peersAfter event })
  | enter (index : Nat) (server : Server.State A) (taken : state.server.enter index = some server)
      (moved : after = { state with server, connectionsTotal := state.connectionsTotal + 1 })
  | pass (event : Server.Event A) (server : Server.State A)
      (which : ∃ index, event = .guard index ∨ event = .release index)
      (taken : Server.step config state.server event = some server)
      (moved : after = { state with server })
  | io (index : Nat) (peer : Peer) (event : Connection.Event) (conn : Connection.State)
      (mine : own event = true) (found : state.guarded index = some peer)
      (taken : Connection.step maxBodyBytes peer.conn event = some conn)
      (moved : after =
        { state.put index { peer with conn, lost := peer.lost || event == .writeError } with
          requestsTotal := state.requestsTotal + requestsIn peer.conn event })
  | query (index : Nat) (peer : Peer) (server : Server.State A)
      (found : state.guarded index = some peer) (taken : state.server.query index = some server)
      (moved : after = { state.put index { peer with status := .asked } with server })
  | received (index : Nat) (peer : Peer) (answer : Server.Answer A)
      (found : state.guarded index = some peer) (held : answer ∈ state.server.answers)
      (moved : after = state.put index { peer with status := .counted answer.count })
  | load (index : Nat) (peer : Peer) (active : Nat) (found : state.guarded index = some peer)
      (status : peer.status = .counted active)
      (moved : after =
        state.put index { peer with status := .loaded active state.connectionsTotal })
  | report (index : Nat) (peer : Peer) (head : RequestHead) (total : Nat) (keepAlive : Bool)
      (active : Nat) (connections : UInt64) (found : state.guarded index = some peer)
      (place : peer.conn.pc = .route head total keepAlive)
      (status : peer.status = .loaded active connections)
      (moved : after =
        { state.put index { peer with
            conn := { peer.conn with pc := .reply ((route head active connections.toNat
              state.requestsTotal.toNat).response head keepAlive) total }
            status := .idle } with
          reports := state.reports ++ [⟨active, connections, state.requestsTotal⟩] })
  | reply (index : Nat) (peer : Peer) (head : RequestHead) (total : Nat) (keepAlive : Bool)
      (found : state.guarded index = some peer)
      (place : peer.conn.pc = .route head total keepAlive)
      (moved : after = state.put index { peer with
        conn := { peer.conn with pc := .reply ((route head 0 0 0).response head keepAlive) total }
        status := .idle })
  | unguard (index : Nat) (peer : Peer) (server : Server.State A)
      (found : state.guarded index = some peer) (closed : peer.conn.pc = .closed)
      (taken : state.server.unguard index = some server) (moved : after = { state with server })
  | unwind (index : Nat) (peer : Peer) (server : Server.State A)
      (found : state.guarded index = some peer)
      (taken : state.server.unguard index = some server)
      (moved : after = { state.put index { peer with lost := true } with server })

theorem replied_route {conn : Connection.State} {head : RequestHead} {total : Nat}
    {keepAlive : Bool} (place : conn.pc = .route head total keepAlive) (reply : Reply) :
    conn.replied reply = some { conn with pc := .reply (reply.response head keepAlive) total } := by
  rw [Connection.State.replied, place]

theorem answer_turn {index : Nat} (taken : state.answer index = some after) :
    Turn config maxBodyBytes state after := by
  obtain ⟨peer, found, taken⟩ := Option.bind_eq_some_iff.mp taken
  cases place : peer.conn.pc with
  | route head total keepAlive =>
      simp only [place] at taken
      split at taken
      · cases status : peer.status with
        | loaded active connections =>
            simp only [status, replied_route place, Option.map_some, Option.some.injEq] at taken
            exact .report index peer head total keepAlive active connections found place status
              taken.symm
        | _ =>
            simp only [status] at taken
            cases taken
      · simp only [replied_route place, Option.map_some, Option.some.injEq] at taken
        exact .reply index peer head total keepAlive found place taken.symm
  | _ =>
      simp only [place] at taken
      cases taken

theorem step_turn {event : Event A} (taken : step config maxBodyBytes state event = some after) :
    Turn config maxBodyBytes state after := by
  cases event with
  | loop event =>
      simp only [step, State.loop] at taken
      split at taken
      · rename_i which
        obtain ⟨server, moved, rfl⟩ := Option.map_eq_some_iff.mp taken
        exact .loop event server which moved rfl
      · cases taken
  | enter index =>
      obtain ⟨server, moved, rfl⟩ := Option.map_eq_some_iff.mp taken
      exact .enter index server moved rfl
  | guard index =>
      obtain ⟨server, moved, rfl⟩ := Option.map_eq_some_iff.mp taken
      exact .pass (.guard index) server ⟨index, .inl rfl⟩ moved rfl
  | io index event =>
      simp only [step, State.io] at taken
      split at taken
      · rename_i mine
        obtain ⟨peer, found, taken⟩ := Option.bind_eq_some_iff.mp taken
        obtain ⟨conn, moved, rfl⟩ := Option.map_eq_some_iff.mp taken
        exact .io index peer event conn mine found moved rfl
      · cases taken
  | query index =>
      obtain ⟨peer, found, taken⟩ := Option.bind_eq_some_iff.mp taken
      split at taken
      · split at taken
        · obtain ⟨server, moved, rfl⟩ := Option.map_eq_some_iff.mp taken
          exact .query index peer server found moved rfl
        · cases taken
      · cases taken
  | received index =>
      obtain ⟨peer, found, taken⟩ := Option.bind_eq_some_iff.mp taken
      split at taken
      · obtain ⟨answer, last, rfl⟩ := Option.map_eq_some_iff.mp taken
        exact .received index peer answer found
          (List.mem_reverse.mp (List.mem_of_find?_eq_some last)) rfl
      · cases taken
  | loadConnections index =>
      obtain ⟨peer, found, taken⟩ := Option.bind_eq_some_iff.mp taken
      split at taken
      · rename_i active status
        exact .load index peer active found status (Option.some.inj taken).symm
      · cases taken
  | answer index => exact answer_turn taken
  | unguard index =>
      obtain ⟨peer, found, taken⟩ := Option.bind_eq_some_iff.mp taken
      split at taken
      · rename_i closed
        obtain ⟨server, moved, rfl⟩ := Option.map_eq_some_iff.mp taken
        exact .unguard index peer server found closed moved rfl
      · cases taken
  | unwind index =>
      obtain ⟨peer, found, taken⟩ := Option.bind_eq_some_iff.mp taken
      obtain ⟨server, moved, rfl⟩ := Option.map_eq_some_iff.mp taken
      exact .unwind index peer server found moved rfl
  | release index =>
      obtain ⟨server, moved, rfl⟩ := Option.map_eq_some_iff.mp taken
      exact .pass (.release index) server ⟨index, .inr rfl⟩ moved rfl

/-- The server below makes a step of its own, or none. -/
theorem Turn.server (turn : Turn config maxBodyBytes state after) :
    after.server = state.server ∨
      ∃ event, Server.step config state.server event = some after.server := by
  cases turn with
  | loop event server which taken moved => exact moved ▸ .inr ⟨event, taken⟩
  | enter index server taken moved => exact moved ▸ .inr ⟨.enter index, taken⟩
  | pass event server which taken moved => exact moved ▸ .inr ⟨event, taken⟩
  | io index peer event conn mine found taken moved => exact moved ▸ .inl rfl
  | query index peer server found taken moved => exact moved ▸ .inr ⟨.query index, taken⟩
  | received index peer answer found held moved => exact moved ▸ .inl rfl
  | load index peer active found status moved => exact moved ▸ .inl rfl
  | report index peer head total keepAlive active connections found place status moved =>
      exact moved ▸ .inl rfl
  | reply index peer head total keepAlive found place moved => exact moved ▸ .inl rfl
  | unguard index peer server found closed taken moved => exact moved ▸ .inr ⟨.unguard index, taken⟩
  | unwind index peer server found taken moved => exact moved ▸ .inr ⟨.unguard index, taken⟩

end Steps

end ActorServices.TcpServer
