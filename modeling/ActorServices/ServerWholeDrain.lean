import ActorServices.ServerWholeRuns

set_option autoImplicit false

namespace ActorServices.TcpServer

open Http Connection

variable {A : Type} {config : Server.Config} {maxBodyBytes : Nat} {state after : State A}
  {events : List (Event A)}

/-- The response to a request with this head. -/
def Replied (head : RequestHead) (response : Response) : Prop :=
  ∃ active connections requests keepAlive,
    response = (route head active connections requests).response head keepAlive

/-- One answer to each request that was routed, in their order, and at most one refusal
behind them. -/
def Settled (conn : Connection.State) : Prop :=
  ∃ answers refusals, conn.written = answers ++ refusals ∧ refusals.length ≤ 1 ∧
    List.Forall₂ Replied conn.routed answers

/-- How far a connection is with its answers. -/
def Accounted (peer : Peer) : Prop :=
  match peer.conn.pc with
  | .route head _ _ => ∃ earlier, peer.conn.routed = earlier ++ [head] ∧
      List.Forall₂ Replied earlier peer.conn.written
  | .reply response _ => ∃ earlier head, peer.conn.routed = earlier ++ [head] ∧
      Replied head response ∧ List.Forall₂ Replied earlier peer.conn.written
  | .closed => peer.lost = true ∨ Settled peer.conn
  | _ => List.Forall₂ Replied peer.conn.routed peer.conn.written

theorem settled_plain {conn : Connection.State}
    (answered : List.Forall₂ Replied conn.routed conn.written) : Settled conn :=
  ⟨conn.written, [], (List.append_nil _).symm, Nat.zero_le _, answered⟩

theorem accounted_io {peer : Peer} {event : Connection.Event} {conn : Connection.State}
    (held : Accounted peer) (mine : own event = true)
    (passage : Passage maxBodyBytes peer.conn event conn) :
    Accounted { peer with conn, lost := peer.lost || event == .writeError } := by
  unfold Accounted at held
  cases passage with
  | shutdown => cases mine
  | closeFlag => cases mine
  | await place parsed =>
      rw [place] at held
      unfold Accounted
      dsimp only
      cases peer.conn.buf.isEmpty <;> exact held
  | rest place =>
      rw [place] at held
      unfold Accounted
      dsimp only
      cases peer.conn.flag with
      | true => exact .inr (settled_plain held)
      | false => exact held
  | route head total place =>
      rw [place] at held
      exact ⟨peer.conn.routed, rfl, held⟩
  | readHead chunk place nonempty fits =>
      rcases place with place | place
      · rw [place] at held
        exact held
      · rw [place] at held
        exact held
  | close _ read unwritten other =>
      cases place : peer.conn.pc <;> rw [place] at read held <;> cases read
      all_goals exact .inr (settled_plain held)
  | reply head total keepAlive reply place => cases mine
  | served response total place =>
      rw [place] at held
      obtain ⟨earlier, head, routed, replied, answered⟩ := held
      have all : List.Forall₂ Replied peer.conn.routed (peer.conn.written ++ [response]) := by
        rw [routed]
        exact List.rel_append answered (.cons replied .nil)
      unfold Accounted
      dsimp only
      cases response.keepAlive with
      | true => exact all
      | false => exact .inr ⟨_, [], (List.append_nil _).symm, Nat.zero_le _, all⟩
  | refused response place =>
      rw [place] at held
      exact .inr ⟨peer.conn.written, [response], rfl, Nat.le_refl _, held⟩
  | unserved response total place => exact .inl (Bool.or_true _)
  | unrefused response place => exact .inl (Bool.or_true _)
  | _ =>
      simp only [*] at held
      exact held

theorem accounted_kept (maxBodyBytes : Nat) : Kept maxBodyBytes Accounted where
  start _ _ := .nil
  signal peer held := by
    unfold Accounted at held ⊢
    cases place : peer.conn.pc <;> rw [place] at held <;> exact ⟨held, held⟩
  io peer event conn held mine taken := accounted_io held mine (step_passage taken)
  status peer status held := held
  answer peer head total keepAlive active connections requests status held place := by
    unfold Accounted at held
    rw [place] at held
    obtain ⟨earlier, routed, answered⟩ := held
    exact ⟨earlier, head, routed, ⟨active, connections, requests, keepAlive, rfl⟩, answered⟩
  unwind peer held := by
    unfold Accounted at held ⊢
    cases place : peer.conn.pc <;> rw [place] at held
    case closed => exact .inl rfl
    all_goals exact held

/-- The guard of the connection was dropped. -/
def gone : Server.Stage → Bool
  | .unguarded | .ended => true
  | _ => false

/-- There is a connection to each task, and one whose guard is gone has come to its end. -/
structure Coupled (state : State A) : Prop where
  paired : state.peers.length = state.server.tasks.length
  left : ∀ (index : Nat) (task : Server.Task A) (peer : Peer),
    state.server.tasks[index]? = some task → state.peers[index]? = some peer →
    gone task.stage = true → peer.conn.pc = .closed ∨ peer.lost = true

theorem Coupled.start (config : Server.Config) : Coupled (State.start config : State A) := by
  refine ⟨rfl, ?_⟩
  intro index task peer there
  exact absurd (List.mem_of_getElem? there) List.not_mem_nil

/-- One task and its connection change, and the connection is at its end if the guard is. -/
theorem Coupled.set (coupled : Coupled state) (index : Nat) (task : Server.Task A)
    (new : Server.Stage) (peer : Peer) (ends : gone new = true →
      peer.conn.pc = .closed ∨ peer.lost = true)
    (tasks : after.server.tasks = state.server.tasks.set index { task with stage := new })
    (peers : after.peers = state.peers.set index peer) : Coupled after := by
  refine ⟨?_, ?_⟩
  · rw [tasks, peers, List.length_set, List.length_set]
    exact coupled.paired
  · intro place other kept there here left
    rw [tasks] at there
    rw [peers] at here
    by_cases same : index = place
    · subst same
      have inside := (List.getElem?_eq_some_iff.mp there).1
      have within := (List.getElem?_eq_some_iff.mp here).1
      rw [List.length_set] at inside within
      rw [List.getElem?_set_self inside] at there
      rw [List.getElem?_set_self within] at here
      cases there
      cases here
      exact ends left
    · rw [List.getElem?_set_ne same] at there here
      exact coupled.left place other kept there here left

/-- The same if the connection does not change. -/
theorem Coupled.stage (coupled : Coupled state) {index : Nat} {task : Server.Task A}
    (found : state.server.tasks[index]? = some task) (new : Server.Stage)
    (ends : gone new = true → gone task.stage = true ∨
      ∀ peer, state.peers[index]? = some peer → peer.conn.pc = .closed)
    (tasks : after.server.tasks = state.server.tasks.set index { task with stage := new })
    (peers : after.peers = state.peers) : Coupled after := by
  have bound : index < state.peers.length := by
    rw [coupled.paired]
    exact (List.getElem?_eq_some_iff.mp found).1
  have here := List.getElem?_eq_getElem bound
  refine coupled.set index task new state.peers[index] ?_ tasks ?_
  · intro left
    rcases ends left with was | closed
    · exact coupled.left index task _ found here was
    · exact .inl (closed _ here)
  · rw [peers, List.set_getElem_self]

/-- A connection changes while its guard is there. -/
theorem Coupled.put (coupled : Coupled state) {index : Nat} {old : Peer}
    (found : state.guarded index = some old) (new : Peer)
    (tasks : after.server.tasks = state.server.tasks)
    (peers : after.peers = state.peers.set index new) : Coupled after := by
  obtain ⟨task, there, stage, here⟩ := guarded_some found
  refine coupled.set index task .guarded new (by simp [gone]) ?_ peers
  have kept : { task with stage := .guarded } = task := by rw [← stage]
  rw [tasks, kept]
  obtain ⟨bound, same⟩ := List.getElem?_eq_some_iff.mp there
  rw [← same, List.set_getElem_self]

theorem Coupled.loop (coupled : Coupled state) {server : Server.State A} {peers : List Peer}
    (looped : Looped state server peers) (connections requests : UInt64) (reports : List Report) :
    Coupled (State.mk server peers connections requests reports) := by
  have paired := coupled.paired
  cases looped with
  | accept addr tasks grown =>
      refine ⟨by dsimp only; rw [tasks, grown]; simp [paired], ?_⟩
      intro index task peer there here left
      dsimp only at there here
      rw [tasks] at there
      rw [grown] at here
      by_cases old : index < state.server.tasks.length
      · rw [List.getElem?_append_left old] at there
        rw [List.getElem?_append_left (paired ▸ old)] at here
        exact coupled.left index task peer there here left
      · rw [List.getElem?_append_right (Nat.le_of_not_lt old), List.getElem?_singleton] at there
        split at there
        · cases there
          cases left
        · cases there
  | same change unseen tasks kept =>
      refine ⟨by dsimp only; rw [tasks, kept, List.length_map, paired], ?_⟩
      intro index task peer there here left
      dsimp only at there here
      rw [tasks] at there
      rw [kept, List.getElem?_map] at here
      obtain ⟨before, found, rfl⟩ := Option.map_eq_some_iff.mp here
      rw [unseen.pc, unseen.lost]
      exact coupled.left index task before there found left
  | resumed index task found stage tasks kept =>
      exact coupled.stage found .guarded (by simp [gone]) tasks kept

theorem Coupled.turn (coupled : Coupled state) (turn : Turn config maxBodyBytes state after) :
    Coupled after := by
  cases turn with
  | loop event server which taken moved =>
      exact moved ▸ coupled.loop (loop_looped which taken) _ _ _
  | enter index server taken moved =>
      obtain ⟨task, found, stage, rfl⟩ := Server.move_some taken
      exact coupled.stage found .entered (by simp [gone]) (moved ▸ rfl) (moved ▸ rfl)
  | pass event server which taken moved =>
      obtain ⟨index, rfl | rfl⟩ := which
      · simp only [Server.step, Server.State.guard] at taken
        obtain ⟨task, found, stage, rfl⟩ := Server.move_some taken
        exact coupled.stage found .guarded (by simp [gone]) (moved ▸ rfl) (moved ▸ rfl)
      · obtain ⟨below, left, rfl⟩ := Option.map_eq_some_iff.mp taken
        obtain ⟨task, found, stage, rfl⟩ := Server.move_some left
        have was : gone task.stage = true := by rw [stage]; rfl
        exact coupled.stage found .ended (fun _ => .inl was) (moved ▸ rfl) (moved ▸ rfl)
  | io index peer event conn mine found taken moved =>
      subst moved
      exact coupled.put found _ rfl rfl
  | query index peer server found taken moved =>
      obtain ⟨task, there, stage, rfl⟩ := Server.move_some taken
      subst moved
      exact coupled.set index task .querying _ (by simp [gone]) rfl rfl
  | received index peer answer found held moved =>
      subst moved
      exact coupled.put found _ rfl rfl
  | load index peer active found status moved =>
      subst moved
      exact coupled.put found _ rfl rfl
  | report index peer head total keepAlive active connections found place status moved =>
      subst moved
      exact coupled.put found _ rfl rfl
  | reply index peer head total keepAlive found place moved =>
      subst moved
      exact coupled.put found _ rfl rfl
  | unguard index peer server found closed taken moved =>
      obtain ⟨task, there, stage, rfl⟩ := Server.move_some taken
      obtain ⟨other, _, _, here⟩ := guarded_some found
      refine coupled.stage there .unguarded (fun _ => .inr ?_) (moved ▸ rfl) (moved ▸ rfl)
      intro same known
      exact Option.some.inj (here.symm.trans known) ▸ closed
  | unwind index peer server found taken moved =>
      obtain ⟨task, there, stage, rfl⟩ := Server.move_some taken
      subst moved
      exact coupled.set index task .unguarded _ (fun _ => .inr rfl) rfl rfl

/-- If `run` has returned before the grace was over, every connection has come to its end:
unless a write failed or its task unwound, each request that it had routed has got its
response, in their order, and at most one refusal was written behind them. -/
theorem drained_answered (bounded : config.maxConnections ≤ Server.u32Max)
    (ran : Trace.run (step config maxBodyBytes) (.start config) events = some state)
    {since at_ : Nat} (returned : state.server.accept = .returned since at_)
    (early : at_ - since < config.shutdownGrace) :
    ∀ peer ∈ state.peers, peer.lost = false → peer.conn.pc = .closed ∧ Settled peer.conn := by
  have below := server_invariant (fun below : Server.State A => Server.Balanced config below ∧
    Server.DrainSound config below)
    (fun _ _ _ held taken => ⟨held.1.step taken, held.2.step held.1 bounded taken⟩)
    ⟨.start, .start⟩ ran
  have ended := below.2 since at_ returned early
  have coupled : Coupled state := Trace.run_preserves Coupled
    (fun _ _ _ held taken => held.turn (step_turn taken)) (.start config) ran
  intro peer member kept
  obtain ⟨index, here⟩ := List.mem_iff_getElem?.mp member
  have within : index < state.server.tasks.length :=
    coupled.paired ▸ (List.getElem?_eq_some_iff.mp here).1
  have there := List.getElem?_eq_getElem within
  have stage := ended _ (List.mem_of_getElem? there)
  have closed : peer.conn.pc = .closed := by
    rcases coupled.left index _ peer there here (by rw [stage]; rfl) with closed | lost
    · exact closed
    · rw [kept] at lost
      cases lost
  have accounted := (accounted_kept maxBodyBytes).run ran peer member
  unfold Accounted at accounted
  rw [closed, kept] at accounted
  exact ⟨closed, accounted.resolve_left nofun⟩

/-- One request is served, the next one is on its way when the server is told to stop. -/
def drainEvents : List (Event String) :=
  [.loop .check, .loop .acquire, .loop (.accept "127.0.0.1:50000"), .enter 0, .guard 0, .io 0 .turn,
    .io 0 .turn, .io 0 (.bytes "GET / HTTP/1.1\r\n\r\nGET /healthz HTTP/1.1\r\n".toUTF8.toList),
    .io 0 .turn, .io 0 .turn, .io 0 .turn, .answer 0, .io 0 .written, .io 0 .turn,
    .loop .shutdown, .loop .check, .io 0 (.bytes "\r\n".toUTF8.toList), .io 0 .turn, .io 0 .turn,
    .io 0 .turn, .answer 0, .io 0 .written, .unguard 0, .release 0, .loop .drained]

theorem drained_answered_late : ∃ state : State String,
    Trace.run (step Server.statusConfig 64) (.start Server.statusConfig) drainEvents = some state ∧
      state.peers.map (fun peer => (peer.lost, peer.conn.routed.length)) = [(false, 2)] ∧
      ∀ peer ∈ state.peers, peer.lost = false → peer.conn.pc = .closed ∧ Settled peer.conn := by
  have drained : (Trace.run (step Server.statusConfig 64) (.start Server.statusConfig)
        drainEvents).map (fun state => (state.server.accept,
        state.peers.map fun peer => (peer.lost, peer.conn.routed.length))) =
      some (.returned 0 0, [(false, 2)]) := by
    decide +kernel
  obtain ⟨state, ran, shown⟩ := Option.map_eq_some_iff.mp drained
  have returned : state.server.accept = .returned 0 0 := congrArg Prod.fst shown
  exact ⟨state, ran, congrArg Prod.snd shown,
    drained_answered (by decide) ran returned (by decide)⟩

end ActorServices.TcpServer
