import Mathlib.Algebra.Order.BigOperators.Group.List
import Mathlib.Algebra.Order.Ring.Nat
import ActorServices.ServerWholeRuns

set_option autoImplicit false

namespace ActorServices.TcpServer

open Http Connection

variable {A : Type} {config : Server.Config} {maxBodyBytes : Nat} {state after : State A}
  {events : List (Event A)}

theorem sum_set {α : Type} (f : α → Nat) {items : List α} {index : Nat} {item : α}
    (found : items[index]? = some item) (new : α) :
    ((items.set index new).map f).sum + f item = (items.map f).sum + f new := by
  induction items generalizing index with
  | nil => cases found
  | cons first items ih =>
      cases index with
      | zero =>
          cases found
          simp only [List.set_cons_zero, List.map_cons, List.sum_cons]
          omega
      | succ index =>
          have rest := ih found
          simp only [List.set_cons_succ, List.map_cons, List.sum_cons]
          omega

/-- The requests that were routed, over all connections. -/
def State.routed (state : State A) : Nat :=
  (state.peers.map fun peer => peer.conn.routed.length).sum

/-- The connection awaits `route`. -/
def routes (conn : Connection.State) : Nat :=
  match conn.pc with
  | .route _ _ _ => 1
  | _ => 0

/-- Those of them whose response has been made. -/
def State.settled (state : State A) : Nat :=
  (state.peers.map fun peer => peer.conn.routed.length - routes peer.conn).sum

def entered (task : Server.Task A) : Bool := task.stage != .spawned

/-- The connections for which `handle_connection` was called. -/
def State.entered (state : State A) : Nat := state.server.tasks.countP TcpServer.entered

section Requests

variable {conn next : Connection.State} {event : Connection.Event}

/-- A connection has a request routed when it goes on with a whole one, and not otherwise. -/
theorem passage_requests (passage : Passage maxBodyBytes conn event next)
    (mine : own event = true) : routes conn = 0 ∧
      next.routed.length = conn.routed.length + (requestsIn conn event).toNat ∧
      routes next = (requestsIn conn event).toNat := by
  cases passage with
  | shutdown => cases mine
  | closeFlag => cases mine
  | await place parsed =>
      simp only [routes, requestsIn, place]
      refine ⟨trivial, rfl, ?_⟩
      cases conn.buf.isEmpty <;> rfl
  | rest place =>
      simp only [routes, requestsIn, place]
      refine ⟨trivial, rfl, ?_⟩
      cases conn.flag <;> rfl
  | route head total place =>
      simp only [routes, requestsIn, place]
      exact ⟨trivial, List.length_append, rfl⟩
  | readHead chunk place nonempty fits =>
      rcases place with place | place
      · simp only [routes, requestsIn, place]
        exact ⟨trivial, rfl, rfl⟩
      · simp only [routes, requestsIn, place]
        exact ⟨trivial, rfl, rfl⟩
  | close _ read unwritten other =>
      cases place : conn.pc <;> rw [place] at read <;> cases read
      all_goals
        simp only [routes, requestsIn, place]
        exact ⟨trivial, rfl, rfl⟩
  | reply head total keepAlive reply place => cases mine
  | served response total place =>
      simp only [routes, requestsIn, place]
      refine ⟨trivial, rfl, ?_⟩
      cases response.keepAlive <;> rfl
  | _ =>
      simp only [routes, requestsIn, *]
      exact ⟨trivial, rfl, rfl⟩

end Requests

/-- What a step adds to the requests that were routed, and to those that were answered. -/
structure Summed (state after : State A) (newly : UInt64) (answered : Nat) : Prop where
  routed : after.routed = state.routed + newly.toNat
  total : after.requestsTotal = state.requestsTotal + newly
  settled : after.settled = state.settled + answered

theorem Summed.same (routed : after.routed = state.routed) (settled : after.settled = state.settled)
    (total : after.requestsTotal = state.requestsTotal) : Summed state after 0 0 :=
  ⟨routed, total.trans (UInt64.add_zero _).symm, settled⟩

theorem put_routed {index : Nat} {old : Peer} (found : state.guarded index = some old)
    (new : Peer) : (state.put index new).routed + old.conn.routed.length =
      state.routed + new.conn.routed.length := by
  obtain ⟨task, there, stage, here⟩ := guarded_some found
  exact sum_set (fun peer : Peer => peer.conn.routed.length) here new

theorem put_settled {index : Nat} {old : Peer} (found : state.guarded index = some old)
    (new : Peer) : (state.put index new).settled + (old.conn.routed.length - routes old.conn) =
      state.settled + (new.conn.routed.length - routes new.conn) := by
  obtain ⟨task, there, stage, here⟩ := guarded_some found
  exact sum_set (fun peer : Peer => peer.conn.routed.length - routes peer.conn) here new

theorem loop_sums {server : Server.State A} {peers : List Peer}
    (looped : Looped state server peers) (total connections : UInt64) (reports : List Report) :
    (State.mk server peers connections total reports).routed = state.routed ∧
      (State.mk server peers connections total reports).settled = state.settled := by
  unfold State.routed State.settled
  cases looped with
  | accept addr tasks grown =>
      rw [grown]
      simp [Peer.start, Connection.State.start, routes]
  | same change unseen tasks kept =>
      rw [kept, List.map_map, List.map_map]
      constructor
      · congr 1
        apply List.map_congr_left
        intro peer member
        exact congrArg List.length (unseen.routed peer)
      · congr 1
        apply List.map_congr_left
        intro peer member
        simp only [Function.comp, unseen.routed peer, routes, unseen.pc peer]
  | resumed index task found stage tasks kept => rw [kept]; exact ⟨rfl, rfl⟩


/-- A request that awaits `route` is one of those that were routed. -/
theorem routes_kept (maxBodyBytes : Nat) :
    Kept maxBodyBytes fun peer => routes peer.conn ≤ peer.conn.routed.length where
  start _ _ := Nat.le_refl _
  signal _ held := ⟨held, held⟩
  io peer event conn held mine taken := by
    obtain ⟨_, routed, awaits⟩ := passage_requests (step_passage taken) mine
    show routes conn ≤ conn.routed.length
    omega
  status _ _ held := held
  answer _ _ _ _ _ _ _ _ _ _ := Nat.zero_le _
  unwind _ held := held

/-- A change of one connection that is seen in neither sum. -/
theorem put_same {index : Nat} {old : Peer} (found : state.guarded index = some old) (new : Peer)
    (conn : new.conn = old.conn) : (state.put index new).routed = state.routed ∧
      (state.put index new).settled = state.settled := by
  have routed := put_routed found new
  have settled := put_settled found new
  rw [conn] at routed settled
  exact ⟨Nat.add_right_cancel routed, Nat.add_right_cancel settled⟩

/-- A connection's response has been made. -/
theorem put_answered {index : Nat} {old : Peer} (found : state.guarded index = some old)
    (one : routes old.conn = 1) (some : 1 ≤ old.conn.routed.length) (response : Response)
    (total : Nat) (status : Status) :
    let new := { old with conn := { old.conn with pc := .reply response total }, status }
    (state.put index new).routed = state.routed ∧
      (state.put index new).settled = state.settled + 1 := by
  intro new
  have routed : _ + old.conn.routed.length = _ + old.conn.routed.length := put_routed found new
  have settled : _ + _ = _ + (old.conn.routed.length - 0) := put_settled found new
  rw [one] at settled
  refine ⟨Nat.add_right_cancel routed, ?_⟩
  omega

theorem guarded_member {index : Nat} {peer : Peer} (found : state.guarded index = some peer) :
    peer ∈ state.peers := by
  obtain ⟨task, there, stage, here⟩ := guarded_some found
  exact List.mem_of_getElem? here

theorem turn_sums (all : ∀ peer ∈ state.peers, routes peer.conn ≤ peer.conn.routed.length)
    (turn : Turn config maxBodyBytes state after) :
    ∃ newly answered, Summed state after newly answered := by
  cases turn with
  | loop event server which taken moved =>
      obtain ⟨routed, settled⟩ := loop_sums (loop_looped which taken) state.requestsTotal
        state.connectionsTotal state.reports
      exact moved ▸ ⟨0, 0, .same routed settled rfl⟩
  | enter index server taken moved => exact moved ▸ ⟨0, 0, .same rfl rfl rfl⟩
  | pass event server which taken moved => exact moved ▸ ⟨0, 0, .same rfl rfl rfl⟩
  | io index peer event conn mine found taken moved =>
      obtain ⟨before, routed, awaits⟩ := passage_requests (step_passage taken) mine
      have sum := put_routed found { peer with conn, lost := peer.lost || event == .writeError }
      have made := put_settled found { peer with conn, lost := peer.lost || event == .writeError }
      subst moved
      refine ⟨requestsIn peer.conn event, 0, ?_, rfl, ?_⟩
      · show (state.put index { peer with conn, lost := _ }).routed = _
        dsimp only at sum
        omega
      · show (state.put index { peer with conn, lost := _ }).settled = _
        dsimp only at made
        omega
  | query index peer server found taken moved =>
      obtain ⟨routed, settled⟩ := put_same found { peer with status := .asked } rfl
      exact moved ▸ ⟨0, 0, .same routed settled rfl⟩
  | received index peer answer found held moved =>
      obtain ⟨routed, settled⟩ := put_same found { peer with status := .counted answer.count } rfl
      exact moved ▸ ⟨0, 0, .same routed settled rfl⟩
  | load index peer active found status moved =>
      obtain ⟨routed, settled⟩ := put_same found
        { peer with status := .loaded active state.connectionsTotal } rfl
      exact moved ▸ ⟨0, 0, .same routed settled rfl⟩
  | report index peer head total keepAlive active connections found place status moved =>
      have one : routes peer.conn = 1 := by rw [routes, place]
      obtain ⟨routed, settled⟩ := put_answered found one (one ▸ all peer (guarded_member found))
        ((route head active connections.toNat state.requestsTotal.toNat).response head keepAlive)
        total .idle
      exact moved ▸ ⟨0, 1, routed, (UInt64.add_zero _).symm, settled⟩
  | reply index peer head total keepAlive found place moved =>
      have one : routes peer.conn = 1 := by rw [routes, place]
      obtain ⟨routed, settled⟩ := put_answered found one (one ▸ all peer (guarded_member found))
        ((route head 0 0 0).response head keepAlive) total .idle
      exact moved ▸ ⟨0, 1, routed, (UInt64.add_zero _).symm, settled⟩
  | unguard index peer server found closed taken moved => exact moved ▸ ⟨0, 0, .same rfl rfl rfl⟩
  | unwind index peer server found taken moved =>
      obtain ⟨routed, settled⟩ := put_same found { peer with lost := true } rfl
      exact moved ▸ ⟨0, 0, .same routed settled rfl⟩

/-- The connections that an event has enter `handle_connection`. -/
def enters : Server.Event A → Nat
  | .enter _ => 1
  | _ => 0

theorem tasked_entered {below next : Server.State A} {event : Server.Event A}
    (tasked : Tasked below next event) :
    next.tasks.countP entered = below.tasks.countP entered + enters event := by
  cases tasked with
  | same _ other silent tasks =>
      rw [tasks]
      cases event with
      | enter index => exact absurd rfl (silent index)
      | _ => rfl
  | accept addr tasks =>
      rw [tasks, List.countP_append]
      rfl
  | stage _ index task new found restaged tasks =>
      have count := Server.countP_set_of_found entered found { task with stage := new }
      rw [tasks]
      generalize stage : task.stage = old at restaged
      unfold entered at count ⊢
      rw [stage] at count
      cases restaged with
      | enter => exact count
      | _ => exact Nat.add_right_cancel count

theorem server_entered {below next : Server.State A} {event : Server.Event A}
    (taken : Server.step config below event = some next) (silent : enters event = 0) :
    next.tasks.countP entered = below.tasks.countP entered := by
  have count := tasked_entered (server_tasked taken)
  rwa [silent] at count

theorem turn_entered (turn : Turn config maxBodyBytes state after) : ∃ newly : UInt64,
    after.entered = state.entered + newly.toNat ∧
      after.connectionsTotal = state.connectionsTotal + newly := by
  have unchanged : state.connectionsTotal = state.connectionsTotal + 0 := (UInt64.add_zero _).symm
  cases turn with
  | loop event server which taken moved =>
      have silent : enters event = 0 := by
        cases event with
        | enter index => cases which
        | _ => rfl
      exact moved ▸ ⟨0, server_entered taken silent, unchanged⟩
  | enter index server taken moved =>
      have moves : Server.step config state.server (.enter index) = some server := taken
      exact moved ▸ ⟨1, tasked_entered (server_tasked moves), rfl⟩
  | pass event server which taken moved =>
      have silent : enters event = 0 := by
        obtain ⟨index, rfl | rfl⟩ := which
        · rfl
        · rfl
      exact moved ▸ ⟨0, server_entered taken silent, unchanged⟩
  | io index peer event conn mine found taken moved => exact moved ▸ ⟨0, rfl, unchanged⟩
  | query index peer server found taken moved =>
      have moves : Server.step config state.server (.query index) = some server := taken
      exact moved ▸ ⟨0, server_entered moves rfl, unchanged⟩
  | received index peer answer found held moved => exact moved ▸ ⟨0, rfl, unchanged⟩
  | load index peer active found status moved => exact moved ▸ ⟨0, rfl, unchanged⟩
  | report index peer head total keepAlive active connections found place status moved =>
      exact moved ▸ ⟨0, rfl, unchanged⟩
  | reply index peer head total keepAlive found place moved => exact moved ▸ ⟨0, rfl, unchanged⟩
  | unguard index peer server found closed taken moved =>
      have moves : Server.step config state.server (.unguard index) = some server := taken
      exact moved ▸ ⟨0, server_entered moves rfl, unchanged⟩
  | unwind index peer server found taken moved =>
      have moves : Server.step config state.server (.unguard index) = some server := taken
      exact moved ▸ ⟨0, server_entered moves rfl, unchanged⟩

theorem ofNat_add_toNat (count : Nat) (newly : UInt64) :
    UInt64.ofNat (count + newly.toNat) = UInt64.ofNat count + newly := by
  rw [UInt64.ofNat_add, UInt64.ofNat_toNat]

/-- What the two counters stand for. -/
structure Exact (state : State A) : Prop where
  connections : state.connectionsTotal = UInt64.ofNat state.entered
  requests : state.requestsTotal = UInt64.ofNat state.routed

theorem exact_run (ran : Trace.run (step config maxBodyBytes) (.start config) events = some state) :
    Exact state := by
  have held := Trace.run_preserves (fun state : State A => Exact state ∧
    ∀ peer ∈ state.peers, routes peer.conn ≤ peer.conn.routed.length) ?_ ?_ ran
  · exact held.1
  · intro middle event next held taken
    obtain ⟨exact_, all⟩ := held
    have turn := step_turn taken
    obtain ⟨newly, answered, sums⟩ := turn_sums all turn
    obtain ⟨fresh, count, total⟩ := turn_entered turn
    refine ⟨⟨?_, ?_⟩, (routes_kept maxBodyBytes).turn all turn⟩
    · rw [total, count, ofNat_add_toNat, exact_.connections]
    · rw [sums.total, sums.routed, ofNat_add_toNat, exact_.requests]
  · exact ⟨⟨rfl, rfl⟩, fun _ member => absurd member List.not_mem_nil⟩

/-- A connection is open in a front of the mailbox only if its task has got that far. -/
theorem live_entered {below : Server.State A} (scripted : Server.Scripted below)
    {ahead : List (Server.Cmd A)} (earlier : ahead <+: below.mailbox.sent) :
    below.live ahead ≤ below.tasks.countP entered := by
  unfold Server.State.live Server.State.ids
  rw [List.countP_map]
  apply List.countP_mono_left
  intro task member live
  obtain ⟨⟨addr, registered⟩, -⟩ := (Server.openIn_iff _ _).mp live
  have posted : Server.Cmd.register task.id addr ∈
      Server.messagesOf task.id below.mailbox.sent :=
    List.mem_filter.mpr ⟨earlier.subset registered, by simp [Server.Cmd.id]⟩
  have script := scripted.scripts task member
  unfold entered
  cases stage : task.stage with
  | spawned =>
      simp only [Server.Script, stage] at script
      rw [script] at posted
      exact absurd posted List.not_mem_nil
  | _ => rfl

/-- The figures of a report: the asking connection is counted as live, no more are than may
be or were accepted, and its request and those of the reports before it are counted. -/
structure Report.Fair (config : Server.Config) (index : Nat) (report : Report) : Prop where
  least : 1 ≤ report.active
  most : report.active ≤ config.maxConnections
  accepted : report.active ≤ report.connectionsTotal.toNat
  requests : index + 1 ≤ report.requestsTotal.toNat

/-- The same of a report in the making. -/
def Status.Fair (config : Server.Config) (entered : Nat) : Status → Prop
  | .counted active => 1 ≤ active ∧ active ≤ config.maxConnections ∧ active ≤ entered
  | .loaded active total => 1 ≤ active ∧ active ≤ config.maxConnections ∧ active ≤ total.toNat
  | _ => True

theorem Status.Fair.later {status : Status} {entered later : Nat}
    (fair : status.Fair config entered) (grown : entered ≤ later) : status.Fair config later := by
  cases status with
  | counted active => exact ⟨fair.1, fair.2.1, Nat.le_trans fair.2.2 grown⟩
  | _ => exact fair

structure Reported (config : Server.Config) (state : State A) : Prop where
  reports : ∀ (index : Nat) (report : Report), state.reports[index]? = some report →
    report.Fair config index ∧ report.requestsTotal.toNat ≤ state.routed
  sorted : state.reports.Pairwise fun earlier later => earlier.requestsTotal ≤ later.requestsTotal
  few : state.reports.length ≤ state.settled
  statuses : ∀ peer ∈ state.peers, peer.status.Fair config state.entered

/-- Neither counter has wrapped. -/
def Unwrapped (state : State A) : Prop :=
  state.server.tasks.length < 2 ^ 64 ∧ state.routed < 2 ^ 64

theorem Exact.connections_toNat (exact_ : Exact state) (unwrapped : Unwrapped state) :
    state.connectionsTotal.toNat = state.entered := by
  have bound : state.entered ≤ state.server.tasks.length := List.countP_le_length
  rw [exact_.connections, UInt64.toNat_ofNat_of_lt']
  exact Nat.lt_of_le_of_lt bound unwrapped.1

theorem Exact.requests_toNat (exact_ : Exact state) (unwrapped : Unwrapped state) :
    state.requestsTotal.toNat = state.routed := by
  rw [exact_.requests, UInt64.toNat_ofNat_of_lt' unwrapped.2]

/-- What a step that makes no report leaves of the reports. -/
theorem Reported.unchanged (reported : Reported config state) (reports : after.reports =
    state.reports) (routed : state.routed ≤ after.routed) (settled : state.settled ≤ after.settled)
    (statuses : ∀ peer ∈ after.peers, peer.status.Fair config after.entered) :
    Reported config after where
  reports index report found := by
    rw [reports] at found
    obtain ⟨fair, bound⟩ := reported.reports index report found
    exact ⟨fair, Nat.le_trans bound routed⟩
  sorted := by
    rw [reports]
    exact reported.sorted
  few := by
    rw [reports]
    exact Nat.le_trans reported.few settled
  statuses := statuses

/-- What is known of the server's parts in every state that it reaches. -/
structure Known (config : Server.Config) (state : State A) : Prop where
  exact_ : Exact state
  routing : ∀ peer ∈ state.peers, routes peer.conn ≤ peer.conn.routed.length
  scripted : Server.Scripted state.server
  tracked : Server.Tracked config state.server

theorem known_run (ran : Trace.run (step config maxBodyBytes) (.start config) events = some state) :
    Known config state := by
  have below := server_invariant (fun below : Server.State A => Server.Balanced config below ∧
    Server.Scripted below ∧ Server.Tracked config below)
    (fun _ _ _ held taken => ⟨held.1.step taken, held.2.1.step taken,
      held.2.2.step held.2.1 held.1 taken⟩)
    ⟨.start, .start, .start⟩ ran
  exact ⟨exact_run ran, (routes_kept maxBodyBytes).run ran, below.2.1, below.2.2⟩

theorem Known.answer (known : Known config state) {answer : Server.Answer A}
    (held : answer ∈ state.server.answers) : 1 ≤ answer.count ∧
      answer.count ≤ config.maxConnections ∧ answer.count ≤ state.entered := by
  have right := known.tracked.answered answer held
  obtain ⟨back, order⟩ := right.order
  have earlier : answer.ahead <+: state.server.mailbox.sent := by
    rw [order]
    exact List.prefix_append _ _
  refine ⟨right.least, right.most, ?_⟩
  rw [right.counted]
  exact live_entered known.scripted earlier

theorem statuses_turn (known : Known config state) (unwrapped : Unwrapped state)
    (all : ∀ peer ∈ state.peers, peer.status.Fair config state.entered)
    (turn : Turn config maxBodyBytes state after) :
    ∀ peer ∈ after.peers, peer.status.Fair config after.entered := by
  obtain ⟨newly, count, -⟩ := turn_entered turn
  have grown : state.entered ≤ after.entered := count ▸ Nat.le_add_right _ _
  have before : ∀ peer ∈ after.peers, peer.status.Fair config state.entered := by
    cases turn with
    | loop event server which taken moved =>
        subst moved
        intro peer member
        cases loop_looped which taken with
        | accept addr tasks grown =>
            dsimp only at member
            rw [grown] at member
            rcases List.mem_append.mp member with old | fresh
            · exact all peer old
            · rw [List.mem_singleton] at fresh
              exact fresh ▸ trivial
        | same change unseen tasks kept =>
            dsimp only at member
            rw [kept] at member
            obtain ⟨old, held, rfl⟩ := List.mem_map.mp member
            rw [unseen.status old]
            exact all old held
        | resumed index task found stage tasks kept =>
            dsimp only at member
            rw [kept] at member
            exact all peer member
    | enter index server taken moved => exact moved ▸ all
    | pass event server which taken moved => exact moved ▸ all
    | io index peer event conn mine found taken moved =>
        subst moved
        exact fun other => mem_put all found fun held => held
    | query index peer server found taken moved =>
        subst moved
        exact fun other => mem_put all found fun _ => trivial
    | received index peer answer found held moved =>
        subst moved
        exact fun other => mem_put all found fun _ => known.answer held
    | load index peer active found status moved =>
        subst moved
        refine fun other => mem_put all found fun held => ?_
        rw [status] at held
        obtain ⟨least, most, accepted⟩ := held
        refine ⟨least, most, ?_⟩
        rw [known.exact_.connections_toNat unwrapped]
        exact accepted
    | report index peer head total keepAlive active connections found place status moved =>
        subst moved
        exact fun other => mem_put all found fun _ => trivial
    | reply index peer head total keepAlive found place moved =>
        subst moved
        exact fun other => mem_put all found fun _ => trivial
    | unguard index peer server found closed taken moved => exact moved ▸ all
    | unwind index peer server found taken moved =>
        subst moved
        exact fun other => mem_put all found fun held => held
  exact fun peer member => (before peer member).later grown

/-- What a finished `/status` response leaves of the reports. -/
theorem Reported.add (reported : Reported config state) (known : Known config state)
    (unwrapped : Unwrapped state) {report : Report}
    (fair : 1 ≤ report.active ∧ report.active ≤ config.maxConnections ∧
      report.active ≤ report.connectionsTotal.toNat)
    (now : report.requestsTotal = state.requestsTotal) (reports : after.reports = state.reports ++
      [report]) (routed : after.routed = state.routed)
    (settled : after.settled = state.settled + 1) (pending : state.settled < state.routed)
    (statuses : ∀ peer ∈ after.peers, peer.status.Fair config after.entered) :
    Reported config after := by
  have few := reported.few
  have total := known.exact_.requests_toNat unwrapped
  refine ⟨?_, ?_, ?_, statuses⟩
  · intro index other found
    rw [reports] at found
    by_cases old : index < state.reports.length
    · rw [List.getElem?_append_left old] at found
      obtain ⟨same, bound⟩ := reported.reports index other found
      exact ⟨same, routed ▸ bound⟩
    · rw [List.getElem?_append_right (Nat.le_of_not_lt old), List.getElem?_singleton] at found
      split at found
      · cases found
        have last : index = state.reports.length := by omega
        have requests : report.requestsTotal.toNat = state.routed := now ▸ total
        exact ⟨⟨fair.1, fair.2.1, fair.2.2, by omega⟩, by omega⟩
      · cases found
  · rw [reports]
    refine List.pairwise_append.mpr ⟨reported.sorted, List.pairwise_singleton _ _, ?_⟩
    intro earlier member later last
    rw [List.mem_singleton] at last
    subst last
    obtain ⟨index, found⟩ := List.mem_iff_getElem?.mp member
    have bound := (reported.reports index earlier found).2
    rw [UInt64.le_iff_toNat_le, now, total]
    exact bound
  · rw [reports, List.length_append, List.length_singleton]
    omega

theorem settled_le (state : State A) : state.settled ≤ state.routed :=
  List.sum_le_sum fun _ _ => Nat.sub_le _ _

theorem Reported.turn (reported : Reported config state) (known : Known config state)
    (unwrapped : Unwrapped state) (turn : Turn config maxBodyBytes state after) :
    Reported config after := by
  have statuses := statuses_turn known unwrapped reported.statuses turn
  obtain ⟨newly, answered, sums⟩ := turn_sums known.routing turn
  have routed : state.routed ≤ after.routed := sums.routed ▸ Nat.le_add_right _ _
  have settled : state.settled ≤ after.settled := sums.settled ▸ Nat.le_add_right _ _
  cases turn with
  | report index peer head total keepAlive active connections found place status moved =>
      have one : routes peer.conn = 1 := by rw [routes, place]
      have member := guarded_member found
      have fair : 1 ≤ active ∧ active ≤ config.maxConnections ∧ active ≤ connections.toNat := by
        have held := reported.statuses peer member
        rwa [status] at held
      let response := (route head active connections.toNat state.requestsTotal.toNat).response head
        keepAlive
      obtain ⟨same, more⟩ := put_answered found one (one ▸ known.routing peer member) response
        total .idle
      have bound := settled_le (state.put index
        { peer with conn := { peer.conn with pc := .reply response total }, status := .idle })
      subst moved
      let made : Report := ⟨active, connections, state.requestsTotal⟩
      have fits : 1 ≤ made.active ∧ made.active ≤ config.maxConnections ∧
          made.active ≤ made.connectionsTotal.toNat := fair
      exact reported.add known unwrapped fits rfl rfl same more (by omega) statuses
  | _ =>
      rename_i moved
      exact reported.unchanged (moved ▸ rfl) routed settled statuses

theorem turn_unwrapped (known : Known config state) (turn : Turn config maxBodyBytes state after)
    (unwrapped : Unwrapped after) : Unwrapped state := by
  obtain ⟨newly, answered, sums⟩ := turn_sums known.routing turn
  have tasks : state.server.tasks.length ≤ after.server.tasks.length := by
    rcases turn.server with same | ⟨event, taken⟩
    · rw [same]
    · cases server_tasked taken with
      | same _ other silent tasks => rw [tasks]
      | accept addr tasks =>
          rw [tasks, List.length_append]
          exact Nat.le_add_right _ _
      | stage _ index task new found restaged tasks => rw [tasks, List.length_set]
  refine ⟨Nat.lt_of_le_of_lt tasks unwrapped.1, ?_⟩
  exact Nat.lt_of_le_of_lt (sums.routed ▸ Nat.le_add_right _ _) unwrapped.2

/-- In every run the two counters have counted each connection that entered its handler and
each request that was routed. As long as neither has wrapped, the figures of all `/status`
responses fit together, although each of the three is read at a time of its own: the asking
connection is among the live ones, these are no more than may be open at once and no more
than have been accepted, and the request is counted together with all that were reported
before it. -/
theorem status_consistent
    (ran : Trace.run (step config maxBodyBytes) (.start config) events = some state) :
    state.connectionsTotal = UInt64.ofNat state.entered ∧
      state.requestsTotal = UInt64.ofNat state.routed ∧
      (Unwrapped state →
        (∀ (index : Nat) (report : Report), state.reports[index]? = some report →
          report.Fair config index) ∧
        state.reports.Pairwise fun earlier later =>
          earlier.requestsTotal ≤ later.requestsTotal) := by
  have exact_ := exact_run ran
  refine ⟨exact_.connections, exact_.requests, fun unwrapped => ?_⟩
  have reported : Unwrapped state → Reported config state := by
    apply Trace.run_induction (fun _ state => Unwrapped state → Reported config state) _ _ ran
    · intro _
      exact ⟨nofun, .nil, Nat.le_refl _, fun _ member => absurd member List.not_mem_nil⟩
    · intro history middle event next rest held reached taken _ _ unwrapped
      have known := known_run reached
      have before := turn_unwrapped known (step_turn taken) unwrapped
      exact (held before).turn known before (step_turn taken)
  have all := reported unwrapped
  exact ⟨fun index report found => (all.reports index report found).1, all.sorted⟩

/-- One connection that asks for `/status`, while a second one is let in and leaves again. -/
def statusEvents : List (Event String) :=
  [.loop .check, .loop .acquire, .loop (.accept "127.0.0.1:50000"), .enter 0, .guard 0, .io 0 .turn,
    .io 0 .turn, .io 0 (.bytes "GET /status HTTP/1.1\r\n\r\n".toUTF8.toList), .io 0 .turn,
    .io 0 .turn, .io 0 .turn, .query 0, .loop .check, .loop .acquire,
    .loop (.accept "127.0.0.1:50001"), .enter 1, .guard 1, .loop .handle, .loop .handle, .unwind 1,
    .received 0, .loadConnections 0, .answer 0, .io 0 .written]

def statusConfig : Server.Config := ⟨2, 10000, by decide⟩

theorem status_consistent_race : ∃ state : State String,
    Trace.run (step statusConfig 64) (.start statusConfig) statusEvents = some state ∧
      state.reports = [⟨1, 2, 1⟩] ∧
      state.connectionsTotal = UInt64.ofNat state.entered ∧
      state.requestsTotal = UInt64.ofNat state.routed ∧
      (Unwrapped state →
        (∀ (index : Nat) (report : Report), state.reports[index]? = some report →
          report.Fair statusConfig index) ∧
        state.reports.Pairwise fun earlier later =>
          earlier.requestsTotal ≤ later.requestsTotal) := by
  have reported : (Trace.run (step statusConfig 64) (.start statusConfig) statusEvents).map
      (fun state => state.reports) = some [⟨1, 2, 1⟩] := by
    decide +kernel
  obtain ⟨state, ran, reports⟩ := Option.map_eq_some_iff.mp reported
  exact ⟨state, ran, reports, status_consistent ran⟩

/-- What the connection tasks hold in their buffers. -/
def State.held (state : State A) : Nat :=
  ((state.server.tasks.zip state.peers).map fun entry =>
    if entry.1.stage.inside then entry.2.conn.buf.length else 0).sum

/-- A bound for each connection, taken as often as there are connections inside. -/
theorem held_le {bound : Nat} (tasks : List (Server.Task A)) (peers : List Peer)
    (each : ∀ peer ∈ peers, peer.conn.buf.length ≤ bound) :
    ((tasks.zip peers).map fun entry =>
      if entry.1.stage.inside then entry.2.conn.buf.length else 0).sum ≤
      tasks.countP Server.Task.inside * bound := by
  induction tasks generalizing peers with
  | nil => exact Nat.zero_le _
  | cons task tasks ih =>
      cases peers with
      | nil => exact Nat.zero_le _
      | cons peer peers =>
          have first := each peer List.mem_cons_self
          have rest := ih peers fun other member => each other (List.mem_cons_of_mem _ member)
          rw [List.zip_cons_cons, List.map_cons, List.sum_cons, List.countP_cons, Nat.add_mul]
          cases inside : task.stage.inside with
          | true =>
              simp only [Server.Task.inside, inside, if_true, Nat.one_mul]
              omega
          | false =>
              simp only [Server.Task.inside, inside, Bool.false_eq_true, if_false, Nat.zero_mul]
              omega

/-- Whatever the peers send, all connections together hold no more in their buffers than the
configured number of connections times the most that one may hold. -/
theorem memory_bounded
    (ran : Trace.run (step config maxBodyBytes) (.start config) events = some state) :
    state.held ≤ config.maxConnections * (2 * 8192 + maxBodyBytes) := by
  have each : ∀ peer ∈ state.peers, peer.conn.buf.length ≤ 2 * 8192 + maxBodyBytes := by
    intro peer member
    obtain ⟨alone, reached⟩ := (connection_simulates maxBodyBytes).run ran peer member
    have bounded : ∃ reads, Bounded maxBodyBytes peer.conn reads :=
      Trace.run_preserves (fun conn => ∃ reads, Bounded maxBodyBytes conn reads)
        (fun _ _ _ held taken => held.elim fun _ held => ⟨_, bounded_step held taken⟩)
        ⟨0, bounded_start maxBodyBytes⟩ reached
    obtain ⟨reads, length, _⟩ := bounded
    exact length
  have balanced := server_invariant (Server.Balanced config)
    (fun _ _ _ held taken => held.step taken) .start ran
  exact Nat.le_trans (held_le _ _ each) (Nat.mul_le_mul_right _ balanced.inside)

theorem memory_bounded_status : ∃ state : State String,
    Trace.run (step statusConfig 64) (.start statusConfig) (statusEvents.take 12) = some state ∧
      state.held = 24 ∧ state.held ≤ 2 * (2 * 8192 + 64) := by
  have holding : (Trace.run (step statusConfig 64) (.start statusConfig)
      (statusEvents.take 12)).map State.held = some 24 := by
    decide +kernel
  obtain ⟨state, ran, held⟩ := Option.map_eq_some_iff.mp holding
  exact ⟨state, ran, held, memory_bounded ran⟩

end ActorServices.TcpServer
