import ActorServices.ServerMessages

set_option autoImplicit false

namespace ActorServices.Server

variable {A : Type} {config : Config} {state after : State A}

/-- The connection has registered by then, and has not deregistered. -/
def openIn (ahead : List (Cmd A)) (id : Nat) : Bool :=
  ahead.any (Cmd.registers id) && !ahead.any (Cmd.deregisters id)

def State.ids (state : State A) : List Nat := state.tasks.map Task.id

/-- The number of connections that are open after these commands. -/
def State.live (state : State A) (ahead : List (Cmd A)) : Nat := state.ids.countP (openIn ahead)

theorem openIn_iff (ahead : List (Cmd A)) (id : Nat) :
    openIn ahead id = true ↔ (∃ addr, .register id addr ∈ ahead) ∧ .deregister id ∉ ahead := by
  have registered : ahead.any (Cmd.registers id) = true ↔ ∃ addr, .register id addr ∈ ahead := by
    rw [List.any_eq_true]
    constructor
    · intro found
      obtain ⟨cmd, member, registers⟩ := found
      cases cmd with
      | register other addr =>
          have same : other = id := by simpa [Cmd.registers] using registers
          exact ⟨addr, same ▸ member⟩
      | deregister other => cases registers
      | activeCount other => cases registers
    · intro found
      obtain ⟨addr, member⟩ := found
      exact ⟨_, member, by simp [Cmd.registers]⟩
  have deregistered : ahead.any (Cmd.deregisters id) = true ↔ .deregister id ∈ ahead := by
    rw [List.any_eq_true]
    constructor
    · intro found
      obtain ⟨cmd, member, deregisters⟩ := found
      cases cmd with
      | deregister other =>
          have same : other = id := by simpa [Cmd.deregisters] using deregisters
          exact same ▸ member
      | register other addr => cases deregisters
      | activeCount other => cases deregisters
    · intro member
      exact ⟨_, member, by simp [Cmd.deregisters]⟩
  rw [openIn, Bool.and_eq_true, registered, Bool.not_eq_true', ← Bool.not_eq_true, deregistered]

/-- A connection that is open in all that was posted holds a permit. -/
theorem Scripted.open_holds (scripted : Scripted state) {task : Task A}
    (member : task ∈ state.tasks) (live : openIn state.mailbox.sent task.id = true) :
    task.holdsPermit = true := by
  have silent := ((openIn_iff _ _).mp live).2
  have script := scripted.scripts task member
  unfold Task.holdsPermit
  cases stage : task.stage with
  | ended =>
      simp only [Script, stage] at script
      obtain ⟨asked, shape⟩ := script
      have posted : .deregister task.id ∈ messagesOf task.id state.mailbox.sent := by
        rw [shape]
        simp
      exact absurd (List.mem_of_mem_filter posted) silent
  | _ => rfl

/-- No more connections are open than there are permits. -/
theorem live_le (scripted : Scripted state) (balanced : Balanced config state) :
    state.live state.mailbox.sent ≤ config.maxConnections := by
  have fewer : state.live state.mailbox.sent ≤ state.holders := by
    unfold State.live State.ids State.holders
    rw [List.countP_map]
    apply List.countP_mono_left
    intro task member live
    exact scripted.open_holds member live
  unfold Balanced at balanced
  omega

theorem Scripted.ids_nodup (scripted : Scripted state) : state.ids.Nodup := by
  unfold State.ids
  rw [List.nodup_iff_getElem?_ne_getElem?]
  intro first second order bound same
  rw [List.getElem?_map, List.getElem?_map] at same
  rw [List.length_map] at bound
  have one := scripted.ids first _ (List.getElem?_eq_getElem (by omega))
  have other := scripted.ids second _ (List.getElem?_eq_getElem bound)
  rw [List.getElem?_eq_getElem (by omega), List.getElem?_eq_getElem bound, Option.map_some,
    Option.map_some, Option.some.injEq] at same
  omega

/-- What a step adds: at most one message and at most one task. Only the
registry's own step changes what it has handled. -/
structure Frame (state after : State A) : Prop where
  sent : after.mailbox.sent = state.mailbox.sent ∨
    ∃ cmd, after.mailbox.sent = state.mailbox.sent ++ [cmd]
  ids : after.ids = state.ids ∨ after.ids = state.ids ++ [state.nextId]
  registry : state.handle = some after ∨ (after.mailbox.handled = state.mailbox.handled ∧
    after.conns = state.conns ∧ after.answers = state.answers)

theorem ids_set {conn : Nat} {task : Task A} (found : state.tasks[conn]? = some task)
    (new : Stage) : (state.tasks.set conn { task with stage := new }).map Task.id = state.ids := by
  obtain ⟨bound, same⟩ := List.getElem?_eq_some_iff.mp found
  rw [List.map_set, State.ids]
  apply List.ext_getElem?
  intro index
  rw [List.getElem?_set]
  split
  · rename_i equal
    subst equal
    simp [bound, same]
  · rfl

theorem move_frame {conn : Nat} {old new : Stage}
    {post : Task A → Mailbox (Cmd A) → Mailbox (Cmd A)}
    (taken : state.move conn old new post = some after)
    (posts : ∀ task mailbox, (post task mailbox).sent = mailbox.sent ∨
      ∃ cmd, (post task mailbox).sent = mailbox.sent ++ [cmd])
    (handled : ∀ task mailbox, (post task mailbox).handled = mailbox.handled) :
    Frame state after := by
  obtain ⟨task, found, -, rfl⟩ := move_some taken
  exact ⟨posts task _, Or.inl (ids_set found new), Or.inr ⟨handled task _, rfl, rfl⟩⟩

theorem handle_frame (taken : state.handle = some after) : Frame state after := by
  have registry : state.handle = some after ∨ (after.mailbox.handled = state.mailbox.handled ∧
    after.conns = state.conns ∧ after.answers = state.answers) := Or.inl taken
  cases handle_cases taken with
  | register id addr mailbox took moved =>
      rw [moved] at registry ⊢
      exact ⟨Or.inl (Mailbox.take_some took).2.1, Or.inl rfl, registry⟩
  | deregister id mailbox took moved =>
      rw [moved] at registry ⊢
      exact ⟨Or.inl (Mailbox.take_some took).2.1, Or.inl rfl, registry⟩
  | answer id mailbox task took found querying moved =>
      rw [moved] at registry ⊢
      exact ⟨Or.inl (Mailbox.take_some took).2.1, Or.inl (ids_set found .guarded), registry⟩
  | unheard id mailbox took moved =>
      rw [moved] at registry ⊢
      exact ⟨Or.inl (Mailbox.take_some took).2.1, Or.inl rfl, registry⟩

/-- A step that posts nothing and spawns nothing. -/
theorem Frame.same (tasks : after.tasks = state.tasks) (mailbox : after.mailbox = state.mailbox)
    (conns : after.conns = state.conns) (answers : after.answers = state.answers) :
    Frame state after :=
  ⟨Or.inl (by rw [mailbox]), Or.inl (by rw [State.ids, tasks]; rfl),
    Or.inr ⟨by rw [mailbox], conns, answers⟩⟩

theorem step_frame {event : Event A} (taken : step config state event = some after) :
    Frame state after := by
  cases step_turn taken with
  | outside clock flag flagClosed moved => exact moved ▸ .same rfl rfl rfl rfl
  | loop accept available kept serving moved => exact moved ▸ .same rfl rfl rfl rfl
  | drained since draining free moved => exact moved ▸ .same rfl rfl rfl rfl
  | timedOut since draining elapsed moved => exact moved ▸ .same rfl rfl rfl rfl
  | accept addr accepting moved =>
      rw [moved]
      refine ⟨Or.inl rfl, Or.inr ?_, Or.inr ⟨rfl, rfl, rfl⟩⟩
      simp [State.ids]
  | enter conn taken =>
      exact move_frame taken (fun _ _ => Or.inl rfl) (fun _ _ => rfl)
  | guard conn taken =>
      exact move_frame taken (fun _ _ => Or.inr ⟨_, Mailbox.sent_post _ _⟩) (fun _ _ => rfl)
  | query conn taken =>
      exact move_frame taken (fun _ _ => Or.inr ⟨_, Mailbox.sent_post _ _⟩) (fun _ _ => rfl)
  | unguard conn taken =>
      exact move_frame taken (fun _ _ => Or.inr ⟨_, Mailbox.sent_post _ _⟩) (fun _ _ => rfl)
  | release conn task found stage moved =>
      rw [moved]
      exact ⟨Or.inl rfl, Or.inl (ids_set found .ended), Or.inr ⟨rfl, rfl, rfl⟩⟩
  | handle taken => exact handle_frame taken

/-- Later connections do not change the count after earlier commands. -/
theorem Frame.live (frame : Frame state after) (scripted : Scripted state)
    {ahead : List (Cmd A)} (earlier : ahead <+: state.mailbox.sent) :
    after.live ahead = state.live ahead := by
  unfold State.live
  rcases frame.ids with same | grown
  · rw [same]
  · have closed : openIn ahead state.nextId = false := by
      by_contra opened
      obtain ⟨⟨addr, member⟩, -⟩ := (openIn_iff _ _).mp (by simpa using opened)
      obtain ⟨task, held, same⟩ := scripted.known _ (earlier.subset member)
      obtain ⟨index, there⟩ := List.mem_iff_getElem?.mp held
      have id := scripted.ids index task there
      have bound : index < state.tasks.length := (List.getElem?_eq_some_iff.mp there).1
      simp only [Cmd.id, State.nextId] at same
      omega
    rw [grown, List.countP_append, List.countP_singleton, closed]
    rfl

/-- A reply counts the connections that are open after the commands ahead of its
query: the asking connection at least, and no more than there may be. -/
structure Answer.Right (config : Config) (state : State A) (answer : Answer A) : Prop where
  order : ∃ back, state.mailbox.sent = answer.ahead ++ .activeCount answer.id :: back
  counted : answer.count = state.live answer.ahead
  least : 1 ≤ answer.count
  most : answer.count ≤ config.maxConnections

/-- The registry's map is the set of open connections, at any time within the
limit. -/
structure Tracked (config : Config) (state : State A) : Prop where
  limited : ∀ ahead, ahead <+: state.mailbox.sent → state.live ahead ≤ config.maxConnections
  entries : ∀ id addr, state.conns.lookup id = some addr ↔
    .register id addr ∈ state.mailbox.handled ∧ .deregister id ∉ state.mailbox.handled
  answered : ∀ answer ∈ state.answers, answer.Right config state

theorem Tracked.start : Tracked config (State.start (A := A) config) where
  limited ahead _ := Nat.zero_le _
  entries id addr := by
    constructor
    · intro found
      cases found
    · intro found
      cases found.1
  answered := nofun

/-- The map has as many entries as connections are open. -/
theorem Tracked.size (tracked : Tracked config state) (scripted : Scripted state) :
    state.conns.entries.length = state.live state.mailbox.handled := by
  have members : ∀ id, id ∈ state.conns.keys ↔
      id ∈ state.ids.filter (openIn state.mailbox.handled) := by
    intro id
    rw [List.mem_filter, openIn_iff]
    constructor
    · intro key
      obtain ⟨addr, found⟩ := Option.isSome_iff_exists.mp (AList.lookup_isSome.mpr key)
      obtain ⟨registered, silent⟩ := (tracked.entries id addr).mp found
      obtain ⟨task, held, same⟩ := scripted.known _ (List.mem_append_left _ registered)
      exact ⟨List.mem_map.mpr ⟨task, held, same⟩, ⟨addr, registered⟩, silent⟩
    · intro opened
      obtain ⟨-, ⟨addr, registered⟩, silent⟩ := opened
      have found := (tracked.entries id addr).mpr ⟨registered, silent⟩
      exact AList.lookup_isSome.mp (by rw [found]; rfl)
  have same := (List.perm_ext_iff_of_nodup state.conns.keys_nodup
    (scripted.ids_nodup.filter _)).mpr members
  have length := same.length_eq
  rw [← List.countP_eq_length_filter] at length
  rw [State.live, ← length]
  exact (List.length_map _).symm

/-- The entries after one more command, if it is not a query. -/
theorem Tracked.register (tracked : Tracked config state) (scripted : Scripted state) {id : Nat}
    {addr : A} {mailbox : Mailbox (Cmd A)}
    (took : state.mailbox.take = some (.register id addr, mailbox)) (other : Nat) (peer : A) :
    (state.conns.insert id addr).lookup other = some peer ↔
      .register other peer ∈ mailbox.handled ∧ .deregister other ∉ mailbox.handled := by
  obtain ⟨handled, -, order⟩ := Mailbox.take_some took
  have fresh := (scripted.register_first order).1
  rw [handled]
  by_cases same : other = id
  · subst same
    have unregistered : ∀ peer, .register other peer ∉ state.mailbox.handled :=
      fun peer member => fresh _ member rfl
    have silent : .deregister other ∉ state.mailbox.handled := fun member => fresh _ member rfl
    simp [AList.lookup_insert, unregistered, silent, eq_comm]
  · rw [AList.lookup_insert_ne same, tracked.entries other peer]
    simp [same]

theorem Tracked.deregister (tracked : Tracked config state) {id : Nat}
    {mailbox : Mailbox (Cmd A)} (took : state.mailbox.take = some (.deregister id, mailbox))
    (other : Nat) (peer : A) : (state.conns.erase id).lookup other = some peer ↔
      .register other peer ∈ mailbox.handled ∧ .deregister other ∉ mailbox.handled := by
  obtain ⟨handled, -, -⟩ := Mailbox.take_some took
  rw [handled]
  by_cases same : other = id
  · subst same
    simp [AList.lookup_erase]
  · rw [AList.lookup_erase_ne same, tracked.entries other peer]
    simp [same]

/-- A task that awaits a reply has registered ahead of its query, and has not
deregistered. -/
theorem Scripted.asking (scripted : Scripted state) {task : Task A} {front back : List (Cmd A)}
    (member : task ∈ state.tasks) (querying : task.stage = .querying)
    (order : state.mailbox.sent = front ++ .activeCount task.id :: back) :
    openIn front task.id = true := by
  have script := scripted.scripts task member
  simp only [Script, querying] at script
  obtain ⟨asked, shape⟩ := script
  rw [openIn_iff]
  constructor
  · have whole : messagesOf task.id state.mailbox.sent =
        messagesOf task.id front ++ .activeCount task.id :: messagesOf task.id back := by
      rw [order, messagesOf_append]
      exact congrArg (messagesOf task.id front ++ ·) (messagesOf_cons (.activeCount task.id) back)
    rw [whole] at shape
    cases before : messagesOf task.id front with
    | nil =>
        rw [before] at shape
        cases shape
    | cons head rest =>
        rw [before, List.cons_append, List.cons.injEq] at shape
        have among : head ∈ messagesOf task.id front := by
          rw [before]
          exact List.mem_cons_self
        exact ⟨task.addr, shape.1 ▸ List.mem_of_mem_filter among⟩
  · intro member
    have posted : .deregister task.id ∈ messagesOf task.id state.mailbox.sent := by
      apply List.mem_filter.mpr
      rw [order]
      exact ⟨List.mem_append_left _ member, by simp [Cmd.id]⟩
    rw [shape] at posted
    simp at posted

/-- The reply that a query gets. -/
theorem Tracked.reply (tracked : Tracked config state) (scripted : Scripted state) {id : Nat}
    {mailbox : Mailbox (Cmd A)} (took : state.mailbox.take = some (.activeCount id, mailbox))
    {task : Task A} (found : state.tasks[id - 1]? = some task)
    (querying : task.stage = .querying) :
    (⟨id, state.mailbox.handled, state.conns.entries.length⟩ : Answer A).Right config state := by
  obtain ⟨-, -, order⟩ := Mailbox.take_some took
  have member := List.mem_of_getElem? found
  have own : task.id = id := by
    obtain ⟨asker, held, same⟩ := scripted.known (.activeCount id) (by rw [order]; simp)
    obtain ⟨index, there⟩ := List.mem_iff_getElem?.mp held
    have number := scripted.ids index asker there
    have mine := scripted.ids (id - 1) task found
    simp only [Cmd.id] at same
    omega
  have size := tracked.size scripted
  refine ⟨⟨_, order⟩, size, ?_, ?_⟩
  · dsimp only
    rw [size]
    apply List.countP_pos_iff.mpr
    refine ⟨id, List.mem_map.mpr ⟨task, member, own⟩, ?_⟩
    subst own
    exact scripted.asking member querying order
  · dsimp only
    rw [size]
    exact tracked.limited _ (List.prefix_append _ _)

/-- A reply stays right. -/
theorem Answer.Right.later {answer : Answer A} (right : answer.Right config state)
    (frame : Frame state after) (scripted : Scripted state) : answer.Right config after := by
  obtain ⟨back, order⟩ := right.order
  have ahead : answer.ahead <+: state.mailbox.sent := by
    rw [order]
    exact List.prefix_append _ _
  refine ⟨?_, right.counted.trans (frame.live scripted ahead).symm, right.least, right.most⟩
  rcases frame.sent with same | ⟨cmd, grown⟩
  · exact ⟨back, by rw [same, order]⟩
  · exact ⟨back ++ [cmd], by rw [grown, order, List.append_assoc, List.cons_append]⟩

theorem Tracked.handle (tracked : Tracked config state) (scripted : Scripted state)
    (taken : state.handle = some after) :
    (∀ id addr, after.conns.lookup id = some addr ↔
      .register id addr ∈ after.mailbox.handled ∧ .deregister id ∉ after.mailbox.handled) ∧
    ∀ answer ∈ after.answers, answer ∈ state.answers ∨ answer.Right config state := by
  -- a query leaves the map alone, and is not among the commands that count
  have queried : ∀ {id mailbox}, state.mailbox.take = some (.activeCount id, mailbox) →
      ∀ other addr, state.conns.lookup other = some addr ↔
        .register other addr ∈ mailbox.handled ∧ .deregister other ∉ mailbox.handled := by
    intro id mailbox took other addr
    rw [(Mailbox.take_some took).1, tracked.entries other addr]
    simp
  cases handle_cases taken with
  | register id addr mailbox took moved =>
      rw [moved]
      exact ⟨tracked.register scripted took, fun answer member => Or.inl member⟩
  | deregister id mailbox took moved =>
      rw [moved]
      exact ⟨tracked.deregister took, fun answer member => Or.inl member⟩
  | answer id mailbox task took found querying moved =>
      rw [moved]
      refine ⟨queried took, ?_⟩
      intro answer member
      rcases List.mem_append.mp member with old | fresh
      · exact Or.inl old
      · rw [List.mem_singleton] at fresh
        exact Or.inr (fresh ▸ tracked.reply scripted took found querying)
  | unheard id mailbox took moved =>
      rw [moved]
      exact ⟨queried took, fun answer member => Or.inl member⟩

theorem Tracked.step (tracked : Tracked config state) (scripted : Scripted state)
    (balanced : Balanced config state) {event : Event A}
    (taken : step config state event = some after) : Tracked config after := by
  have frame := step_frame taken
  have limit := live_le (scripted.step taken) (balanced.step taken)
  refine ⟨?_, ?_, ?_⟩
  · intro ahead earlier
    have before : ahead <+: state.mailbox.sent → after.live ahead ≤ config.maxConnections := by
      intro old
      rw [frame.live scripted old]
      exact tracked.limited ahead old
    rcases frame.sent with same | ⟨cmd, grown⟩
    · exact before (same ▸ earlier)
    · rw [grown] at earlier limit
      rcases List.prefix_concat_iff.mp earlier with whole | old
      · rw [whole]
        exact limit
      · exact before old
  · rcases frame.registry with handled | ⟨handled, conns, -⟩
    · exact (tracked.handle scripted handled).1
    · rw [handled, conns]
      exact tracked.entries
  · intro answer member
    rcases frame.registry with handled | ⟨-, -, answers⟩
    · rcases (tracked.handle scripted handled).2 answer member with old | right
      · exact (tracked.answered answer old).later frame scripted
      · exact right.later frame scripted
    · rw [answers] at member
      exact (tracked.answered answer member).later frame scripted

def Task.inside (task : Task A) : Bool := task.stage.inside

/-- Bounded concurrency, and a live set that is accurate. -/
structure LiveSet (config : Config) (state : State A) : Prop where
  bounded : state.tasks.countP Task.inside ≤ config.maxConnections
  ordered : ∀ front back id, state.mailbox.sent = front ++ .deregister id :: back →
    ∃ addr, .register id addr ∈ front
  removed : ∀ id rest after, state.mailbox.waiting = .deregister id :: rest →
    state.handle = some after → ∃ task ∈ state.tasks, task.id = id ∧
      state.conns.lookup id = some task.addr ∧ after.conns.lookup id = none ∧
      ∀ other, other ≠ id → after.conns.lookup other = state.conns.lookup other
  answered : ∀ answer ∈ state.answers, answer.Right config state

theorem Balanced.inside (balanced : Balanced config state) :
    state.tasks.countP Task.inside ≤ config.maxConnections := by
  have fewer : state.tasks.countP Task.inside ≤ state.holders := by
    apply List.countP_mono_left
    intro task _ inside
    unfold Task.inside at inside
    unfold Task.holdsPermit
    cases stage : task.stage with
    | ended => simp [stage, Stage.inside] at inside
    | _ => rfl
  unfold Balanced at balanced
  omega

/-- Handling a `Deregister` removes the entry of its connection and no other. -/
theorem Tracked.removed (tracked : Tracked config state) (scripted : Scripted state) {id : Nat}
    {rest : List (Cmd A)} (waiting : state.mailbox.waiting = .deregister id :: rest)
    (taken : state.handle = some after) : ∃ task ∈ state.tasks, task.id = id ∧
      state.conns.lookup id = some task.addr ∧ after.conns.lookup id = none ∧
      ∀ other, other ≠ id → after.conns.lookup other = state.conns.lookup other := by
  have took : state.mailbox.take =
      some (.deregister id, ⟨state.mailbox.handled ++ [.deregister id], rest⟩) := by
    rw [Mailbox.take, waiting]
  have order := (Mailbox.take_some took).2.2
  obtain ⟨task, member, same, registered, silent⟩ := scripted.deregister_last order
  simp only [State.handle, took, Option.some.injEq] at taken
  subst taken
  refine ⟨task, member, same, (tracked.entries id _).mpr ⟨registered, silent⟩, ?_, ?_⟩
  · exact AList.lookup_erase id state.conns
  · intro other apart
    exact AList.lookup_erase_ne apart

/-- In every run there are at most as many connections as configured inside
`handle_connection`, the registry's mailbox is in order, and every reply to a
`/status` request counts the connections open at its place in the mailbox. -/
theorem live_set_accurate (config : Config) (events : List (Event A)) (state : State A)
    (ran : Trace.run (step config) (.start config) events = some state) :
    LiveSet config state := by
  obtain ⟨balanced, scripted, tracked⟩ := Trace.run_preserves
    (fun state : State A => Balanced config state ∧ Scripted state ∧ Tracked config state)
    (fun _ _ _ held taken => ⟨held.1.step taken, held.2.1.step taken,
      held.2.2.step held.2.1 held.1 taken⟩)
    ⟨.start, .start, .start⟩ ran
  refine ⟨balanced.inside, ?_, ?_, tracked.answered⟩
  · intro front back id order
    obtain ⟨task, -, -, registered, -⟩ := scripted.deregister_last order
    exact ⟨task.addr, registered⟩
  · intro id rest after waiting taken
    exact tracked.removed scripted waiting taken

/-- With one connection at a time, the second is accepted while the first has
deregistered but its message is still waiting. -/
def statusEvents : List (Event String) :=
  [.check, .acquire, .accept "127.0.0.1:50000", .enter 0, .guard 0, .unguard 0, .release 0,
    .check, .acquire, .accept "127.0.0.1:50001", .enter 1, .guard 1, .query 1, .handle, .handle,
    .handle, .handle]

def statusConfig : Config := ⟨1, 10000, by decide⟩

theorem live_set_accurate_status : ∃ state,
    Trace.run (step statusConfig) (.start statusConfig) statusEvents = some state ∧
      state.answers.map Answer.count = [1] ∧ LiveSet statusConfig state := by
  have answered : (Trace.run (step statusConfig) (.start statusConfig) statusEvents).map
      (fun state => state.answers.map Answer.count) = some [1] := by
    decide +kernel
  obtain ⟨state, ran, counts⟩ := Option.map_eq_some_iff.mp answered
  exact ⟨state, ran, counts, live_set_accurate statusConfig statusEvents state ran⟩

end ActorServices.Server
