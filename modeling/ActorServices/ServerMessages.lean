import ActorServices.ServerDrain

set_option autoImplicit false

namespace ActorServices.Server

variable {A : Type} {config : Config} {state after : State A}

def Cmd.registers {A : Type} (id : Nat) : Cmd A → Bool
  | .register other _ => other == id
  | _ => false

def Cmd.deregisters {A : Type} (id : Nat) : Cmd A → Bool
  | .deregister other => other == id
  | _ => false

/-- The messages of one connection among others. -/
def messagesOf (id : Nat) (cmds : List (Cmd A)) : List (Cmd A) := cmds.filter fun cmd => cmd.id = id

/-- What a connection task has posted by the time it is in a stage: it registers
first, and deregisters last. -/
def Script (task : Task A) (messages : List (Cmd A)) : Prop :=
  match task.stage with
  | .spawned | .entered => messages = []
  | .guarded | .querying => ∃ asked,
      messages = .register task.id task.addr :: List.replicate asked (.activeCount task.id)
  | .unguarded | .ended => ∃ asked,
      messages = .register task.id task.addr ::
        (List.replicate asked (.activeCount task.id) ++ [.deregister task.id])

/-- The tasks are numbered in the order in which they were spawned, every message
is of one of them, and each of them keeps to its script. -/
structure Scripted (state : State A) : Prop where
  ids : ∀ (conn : Nat) (task : Task A), state.tasks[conn]? = some task → task.id = conn + 1
  known : ∀ cmd ∈ state.mailbox.sent, ∃ task ∈ state.tasks, task.id = cmd.id
  scripts : ∀ task ∈ state.tasks, Script task (messagesOf task.id state.mailbox.sent)

theorem Scripted.start : Scripted (State.start (A := A) config) where
  ids := nofun
  known := nofun
  scripts := nofun

/-- A step that is about neither the tasks nor what was posted. -/
theorem Scripted.same (scripted : Scripted state) (tasks : after.tasks = state.tasks)
    (sent : after.mailbox.sent = state.mailbox.sent) : Scripted after where
  ids := by
    rw [tasks]
    exact scripted.ids
  known := by
    rw [tasks, sent]
    exact scripted.known
  scripts := by
    rw [tasks, sent]
    exact scripted.scripts

theorem messagesOf_append (id : Nat) (front back : List (Cmd A)) :
    messagesOf id (front ++ back) = messagesOf id front ++ messagesOf id back :=
  List.filter_append front back

/-- One task moves on and posts its own messages. -/
theorem Scripted.set (scripted : Scripted state) {conn : Nat} {task : Task A}
    (found : state.tasks[conn]? = some task) (new : Stage) (posted : List (Cmd A))
    (own : ∀ cmd ∈ posted, cmd.id = task.id)
    (follows : Script { task with stage := new }
      (messagesOf task.id state.mailbox.sent ++ posted))
    (mailbox : Mailbox (Cmd A)) (sent : mailbox.sent = state.mailbox.sent ++ posted) :
    Scripted { state with tasks := state.tasks.set conn { task with stage := new }, mailbox } := by
  have member : { task with stage := new } ∈ state.tasks.set conn { task with stage := new } := by
    obtain ⟨bound, -⟩ := List.getElem?_eq_some_iff.mp found
    exact List.mem_set bound _
  have present : ∀ other ∈ state.tasks, ∃ kept ∈ state.tasks.set conn { task with stage := new },
      kept.id = other.id := by
    intro other held
    obtain ⟨index, there⟩ := List.mem_iff_getElem?.mp held
    by_cases same : conn = index
    · subst same
      cases found.symm.trans there
      exact ⟨_, member, rfl⟩
    · have still : (state.tasks.set conn { task with stage := new })[index]? = some other := by
        rw [List.getElem?_set_ne same, there]
      exact ⟨other, List.mem_of_getElem? still, rfl⟩
  refine ⟨?_, ?_, ?_⟩
  · intro index other there
    by_cases same : conn = index
    · subst same
      obtain ⟨bound, -⟩ := List.getElem?_eq_some_iff.mp found
      dsimp only at there
      rw [List.getElem?_set_self bound] at there
      cases there
      exact scripted.ids conn task found
    · dsimp only at there
      rw [List.getElem?_set_ne same] at there
      exact scripted.ids index other there
  · intro cmd among
    dsimp only at among
    rw [sent] at among
    rcases List.mem_append.mp among with old | fresh
    · obtain ⟨other, held, same⟩ := scripted.known cmd old
      obtain ⟨kept, there, equal⟩ := present other held
      exact ⟨kept, there, equal.trans same⟩
    · exact ⟨_, member, (own cmd fresh).symm⟩
  · intro other held
    obtain ⟨index, there⟩ := List.mem_iff_getElem?.mp held
    dsimp only at there ⊢
    rw [sent, messagesOf_append]
    by_cases same : conn = index
    · subst same
      obtain ⟨bound, -⟩ := List.getElem?_eq_some_iff.mp found
      rw [List.getElem?_set_self bound] at there
      cases there
      have all : messagesOf task.id posted = posted :=
        List.filter_eq_self.mpr fun cmd fresh => by simpa using own cmd fresh
      rw [all]
      exact follows
    · rw [List.getElem?_set_ne same] at there
      have mine := scripted.ids conn task found
      have others := scripted.ids index other there
      have none : messagesOf other.id posted = [] := by
        apply List.filter_eq_nil_iff.mpr
        intro cmd fresh
        have owned := own cmd fresh
        simp only [decide_eq_true_eq]
        omega
      rw [none, List.append_nil]
      exact scripted.scripts other (List.mem_of_getElem? there)

/-- The script goes on as the stage does. -/
theorem Scripted.move (scripted : Scripted state) {conn : Nat} {old new : Stage}
    {post : Task A → Mailbox (Cmd A) → Mailbox (Cmd A)} (posted : Task A → List (Cmd A))
    (taken : state.move conn old new post = some after)
    (posts : ∀ task mailbox, (post task mailbox).sent = mailbox.sent ++ posted task)
    (own : ∀ task, ∀ cmd ∈ posted task, cmd.id = task.id)
    (follows : ∀ task messages, task.stage = old → Script task messages →
      Script { task with stage := new } (messages ++ posted task)) : Scripted after := by
  obtain ⟨task, found, stage, rfl⟩ := move_some taken
  have member := List.mem_of_getElem? found
  exact scripted.set found new (posted task) (own task)
    (follows task _ stage (scripted.scripts task member)) _ (posts task _)

theorem Scripted.enter (scripted : Scripted state) {conn : Nat}
    (taken : state.enter conn = some after) : Scripted after := by
  apply scripted.move (fun _ => []) taken
  · simp
  · simp
  · intro task messages stage script
    rw [List.append_nil]
    simp only [Script, stage] at script ⊢
    exact script

theorem Scripted.guard (scripted : Scripted state) {conn : Nat}
    (taken : state.guard conn = some after) : Scripted after := by
  apply scripted.move (fun task => [.register task.id task.addr]) taken
  · simp
  · simp [Cmd.id]
  · intro task messages stage script
    simp only [Script, stage] at script ⊢
    exact ⟨0, by rw [script]; rfl⟩

theorem Scripted.query (scripted : Scripted state) {conn : Nat}
    (taken : state.query conn = some after) : Scripted after := by
  apply scripted.move (fun task => [.activeCount task.id]) taken
  · simp
  · simp [Cmd.id]
  · intro task messages stage script
    simp only [Script, stage] at script ⊢
    obtain ⟨asked, rfl⟩ := script
    exact ⟨asked + 1, by rw [List.replicate_succ', List.cons_append]⟩

theorem Scripted.unguard (scripted : Scripted state) {conn : Nat}
    (taken : state.unguard conn = some after) : Scripted after := by
  apply scripted.move (fun task => [.deregister task.id]) taken
  · simp
  · simp [Cmd.id]
  · intro task messages stage script
    simp only [Script, stage] at script ⊢
    obtain ⟨asked, rfl⟩ := script
    exact ⟨asked, by rw [List.cons_append]⟩

theorem Scripted.release (scripted : Scripted state) {conn : Nat} {task : Task A}
    (found : state.tasks[conn]? = some task) (stage : task.stage = .unguarded) :
    Scripted { state with
      tasks := state.tasks.set conn { task with stage := .ended }
      available := state.available + 1 } := by
  have script := scripted.scripts task (List.mem_of_getElem? found)
  have moved := scripted.set found .ended [] (by simp)
    (by rw [List.append_nil]; simp only [Script, stage] at script ⊢; exact script)
    state.mailbox (List.append_nil _).symm
  exact moved.same rfl rfl

/-- A new task has the next id, of which there are no messages. -/
theorem Scripted.accept (scripted : Scripted state) (addr : A) :
    Scripted { state with
      accept := .top
      tasks := state.tasks ++ [⟨state.nextId, addr, .spawned⟩] } := by
  refine ⟨?_, ?_, ?_⟩
  · intro conn task there
    dsimp only at there
    by_cases old : conn < state.tasks.length
    · rw [List.getElem?_append_left old] at there
      exact scripted.ids conn task there
    · rw [List.getElem?_append_right (by omega), List.getElem?_singleton] at there
      split at there
      · cases there
        simp only [State.nextId]
        omega
      · cases there
  · intro cmd among
    obtain ⟨task, held, same⟩ := scripted.known cmd among
    exact ⟨task, List.mem_append_left _ held, same⟩
  · intro task held
    rcases List.mem_append.mp held with old | fresh
    · exact scripted.scripts task old
    · rw [List.mem_singleton] at fresh
      subst fresh
      simp only [Script]
      apply List.filter_eq_nil_iff.mpr
      intro cmd among
      obtain ⟨other, old, same⟩ := scripted.known cmd among
      obtain ⟨index, there⟩ := List.mem_iff_getElem?.mp old
      have id := scripted.ids index other there
      have bound : index < state.tasks.length := (List.getElem?_eq_some_iff.mp there).1
      have apart : cmd.id ≠ state.nextId := by
        unfold State.nextId
        omega
      simpa using apart

theorem Scripted.handle (scripted : Scripted state) (taken : state.handle = some after) :
    Scripted after := by
  cases handle_cases taken with
  | register id addr mailbox took moved =>
      rw [moved]
      exact scripted.same rfl (Mailbox.take_some took).2.1
  | deregister id mailbox took moved =>
      rw [moved]
      exact scripted.same rfl (Mailbox.take_some took).2.1
  | answer id mailbox task took found querying moved =>
      rw [moved]
      have script := scripted.scripts task (List.mem_of_getElem? found)
      have sent : mailbox.sent = state.mailbox.sent ++ [] := by
        rw [List.append_nil]
        exact (Mailbox.take_some took).2.1
      have resumed := scripted.set found .guarded [] (by simp)
        (by rw [List.append_nil]; simp only [Script, querying] at script ⊢; exact script)
        mailbox sent
      exact resumed.same rfl rfl
  | unheard id mailbox took moved =>
      rw [moved]
      exact scripted.same rfl (Mailbox.take_some took).2.1

theorem Scripted.step (scripted : Scripted state) {event : Event A}
    (taken : step config state event = some after) : Scripted after := by
  cases step_turn taken with
  | outside clock flag flagClosed moved => exact moved ▸ scripted.same rfl rfl
  | loop accept available kept serving moved => exact moved ▸ scripted.same rfl rfl
  | drained since draining free moved => exact moved ▸ scripted.same rfl rfl
  | timedOut since draining elapsed moved => exact moved ▸ scripted.same rfl rfl
  | accept addr accepting moved => exact moved ▸ scripted.accept addr
  | enter conn taken => exact scripted.enter taken
  | guard conn taken => exact scripted.guard taken
  | query conn taken => exact scripted.query taken
  | unguard conn taken => exact scripted.unguard taken
  | release conn task found stage moved => exact moved ▸ scripted.release found stage
  | handle taken => exact scripted.handle taken

/-- A script is empty, or registers, asks and possibly deregisters. -/
theorem script_cases {task : Task A} {messages : List (Cmd A)} (script : Script task messages) :
    messages = [] ∨ ∃ asked last, messages = .register task.id task.addr ::
        (List.replicate asked (.activeCount task.id) ++ last) ∧
      (last = [] ∨ last = [.deregister task.id]) := by
  unfold Script at script
  split at script
  · exact Or.inl script
  · exact Or.inl script
  · obtain ⟨asked, rfl⟩ := script
    exact Or.inr ⟨asked, [], by rw [List.append_nil], Or.inl rfl⟩
  · obtain ⟨asked, rfl⟩ := script
    exact Or.inr ⟨asked, [], by rw [List.append_nil], Or.inl rfl⟩
  · obtain ⟨asked, rfl⟩ := script
    exact Or.inr ⟨asked, _, rfl, Or.inr rfl⟩
  · obtain ⟨asked, rfl⟩ := script
    exact Or.inr ⟨asked, _, rfl, Or.inr rfl⟩

theorem messagesOf_cons (cmd : Cmd A) (rest : List (Cmd A)) :
    messagesOf cmd.id (cmd :: rest) = cmd :: messagesOf cmd.id rest := by
  simp [messagesOf]

/-- The script around one message of it. -/
theorem Scripted.split (scripted : Scripted state) {front back : List (Cmd A)} {cmd : Cmd A}
    (order : state.mailbox.sent = front ++ cmd :: back) :
    ∃ task ∈ state.tasks, task.id = cmd.id ∧ ∃ asked last,
      messagesOf cmd.id front ++ cmd :: messagesOf cmd.id back = .register task.id task.addr ::
        (List.replicate asked (.activeCount task.id) ++ last) ∧
      (last = [] ∨ last = [.deregister task.id]) := by
  have among : cmd ∈ state.mailbox.sent := by
    rw [order]
    simp
  obtain ⟨task, member, same⟩ := scripted.known cmd among
  have whole : messagesOf task.id state.mailbox.sent =
      messagesOf cmd.id front ++ cmd :: messagesOf cmd.id back := by
    rw [order, messagesOf_append, same, messagesOf_cons]
  rcases script_cases (scripted.scripts task member) with none | ⟨asked, last, shape, ending⟩
  · rw [whole] at none
    simp at none
  · exact ⟨task, member, same, asked, last, whole.symm.trans shape, ending⟩

/-- A connection registers before all else that it posts, and with its address. -/
theorem Scripted.register_first (scripted : Scripted state) {front back : List (Cmd A)}
    {id : Nat} {addr : A} (order : state.mailbox.sent = front ++ .register id addr :: back) :
    (∀ cmd ∈ front, cmd.id ≠ id) ∧ ∃ task ∈ state.tasks, task.id = id ∧ task.addr = addr := by
  obtain ⟨task, member, same, asked, last, shape, ending⟩ := scripted.split order
  cases before : messagesOf id front with
  | nil =>
      have first := shape
      simp only [Cmd.id, before, List.nil_append, List.cons.injEq, Cmd.register.injEq] at first
      refine ⟨?_, task, member, same, first.1.2.symm⟩
      intro cmd among own
      have none := List.filter_eq_nil_iff.mp before cmd among
      simp [own] at none
  | cons head rest =>
      simp only [Cmd.id, before, List.cons_append, List.cons.injEq] at shape
      have among : .register id addr ∈ List.replicate asked (Cmd.activeCount task.id) ++ last := by
        rw [← shape.2]
        simp
      rcases ending with rfl | rfl
      · simp at among
      · simp at among

/-- It deregisters once, after it has registered. -/
theorem Scripted.deregister_last (scripted : Scripted state) {front back : List (Cmd A)}
    {id : Nat} (order : state.mailbox.sent = front ++ .deregister id :: back) :
    ∃ task ∈ state.tasks, task.id = id ∧ .register id task.addr ∈ front ∧
      .deregister id ∉ front := by
  obtain ⟨task, member, same, asked, last, shape, ending⟩ := scripted.split order
  simp only [Cmd.id] at same shape
  refine ⟨task, member, same, ?_⟩
  cases before : messagesOf id front with
  | nil =>
      rw [before] at shape
      cases shape
  | cons head rest =>
      simp only [before, List.cons_append, List.cons.injEq] at shape
      obtain ⟨first, tail⟩ := shape
      have registered : .register id task.addr ∈ messagesOf id front := by
        rw [before, first, same]
        exact List.mem_cons_self
      refine ⟨List.mem_of_mem_filter registered, ?_⟩
      intro among
      -- the script has one message that deregisters, and it is not in `front`
      have twice : .deregister id ∈ messagesOf id front :=
        List.mem_filter.mpr ⟨among, by simp [Cmd.id]⟩
      rw [before, first] at twice
      have inside : .deregister id ∈ rest := by
        rcases List.mem_cons.mp twice with equal | later
        · cases equal
        · exact later
      have counted := congrArg (List.countP (Cmd.deregisters id)) tail
      have some : 0 < rest.countP (Cmd.deregisters id) :=
        List.countP_pos_iff.mpr ⟨_, inside, by simp [Cmd.deregisters]⟩
      rcases ending with rfl | rfl
      · simp [List.countP_append, List.countP_replicate, Cmd.deregisters]
          at counted
      · simp [List.countP_append, List.countP_replicate, Cmd.deregisters, same]
          at counted
        omega

end ActorServices.Server
