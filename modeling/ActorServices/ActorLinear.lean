import ActorServices.Actors

set_option autoImplicit false

namespace ActorServices.Actor

open Interleave

section Linear

variable {A M ι ε χ σ τ α μ ς : Type} {R : M → Type} {ρ : ι → Type} [DecidableEq A]
  [DecidableEq M]

/-- The surroundings `env` say what the actors and the rest are for: `reflects` relates their
state to that of `env`, and whatever they do `env` does in one step. -/
structure Realizes (system : System A M R τ σ ι ρ χ ε) (env : Environment ι ρ ς μ χ ε) (plain : χ)
    (reflects : τ → σ → ς → Prop) : Prop where
  requested : ∀ owned outside shared memory op message decode,
    system.way op = .request message decode → reflects owned outside shared →
    ∃ remembered shared', env.perform shared memory op plain =
        some (decode (system.turn owned message).1, remembered, shared') ∧
      reflects (system.turn owned message).2 outside shared'
  posted : ∀ owned outside shared memory op message value,
    system.way op = .cast message value → reflects owned outside shared →
    ∃ remembered shared', env.perform shared memory op plain =
        some (value, remembered, shared') ∧
      reflects (system.turn owned message).2 outside shared'
  performed : ∀ owned outside shared memory op choice reply outside',
    system.way op = .direct → system.direct outside op choice = some (reply, outside') →
    reflects owned outside shared →
    ∃ remembered shared', env.perform shared memory op choice =
        some (reply, remembered, shared') ∧ reflects owned outside' shared'
  happened : ∀ owned outside shared event outside' messages,
    system.happen outside event = some (outside', messages) → reflects owned outside shared →
    ∃ shared', env.happen shared event = some shared' ∧
      reflects (messages.foldl (fun state message => (system.turn state message).2) owned)
        outside' shared'

/-- Where a call is, against the program it carries out: between two operations, or waiting for
an answer that it is bound to get. -/
inductive Linked (system : System A M R τ σ ι ρ χ ε) (promised : Answers M R) :
    Proc (ActorOp ι M) (ActorOp.Reply ρ R) α → Proc ι ρ α → Prop
  | between (program : Proc ι ρ α) : Linked system promised (system.dispatched program) program
  | waits {message : M} {ticket : Nat} {answer : R message} (next : R message → Proc ι ρ α)
      (promise : promised ticket message = some answer) :
      Linked system promised
        (.call (.recv message ticket) fun answer => system.dispatched (next answer)) (next answer)

/-- What the steps of a call mean to the surroundings: a message takes effect as it is sent, and
neither its handling nor the arrival of its answer is seen. -/
def effects (plain : χ)
    (config : Config (ActorOp ι M) (ActorOp.Reply ρ R) α (Net M R τ σ) Unit) :
    Label (Option χ) (ActorEvent A ε) → List (Label χ ε)
  | .start caller => [.start caller]
  | .step caller (some choice) => [.step caller choice]
  | .step caller none =>
      match config.op? caller with
      | some (.send _) => [.step caller plain]
      | _ => []
  | .event (.turn _) => []
  | .event (.outside event) => [.event event]

/-- The run of the calls as if every operation were one step. -/
def System.linearisation (system : System A M R τ σ ι ρ χ ε) (plain : χ)
    (programs : Nat → Proc ι ρ α)
    (config : Config (ActorOp ι M) (ActorOp.Reply ρ R) α (Net M R τ σ) Unit)
    (labels : List (Label (Option χ) (ActorEvent A ε))) : List (Label χ ε) :=
  Trace.account (step system.network fun caller => system.dispatched (programs caller))
    (fun noted config label _ => noted ++ effects plain config label) config [] labels

/-- A configuration of the calls over the actors, and the one that the atomic run is in. -/
structure Linearised (system : System A M R τ σ ι ρ χ ε) (reflects : τ → σ → ς → Prop)
    (config : Config (ActorOp ι M) (ActorOp.Reply ρ R) α (Net M R τ σ) Unit)
    (whole : Config ι ρ α ς μ) : Prop where
  orderly : config.shared.Orderly
  state : reflects (config.shared.settled system.toActors).1 config.shared.outside whole.shared
  threads : ∀ caller, Option.Rel
    (fun thread other =>
      Linked system (config.shared.settled system.toActors).2 thread.program other.program)
    (config.threads caller) (whole.threads caller)

end Linear

section Linked

variable {A M ι ε χ σ τ α : Type} {R : M → Type} {ρ : ι → Type}
  {system : System A M R τ σ ι ρ χ ε} {promised : Answers M R}
  {program : Proc (ActorOp ι M) (ActorOp.Reply ρ R) α} {whole : Proc ι ρ α}

theorem Linked.mono (linked : Linked system promised program whole) {promised' : Answers M R}
    (keeps : ∀ ticket message (answer : R message), promised ticket message = some answer →
      promised' ticket message = some answer) : Linked system promised' program whole := by
  cases linked with
  | between => exact .between whole
  | waits next promise => exact .waits next (keeps _ _ _ promise)

theorem Linked.received {message : M} {ticket : Nat}
    {next : R message → Proc (ActorOp ι M) (ActorOp.Reply ρ R) α}
    (linked : Linked system promised (.call (.recv message ticket) next) whole)
    {answer : R message} (promise : promised ticket message = some answer) :
    Linked system promised (next answer) whole := by
  generalize program_eq : (Proc.call (.recv message ticket) next :
    Proc (ActorOp ι M) (ActorOp.Reply ρ R) α) = program at linked
  cases linked with
  | between =>
      cases whole with
      | ret value => cases program_eq
      | call op rest =>
          rw [System.dispatched, Proc.expand_call] at program_eq
          cases way_eq : system.way op <;> rw [way_eq] at program_eq <;> cases program_eq
  | waits rest kept =>
      cases program_eq
      cases promise.symm.trans kept
      exact .between _

theorem Linked.awaited {message : M} {ticket : Nat}
    {next : R message → Proc (ActorOp ι M) (ActorOp.Reply ρ R) α}
    (linked : Linked system promised (.call (.recv message ticket) next) whole) :
    ∃ answer, promised ticket message = some answer := by
  generalize program_eq : (Proc.call (.recv message ticket) next :
    Proc (ActorOp ι M) (ActorOp.Reply ρ R) α) = program at linked
  cases linked with
  | between =>
      cases whole with
      | ret value => cases program_eq
      | call op rest =>
          rw [System.dispatched, Proc.expand_call] at program_eq
          cases way_eq : system.way op <;> rw [way_eq] at program_eq <;> cases program_eq
  | waits rest kept =>
      cases program_eq
      exact ⟨_, kept⟩

theorem Linked.sent {message : M} {next : Nat → Proc (ActorOp ι M) (ActorOp.Reply ρ R) α}
    (linked : Linked system promised (.call (.send message) next) whole) :
    ∃ op rest, whole = .call op rest ∧
      ((∃ decode, system.way op = .request message decode ∧ ∀ ticket, next ticket =
          .call (.recv message ticket) fun answer => system.dispatched (rest (decode answer))) ∨
        ∃ value, system.way op = .cast message value ∧
          ∀ ticket, next ticket = system.dispatched (rest value)) := by
  generalize program_eq : (Proc.call (.send message) next :
    Proc (ActorOp ι M) (ActorOp.Reply ρ R) α) = program at linked
  cases linked with
  | between =>
      cases whole with
      | ret value => cases program_eq
      | call op rest =>
          rw [System.dispatched, Proc.expand_call] at program_eq
          cases way_eq : system.way op <;> rw [way_eq] at program_eq <;> cases program_eq
          · exact ⟨op, rest, rfl, .inl ⟨_, way_eq, fun _ => rfl⟩⟩
          · exact ⟨op, rest, rfl, .inr ⟨_, way_eq, fun _ => rfl⟩⟩
  | waits rest kept => cases program_eq

theorem Linked.direct {op : ι} {next : ρ op → Proc (ActorOp ι M) (ActorOp.Reply ρ R) α}
    (linked : Linked system promised (.call (.direct op) next) whole) :
    ∃ rest, whole = .call op rest ∧ system.way op = .direct ∧
      ∀ reply, next reply = system.dispatched (rest reply) := by
  generalize program_eq : (Proc.call (.direct op) next :
    Proc (ActorOp ι M) (ActorOp.Reply ρ R) α) = program at linked
  cases linked with
  | between =>
      cases whole with
      | ret value => cases program_eq
      | call other rest =>
          rw [System.dispatched, Proc.expand_call] at program_eq
          cases way_eq : system.way other <;> rw [way_eq] at program_eq <;> cases program_eq
          exact ⟨rest, rfl, way_eq, fun _ => rfl⟩
  | waits rest kept => cases program_eq

theorem Linked.returned {value : α} (linked : Linked system promised (.ret value) whole) :
    whole = .ret value := by
  generalize program_eq : (Proc.ret value : Proc (ActorOp ι M) (ActorOp.Reply ρ R) α) = program
    at linked
  cases linked with
  | between =>
      cases whole with
      | ret other => exact congrArg Proc.ret (Proc.ret.inj program_eq).symm
      | call op rest =>
          rw [System.dispatched, Proc.expand_call] at program_eq
          cases way_eq : system.way op <;> rw [way_eq] at program_eq <;> cases program_eq
  | waits rest kept => cases program_eq

/-- A call whose program is over has returned, or only waits for the answer with which it will. -/
theorem Linked.returns {value : α} (linked : Linked system promised program (.ret value)) :
    program = .ret value ∨ ∃ message ticket next answer,
      program = .call (.recv message ticket) next ∧ promised ticket message = some answer ∧
        next answer = .ret value := by
  generalize stops : (Proc.ret value : Proc ι ρ α) = whole at linked
  cases linked with
  | between =>
      subst stops
      exact .inl rfl
  | waits next promise => exact .inr ⟨_, _, _, _, rfl, promise, by rw [← stops]; rfl⟩

end Linked

section Step

variable {A M ι ε χ σ τ α μ ς : Type} {R : M → Type} {ρ : ι → Type} [DecidableEq M]
  {system : System A M R τ σ ι ρ χ ε} {env : Environment ι ρ ς μ χ ε} {plain : χ}
  {reflects : τ → σ → ς → Prop} {programs : Nat → Proc ι ρ α}
  {config after : Config (ActorOp ι M) (ActorOp.Reply ρ R) α (Net M R τ σ) Unit}
  {whole : Config ι ρ α ς μ} {net : Net M R τ σ} {shared : ς} {caller : Nat}

/-- What is promised stays promised. -/
def Keeps (actors : Actors A M R τ) (net after : Net M R τ σ) : Prop :=
  ∀ ticket message (answer : R message), (net.settled actors).2 ticket message = some answer →
    (after.settled actors).2 ticket message = some answer

theorem posts_settled (actors : Actors A M R τ) (orderly : net.Orderly) (messages : List M) :
    (messages.foldl Net.post net).Orderly ∧
      Keeps actors net (messages.foldl Net.post net) ∧
      ((messages.foldl Net.post net).settled actors).1 =
        messages.foldl (fun state message => (actors.turn state message).2)
          (net.settled actors).1 ∧
      (messages.foldl Net.post net).outside = net.outside := by
  induction messages generalizing net with
  | nil => exact ⟨orderly, fun _ _ _ kept => kept, rfl, rfl⟩
  | cons message messages ih =>
      obtain ⟨last, keeps, owned, outside⟩ := ih (orderly.post message)
      refine ⟨last, fun ticket asked answer kept => ?_, ?_, outside⟩
      · exact keeps ticket asked answer (promised_post orderly message kept)
      · rw [List.foldl_cons, owned, settled_post]
        rfl

theorem Linearised.threads_keep (linearised : Linearised system reflects config whole)
    (keeps : Keeps system.toActors config.shared net) (present : Nat) : Option.Rel
      (fun thread other => Linked system (net.settled system.toActors).2 thread.program
        other.program) (config.threads present) (whole.threads present) := by
  have held := linearised.threads present
  generalize config.threads present = thread at held ⊢
  generalize whole.threads present = other at held ⊢
  cases held with
  | none => exact .none
  | some linked => exact .some (linked.mono keeps)

theorem Linearised.put (linearised : Linearised system reflects config whole)
    {thread : Thread (ActorOp ι M) (ActorOp.Reply ρ R) α Unit} {other : Thread ι ρ α μ}
    (orderly : net.Orderly) (state : reflects (net.settled system.toActors).1 net.outside shared)
    (keeps : Keeps system.toActors config.shared net)
    (linked : Linked system (net.settled system.toActors).2 thread.program other.program) :
    Linearised system reflects ⟨net, config.put caller thread⟩
      ⟨shared, whole.put caller other⟩ := by
  refine ⟨orderly, state, fun present => ?_⟩
  by_cases same : present = caller
  · subst same
    simp only [put_self]
    exact .some linked
  · simp only [put_other _ _ _ _ same]
    exact linearised.threads_keep keeps present

theorem Linearised.thread (linearised : Linearised system reflects config whole)
    {thread : Thread (ActorOp ι M) (ActorOp.Reply ρ R) α Unit}
    (present : config.threads caller = some thread) :
    ∃ other, whole.threads caller = some other ∧
      Linked system (config.shared.settled system.toActors).2 thread.program other.program := by
  have held := linearised.threads caller
  rw [present] at held
  generalize whole.threads caller = found at held ⊢
  cases held with
  | some linked => exact ⟨_, rfl, linked⟩

theorem Linearised.idle (linearised : Linearised system reflects config whole) :
    config.threads caller = none ↔ whole.threads caller = none := by
  have held := linearised.threads caller
  generalize config.threads caller = thread at held ⊢
  generalize whole.threads caller = other at held ⊢
  cases held <;> simp

theorem Linearised.sent (programs : Nat → Proc ι ρ α)
    (realizes : Realizes system env plain reflects)
    (linearised : Linearised system reflects config whole) {message : M}
    {next : Nat → Proc (ActorOp ι M) (ActorOp.Reply ρ R) α}
    (running : config.threads caller = some ⟨.call (.send message) next, ()⟩) :
    ∃ after, Interleave.step env programs whole (.step caller plain) = some after ∧
      Linearised system reflects ⟨config.shared.post message,
        config.put caller ⟨next config.shared.sent, ()⟩⟩ after := by
  obtain ⟨⟨program, memory⟩, present, linked⟩ := linearised.thread running
  obtain ⟨op, rest, same, ways⟩ := linked.sent
  obtain rfl : program = .call op rest := same
  have orderly := linearised.orderly
  have settled := settled_post system.toActors config.shared message
  have keeps : Keeps system.toActors config.shared (config.shared.post message) :=
    fun _ _ _ kept => promised_post orderly message kept
  rcases ways with ⟨decode, way, continues⟩ | ⟨value, way, continues⟩
  · obtain ⟨remembered, shared', performed, state⟩ := realizes.requested _ _ _ memory op message
      decode way linearised.state
    refine ⟨⟨shared', whole.put caller ⟨rest (decode
      (system.turn (config.shared.settled system.toActors).1 message).1), remembered⟩⟩, ?_, ?_⟩
    · simp only [Interleave.step, present, performed, Option.map_some]
    · refine linearised.put (orderly.post message) (settled ▸ state) keeps ?_
      show Linked system _ (next config.shared.sent) _
      rw [continues]
      refine .waits (fun answer => rest (decode answer)) ?_
      rw [settled]
      simp [handle]
  · obtain ⟨remembered, shared', performed, state⟩ := realizes.posted _ _ _ memory op message
      value way linearised.state
    refine ⟨⟨shared', whole.put caller ⟨rest value, remembered⟩⟩, ?_, ?_⟩
    · simp only [Interleave.step, present, performed, Option.map_some]
    · refine linearised.put (orderly.post message) (settled ▸ state) keeps ?_
      show Linked system _ (next config.shared.sent) _
      rw [continues]
      exact .between _

theorem Linearised.received (linearised : Linearised system reflects config whole) {message : M}
    {ticket : Nat} {next : R message → Proc (ActorOp ι M) (ActorOp.Reply ρ R) α}
    {memory remembered : Unit} {answer : R message}
    (running : config.threads caller = some ⟨.call (.recv message ticket) next, memory⟩)
    (answered : config.shared.answered ticket message = some answer) :
    Linearised system reflects ⟨config.shared, config.put caller ⟨next answer, remembered⟩⟩
      whole := by
  obtain ⟨other, present, linked⟩ := linearised.thread running
  have stays : whole.put caller other = whole.threads := by
    rw [Config.put, ← present, Function.update_eq_self]
  have moved : Linearised system reflects
      ⟨config.shared, config.put caller ⟨next answer, remembered⟩⟩
      ⟨whole.shared, whole.put caller other⟩ :=
    linearised.put linearised.orderly linearised.state (fun _ _ _ kept => kept)
      (linked.received (settled_answered linearised.orderly answered))
  rwa [stays] at moved

theorem Linearised.performed (programs : Nat → Proc ι ρ α)
    (realizes : Realizes system env plain reflects)
    (linearised : Linearised system reflects config whole) {op : ι} {choice : χ} {outside : σ}
    {next : ρ op → Proc (ActorOp ι M) (ActorOp.Reply ρ R) α} {memory remembered : Unit}
    {reply : ρ op} (running : config.threads caller = some ⟨.call (.direct op) next, memory⟩)
    (performed : system.direct config.shared.outside op choice = some (reply, outside)) :
    ∃ after, Interleave.step env programs whole (.step caller choice) = some after ∧
      Linearised system reflects ⟨{ config.shared with outside },
        config.put caller ⟨next reply, remembered⟩⟩ after := by
  obtain ⟨⟨program, held⟩, present, linked⟩ := linearised.thread running
  obtain ⟨rest, same, way, continues⟩ := linked.direct
  obtain rfl : program = .call op rest := same
  obtain ⟨kept, shared', done, state⟩ := realizes.performed _ _ _ held op choice reply outside way
    performed linearised.state
  refine ⟨⟨shared', whole.put caller ⟨rest reply, kept⟩⟩, ?_, ?_⟩
  · simp only [Interleave.step, present, done, Option.map_some]
  · refine linearised.put ⟨linearised.orderly.distinct, linearised.orderly.posted,
      linearised.orderly.unanswered, linearised.orderly.opened⟩ state (fun _ _ _ kept => kept) ?_
    show Linked system _ (next reply) _
    rw [continues]
    exact .between _

variable [DecidableEq A]

/-- One step over the actors is at most one step of the atomic run. -/
theorem Linearised.step (realizes : Realizes system env plain reflects)
    (linearised : Linearised system reflects config whole)
    {label : Label (Option χ) (ActorEvent A ε)}
    (taken : Interleave.step system.network (fun caller => system.dispatched (programs caller))
      config label = some after) :
    ∃ next, run env programs whole (effects plain config label) = some next ∧
      Linearised system reflects after next := by
  obtain ⟨caller, rfl, idle, rfl⟩ | ⟨caller, choice, op, next, memory, reply, remembered, net,
    rfl, running, performed, rfl⟩ | ⟨event, net, rfl, happened, rfl⟩ := step_cases taken
  · refine ⟨⟨whole.shared, whole.put caller ⟨programs caller, env.fresh⟩⟩, ?_, ?_⟩
    · simp only [effects, Trace.run, Interleave.step, linearised.idle.mp idle, Option.bind_some]
    · exact linearised.put linearised.orderly linearised.state (fun _ _ _ kept => kept)
        (.between _)
  · have awaits : config.op? caller = some op := Config.Awaits.op? ⟨next, running⟩
    cases op with
    | send message =>
        cases choice with
        | some choice => cases performed
        | none =>
            cases performed
            obtain ⟨after, step, moved⟩ := linearised.sent programs realizes running
            refine ⟨after, ?_, moved⟩
            simp only [effects, awaits, Trace.run, step, Option.bind_some]
    | recv message ticket =>
        cases choice with
        | some choice => cases performed
        | none =>
            obtain ⟨answer, answered, same⟩ := Option.map_eq_some_iff.mp performed
            cases same
            refine ⟨whole, ?_, linearised.received running answered⟩
            simp only [effects, awaits, Trace.run]
    | direct op =>
        cases choice with
        | none => cases performed
        | some choice =>
            obtain ⟨⟨answer, outside⟩, done, same⟩ := Option.map_eq_some_iff.mp performed
            cases same
            obtain ⟨after, step, moved⟩ := linearised.performed programs realizes running done
            refine ⟨after, ?_, moved⟩
            simp only [effects, Trace.run, step, Option.bind_some]
  · cases event with
    | turn actor =>
        have settled := settled_turn linearised.orderly happened
        refine ⟨whole, rfl, linearised.orderly.turn happened, ?_, ?_⟩
        · obtain ⟨entry, rest, -, rfl⟩ := turn_some happened
          exact settled ▸ linearised.state
        · exact linearised.threads_keep fun _ _ _ kept => settled ▸ kept
    | outside event =>
        obtain ⟨⟨outside, messages⟩, done, rfl⟩ := Option.map_eq_some_iff.mp happened
        obtain ⟨shared', followed, state⟩ := realizes.happened _ _ _ event outside messages done
          linearised.state
        have before : ({ config.shared with outside } : Net M R τ σ).Orderly :=
          ⟨linearised.orderly.distinct, linearised.orderly.posted, linearised.orderly.unanswered,
            linearised.orderly.opened⟩
        obtain ⟨orderly, keeps, owned, same⟩ := posts_settled system.toActors before messages
        refine ⟨⟨shared', whole.threads⟩, ?_, orderly, ?_, linearised.threads_keep keeps⟩
        · simp only [effects, Trace.run, Interleave.step, followed, Option.map_some,
            Option.bind_some]
        · show reflects (Net.settled _ _).1 (Net.outside _) shared'
          rw [owned, same]
          exact state

/-- Any run over the actors is a run of the atomic operations. -/
theorem Linearised.run (realizes : Realizes system env plain reflects)
    (linearised : Linearised system reflects config whole)
    {labels : List (Label (Option χ) (ActorEvent A ε))}
    (ran : Interleave.run system.network (fun caller => system.dispatched (programs caller))
      config labels = some after) :
    ∃ next, Interleave.run env programs whole
        (system.linearisation plain programs config labels) = some next ∧
      Linearised system reflects after next := by
  have all : Trace.Throughout (Interleave.step system.network fun caller =>
      system.dispatched (programs caller)) (fun _ _ => True) config labels :=
    fun _ _ _ _ _ _ => trivial
  refine Trace.account_invariant
    (fun config noted => ∃ next, Interleave.run env programs whole noted = some next ∧
      Linearised system reflects config next) ?_ ⟨whole, rfl, linearised⟩ all ran
  rintro middle noted label next ⟨reached, followed, held⟩ - taken
  obtain ⟨later, stepped, kept⟩ := held.step realizes taken
  refine ⟨later, ?_, kept⟩
  rw [Interleave.run, Trace.run_append]
  rw [Interleave.run] at followed
  rw [followed]
  exact stepped

end Step

section Order

variable {A M ι ε χ σ τ α : Type} {R : M → Type} {ρ : ι → Type} [DecidableEq A] [DecidableEq M]
  {system : System A M R τ σ ι ρ χ ε} {plain : χ} {programs : Nat → Proc ι ρ α}
  {config middle : Config (ActorOp ι M) (ActorOp.Reply ρ R) α (Net M R τ σ) Unit}

/-- Nothing later changes the order in which the operations have taken effect. -/
theorem linearisation_append (first second : List (Label (Option χ) (ActorEvent A ε)))
    (ran : Interleave.run system.network (fun caller => system.dispatched (programs caller))
      config first = some middle) :
    system.linearisation plain programs config (first ++ second) =
      system.linearisation plain programs config first ++
        system.linearisation plain programs middle second := by
  rw [System.linearisation, Trace.account_append second [] ran, Trace.account_list]
  rfl

end Order

end ActorServices.Actor
