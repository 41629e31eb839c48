import Mathlib.Logic.Equiv.Defs
import ActorServices.ActorProgress
import ActorServices.ServiceAdapters
import ActorServices.ServiceOwnership

set_option autoImplicit false

namespace ActorServices.InMemory

open Interleave Actor Environment

/-- What the cache task is sent. -/
inductive CacheCmd
  | get (key : String)
  | set (key value : String)
  | delete (key : String)
  deriving DecidableEq, Repr

@[reducible] def CacheCmd.Reply : CacheCmd → Type
  | .get _ => Option String
  | .set _ _ => Unit
  | .delete _ => Unit

/-- One turn of the cache task; what is set or deleted is not answered. -/
def processCache (entries : Entries String) : (cmd : CacheCmd) → cmd.Reply × Entries String
  | .get key => (entries key, entries)
  | .set key value => ((), Function.update entries key (some value))
  | .delete key => ((), Function.update entries key none)

inductive Owner
  | repository
  | cache
  deriving DecidableEq, Repr

inductive Message (V : Type)
  | repository (cmd : Cmd V)
  | cache (cmd : CacheCmd)
  deriving DecidableEq

@[reducible] def Message.Reply {V : Type} : Message V → Type
  | .repository cmd => cmd.Reply
  | .cache cmd => cmd.Reply

/-- The maps of the two tasks. -/
structure Stores (V : Type) where
  entries : Entries V
  cached : Entries String

def Message.owner {V : Type} : Message V → Owner
  | .repository _ => .repository
  | .cache _ => .cache

def Stores.turn {V : Type} (key : V → String) (add : Int → V → V) (stores : Stores V) :
    (message : Message V) → message.Reply × Stores V
  | .repository cmd =>
      ((process key add stores.entries cmd).1,
        { stores with entries := (process key add stores.entries cmd).2 })
  | .cache cmd =>
      ((processCache stores.cached cmd).1,
        { stores with cached := (processCache stores.cached cmd).2 })

def tasks {V : Type} (key : V → String) (add : Int → V → V) :
    Actors Owner (Message V) Message.Reply (Stores V) where
  owner := Message.owner
  turn := Stores.turn key add
  apart stores first second differ := by
    cases first <;> cases second <;> first | exact absurd rfl differ | exact ⟨rfl, rfl⟩

variable {K V : Type}

/-- A service over the two tasks. The counters do not overflow. -/
def system (entity : Entity K V) (text : K ≃ String) :
    System Owner (Message V) Message.Reply (Stores V) Int (Op K V) Op.Reply Choice (Event K) where
  toActors := tasks (fun value => text (entity.key value)) entity.bump
  direct clock op choice :=
    match op, choice with
    | .record _, .done => some ((), clock)
    | .nowUnix, .done => some (clock, clock)
    | .random, .drew draw => some (draw, clock)
    | _, _ => none
  happen clock event :=
    match event with
    | .clock now => some (now, [])
    | .increment key n => some (clock, [.repository (.incrementBy (text key) n)])
    | .evict _ => none
  way
    | .cacheGet key => .request (.cache (.get (text key))) id
    | .cacheSet key value _ => .cast (.cache (.set (text key) value)) ()
    | .cacheDelete key => .cast (.cache (.delete (text key))) ()
    | .repoInsert value => .request (.repository (.insert value)) fun inserted =>
        if inserted then .ok () else .error .conflict
    | .repoGet key => .request (.repository (.get (text key))) .ok
    | .repoTake key => .request (.repository (.take (text key))) .ok
    | .repoDelete key => .request (.repository (.delete (text key))) .ok
    | .record _ => .direct
    | .nowUnix => .direct
    | .random => .direct

/-- What the maps hold, against the atomic stores. -/
structure Reflects (text : K ≃ String) (stores : Stores V) (clock : Int) (shared : Shared K V) :
    Prop where
  repo : ∀ key, stores.entries (text key) = (shared.repo key).map Row.value
  cache : ∀ key, stores.cached (text key) = (shared.cache key).map Entry.value
  clock : shared.clock = clock

/-- No map has an entry yet. -/
def Stores.empty : Stores V := ⟨fun _ => none, fun _ => none⟩

section Reflects

variable [DecidableEq K] {entity : Entity K V} {text : K ≃ String} {stores : Stores V} {clock : Int}
  {shared : Shared K V}

theorem update_text {β : Type} (entries : String → Option β) (key other : K) (value : Option β) :
    Function.update entries (text key) value (text other) =
      if other = key then value else entries (text other) := by
  simp only [Function.update_apply, text.injective.eq_iff]

theorem Reflects.setRepo (reflects : Reflects text stores clock shared) (key : K)
    (row : Option (Row V)) :
    Reflects text
      { stores with entries := Function.update stores.entries (text key) (row.map Row.value) } clock
      (shared.setRepo key row) := by
  refine ⟨fun other => ?_, reflects.cache, reflects.clock⟩
  refine (update_text stores.entries key other _).trans ?_
  rw [setRepo_repo, reflects.repo]
  split <;> rfl

theorem Reflects.setCache (reflects : Reflects text stores clock shared) (key : K)
    (entry : Option (Entry V)) :
    Reflects text
      { stores with cached := Function.update stores.cached (text key) (entry.map Entry.value) }
      clock (shared.setCache key entry) := by
  refine ⟨reflects.repo, fun other => ?_, reflects.clock⟩
  refine (update_text stores.cached key other _).trans ?_
  rw [setCache_cache, reflects.cache]
  split <;> rfl

theorem Reflects.insert (reflects : Reflects text stores clock shared) (value : V) :
    Reflects text
      { stores with
        entries := Function.update stores.entries (text (entity.key value)) (some value) } clock
      (shared.insert entity value) := by
  have kept := reflects.setRepo (entity.key value) (some ⟨value, shared.made.length⟩)
  exact ⟨kept.repo, kept.cache, kept.clock⟩

/-- Removing what is not there changes nothing. -/
theorem setRepo_absent {key : K} (absent : shared.repo key = none) :
    shared.setRepo key none = shared := by
  rw [Shared.setRepo, ← absent, Function.update_eq_self]

theorem requested (reflects : Reflects text stores clock shared) (memory : Memory V)
    {op : Op K V} {message : Message V} {decode : message.Reply → op.Reply}
    (way : (system entity text).way op = .request message decode) :
    ∃ remembered shared', Environment.perform entity shared memory op .done =
        some (decode ((system entity text).turn stores message).1, remembered, shared') ∧
      Reflects text ((system entity text).turn stores message).2 clock shared' := by
  cases op with
  | cacheGet key =>
      cases way
      have cached := reflects.cache key
      cases found : shared.cache key with
      | none =>
          rw [found] at cached
          refine ⟨memory, shared, ?_, reflects⟩
          simp [Environment.perform, found, system, tasks, Stores.turn, processCache, cached]
      | some entry =>
          rw [found] at cached
          refine ⟨memory.given entry.origin false, shared, ?_, reflects⟩
          simp [Environment.perform, found, system, tasks, Stores.turn, processCache, cached]
  | repoInsert value =>
      cases way
      have stored := reflects.repo (entity.key value)
      cases found : shared.repo (entity.key value) with
      | none =>
          rw [found] at stored
          refine ⟨memory.given (some ⟨value, shared.made.length⟩) false,
            shared.insert entity value, ?_, ?_⟩
          · simp [Environment.perform, found, system, tasks, Stores.turn, process, stored]
          · simp only [system, tasks, Stores.turn, process, stored, Option.map_none]
            exact reflects.insert value
      | some row =>
          rw [found] at stored
          refine ⟨memory, shared, ?_, ?_⟩
          · simp [Environment.perform, found, system, tasks, Stores.turn, process, stored]
          · simp only [system, tasks, Stores.turn, process, stored, Option.map_some]
            exact reflects
  | repoGet key =>
      cases way
      have stored := reflects.repo key
      cases found : shared.repo key with
      | none =>
          rw [found] at stored
          refine ⟨memory, shared, ?_, reflects⟩
          simp [Environment.perform, found, system, tasks, Stores.turn, process, stored]
      | some row =>
          rw [found] at stored
          refine ⟨memory.given (some row) false, shared, ?_, reflects⟩
          simp [Environment.perform, found, system, tasks, Stores.turn, process, stored]
  | repoTake key =>
      cases way
      have stored := reflects.repo key
      have removed := reflects.setRepo key none
      cases found : shared.repo key with
      | none =>
          rw [found] at stored
          refine ⟨memory, shared, ?_, ?_⟩
          · simp [Environment.perform, found, system, tasks, Stores.turn, process, stored]
          · rw [setRepo_absent found] at removed
            exact removed
      | some row =>
          rw [found] at stored
          refine ⟨memory.given (some row) true, shared.setRepo key none, ?_, removed⟩
          simp [Environment.perform, found, system, tasks, Stores.turn, process, stored]
  | repoDelete key =>
      cases way
      have stored := reflects.repo key
      have removed := reflects.setRepo key none
      cases found : shared.repo key with
      | none =>
          rw [found] at stored
          refine ⟨memory, shared, ?_, ?_⟩
          · simp [Environment.perform, found, system, tasks, Stores.turn, process, stored]
          · rw [setRepo_absent found] at removed
            exact removed
      | some row =>
          rw [found] at stored
          refine ⟨memory.given (some row) true, shared.setRepo key none, ?_, removed⟩
          simp [Environment.perform, found, system, tasks, Stores.turn, process, stored]
  | cacheSet key value ttl => cases way
  | cacheDelete key => cases way
  | record key => cases way
  | nowUnix => cases way
  | random => cases way

theorem posted (reflects : Reflects text stores clock shared) (memory : Memory V)
    {op : Op K V} {message : Message V} {value : op.Reply}
    (way : (system entity text).way op = .cast message value) :
    ∃ remembered shared', Environment.perform entity shared memory op .done =
        some (value, remembered, shared') ∧
      Reflects text ((system entity text).turn stores message).2 clock shared' := by
  cases op with
  | cacheSet key value ttl =>
      cases way
      exact ⟨memory, shared.setCache key (some ⟨value, memory.held⟩), rfl,
        reflects.setCache key (some ⟨value, memory.held⟩)⟩
  | cacheDelete key =>
      cases way
      exact ⟨memory, shared.setCache key none, rfl, reflects.setCache key none⟩
  | cacheGet key => cases way
  | repoInsert value => cases way
  | repoGet key => cases way
  | repoTake key => cases way
  | repoDelete key => cases way
  | record key => cases way
  | nowUnix => cases way
  | random => cases way

theorem performed (reflects : Reflects text stores clock shared) (memory : Memory V)
    {op : Op K V} {choice : Choice} {reply : op.Reply} {clock' : Int}
    (done : (system entity text).direct clock op choice = some (reply, clock')) :
    ∃ remembered shared', Environment.perform entity shared memory op choice =
        some (reply, remembered, shared') ∧ Reflects text stores clock' shared' := by
  simp only [system] at done
  split at done
  · cases done
    exact ⟨memory, shared, rfl, reflects⟩
  · cases done
    refine ⟨{ memory with reading := some shared.clock }, shared, ?_, reflects⟩
    simp only [Environment.perform, reflects.clock]
  · cases done
    exact ⟨memory, shared, rfl, reflects⟩
  · cases done

theorem happened (reflects : Reflects text stores clock shared) {event : Event K}
    {clock' : Int} {messages : List (Message V)}
    (outside : (system entity text).happen clock event = some (clock', messages)) :
    ∃ shared', Environment.happen entity shared event = some shared' ∧
      Reflects text (messages.foldl
        (fun state message => ((system entity text).turn state message).2) stores) clock'
        shared' := by
  cases event with
  | clock now =>
      cases outside
      exact ⟨_, rfl, reflects.repo, reflects.cache, rfl⟩
  | evict key => cases outside
  | increment key n =>
      cases outside
      refine ⟨_, rfl, ?_⟩
      have stored := reflects.repo key
      have counted := reflects.setRepo key ((shared.repo key).map fun row =>
        { row with value := entity.bump n row.value })
      cases found : shared.repo key with
      | none =>
          rw [found] at stored
          simp only [system, tasks, Stores.turn, process, stored, List.foldl_cons, List.foldl_nil,
            Option.map_none, setRepo_absent found]
          exact reflects
      | some row =>
          rw [found] at stored counted
          simp only [system, tasks, Stores.turn, process, stored, List.foldl_cons, List.foldl_nil,
            Option.map_some] at counted ⊢
          exact counted

/-- The two tasks do to their maps what the atomic stores do. -/
theorem realizes (entity : Entity K V) (text : K ≃ String) :
    Realizes (system entity text) (service entity) .done (Reflects text) where
  requested _ _ _ memory _ _ _ way reflects := requested reflects memory way
  posted _ _ _ memory _ _ _ way reflects := posted reflects memory way
  performed _ _ _ memory _ _ _ _ _ done reflects := performed reflects memory done
  happened _ _ _ _ _ _ outside reflects := happened reflects outside

end Reflects

/-- Calls on one service whose stores are the two tasks. -/
abbrev TaskCalls (K V α : Type) : Type :=
  Config (ActorOp (Op K V) (Message V)) (ActorOp.Reply Op.Reply Message.Reply) α
    (Net (Message V) Message.Reply (Stores V) Int) Unit

abbrev TaskLabel (K : Type) : Type := Label (Option Choice) (ActorEvent Owner (Event K))

section Calls

variable {α : Type} [DecidableEq V]

/-- What clients see of a moment of the calls over the tasks is what they see of the atomic
stores: which calls have been made, what has been returned, and how each call goes on, which
depends on all that it has been answered. -/
structure SeenAlike [DecidableEq K] (entity : Entity K V) (text : K ≃ String)
    (config : TaskCalls K V α) (whole : Calls K V α) : Prop where
  begun : ∀ caller, config.threads caller = none ↔ whole.threads caller = none
  returned : ∀ caller value, config.Returned caller value () →
    ∃ memory, whole.Returned caller value memory
  onwards : ∀ caller, Option.Rel
    (fun thread other => Linked (system entity text)
      (config.shared.settled (system entity text).toActors).2 thread.program other.program)
    (config.threads caller) (whole.threads caller)

/-- The call has returned the value, or only waits for an answer that is bound to come and with
which it will. -/
def Concludes [DecidableEq K] (entity : Entity K V) (text : K ≃ String)
    (config : TaskCalls K V α) (caller : Nat) (value : α) : Prop :=
  config.Returned caller value () ∨ ∃ message ticket next answer,
    config.threads caller = some ⟨.call (.recv message ticket) next, ()⟩ ∧
      (config.shared.settled (system entity text).toActors).2 ticket message = some answer ∧
        next answer = .ret value

section Seen

variable [DecidableEq K] {entity : Entity K V} {text : K ≃ String} {config : TaskCalls K V α}
  {whole : Calls K V α}

theorem seenAlike
    (linearised : Linearised (system entity text) (Reflects text) config whole) :
    SeenAlike entity text config whole := by
  refine ⟨fun caller => linearised.idle, fun caller value returned => ?_, linearised.threads⟩
  obtain ⟨⟨program, memory⟩, present, linked⟩ := linearised.thread returned
  obtain rfl : program = .ret value := linked.returned
  exact ⟨memory, present⟩

theorem SeenAlike.concludes (seen : SeenAlike entity text config whole) {caller : Nat} {value : α}
    {memory : Memory V} (returned : whole.Returned caller value memory) :
    Concludes entity text config caller value := by
  have held := seen.onwards caller
  rw [Config.Returned] at returned
  rw [returned] at held
  generalize present : config.threads caller = found at held
  cases held with
  | some linked =>
      rcases linked.returns with stops | ⟨message, ticket, next, answer, waits, promised, ends⟩
      · refine .inl (present.trans ?_)
        rw [← stops]
      · refine .inr ⟨message, ticket, next, answer, present.trans ?_, promised, ends⟩
        rw [← waits]

end Seen

variable [DecidableEq K] (entity : Entity K V) (text : K ≃ String)
  (programs : Nat → UseCase K V α)

/-- The tasks have just been spawned. -/
def spawned : TaskCalls K V α := .initial (.initial .empty 0)

/-- A run of the given calls, the `i`-th made by caller `i`. -/
def runTasks (labels : List (TaskLabel K)) : Option (TaskCalls K V α) :=
  run (system entity text).network (fun caller => (system entity text).dispatched (programs caller))
    spawned labels

/-- The same calls in the order in which their commands were sent. -/
def atomically (labels : List (TaskLabel K)) : List (Label Choice (Event K)) :=
  (system entity text).linearisation .done programs spawned labels

variable {entity text programs} {labels history : List (TaskLabel K)}
  {config middle : TaskCalls K V α}

theorem runTasks_linearised (ran : runTasks entity text programs labels = some config) :
    ∃ whole, run (service entity) programs (.initial .empty)
        (atomically entity text programs labels) = some whole ∧
      Linearised (system entity text) (Reflects text) config whole := by
  have start : Linearised (system entity text) (Reflects text)
      (spawned : TaskCalls K V α) (.initial .empty : Calls K V α) :=
    ⟨.initial _ _, ⟨fun _ => rfl, fun _ => rfl, rfl⟩, fun _ => .none⟩
  exact start.run (realizes entity text) ran

/-- However the tasks are scheduled, the calls look as if every command took effect as it was
sent: at every moment of the run the atomic stores show the same, further commands change nothing
of what was seen, and when no command is under way the maps are those of the atomic stores. -/
theorem calls_linearise (ran : runTasks entity text programs labels = some config) :
    (∃ whole, run (service entity) programs (.initial .empty)
        (atomically entity text programs labels) = some whole ∧
      SeenAlike entity text config whole ∧
      (config.shared.waiting = [] →
        Reflects text config.shared.owned config.shared.outside whole.shared)) ∧
    ∀ history rest, labels = history ++ rest → ∃ middle earlier,
      runTasks entity text programs history = some middle ∧
      atomically entity text programs history <+: atomically entity text programs labels ∧
      run (service entity) programs (.initial .empty)
        (atomically entity text programs history) = some earlier ∧
      SeenAlike entity text middle earlier := by
  constructor
  · obtain ⟨whole, followed, linearised⟩ := runTasks_linearised ran
    refine ⟨whole, followed, seenAlike linearised, fun quiet => ?_⟩
    have state := linearised.state
    rwa [Net.settled, quiet] at state
  · rintro history rest rfl
    obtain ⟨middle, reached, -⟩ := run_append_some ran
    obtain ⟨earlier, followed, linearised⟩ := runTasks_linearised reached
    refine ⟨middle, earlier, reached, ?_, followed, seenAlike linearised⟩
    rw [atomically, atomically, linearisation_append history rest reached]
    exact List.prefix_append _ _

def raceEntity : Entity String String where
  key := id
  bump _ := id
  key_bump _ _ := rfl
  bump_zero _ := rfl
  bump_bump _ _ _ := rfl

def racePrograms : Nat → UseCase String String (Option String)
  | 0 => .call (.repoInsert "a") fun _ => .ret none
  | _ => .call (.repoGet "a") fun found => .ret found.toOption.join

/-- An insert and a get, both sent before the task takes a turn. -/
def raceLabels : List (TaskLabel String) :=
  [.start 0, .start 1, .step 0 none, .step 1 none, .event (.turn .repository),
    .event (.turn .repository), .step 1 none]

theorem racePrograms_end : (runTasks raceEntity (.refl String) racePrograms raceLabels).map
    (fun config => config.result? 1) = some (some (some "a", ())) := by
  decide +kernel

theorem calls_linearise_race : ∃ config whole,
    runTasks raceEntity (.refl String) racePrograms raceLabels = some config ∧
    run (service raceEntity) racePrograms (.initial .empty)
      (atomically raceEntity (.refl String) racePrograms raceLabels) = some whole ∧
    ∃ memory, whole.Returned 1 (some "a") memory := by
  obtain ⟨config, ran, result⟩ := Option.map_eq_some_iff.mp racePrograms_end
  obtain ⟨whole, followed, seen, -⟩ := (calls_linearise ran).1
  exact ⟨config, whole, ran, followed, seen.returned 1 _ (returned_iff.mpr result)⟩

/-- No call is stuck at a task: its answer is there once the task has taken as many turns as
there are commands in its channel, whatever else happens, and until then the task can go on. -/
theorem calls_answered {caller ticket : Nat} {message : Message V}
    (ran : runTasks entity text programs labels = some config)
    (waits : config.Awaits caller (.recv message ticket) ()) :
    (config.shared.answered ticket message ≠ none ∨
      ∃ next, config.shared.turn (system entity text).toActors message.owner = some next) ∧
    ∀ later after, run (system entity text).network
        (fun caller => (system entity text).dispatched (programs caller)) config later =
          some after →
      (channel Message.owner message.owner config.shared.waiting).length ≤
        later.countP (isTurn message.owner) →
      after.shared.answered ticket message ≠ none := by
  obtain ⟨whole, -, linearised⟩ := runTasks_linearised ran
  obtain ⟨next, running⟩ := waits
  obtain ⟨other, -, linked⟩ := linearised.thread running
  obtain ⟨answer, promised⟩ := linked.awaited
  constructor
  · rcases promised_queued linearised.orderly promised with answered | ⟨ahead, -, queued⟩
    · exact .inl answered
    · exact .inr queued.enabled
  · intro later after ran turns
    exact promised_answered linearised.orderly promised ran turns

theorem racePrograms_waits :
    (runTasks raceEntity (.refl String) racePrograms (raceLabels.take 4)).bind
      (fun config => config.op? 1) = some (.recv (.repository (.get "a")) 1) := rfl

theorem calls_answered_race : ∃ config,
    runTasks raceEntity (.refl String) racePrograms (raceLabels.take 4) = some config ∧
    ∀ later after, run (system raceEntity (.refl String)).network
        (fun caller => (system raceEntity (.refl String)).dispatched (racePrograms caller)) config
          later = some after →
      (channel Message.owner Owner.repository config.shared.waiting).length ≤
        later.countP (isTurn Owner.repository) →
      after.shared.answered 1 (.repository (.get "a")) ≠ none := by
  obtain ⟨config, ran, waits⟩ := Option.bind_eq_some_iff.mp racePrograms_waits
  obtain ⟨memory, awaits⟩ := awaits_op? waits
  exact ⟨config, ran, (calls_answered ran awaits).2⟩

end Calls

end ActorServices.InMemory
