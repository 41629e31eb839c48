import ActorServices.Proc
import ActorServices.Trace

set_option autoImplicit false

/- Any number of programs over one shared state. A step is one await of one
program, the start of a program, or something the surroundings do by
themselves; a run is any list of steps. -/
namespace ActorServices.Interleave

variable {ι : Type} {ρ : ι → Type} {α σ μ χ ε : Type}

/-- The shared state's side of every await. `perform` answers one operation of
a program that remembers `memory`, as resolved by a choice; `none` means that
the choice does not apply. `happen` is a step of the surroundings alone. -/
structure Environment (ι : Type) (ρ : ι → Type) (σ μ χ ε : Type) where
  fresh : μ
  perform : σ → μ → (op : ι) → χ → Option (ρ op × μ × σ)
  happen : σ → ε → Option σ

structure Thread (ι : Type) (ρ : ι → Type) (α μ : Type) where
  program : Proc ι ρ α
  memory : μ

structure Config (ι : Type) (ρ : ι → Type) (α σ μ : Type) where
  shared : σ
  threads : Nat → Option (Thread ι ρ α μ)

inductive Label (χ ε : Type)
  | start (caller : Nat)
  | step (caller : Nat) (choice : χ)
  | event (event : ε)
  deriving DecidableEq, Repr

/-- Nothing has been called yet. -/
def Config.initial (shared : σ) : Config ι ρ α σ μ := ⟨shared, fun _ => none⟩

def Config.put (config : Config ι ρ α σ μ) (caller : Nat) (thread : Thread ι ρ α μ) :
    Nat → Option (Thread ι ρ α μ) :=
  Function.update config.threads caller (some thread)

/-- The caller's call has returned `value`. -/
def Config.Returned (config : Config ι ρ α σ μ) (caller : Nat) (value : α) (memory : μ) : Prop :=
  config.threads caller = some ⟨.ret value, memory⟩

/-- What the caller's call has returned, if it has. -/
def Config.result? (config : Config ι ρ α σ μ) (caller : Nat) : Option (α × μ) :=
  match config.threads caller with
  | some ⟨.ret value, memory⟩ => some (value, memory)
  | _ => none

theorem returned_iff {config : Config ι ρ α σ μ} {caller : Nat} {value : α} {memory : μ} :
    config.Returned caller value memory ↔ config.result? caller = some (value, memory) := by
  unfold Config.Returned Config.result?
  split
  · rename_i found _ present
    simp [present]
  · rename_i other
    refine ⟨fun returned => absurd returned (other value memory), nofun⟩

/-- What the caller's call waits for, if it does. -/
def Config.op? (config : Config ι ρ α σ μ) (caller : Nat) : Option ι :=
  match config.threads caller with
  | some ⟨.call op _, _⟩ => some op
  | _ => none

/-- The caller's next await is `op`. -/
def Config.Awaits (config : Config ι ρ α σ μ) (caller : Nat) (op : ι) (memory : μ) : Prop :=
  ∃ next, config.threads caller = some ⟨.call op next, memory⟩

theorem Config.Awaits.op? {config : Config ι ρ α σ μ} {caller : Nat} {op : ι} {memory : μ}
    (awaits : config.Awaits caller op memory) : config.op? caller = some op := by
  obtain ⟨next, present⟩ := awaits
  rw [Config.op?, present]

theorem awaits_op? {config : Config ι ρ α σ μ} {caller : Nat} {op : ι}
    (waits : config.op? caller = some op) : ∃ memory, config.Awaits caller op memory := by
  rw [Config.op?] at waits
  split at waits
  · rename_i asked next memory present
    cases waits
    exact ⟨memory, next, present⟩
  · cases waits

def step (env : Environment ι ρ σ μ χ ε) (programs : Nat → Proc ι ρ α)
    (config : Config ι ρ α σ μ) : Label χ ε → Option (Config ι ρ α σ μ)
  | .start caller =>
      match config.threads caller with
      | none => some { config with threads := config.put caller ⟨programs caller, env.fresh⟩ }
      | some _ => none
  | .step caller choice =>
      match config.threads caller with
      | some ⟨.call op next, memory⟩ =>
          (env.perform config.shared memory op choice).map fun result =>
            ⟨result.2.2, config.put caller ⟨next result.1, result.2.1⟩⟩
      | _ => none
  | .event event => (env.happen config.shared event).map fun shared => { config with shared }

abbrev run (env : Environment ι ρ σ μ χ ε) (programs : Nat → Proc ι ρ α) :
    Config ι ρ α σ μ → List (Label χ ε) → Option (Config ι ρ α σ μ) :=
  Trace.run (step env programs)

abbrev Throughout (env : Environment ι ρ σ μ χ ε) (programs : Nat → Proc ι ρ α) :
    (Config ι ρ α σ μ → Label χ ε → Prop) → Config ι ρ α σ μ → List (Label χ ε) → Prop :=
  Trace.Throughout (step env programs)

abbrev check (env : Environment ι ρ σ μ χ ε) (programs : Nat → Proc ι ρ α) :
    (Config ι ρ α σ μ → Label χ ε → Bool) → Config ι ρ α σ μ → List (Label χ ε) → Bool :=
  Trace.check (step env programs)

export Trace (run_cons run_append run_append_some run_onwards run_through throughout_of_check
  run_induction run_invariant run_preserves)

section Steps

variable {env : Environment ι ρ σ μ χ ε} {programs : Nat → Proc ι ρ α}
  {before after : Config ι ρ α σ μ} {labels : List (Label χ ε)}

@[simp] theorem put_self (config : Config ι ρ α σ μ) (caller : Nat) (thread : Thread ι ρ α μ) :
    config.put caller thread caller = some thread := by
  simp only [Config.put, Function.update_self]

theorem put_other (config : Config ι ρ α σ μ) (caller other : Nat) (thread : Thread ι ρ α μ)
    (distinct : other ≠ caller) : config.put caller thread other = config.threads other := by
  simp only [Config.put, Function.update_of_ne distinct]

theorem put_cases {config : Config ι ρ α σ μ} {caller other : Nat} {thread found : Thread ι ρ α μ}
    (present : config.put caller thread other = some found) :
    (other = caller ∧ found = thread) ∨ (other ≠ caller ∧ config.threads other = some found) := by
  by_cases same : other = caller
  · subst same
    rw [put_self] at present
    exact Or.inl ⟨rfl, (Option.some.inj present).symm⟩
  · rw [put_other config caller other thread same] at present
    exact Or.inr ⟨same, present⟩

/-- All that a step can do, with the guards it passed. -/
theorem step_cases {label : Label χ ε} (taken : step env programs before label = some after) :
    (∃ caller, label = .start caller ∧ before.threads caller = none ∧
      after = ⟨before.shared, before.put caller ⟨programs caller, env.fresh⟩⟩) ∨
    (∃ caller choice op next memory reply remembered shared, label = .step caller choice ∧
      before.threads caller = some ⟨.call op next, memory⟩ ∧
      env.perform before.shared memory op choice = some (reply, remembered, shared) ∧
      after = ⟨shared, before.put caller ⟨next reply, remembered⟩⟩) ∨
    (∃ event shared, label = .event event ∧ env.happen before.shared event = some shared ∧
      after = ⟨shared, before.threads⟩) := by
  cases label with
  | start caller =>
      simp only [step] at taken
      split at taken
      · rename_i idle
        exact Or.inl ⟨caller, rfl, idle, (Option.some.inj taken).symm⟩
      · cases taken
  | step caller choice =>
      simp only [step] at taken
      split at taken
      · rename_i op next memory running
        obtain ⟨⟨reply, remembered, shared⟩, performed, rfl⟩ := Option.map_eq_some_iff.mp taken
        exact Or.inr (Or.inl ⟨caller, choice, op, next, memory, reply, remembered, shared,
          rfl, running, performed, rfl⟩)
      · cases taken
  | event event =>
      obtain ⟨shared, happened, rfl⟩ := Option.map_eq_some_iff.mp taken
      exact Or.inr (Or.inr ⟨event, shared, rfl, happened, rfl⟩)

theorem step_start {caller : Nat} (taken : step env programs before (.start caller) = some after) :
    before.threads caller = none ∧ after = ⟨before.shared,
      before.put caller ⟨programs caller, env.fresh⟩⟩ := by
  obtain ⟨other, started, idle, rfl⟩ | ⟨_, _, _, _, _, _, _, _, other, _⟩ | ⟨_, _, other, _⟩ :=
    step_cases taken
  · cases started
    exact ⟨idle, rfl⟩
  · cases other
  · cases other

/-- A call that has returned stays returned. -/
theorem step_returned {label : Label χ ε} {caller : Nat} {value : α} {memory : μ}
    (taken : step env programs before label = some after)
    (returned : before.Returned caller value memory) : after.Returned caller value memory := by
  have keep : ∀ other thread, before.threads other = none ∨
      (∃ op next remembered, before.threads other = some ⟨.call op next, remembered⟩) →
      before.put other thread caller = some ⟨.ret value, memory⟩ := by
    intro other thread active
    rw [put_other before other caller thread]
    · exact returned
    · rintro rfl
      rw [Config.Returned] at returned
      rw [returned] at active
      simp at active
  obtain ⟨other, -, idle, rfl⟩ | ⟨other, choice, op, next, remembered, reply, kept, shared, -,
    running, -, rfl⟩ | ⟨event, shared, -, -, rfl⟩ := step_cases taken
  · exact keep other _ (Or.inl idle)
  · exact keep other _ (Or.inr ⟨op, next, remembered, running⟩)
  · exact returned

theorem step_started {label : Label χ ε} {caller : Nat}
    (taken : step env programs before label = some after)
    (started : before.threads caller ≠ none) : after.threads caller ≠ none := by
  have keep : ∀ other thread, before.put other thread caller ≠ none := by
    intro other thread
    by_cases same : caller = other
    · subst same
      simp
    · rwa [put_other before other caller thread same]
  obtain ⟨other, -, -, rfl⟩ | ⟨other, -, -, next, -, reply, kept, -, -, -, -, rfl⟩ |
    ⟨-, shared, -, -, rfl⟩ := step_cases taken
  · exact keep other _
  · exact keep other _
  · exact started

theorem run_started {caller : Nat} (ran : run env programs before labels = some after)
    (started : before.threads caller ≠ none) : after.threads caller ≠ none :=
  run_preserves (fun config => config.threads caller ≠ none)
    (fun _ _ _ held taken => step_started taken held) started ran

/-- One call's own contract: what its next await replies is all that a step can
change for it. -/
theorem safe_step {contract : Contract ι ρ μ} {post : μ → α → Prop} {caller : Nat}
    {label : Label χ ε} (taken : step env programs before label = some after)
    (fresh : (programs caller).Safe contract post env.fresh)
    (safe : ∀ thread, before.threads caller = some thread →
      thread.program.Safe contract post thread.memory)
    (promised : ∀ choice op memory reply remembered, label = .step caller choice →
      before.Awaits caller op memory → contract.allows memory op →
      env.perform before.shared memory op choice = some (reply, remembered, after.shared) →
      contract.replies memory op reply remembered) :
    ∀ thread, after.threads caller = some thread →
      thread.program.Safe contract post thread.memory := by
  intro thread present
  obtain ⟨other, -, -, rfl⟩ | ⟨other, choice, op, next, memory, reply, remembered, shared, rfl,
    running, performed, rfl⟩ | ⟨event, shared, -, -, rfl⟩ := step_cases taken
  · obtain ⟨rfl, rfl⟩ | ⟨-, present⟩ := put_cases present
    · exact fresh
    · exact safe thread present
  · obtain ⟨rfl, rfl⟩ | ⟨-, present⟩ := put_cases present
    · obtain ⟨allowed, continues⟩ := safe _ running
      exact continues reply remembered
        (promised choice op memory reply remembered rfl ⟨next, running⟩ allowed performed)
    · exact safe thread present
  · exact safe thread present

theorem step_follows {demands : (op : ι) → ρ op → Option ι} {caller : Nat} {label : Label χ ε}
    (taken : step env programs before label = some after)
    (fresh : (programs caller).Follows demands)
    (follows : ∀ thread, before.threads caller = some thread → thread.program.Follows demands) :
    ∀ thread, after.threads caller = some thread → thread.program.Follows demands := by
  intro thread present
  rcases step_cases taken with ⟨other, -, -, rfl⟩ | ⟨other, choice, op, next, memory, reply,
    remembered, shared, -, running, -, rfl⟩ | ⟨event, shared, -, -, rfl⟩
  · rcases put_cases present with ⟨rfl, rfl⟩ | ⟨-, present⟩
    · exact fresh
    · exact follows thread present
  · rcases put_cases present with ⟨rfl, rfl⟩ | ⟨-, present⟩
    · exact (follows _ running reply).2
    · exact follows thread present
  · exact follows thread present

end Steps

/-- The proof rule for any number of programs: `sharedInv` is an invariant of
the shared state, `memoryInv` of every caller's memory against it, and the
caller's contract is what one atomic operation guarantees under both, in steps
that are `admissible`. -/
structure Rule (env : Environment ι ρ σ μ χ ε)
    (admissible : Config ι ρ α σ μ → Label χ ε → Prop) (contract : Nat → Contract ι ρ μ)
    (sharedInv : σ → Prop) (memoryInv : σ → μ → Prop) : Prop where
  fresh : ∀ shared, sharedInv shared → memoryInv shared env.fresh
  performed : ∀ (config : Config ι ρ α σ μ) caller choice op memory reply remembered shared,
    admissible config (.step caller choice) → config.Awaits caller op memory →
    sharedInv config.shared → memoryInv config.shared memory →
    (contract caller).allows memory op →
    env.perform config.shared memory op choice = some (reply, remembered, shared) →
    sharedInv shared ∧ memoryInv shared remembered ∧
      (contract caller).replies memory op reply remembered ∧
      ∀ other, memoryInv config.shared other → memoryInv shared other
  happened : ∀ (config : Config ι ρ α σ μ) event shared, admissible config (.event event) →
    sharedInv config.shared → env.happen config.shared event = some shared →
    sharedInv shared ∧ ∀ other, memoryInv config.shared other → memoryInv shared other

/-- What the rule establishes of one configuration. -/
structure Sound (contract : Nat → Contract ι ρ μ) (sharedInv : σ → Prop)
    (memoryInv : σ → μ → Prop) (post : Nat → μ → α → Prop)
    (config : Config ι ρ α σ μ) : Prop where
  shared : sharedInv config.shared
  memory : ∀ caller thread, config.threads caller = some thread →
    memoryInv config.shared thread.memory
  program : ∀ caller thread, config.threads caller = some thread →
    thread.program.Safe (contract caller) (post caller) thread.memory

section Rule

variable {env : Environment ι ρ σ μ χ ε} {programs : Nat → Proc ι ρ α}
  {admissible : Config ι ρ α σ μ → Label χ ε → Prop} {contract : Nat → Contract ι ρ μ}
  {sharedInv : σ → Prop} {memoryInv : σ → μ → Prop} {post : Nat → μ → α → Prop}
  {before after : Config ι ρ α σ μ}

theorem Sound.initial (shared : σ) (holds : sharedInv shared) :
    Sound contract sharedInv memoryInv post (Config.initial shared : Config ι ρ α σ μ) :=
  ⟨holds, (fun _ _ present => nomatch present), (fun _ _ present => nomatch present)⟩

theorem Sound.returned (sound : Sound contract sharedInv memoryInv post before)
    {caller : Nat} {value : α} {memory : μ} (returned : before.Returned caller value memory) :
    post caller memory value :=
  sound.program caller _ returned

theorem Sound.awaits (sound : Sound contract sharedInv memoryInv post before)
    {caller : Nat} {op : ι} {memory : μ} (awaits : before.Awaits caller op memory) :
    (contract caller).allows memory op := by
  obtain ⟨next, present⟩ := awaits
  exact (sound.program caller _ present).1

theorem Sound.step (rule : Rule env admissible contract sharedInv memoryInv)
    (safe : ∀ caller, (programs caller).Safe (contract caller) (post caller) env.fresh)
    {label : Label χ ε} (sound : Sound contract sharedInv memoryInv post before)
    (admitted : admissible before label)
    (taken : Interleave.step env programs before label = some after) :
    Sound contract sharedInv memoryInv post after := by
  obtain ⟨caller, -, -, rfl⟩ | ⟨caller, choice, op, next, memory, reply, remembered, shared, rfl,
    running, performed, rfl⟩ | ⟨event, shared, rfl, happened, rfl⟩ := step_cases taken
  · refine ⟨sound.shared, ?_, ?_⟩ <;> intro other thread present <;>
      obtain ⟨rfl, rfl⟩ | ⟨-, present⟩ := put_cases present
    · exact rule.fresh _ sound.shared
    · exact sound.memory other thread present
    · exact safe other
    · exact sound.program other thread present
  · obtain ⟨allowed, continues⟩ := sound.program caller _ running
    obtain ⟨sharedHolds, memoryHolds, promised, stable⟩ := rule.performed before caller choice _ _
      _ _ _ admitted ⟨next, running⟩ sound.shared (sound.memory caller _ running) allowed performed
    refine ⟨sharedHolds, ?_, ?_⟩ <;> intro other thread present <;>
      obtain ⟨rfl, rfl⟩ | ⟨-, present⟩ := put_cases present
    · exact memoryHolds
    · exact stable _ (sound.memory other thread present)
    · exact continues reply remembered promised
    · exact sound.program other thread present
  · obtain ⟨sharedHolds, stable⟩ := rule.happened before event _ admitted sound.shared happened
    exact ⟨sharedHolds, fun other thread present => stable _ (sound.memory other thread present),
      sound.program⟩

theorem Sound.run (rule : Rule env admissible contract sharedInv memoryInv)
    (safe : ∀ caller, (programs caller).Safe (contract caller) (post caller) env.fresh)
    {labels : List (Label χ ε)} (sound : Sound contract sharedInv memoryInv post before)
    (all : Throughout env programs admissible before labels)
    (ran : Interleave.run env programs before labels = some after) :
    Sound contract sharedInv memoryInv post after :=
  run_invariant _ (fun _ _ _ held admitted taken => held.step rule safe admitted taken) sound all
    ran

end Rule

end ActorServices.Interleave
