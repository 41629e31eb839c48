import ActorServices.Interleave

set_option autoImplicit false

/- Programs that make the calls of other programs, one each: their runs, with all that is their
own left out, are runs of the others. -/
namespace ActorServices

/-- How the awaits of a program stand among those of the programs around it. -/
structure Layer (ι : Type) (ρ : ι → Type) (κ : Type) (θ : κ → Type) where
  lift : ι → κ
  reply : (op : ι) → θ (lift op) → ρ op

namespace Proc

variable {ι κ : Type} {ρ : ι → Type} {θ : κ → Type} {α β γ : Type}

/-- The outer program makes the awaits of the inner one in their order, with awaits of its `own`
between them, and ends with a value that goes with the value of the inner one. Or it ends
`early`, with the inner program where it is then. -/
inductive Carries (layer : Layer ι ρ κ θ) (own : κ → Proc ι ρ α → Prop)
    (early : β → Proc ι ρ α → Prop) (ends : α → β → Prop) : Proc κ θ β → Proc ι ρ α → Prop
  | lifted (op : ι) (outer : θ (layer.lift op) → Proc κ θ β) (inner : ρ op → Proc ι ρ α)
      (onwards : ∀ reply,
        Carries layer own early ends (outer reply) (inner (layer.reply op reply))) :
      Carries layer own early ends (.call (layer.lift op) outer) (.call op inner)
  | own (op : κ) (outer : θ op → Proc κ θ β) (inner : Proc ι ρ α) (mine : own op inner)
      (onwards : ∀ reply, Carries layer own early ends (outer reply) inner) :
      Carries layer own early ends (.call op outer) inner
  | early (value : β) (inner : Proc ι ρ α) (stops : early value inner) :
      Carries layer own early ends (.ret value) inner
  | ended (result : α) (value : β) (goes : ends result value) :
      Carries layer own early ends (.ret value) (.ret result)

def lifted (layer : Layer ι ρ κ θ) (program : Proc ι ρ α) : Proc κ θ α :=
  program.expand fun op => .call (layer.lift op) fun reply => .ret (layer.reply op reply)

section Carries

variable {layer : Layer ι ρ κ θ} {own : κ → Proc ι ρ α → Prop} {early : β → Proc ι ρ α → Prop}
  {ends : α → β → Prop}

theorem carries_lifted (program : Proc ι ρ γ) (f : γ → α) {next : γ → Proc κ θ β}
    (onwards : ∀ value, Carries layer own early ends (next value) (.ret (f value))) :
    Carries layer own early ends (program.lifted layer >>= next) (f <$> program) := by
  induction program with
  | ret value => exact onwards value
  | call op rest ih => exact .lifted op _ _ fun reply => ih (layer.reply op reply)

theorem carries_own {program : Proc κ θ β} {inner : Proc ι ρ α}
    (only : program.Only fun op => own op inner) (stops : ∀ value, early value inner) :
    Carries layer own early ends program inner := by
  induction program with
  | ret value => exact .early value inner (stops value)
  | call op next ih => exact .own op next inner only.1 fun reply => ih reply (only.2 reply)

theorem Carries.map {early : γ → Proc ι ρ α → Prop} {ends : α → γ → Prop} {f : β → γ}
    {outer : Proc κ θ β} {inner : Proc ι ρ α}
    (carries : Carries layer own (fun value => early (f value))
      (fun result value => ends result (f value)) outer inner) :
    Carries layer own early ends (f <$> outer) inner := by
  induction carries with
  | lifted op outer inner _ ih => exact .lifted op _ inner ih
  | own op outer inner mine _ ih => exact .own op _ inner mine ih
  | early value inner stops => exact .early (f value) inner stops
  | ended result value goes => exact .ended result (f value) goes

end Carries

end Proc

namespace Interleave

open Proc

variable {ι κ : Type} {ρ : ι → Type} {θ : κ → Type} {α β σ τ μ χ χ' ε ε' : Type}

/-- The inner program is where the outer one has brought it, with the same memory. -/
inductive ThreadCarries (layer : Layer ι ρ κ θ) (own : κ → Proc ι ρ α → Prop)
    (early : β → Proc ι ρ α → Prop) (ends : α → β → Prop) :
    Option (Thread κ θ β μ) → Option (Thread ι ρ α μ) → Prop
  | idle : ThreadCarries layer own early ends none none
  | running (outer : Proc κ θ β) (inner : Proc ι ρ α) (memory : μ)
      (carries : Carries layer own early ends outer inner) :
      ThreadCarries layer own early ends (some ⟨outer, memory⟩) (some ⟨inner, memory⟩)

/-- The inner programs share what the outer ones show them. -/
structure ConfigCarries (layer : Layer ι ρ κ θ) (own : κ → Proc ι ρ α → Prop) (view : τ → σ)
    (early : Nat → β → Proc ι ρ α → Prop) (ends : Nat → α → β → Prop)
    (outer : Config κ θ β τ μ) (inner : Config ι ρ α σ μ) : Prop where
  shared : inner.shared = view outer.shared
  threads : ∀ caller, ThreadCarries layer own (early caller) (ends caller)
    (outer.threads caller) (inner.threads caller)

/-- The surroundings of the outer programs are those of the inner ones to the awaits of these,
which turn out as `chosen`, and an await of their own changes nothing that the inner programs
share. -/
structure Surrounds (layer : Layer ι ρ κ θ) (own : κ → Proc ι ρ α → Prop) (view : τ → σ)
    (chosen : χ' → χ) (env : Environment κ θ τ μ χ ε)
    (inside : Environment ι ρ σ μ χ' ε') : Prop where
  fresh : env.fresh = inside.fresh
  lifted : ∀ shared memory op choice reply remembered next,
    env.perform shared memory (layer.lift op) choice = some (reply, remembered, next) →
    ∃ choice', choice = chosen choice' ∧ inside.perform (view shared) memory op choice' =
      some (layer.reply op reply, remembered, view next)
  own : ∀ shared memory op inner choice reply remembered next, own op inner →
    env.perform shared memory op choice = some (reply, remembered, next) →
    remembered = memory ∧ view next = view shared
  happened : ∀ shared event next, env.happen shared event = some next →
    view next = view shared ∨ ∃ event', inside.happen (view shared) event' = some (view next)

section Runs

variable {layer : Layer ι ρ κ θ} {own : κ → Proc ι ρ α → Prop} {view : τ → σ} {chosen : χ' → χ}
  {early : Nat → β → Proc ι ρ α → Prop} {ends : Nat → α → β → Prop}
  {env : Environment κ θ τ μ χ ε} {inside : Environment ι ρ σ μ χ' ε'}
  {programs : Nat → Proc κ θ β} {insides : Nat → Proc ι ρ α}
  {outer after : Config κ θ β τ μ} {inner : Config ι ρ α σ μ}

theorem ConfigCarries.initial (shared : τ) :
    ConfigCarries layer own view early ends (.initial shared : Config κ θ β τ μ)
      (.initial (view shared) : Config ι ρ α σ μ) :=
  ⟨rfl, fun _ => .idle⟩

theorem ConfigCarries.put (carries : ConfigCarries layer own view early ends outer inner)
    (caller : Nat) {program : Proc κ θ β} {program' : Proc ι ρ α} (memory : μ) (shared : τ)
    (together : Carries layer own (early caller) (ends caller) program program') :
    ConfigCarries layer own view early ends ⟨shared, outer.put caller ⟨program, memory⟩⟩
      ⟨view shared, inner.put caller ⟨program', memory⟩⟩ := by
  refine ⟨rfl, fun other => ?_⟩
  by_cases same : other = caller
  · subst same
    show ThreadCarries layer own _ _ (outer.put other _ other) (inner.put other _ other)
    rw [put_self, put_self]
    exact .running program program' memory together
  · show ThreadCarries layer own _ _ (outer.put caller _ other) (inner.put caller _ other)
    rw [put_other outer caller other _ same, put_other inner caller other _ same]
    exact carries.threads other

theorem ConfigCarries.putOwn (carries : ConfigCarries layer own view early ends outer inner)
    {caller : Nat} {program : Proc κ θ β} {program' : Proc ι ρ α} {memory : μ} {shared : τ}
    (there : inner.threads caller = some ⟨program', memory⟩)
    (same : view shared = view outer.shared)
    (together : Carries layer own (early caller) (ends caller) program program') :
    ConfigCarries layer own view early ends ⟨shared, outer.put caller ⟨program, memory⟩⟩
      inner := by
  have moved := carries.put caller memory shared together
  have unmoved : inner.put caller ⟨program', memory⟩ = inner.threads :=
    Function.update_eq_self_iff.mpr there.symm
  rw [unmoved, same, ← carries.shared] at moved
  exact moved

theorem ConfigCarries.idle (carries : ConfigCarries layer own view early ends outer inner)
    {caller : Nat} (idle : outer.threads caller = none) : inner.threads caller = none := by
  have thread := carries.threads caller
  rw [idle] at thread
  generalize inner.threads caller = found at thread
  cases thread
  rfl

theorem ConfigCarries.step (surrounds : Surrounds layer own view chosen env inside)
    (together : ∀ caller, Carries layer own (early caller) (ends caller) (programs caller)
      (insides caller))
    (carries : ConfigCarries layer own view early ends outer inner) {label : Label χ ε}
    (taken : Interleave.step env programs outer label = some after) :
    ConfigCarries layer own view early ends after inner ∨
      ∃ label' after', Interleave.step inside insides inner label' = some after' ∧
        ConfigCarries layer own view early ends after after' ∧
        ∀ caller choice', label' = .step caller choice' →
          label = .step caller (chosen choice') := by
  obtain ⟨caller, -, idle, rfl⟩ | ⟨caller, choice, op, next, memory, reply, remembered, shared,
    rfl, running, performed, rfl⟩ | ⟨event, shared, -, happened, rfl⟩ := step_cases taken
  · refine .inr ⟨.start caller, ⟨inner.shared, inner.put caller ⟨insides caller, inside.fresh⟩⟩,
      by simp only [Interleave.step, carries.idle idle], ?_, fun _ _ other => by cases other⟩
    rw [← surrounds.fresh, carries.shared]
    exact carries.put caller _ _ (together caller)
  · have thread := carries.threads caller
    rw [running] at thread
    generalize there : inner.threads caller = found at thread
    cases thread with
    | running _ program' _ stage =>
        generalize waits : Proc.call op next = program at stage
        cases stage with
        | lifted op' outer' inner' onwards =>
            cases waits
            obtain ⟨choice', rfl, performed'⟩ := surrounds.lifted _ _ _ _ _ _ _ performed
            rw [← carries.shared] at performed'
            refine .inr ⟨.step caller choice', _, ?_, carries.put caller _ _ (onwards reply), ?_⟩
            · simp only [Interleave.step, there, performed', Option.map_some]
            · rintro other choice same
              cases same
              rfl
        | own op' outer' _ mine onwards =>
            cases waits
            obtain ⟨rfl, same⟩ := surrounds.own _ _ _ _ _ _ _ _ mine performed
            exact .inl (carries.putOwn there same (onwards reply))
        | early => cases waits
        | ended => cases waits
  · rcases surrounds.happened _ _ _ happened with same | ⟨event', happened'⟩
    · exact .inl ⟨by rw [carries.shared, same], carries.threads⟩
    · rw [← carries.shared] at happened'
      exact .inr ⟨.event event', ⟨view shared, inner.threads⟩,
        by simp only [Interleave.step, happened', Option.map_some], ⟨rfl, carries.threads⟩,
        fun _ _ other => by cases other⟩

/-- A run of the outer programs is a run of the inner ones. -/
theorem ConfigCarries.run (surrounds : Surrounds layer own view chosen env inside)
    (together : ∀ caller, Carries layer own (early caller) (ends caller) (programs caller)
      (insides caller))
    (carries : ConfigCarries layer own view early ends outer inner) {labels : List (Label χ ε)}
    (ran : Interleave.run env programs outer labels = some after) :
    ∃ labels' after', Interleave.run inside insides inner labels' = some after' ∧
      ConfigCarries layer own view early ends after after' := by
  induction labels generalizing outer inner with
  | nil =>
      cases ran
      exact ⟨[], inner, rfl, carries⟩
  | cons label labels ih =>
      obtain ⟨next, taken, rest⟩ := run_cons ran
      rcases carries.step surrounds together taken with
        stays | ⟨label', next', taken', moves, -⟩
      · exact ih stays rest
      · obtain ⟨labels', after', rest', ended⟩ := ih moves rest
        exact ⟨label' :: labels', after', by rw [Interleave.run, Trace.run, taken']; exact rest',
          ended⟩

/-- What the steps of the inner programs keep, each with the step of the outer ones that it is,
holds of where a run of the outer ones brings them. -/
theorem ConfigCarries.invariant (surrounds : Surrounds layer own view chosen env inside)
    (together : ∀ caller, Carries layer own (early caller) (ends caller) (programs caller)
      (insides caller))
    (inv : Config ι ρ α σ μ → Prop) {labels : List (Label χ ε)}
    (kept : ∀ history label rest middle next middle' label' next',
      labels = history ++ label :: rest → Interleave.run env programs outer history = some middle →
      Interleave.run env programs next rest = some after →
      ConfigCarries layer own view early ends middle middle' →
      ConfigCarries layer own view early ends next next' → inv middle' →
      Interleave.step inside insides middle' label' = some next' →
      (∀ caller choice, label' = .step caller choice → label = .step caller (chosen choice)) →
      inv next')
    (carries : ConfigCarries layer own view early ends outer inner) (initial : inv inner)
    (ran : Interleave.run env programs outer labels = some after) :
    ∃ after', ConfigCarries layer own view early ends after after' ∧ inv after' := by
  refine run_induction (fun _ config => ∃ config', ConfigCarries layer own view early ends config
    config' ∧ inv config') ⟨inner, carries, initial⟩ ?_ ran
  rintro history middle label next rest ⟨middle', stands, held⟩ reached taken split later
  rcases stands.step surrounds together taken with stays | ⟨label', next', taken', moves, same⟩
  · exact ⟨middle', stays, held⟩
  · exact ⟨next', moves, kept history label rest middle next middle' label' next' split reached
      later stands moves held taken' same⟩

theorem ConfigCarries.returned (carries : ConfigCarries layer own view early ends outer inner)
    {caller : Nat} {value : β} {memory : μ} (returned : outer.Returned caller value memory) :
    (∃ program, inner.threads caller = some ⟨program, memory⟩ ∧ early caller value program) ∨
      ∃ result, inner.Returned caller result memory ∧ ends caller result value := by
  have thread := carries.threads caller
  rw [Config.Returned] at returned
  rw [returned] at thread
  generalize there : inner.threads caller = found at thread
  cases thread with
  | running _ program _ stage =>
      cases stage with
      | early _ _ stops => exact .inl ⟨program, rfl, stops⟩
      | ended result _ goes => exact .inr ⟨result, there, goes⟩

/-- What an inner program has returned, the outer one has made its own value of, unless it may
still do something. -/
theorem ConfigCarries.ended (carries : ConfigCarries layer own view early ends outer inner)
    {caller : Nat} {result : α} {memory : μ} (returned : inner.Returned caller result memory)
    (last : ∀ op, ¬ own op (.ret result)) (timely : ∀ value, ¬ early caller value (.ret result)) :
    ∃ value, outer.Returned caller value memory ∧ ends caller result value := by
  have thread := carries.threads caller
  rw [Config.Returned] at returned
  rw [returned] at thread
  generalize there : outer.threads caller = found at thread
  cases thread with
  | running program _ _ stage =>
      cases stage with
      | own op _ _ mine _ => exact absurd mine (last op)
      | early value _ stops => exact absurd stops (timely value)
      | ended _ value goes => exact ⟨value, there, goes⟩

end Runs

end Interleave

end ActorServices
