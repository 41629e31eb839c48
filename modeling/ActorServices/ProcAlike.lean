import ActorServices.Interleave

set_option autoImplicit false

namespace ActorServices

namespace Proc

variable {ι : Type} {ρ : ι → Type} {α β : Type}

/-- Given alike replies, the programs await the same and return alike values. -/
inductive Alike (replies : (op : ι) → ρ op → ρ op → Prop) (values : α → α → Prop) :
    Proc ι ρ α → Proc ι ρ α → Prop
  | ret (left right : α) (alike : values left right) : Alike replies values (.ret left) (.ret right)
  | call (op : ι) (left right : ρ op → Proc ι ρ α)
      (onwards : ∀ reply reply', replies op reply reply' →
        Alike replies values (left reply) (right reply')) :
      Alike replies values (.call op left) (.call op right)

section Alike

variable {replies : (op : ι) → ρ op → ρ op → Prop} {values : α → α → Prop}
  {results : β → β → Prop} {left right : Proc ι ρ α}

theorem Alike.bind (alike : Alike replies values left right) {next next' : α → Proc ι ρ β}
    (onwards : ∀ value value', values value value' →
      Alike replies results (next value) (next' value')) :
    Alike replies results (left >>= next) (right >>= next') := by
  induction alike with
  | ret value value' same => exact onwards value value' same
  | call op rest rest' _ ih =>
      exact .call op _ _ fun reply reply' same => ih reply reply' same

theorem Alike.map (alike : Alike replies values left right) {f g : α → β}
    (same : ∀ value value', values value value' → results (f value) (g value')) :
    Alike replies results (f <$> left) (g <$> right) :=
  alike.bind fun value value' together => .ret _ _ (same value value' together)

/-- What an await is replaced by takes alike replies to alike replies. -/
theorem Alike.expand {κ : Type} {θ : κ → Type} {replies' : (op : κ) → θ op → θ op → Prop}
    {implement : (op : ι) → Proc κ θ (ρ op)}
    (each : ∀ op, Alike replies' (replies op) (implement op) (implement op))
    (alike : Alike replies values left right) :
    Alike replies' values (left.expand implement) (right.expand implement) := by
  induction alike with
  | ret value value' same => exact .ret value value' same
  | call op rest rest' _ ih => exact (each op).bind ih

end Alike

end Proc

namespace Interleave

open Proc

variable {ι : Type} {ρ : ι → Type} {α σ μ χ ε : Type}

/-- The same call, at the same point, with the same memory. -/
inductive ThreadAlike (replies : (op : ι) → ρ op → ρ op → Prop) (values : α → α → Prop) :
    Option (Thread ι ρ α μ) → Option (Thread ι ρ α μ) → Prop
  | idle : ThreadAlike replies values none none
  | running (left right : Proc ι ρ α) (memory : μ) (alike : Alike replies values left right) :
      ThreadAlike replies values (some ⟨left, memory⟩) (some ⟨right, memory⟩)

structure ConfigAlike (replies : (op : ι) → ρ op → ρ op → Prop) (values : α → α → Prop)
    (left right : Config ι ρ α σ μ) : Prop where
  shared : left.shared = right.shared
  threads : ∀ caller, ThreadAlike replies values (left.threads caller) (right.threads caller)

/-- The same step, up to how its await turns out. -/
inductive LabelAlike (choices : χ → χ → Prop) : Label χ ε → Label χ ε → Prop
  | start (caller : Nat) : LabelAlike choices (.start caller) (.start caller)
  | step (caller : Nat) (left right : χ) (alike : choices left right) :
      LabelAlike choices (.step caller left) (.step caller right)
  | event (event : ε) : LabelAlike choices (.event event) (.event event)

section Runs

variable {env : Environment ι ρ σ μ χ ε} {programs : Nat → Proc ι ρ α}
  {replies : (op : ι) → ρ op → ρ op → Prop} {values : α → α → Prop} {choices : χ → χ → Prop}
  {left right after : Config ι ρ α σ μ}

theorem ConfigAlike.initial (shared : σ) :
    ConfigAlike replies values (.initial shared : Config ι ρ α σ μ) (.initial shared) :=
  ⟨rfl, fun _ => .idle⟩

theorem ConfigAlike.put (alike : ConfigAlike replies values left right) (caller : Nat)
    {program program' : Proc ι ρ α} (memory : μ) (shared : σ)
    (together : Alike replies values program program') :
    ConfigAlike replies values ⟨shared, left.put caller ⟨program, memory⟩⟩
      ⟨shared, right.put caller ⟨program', memory⟩⟩ := by
  refine ⟨rfl, fun other => ?_⟩
  by_cases same : other = caller
  · subst same
    show ThreadAlike replies values (left.put other _ other) (right.put other _ other)
    rw [put_self, put_self]
    exact .running program program' memory together
  · show ThreadAlike replies values (left.put caller _ other) (right.put caller _ other)
    rw [put_other left caller other _ same, put_other right caller other _ same]
    exact alike.threads other

theorem ConfigAlike.returned (alike : ConfigAlike replies values left right) {caller : Nat}
    {value : α} {memory : μ} (returned : left.Returned caller value memory) :
    ∃ value', right.Returned caller value' memory ∧ values value value' := by
  have thread := alike.threads caller
  rw [Config.Returned] at returned
  rw [returned] at thread
  generalize there : right.threads caller = other at thread
  cases thread with
  | running _ program' _ together =>
      cases together with
      | ret _ value' same => exact ⟨value', there, same⟩

/-- Where alike values are equal, the same calls have returned the same. -/
theorem ConfigAlike.returned_iff {left right : Config ι ρ α σ μ}
    (alike : ConfigAlike replies Eq left right) (caller : Nat) (value : α) (memory : μ) :
    left.Returned caller value memory ↔ right.Returned caller value memory := by
  constructor
  · intro returned
    obtain ⟨value', there, rfl⟩ := alike.returned returned
    exact there
  · intro returned
    have thread := alike.threads caller
    rw [Config.Returned] at returned
    rw [returned] at thread
    generalize there : left.threads caller = other at thread
    cases thread with
    | running program _ _ together =>
        cases together with
        | ret _ _ same =>
            subst same
            exact there

variable (performs : ∀ shared memory op choice choice' reply remembered (next : σ),
  choices choice choice' → env.perform shared memory op choice = some (reply, remembered, next) →
  ∃ reply', env.perform shared memory op choice' = some (reply', remembered, next) ∧
    replies op reply reply')

include performs

theorem ConfigAlike.step (self : ∀ caller, Alike replies values (programs caller) (programs caller))
    (alike : ConfigAlike replies values left right) {label label' : Label χ ε}
    (labelled : LabelAlike choices label label')
    (taken : Interleave.step env programs left label = some after) :
    ∃ after', Interleave.step env programs right label' = some after' ∧
      ConfigAlike replies values after after' := by
  obtain ⟨caller, rfl, idle, rfl⟩ | ⟨caller, choice, op, next, memory, reply, remembered, shared,
    rfl, running, performed, rfl⟩ | ⟨event, shared, rfl, happened, rfl⟩ := step_cases taken
  · cases labelled with
    | start =>
        have thread := alike.threads caller
        rw [idle] at thread
        generalize there : right.threads caller = other at thread
        cases thread with
        | idle =>
            simp only [Interleave.step, there]
            exact ⟨_, rfl, alike.shared ▸ alike.put caller env.fresh _ (self caller)⟩
  · cases labelled with
    | step _ _ choice' chosen =>
        have thread := alike.threads caller
        rw [running] at thread
        generalize there : right.threads caller = other at thread
        cases thread with
        | running _ program' _ together =>
            cases together with
            | call _ _ next' onwards =>
                obtain ⟨reply', performed', same⟩ :=
                  performs _ _ _ _ _ _ _ _ chosen performed
                rw [alike.shared] at performed'
                simp only [Interleave.step, there, performed', Option.map_some]
                exact ⟨_, rfl, alike.put caller remembered shared (onwards reply reply' same)⟩
  · cases labelled with
    | event =>
        rw [alike.shared] at happened
        simp only [Interleave.step, happened, Option.map_some]
        exact ⟨_, rfl, rfl, alike.threads⟩

/-- Two runs whose awaits turn out alike end alike. -/
theorem ConfigAlike.run (self : ∀ caller, Alike replies values (programs caller) (programs caller))
    (alike : ConfigAlike replies values left right) {labels labels' : List (Label χ ε)}
    (labelled : List.Forall₂ (LabelAlike choices) labels labels')
    (ran : Interleave.run env programs left labels = some after) :
    ∃ after', Interleave.run env programs right labels' = some after' ∧
      ConfigAlike replies values after after' := by
  induction labelled generalizing left right with
  | nil =>
      cases ran
      exact ⟨right, rfl, alike⟩
  | cons same _ ih =>
      obtain ⟨next, taken, rest⟩ := run_cons ran
      obtain ⟨next', taken', together⟩ := alike.step performs self same taken
      obtain ⟨after', rest', ended⟩ := ih together rest
      exact ⟨after', by rw [Interleave.run, Trace.run, taken']; exact rest', ended⟩

end Runs

end Interleave

end ActorServices
