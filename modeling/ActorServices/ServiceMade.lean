import ActorServices.ServiceCreate

set_option autoImplicit false

namespace ActorServices.Environment

open Interleave

variable {K V α : Type} [DecidableEq K]

/-- The caller has returned the value, which it had stored under the stamp. -/
def Makes (made : V → α) (config : Calls K V α) (caller : Nat) (value : V) (stamp : Nat) : Prop :=
  ∃ memory row, config.Returned caller (made value) memory ∧ memory.held = some row ∧
    row.stamp = stamp

/-- However its awaits turn out, a program that creates fails or returns what it creates. -/
theorem creating_run {K V α σ : Type} {good : V → Prop} {made : V → α} {failed : α → Prop}
    {program : UseCase K V α} (creating : Creating good made failed program)
    (handle : σ → (op : Op K V) → op.Reply × σ) (state : σ) :
    failed (Proc.run handle program state).1 ∨
      ∃ value, good value ∧ (Proc.run handle program state).1 = made value := by
  induction program generalizing state with
  | ret value => exact .inl creating
  | call op next ih =>
      cases op with
      | repoInsert value =>
          obtain ⟨fine, returns, others⟩ := creating
          rw [Proc.run_call]
          cases answer : (handle state (.repoInsert value)).1 with
          | ok done => exact .inr ⟨value, fine, by rw [returns, Proc.run_ret]⟩
          | error err => exact ih (.error err) (others err) _
      | nowUnix => exact ih _ (creating _) _
      | random => exact ih _ (creating _) _
      | _ => exact creating.elim

section Makes

variable {entity : Entity K V} {programs : Nat → UseCase K V α} {start config after : Calls K V α}
  {labels : List (Label Choice (Event K))} {good : Nat → V → Prop} {made : V → α}
  {failed : α → Prop}

theorem Makes.step {label : Label Choice (Event K)} {caller stamp : Nat} {value : V}
    (makes : Makes made config caller value stamp)
    (taken : Interleave.step (service entity) programs config label = some after) :
    Makes made after caller value stamp := by
  obtain ⟨memory, row, returned, holds, same⟩ := makes
  exact ⟨memory, row, step_returned taken returned, holds, same⟩

theorem insert_returns {caller : Nat}
    (creating : Creating (good caller) made failed (programs caller))
    (idle : start.threads caller = none)
    (ran : run (service entity) programs start labels = some config) {value : V}
    {next : Except RepoError Unit → UseCase K V α} {memory : Memory V}
    (running : config.threads caller = some ⟨.call (.repoInsert value) next, memory⟩) :
    next (.ok ()) = .ret (made value) ∧ good caller value := by
  have progress := run_progress creating idle ran
  unfold Progress at progress
  rw [running] at progress
  rcases progress with ⟨⟨fine, returns, -⟩, -⟩ | ⟨other, -, returned, -⟩
  · exact ⟨returns, fine⟩
  · cases returned

variable (idle : ∀ caller, start.threads caller = none)
  (creators : ∀ history middle caller value memory,
    run (service entity) programs start history = some middle →
    middle.Awaits caller (.repoInsert value) memory →
    Creating (good caller) made failed (programs caller))

include idle creators

theorem step_stores {label : Label Choice (Event K)}
    (ran : run (service entity) programs start labels = some config)
    (taken : step (service entity) programs config label = some after) :
    after.shared.made = config.shared.made ∨ ∃ caller value,
      after.shared.made = config.shared.made ++ [value] ∧ good caller value ∧
        Makes made after caller value config.shared.made.length := by
  rcases step_cases taken with ⟨caller, -, -, rfl⟩ | ⟨caller, choice, op, next, memory, reply,
    remembered, shared, rfl, running, performed, rfl⟩ | ⟨event, shared, -, happened, rfl⟩
  · exact .inl rfl
  · cases perform_cases performed
    case inserted value free =>
      have creating := creators labels config caller value memory ran ⟨next, running⟩
      obtain ⟨returns, fine⟩ := insert_returns creating (idle caller) ran running
      refine .inr ⟨caller, value, rfl, fine,
        memory.given (some ⟨value, config.shared.made.length⟩) false,
        ⟨value, config.shared.made.length⟩, ?_, rfl, rfl⟩
      exact (put_self config caller _).trans (by rw [returns])
    all_goals exact .inl rfl
  · exact .inl (happen_made happened)

/-- Every entity that was ever stored has a call that created it. -/
theorem made_by (nothing : start.shared.made = [])
    (ran : run (service entity) programs start labels = some config) {stamp : Nat} {value : V}
    (here : config.shared.made[stamp]? = some value) :
    ∃ caller, good caller value ∧ Makes made config caller value stamp := by
  refine run_induction (fun _ config => ∀ stamp value,
    config.shared.made[stamp]? = some value →
    ∃ caller, good caller value ∧ Makes made config caller value stamp) ?_ ?_ ran stamp value here
  · intro stamp value here
    rw [nothing] at here
    cases here
  intro history middle label next rest credited reached taken _ _ stamp value here
  have kept : ∀ stamp value, middle.shared.made[stamp]? = some value →
      ∃ caller, good caller value ∧ Makes made next caller value stamp := by
    intro stamp value old
    obtain ⟨caller, fine, makes⟩ := credited stamp value old
    exact ⟨caller, fine, makes.step taken⟩
  rcases step_stores idle creators reached taken with same | ⟨caller, added, grown, fine, makes⟩
  · exact kept stamp value (same ▸ here)
  · rw [grown] at here
    by_cases within : stamp < middle.shared.made.length
    · rw [List.getElem?_append_left within] at here
      exact kept stamp value here
    · have bound := (List.getElem?_eq_some_iff.mp here).1
      rw [List.length_append, List.length_singleton] at bound
      obtain rfl : stamp = middle.shared.made.length := by omega
      rw [List.getElem?_concat_length] at here
      obtain rfl : added = value := Option.some.inj here
      exact ⟨caller, fine, makes⟩

end Makes

end ActorServices.Environment
