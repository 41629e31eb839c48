import Mathlib.Data.List.Induction

set_option autoImplicit false

/- Runs of a system whose steps are a partial function: `none` means that the
step cannot be taken. -/
namespace ActorServices.Trace

variable {σ ε : Type}

def run (step : σ → ε → Option σ) : σ → List ε → Option σ
  | state, [] => some state
  | state, label :: labels => (step state label).bind fun next => run step next labels

/-- `holds` of every step of a run, in the state that the step is taken from. -/
def Throughout (step : σ → ε → Option σ) (holds : σ → ε → Prop) (state : σ)
    (labels : List ε) : Prop :=
  ∀ history label rest middle, labels = history ++ label :: rest →
    run step state history = some middle → holds middle label

/-- The condition on every step, decided along the run. -/
def check (step : σ → ε → Option σ) (test : σ → ε → Bool) : σ → List ε → Bool
  | _, [] => true
  | state, label :: labels => test state label &&
      match step state label with
      | some next => check step test next labels
      | none => true

/-- What is noted along a run: each step adds to the account of those before it. -/
def account {ω : Type} (step : σ → ε → Option σ) (note : ω → σ → ε → σ → ω) :
    σ → ω → List ε → ω
  | _, noted, [] => noted
  | state, noted, label :: labels =>
      match step state label with
      | some next => account step note next (note noted state label next) labels
      | none => noted

section Runs

variable {step : σ → ε → Option σ} {before after : σ} {labels : List ε}

theorem run_cons {label : ε} (ran : run step before (label :: labels) = some after) :
    ∃ middle, step before label = some middle ∧ run step middle labels = some after :=
  Option.bind_eq_some_iff.mp ran

theorem run_append (first second : List ε) (state : σ) :
    run step state (first ++ second) =
      (run step state first).bind fun middle => run step middle second := by
  induction first generalizing state with
  | nil => rfl
  | cons label first ih =>
      simp only [List.cons_append, run, Option.bind_assoc, ih]

theorem run_append_some {first second : List ε}
    (ran : run step before (first ++ second) = some after) :
    ∃ middle, run step before first = some middle ∧ run step middle second = some after :=
  Option.bind_eq_some_iff.mp ((run_append first second before).symm.trans ran)

/-- What is left of a run behind one of its steps. -/
theorem run_onwards {first second : List ε} {label : ε} {middle next : σ}
    (ran : run step before (first ++ label :: second) = some after)
    (reached : run step before first = some middle) (taken : step middle label = some next) :
    run step next second = some after := by
  obtain ⟨state, came, rest⟩ := run_append_some ran
  have here : middle = state := Option.some.inj (reached.symm.trans came)
  subst here
  obtain ⟨other, stepped, done⟩ := run_cons rest
  have there : next = other := Option.some.inj (taken.symm.trans stepped)
  exact there ▸ done

theorem run_through {first second : List ε} {label : ε} {middle next : σ}
    (reached : run step before first = some middle) (taken : step middle label = some next)
    (rest : run step next second = some after) :
    run step before (first ++ label :: second) = some after := by
  rw [run_append, reached]
  simp only [Option.bind_some, run, taken]
  exact rest

theorem throughout_of_check {test : σ → ε → Bool}
    (checked : check step test before labels = true) :
    Throughout step (fun state label => test state label = true) before labels := by
  induction labels generalizing before with
  | nil =>
      intro history label rest middle split
      cases history <;> cases split
  | cons first labels ih =>
      simp only [check, Bool.and_eq_true] at checked
      intro history label rest middle split reached
      cases history with
      | nil =>
          cases split
          cases reached
          exact checked.1
      | cons other history =>
          cases split
          obtain ⟨next, taken, later⟩ := run_cons reached
          rw [taken] at checked
          exact ih checked.2 history label rest middle rfl later

theorem Throughout.front {holds : σ → ε → Prop} {first second : List ε}
    (all : Throughout step holds before (first ++ second)) :
    Throughout step holds before first := by
  rintro history label rest middle rfl reached
  exact all history label (rest ++ second) middle (by simp) reached

theorem Throughout.back {holds : σ → ε → Prop} {first second : List ε}
    (all : Throughout step holds before (first ++ second))
    (ran : run step before first = some after) :
    Throughout step holds after second := by
  rintro history label rest middle rfl reached
  refine all (first ++ history) label rest middle (by simp) ?_
  rw [run_append, ran]
  exact reached

theorem Throughout.snoc {holds : σ → ε → Prop} {history : List ε} {label : ε}
    (all : Throughout step holds before history)
    (last : ∀ middle, run step before history = some middle → holds middle label) :
    Throughout step holds before (history ++ [label]) := by
  intro earlier other later middle split reached
  rcases List.eq_nil_or_concat later with rfl | ⟨front, final, rfl⟩
  · obtain ⟨rfl, same⟩ := List.append_inj' split rfl
    cases same
    exact last middle reached
  · rw [List.concat_eq_append, ← List.cons_append, ← List.append_assoc] at split
    exact all earlier other front middle (List.append_inj' split rfl).1 reached

/-- What holds before a run and is preserved by each of its steps, each with
what the run did before it and did after it, holds after the run. -/
theorem run_induction (inv : List ε → σ → Prop)
    (initial : inv [] before)
    (preserved : ∀ history middle label next rest, inv history middle →
      run step before history = some middle →
      step middle label = some next → labels = history ++ label :: rest →
      run step next rest = some after → inv (history ++ [label]) next)
    (ran : run step before labels = some after) : inv labels after := by
  induction labels using List.reverseRecOn generalizing after with
  | nil => exact Option.some.inj ran ▸ initial
  | append_singleton history label ih =>
      obtain ⟨middle, reached, last⟩ := run_append_some ran
      obtain ⟨next, taken, done⟩ := run_cons last
      obtain rfl : next = after := Option.some.inj done
      refine preserved history middle label next [] (ih ?_ reached) reached taken rfl done
      intro earlier middle' label' next' rest held before_ taken' split later
      refine preserved earlier middle' label' next' (rest ++ [label]) held before_ taken' ?_ ?_
      · rw [split, List.append_assoc, List.cons_append]
      · rw [run_append, later]
        exact last

/-- The induction for an invariant of the states, over a run whose steps
all meet a condition. -/
theorem run_invariant (inv : σ → Prop) {holds : σ → ε → Prop}
    (preserved : ∀ middle label next, inv middle → holds middle label →
      step middle label = some next → inv next)
    (initial : inv before) (all : Throughout step holds before labels)
    (ran : run step before labels = some after) : inv after := by
  refine run_induction (fun _ state => inv state) initial ?_ ran
  intro history middle label next rest held reached taken split _
  exact preserved middle label next held (all history label rest middle split reached) taken

/-- An invariant of every step is one of every run. -/
theorem run_preserves (inv : σ → Prop)
    (preserved : ∀ middle label next, inv middle → step middle label = some next → inv next)
    (initial : inv before) (ran : run step before labels = some after) : inv after :=
  run_induction (fun _ state => inv state) initial
    (fun _ middle label next _ held _ taken _ _ => preserved middle label next held taken) ran

/-- What is noted along the rest of a run is added to the account of its first part. -/
theorem account_append {ω : Type} {note : ω → σ → ε → σ → ω} {first : List ε} (second : List ε)
    (noted : ω) (ran : run step before first = some after) :
    account step note before noted (first ++ second) =
      account step note after (account step note before noted first) second := by
  induction first generalizing before noted with
  | nil =>
      have same : before = after := Option.some.inj ran
      exact same ▸ rfl
  | cons label first ih =>
      obtain ⟨next, taken, rest⟩ := run_cons ran
      simp only [List.cons_append, account, taken]
      exact ih _ rest

/-- An account that is a list which each step lengthens. -/
theorem account_list {ω : Type} (adds : σ → ε → List ω) (state : σ) (noted : List ω)
    (labels : List ε) :
    account step (fun noted state label _ => noted ++ adds state label) state noted labels =
      noted ++ account step (fun noted state label _ => noted ++ adds state label) state []
        labels := by
  induction labels generalizing state noted with
  | nil => simp [account]
  | cons label labels ih =>
      simp only [account]
      cases step state label with
      | none => simp
      | some next =>
          simp only []
          rw [ih next (noted ++ adds state label), ih next ([] ++ adds state label)]
          simp

/-- An invariant of the states and of what is noted of the steps to them. -/
theorem account_invariant {ω : Type} {note : ω → σ → ε → σ → ω} {noted : ω} (inv : σ → ω → Prop)
    {holds : σ → ε → Prop}
    (preserved : ∀ middle so_far label next, inv middle so_far → holds middle label →
      step middle label = some next → inv next (note so_far middle label next))
    (initial : inv before noted) (all : Throughout step holds before labels)
    (ran : run step before labels = some after) :
    inv after (account step note before noted labels) := by
  induction labels generalizing before noted with
  | nil =>
      have same : before = after := Option.some.inj ran
      exact same ▸ initial
  | cons label labels ih =>
      obtain ⟨next, taken, rest⟩ := run_cons ran
      have first : holds before label := all [] label labels before rfl rfl
      have later : Throughout step holds next labels := by
        have one : run step before [label] = some next := by
          rw [run, taken]
          rfl
        have whole : Throughout step holds before ([label] ++ labels) := all
        exact whole.back one
      have kept := preserved before noted label next initial first taken
      have tail := ih kept later rest
      rw [account, taken]
      exact tail

end Runs

section Projection

variable {τ ω : Type}

/-- Each step of the outer system is one of the inner one, or leaves that where it is. -/
def Projects (outer : τ → ω → Option τ) (step : σ → ε → Option σ) (view : τ → σ)
    (inside : ω → Option ε) : Prop :=
  ∀ state label next, outer state label = some next →
    match inside label with
    | some inner => step (view state) inner = some (view next)
    | none => view next = view state

variable {outer : τ → ω → Option τ} {step : σ → ε → Option σ} {view : τ → σ}
  {inside : ω → Option ε} {before after : τ} {labels : List ω}

theorem Projects.run (projects : Projects outer step view inside)
    (ran : Trace.run outer before labels = some after) :
    Trace.run step (view before) (labels.filterMap inside) = some (view after) := by
  induction labels generalizing before with
  | nil =>
      cases ran
      rfl
  | cons label labels ih =>
      obtain ⟨next, taken, rest⟩ := run_cons ran
      have moved := projects before label next taken
      cases found : inside label with
      | some inner =>
          rw [found] at moved
          rw [List.filterMap_cons_some found, Trace.run, moved]
          exact ih rest
      | none =>
          rw [found] at moved
          rw [List.filterMap_cons_none found, ← moved]
          exact ih rest

/-- A condition on the inner states that holds along a run of the outer system. -/
theorem Projects.throughout (projects : Projects outer step view inside) (holds : σ → Prop)
    (all : Throughout outer (fun state _ => holds (view state)) before labels)
    (ran : Trace.run outer before labels = some after) :
    Throughout step (fun state _ => holds state) (view before) (labels.filterMap inside) := by
  intro history inner rest middle split reached
  obtain ⟨front, back, rfl, rfl, later⟩ := List.filterMap_eq_append_iff.mp split
  obtain ⟨skipped, label, others, rfl, quiet, found, rfl⟩ := List.filterMap_eq_cons_iff.mp later
  obtain ⟨state, came, onwards⟩ := run_append_some ran
  obtain ⟨here, passed, -⟩ := run_append_some onwards
  have arrived : Trace.run outer before (front ++ skipped) = some here := by
    rw [run_append, came]
    exact passed
  have same := projects.run arrived
  rw [List.filterMap_append, List.filterMap_eq_nil_iff.mpr quiet, List.append_nil, reached] at same
  rw [Option.some.inj same]
  exact all (front ++ skipped) label others here (by simp) arrived

end Projection

end ActorServices.Trace
