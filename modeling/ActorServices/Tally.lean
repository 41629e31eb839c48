import Mathlib.Data.Finset.Card
import Mathlib.Logic.Function.Iterate
import ActorServices.Interleave

set_option autoImplicit false

namespace ActorServices

namespace Proc

variable {ι : Type} {ρ : ι → Type} {α β : Type}

/-- The program marks at most once, and then returns a value that may be marked. A value that
must be marked it returns in no other way. -/
def Marks (mark : ι → Prop) (must may : α → Prop) : Proc ι ρ α → Prop
  | .ret value => ¬ must value
  | .call op next => (¬ mark op ∧ ∀ reply, (next reply).Marks mark must may) ∨
      (mark op ∧ ∀ reply, ∃ value, next reply = .ret value ∧ may value)

section Marks

variable {mark : ι → Prop} {must may : α → Prop}

theorem marks_bind {first : Proc ι ρ β} (unmarked : first.Only fun op => ¬ mark op)
    {next : β → Proc ι ρ α} (onwards : ∀ value, (next value).Marks mark must may) :
    (first >>= next).Marks mark must may := by
  induction first with
  | ret value => exact onwards value
  | call op rest ih => exact .inl ⟨unmarked.1, fun reply => ih reply (unmarked.2 reply)⟩

theorem marks_map {program : Proc ι ρ β} {f : β → α}
    (marks : program.Marks mark (fun value => must (f value)) fun value => may (f value)) :
    (f <$> program).Marks mark must may := by
  induction program with
  | ret value => exact marks
  | call op next ih =>
      rcases marks with ⟨unmarked, onwards⟩ | ⟨marked, last⟩
      · exact .inl ⟨unmarked, fun reply => ih reply (onwards reply)⟩
      · refine .inr ⟨marked, fun reply => ?_⟩
        obtain ⟨value, returns, counts⟩ := last reply
        exact ⟨f value, congrArg (f <$> ·) returns, counts⟩

/-- A program without a mark that returns nothing which must be marked. -/
theorem marks_only {program : Proc ι ρ α} (unmarked : program.Only fun op => ¬ mark op)
    (never : ∀ value, ¬ must value) : program.Marks mark must may := by
  induction program with
  | ret value => exact never value
  | call op next ih => exact .inl ⟨unmarked.1, fun reply => ih reply (unmarked.2 reply)⟩

theorem only_bind {asks : ι → Prop} {first : Proc ι ρ β} {next : β → Proc ι ρ α}
    (body : first.Only asks) (onwards : ∀ value, (next value).Only asks) :
    (first >>= next).Only asks := by
  induction first with
  | ret value => exact onwards value
  | call op rest ih => exact ⟨body.1, fun reply => ih reply (body.2 reply)⟩

theorem only_expand {κ : Type} {θ : κ → Type} {asks : κ → Prop}
    {implement : (op : ι) → Proc κ θ (ρ op)} (each : ∀ op, (implement op).Only asks)
    (program : Proc ι ρ α) : (program.expand implement).Only asks := by
  induction program with
  | ret value => trivial
  | call op next ih => exact only_bind (each op) ih

end Marks

end Proc

namespace Interleave

variable {ι : Type} {ρ : ι → Type} {α σ μ χ ε N : Type}

/-- The callers that have marked; all of them have returned. -/
structure Tallied (mark : ι → Prop) (must may : Nat → α → Prop) (config : Config ι ρ α σ μ)
    (tally : Finset Nat) : Prop where
  waiting : ∀ caller thread, config.threads caller = some thread → caller ∉ tally →
    thread.program.Marks mark (must caller) (may caller)
  returned : ∀ caller ∈ tally, ∃ value memory, config.Returned caller value memory ∧
    may caller value

section Tally

variable {env : Environment ι ρ σ μ χ ε} {programs : Nat → Proc ι ρ α} {mark : ι → Prop}
  {must may : Nat → α → Prop} {before after : Config ι ρ α σ μ} {tally : Finset Nat}

/-- A thread that does not mark moves on. -/
theorem Tallied.put (tallied : Tallied mark must may before tally) {caller : Nat}
    (absent : caller ∉ tally) (shared : σ) {thread : Thread ι ρ α μ}
    (marks : thread.program.Marks mark (must caller) (may caller)) :
    Tallied mark must may ⟨shared, before.put caller thread⟩ tally := by
  constructor
  · intro other found present outside
    obtain ⟨rfl, rfl⟩ | ⟨-, present⟩ := put_cases present
    · exact marks
    · exact tallied.waiting other found present outside
  · intro other member
    obtain ⟨value, memory, done, counts⟩ := tallied.returned other member
    refine ⟨value, memory, ?_, counts⟩
    have distinct : other ≠ caller := by
      rintro rfl
      exact absent member
    exact (put_other before caller other thread distinct).trans done

/-- A thread marks, and has then returned. -/
theorem Tallied.marked (tallied : Tallied mark must may before tally) (caller : Nat) (shared : σ)
    {value : α} (memory : μ) (counts : may caller value) :
    Tallied mark must may ⟨shared, before.put caller ⟨.ret value, memory⟩⟩
      (insert caller tally) := by
  constructor
  · intro other found present outside
    rw [Finset.mem_insert, not_or] at outside
    obtain ⟨rfl, -⟩ | ⟨-, present⟩ := put_cases present
    · exact absurd rfl outside.1
    · exact tallied.waiting other found present outside.2
  · intro other member
    by_cases same : other = caller
    · subst same
      exact ⟨value, memory, put_self before other _, counts⟩
    · obtain ⟨earlier, kept, done, counted⟩ :=
        tallied.returned other ((Finset.mem_insert.mp member).resolve_left same)
      exact ⟨earlier, kept, (put_other before caller other _ same).trans done, counted⟩

variable {total : σ → N} {bump : N → N}
  (counts : ∀ shared memory op choice reply remembered next,
    env.perform shared memory op choice = some (reply, remembered, next) →
    (mark op → total next = bump (total shared)) ∧ (¬ mark op → total next = total shared))
  (keeps : ∀ shared event next, env.happen shared event = some next → total next = total shared)
  (programs_mark : ∀ caller, (programs caller).Marks mark (must caller) (may caller))

include counts keeps programs_mark

theorem Tallied.step (tallied : Tallied mark must may before tally) {label : Label χ ε}
    (taken : Interleave.step env programs before label = some after) :
    ∃ tally', Tallied mark must may after tally' ∧
      ((tally'.card = tally.card ∧ total after.shared = total before.shared) ∨
        (tally'.card = tally.card + 1 ∧ total after.shared = bump (total before.shared))) := by
  obtain ⟨caller, -, idle, rfl⟩ | ⟨caller, choice, op, next, memory, reply, remembered, shared, -,
    running, performed, rfl⟩ | ⟨event, shared, -, happened, rfl⟩ := step_cases taken
  · refine ⟨tally, tallied.put ?_ _ (programs_mark caller), .inl ⟨rfl, rfl⟩⟩
    intro member
    obtain ⟨value, memory, done, -⟩ := tallied.returned caller member
    cases idle.symm.trans done
  · have absent : caller ∉ tally := by
      intro member
      obtain ⟨value, kept, done, -⟩ := tallied.returned caller member
      cases running.symm.trans done
    obtain ⟨bumped, same⟩ := counts _ _ _ _ _ _ _ performed
    rcases tallied.waiting caller _ running absent with ⟨unmarked, onwards⟩ | ⟨marked, last⟩
    · exact ⟨tally, tallied.put absent shared (onwards reply), .inl ⟨rfl, same unmarked⟩⟩
    · obtain ⟨value, returns, counted⟩ := last reply
      refine ⟨insert caller tally, ?_, .inr ⟨Finset.card_insert_of_notMem absent, bumped marked⟩⟩
      rw [returns]
      exact tallied.marked caller shared remembered counted
  · exact ⟨tally, ⟨tallied.waiting, tallied.returned⟩, .inl ⟨rfl, keeps _ _ _ happened⟩⟩

/-- In every run, the counter has gone up once for each caller of a tally: callers that have
returned what may be counted, among them all that have returned what must be. -/
theorem run_tallied {start : σ} {labels : List (Label χ ε)}
    (ran : Interleave.run env programs (.initial start) labels = some after) :
    ∃ tally, Tallied mark must may after tally ∧
      total after.shared = bump^[tally.card] (total start) := by
  apply run_preserves (fun config => ∃ tally, Tallied mark must may config tally ∧
    total config.shared = bump^[tally.card] (total start)) _ _ ran
  · rintro middle label next ⟨tally, tallied, reached⟩ taken
    obtain ⟨tally', tallied', ⟨card, same⟩ | ⟨card, bumped⟩⟩ :=
      tallied.step counts keeps programs_mark taken
    · exact ⟨tally', tallied', by rw [same, card, reached]⟩
    · exact ⟨tally', tallied', by rw [bumped, card, reached, Function.iterate_succ_apply']⟩
  · refine ⟨∅, ⟨?_, ?_⟩, rfl⟩
    · intro caller thread present
      cases present
    · intro caller member
      exact absurd member (Finset.notMem_empty caller)

omit counts keeps programs_mark

/-- A caller that has returned what must be counted is in the tally. -/
theorem Tallied.counted (tallied : Tallied mark must may before tally) {caller : Nat} {value : α}
    {memory : μ} (returned : before.Returned caller value memory) (counts : must caller value) :
    caller ∈ tally := by
  by_contra absent
  exact tallied.waiting caller _ returned absent counts

end Tally

end Interleave

end ActorServices
