import ActorServices.ServiceCache
import ActorServices.ServiceRows

set_option autoImplicit false

namespace ActorServices.Environment

open Interleave

variable {K V α : Type}

/-- The program has inserted nothing so far: if an insert succeeds it returns what it
inserted at once, and what it returns otherwise is a failure. -/
def Creating (fresh : V → Prop) (made : V → α) (failed : α → Prop) : UseCase K V α → Prop
  | .ret value => failed value
  | .call (.repoInsert value) next =>
      fresh value ∧ next (.ok ()) = .ret (made value) ∧
        ∀ err, Creating fresh made failed (next (.error err))
  | .call .nowUnix next => ∀ now, Creating fresh made failed (next now)
  | .call .random next => ∀ draw, Creating fresh made failed (next draw)
  | .call _ _ => False

theorem creating_map {β : Type} {fresh : V → Prop} {made : V → α} {failed : α → Prop}
    {failed' : β → Prop} (f : α → β) {program : UseCase K V α}
    (creating : Creating fresh made failed program)
    (failures : ∀ value, failed value → failed' (f value)) :
    Creating fresh (fun value => f (made value)) failed' (f <$> program) := by
  induction program with
  | ret value => exact failures value creating
  | call op next ih =>
      cases op with
      | repoInsert value =>
          obtain ⟨new, returned, others⟩ := creating
          have mapped : f <$> next (.ok ()) = .ret (f (made value)) := by
            rw [returned]
            rfl
          exact ⟨new, mapped, fun err => ih (.error err) (others err)⟩
      | nowUnix => exact fun now => ih now (creating now)
      | random => exact fun draw => ih draw (creating draw)
      | _ => exact creating.elim

theorem creating_mono {fresh looser : V → Prop} {made : V → α} {failed : α → Prop}
    {program : UseCase K V α} (creating : Creating fresh made failed program)
    (weaker : ∀ value, fresh value → looser value) : Creating looser made failed program := by
  induction program with
  | ret value => exact creating
  | call op next ih =>
      cases op with
      | repoInsert value =>
          obtain ⟨new, returned, others⟩ := creating
          exact ⟨weaker value new, returned, fun err => ih (.error err) (others err)⟩
      | nowUnix => exact fun now => ih now (creating now)
      | random => exact fun draw => ih draw (creating draw)
      | _ => exact creating.elim

variable [DecidableEq K]

/-- If the step is the caller's, it leaves the repository as it is. -/
def Keeps (entity : Entity K V) (programs : Nat → UseCase K V α) (caller : Nat)
    (config : Calls K V α) (label : Label Choice (Event K)) : Prop :=
  ∀ choice after, label = .step caller choice →
    step (service entity) programs config label = some after →
    after.shared.repo = config.shared.repo

def Untouched (entity : Entity K V) (programs : Nat → UseCase K V α) (start : Calls K V α)
    (labels : List (Label Choice (Event K))) (caller : Nat) : Prop :=
  Throughout (service entity) programs (Keeps entity programs caller) start labels

/-- This step of the caller inserts the entity under a key that is free, and changes no other
row; the caller's other steps leave the repository as it is. -/
structure Inserts (entity : Entity K V) (programs : Nat → UseCase K V α) (start : Calls K V α)
    (labels : List (Label Choice (Event K))) (caller : Nat) (value : V)
    (history : List (Label Choice (Event K))) (choice : Choice)
    (rest : List (Label Choice (Event K))) (before after : Calls K V α) : Prop where
  split : labels = history ++ .step caller choice :: rest
  reached : run (service entity) programs start history = some before
  taken : step (service entity) programs before (.step caller choice) = some after
  free : before.shared.repo (entity.key value) = none
  inserted : ∃ stamp, after.shared.repo =
    Function.update before.shared.repo (entity.key value) (some ⟨value, stamp⟩)
  earlier : Untouched entity programs start history caller
  later : Untouched entity programs after rest caller

def Added (entity : Entity K V) (programs : Nat → UseCase K V α) (start : Calls K V α)
    (labels : List (Label Choice (Event K))) (caller : Nat) (value : V) : Prop :=
  ∃ history choice rest before after,
    Inserts entity programs start labels caller value history choice rest before after

section Create

variable {entity : Entity K V} {programs : Nat → UseCase K V α} {start config : Calls K V α}
  {labels : List (Label Choice (Event K))} {caller : Nat}
  {fresh : V → Prop} {made : V → α} {failed : α → Prop}

theorem Untouched.snoc {label : Label Choice (Event K)}
    (untouched : Untouched entity programs start labels caller)
    (ran : run (service entity) programs start labels = some config)
    (keeps : Keeps entity programs caller config label) :
    Untouched entity programs start (labels ++ [label]) caller := by
  apply Trace.Throughout.snoc untouched
  intro middle reached
  have same : config = middle := Option.some.inj (ran.symm.trans reached)
  exact same ▸ keeps

theorem Untouched.nil : Untouched entity programs start [] caller := by
  intro history label rest middle split _
  cases history <;> cases split

theorem Added.snoc {label : Label Choice (Event K)} {value : V}
    (added : Added entity programs start labels caller value)
    (ran : run (service entity) programs start labels = some config)
    (keeps : Keeps entity programs caller config label) :
    Added entity programs start (labels ++ [label]) caller value := by
  obtain ⟨history, choice, rest, before, after, inserts⟩ := added
  rw [inserts.split] at ran
  have onwards : run (service entity) programs after rest = some config :=
    run_onwards ran inserts.reached inserts.taken
  have split : labels ++ [label] = history ++ .step caller choice :: (rest ++ [label]) := by
    rw [inserts.split, List.append_assoc, List.cons_append]
  exact ⟨history, choice, rest ++ [label], before, after,
    { inserts with split := split, later := inserts.later.snoc onwards keeps }⟩

/-- Where a call that creates is: before its insert, or returned with what it inserted. -/
def Progress (entity : Entity K V) (programs : Nat → UseCase K V α) (start : Calls K V α)
    (fresh : V → Prop) (made : V → α) (failed : α → Prop) (caller : Nat)
    (labels : List (Label Choice (Event K))) (config : Calls K V α) : Prop :=
  match config.threads caller with
  | none => Untouched entity programs start labels caller
  | some thread =>
      (Creating fresh made failed thread.program ∧
        Untouched entity programs start labels caller) ∨
      ∃ value, fresh value ∧ thread.program = .ret (made value) ∧
        Added entity programs start labels caller value

theorem Progress.others {label : Label Choice (Event K)} {after : Calls K V α}
    (progress : Progress entity programs start fresh made failed caller labels config)
    (ran : run (service entity) programs start labels = some config)
    (other : ∀ choice, label ≠ .step caller choice)
    (same : after.threads caller = config.threads caller) :
    Progress entity programs start fresh made failed caller (labels ++ [label]) after := by
  have keeps : Keeps entity programs caller config label :=
    fun choice _ own => absurd own (other choice)
  unfold Progress at progress ⊢
  rw [same]
  cases present : config.threads caller with
  | none =>
      rw [present] at progress
      exact progress.snoc ran keeps
  | some thread =>
      rw [present] at progress
      cases progress with
      | inl creating => exact .inl ⟨creating.1, creating.2.snoc ran keeps⟩
      | inr added =>
          obtain ⟨value, new, returned, added⟩ := added
          exact .inr ⟨value, new, returned, added.snoc ran keeps⟩

theorem Progress.own {choice : Choice} {op : Op K V} {next : op.Reply → UseCase K V α}
    {memory remembered : Memory V} {reply : op.Reply} {shared : Shared K V}
    (progress : Progress entity programs start fresh made failed caller labels config)
    (ran : run (service entity) programs start labels = some config)
    (running : config.threads caller = some ⟨.call op next, memory⟩)
    (taken : step (service entity) programs config (.step caller choice) =
      some ⟨shared, config.put caller ⟨next reply, remembered⟩⟩)
    (performs : Performs entity config.shared memory choice op reply remembered shared) :
    Progress entity programs start fresh made failed caller (labels ++ [.step caller choice])
      ⟨shared, config.put caller ⟨next reply, remembered⟩⟩ := by
  have keeps (same : shared.repo = config.shared.repo) :
      Keeps entity programs caller config (.step caller choice) := by
    intro other after own stepped
    have result := Option.some.inj (taken.symm.trans stepped)
    rw [← result]
    exact same
  unfold Progress at progress ⊢
  rw [running] at progress
  dsimp only
  rw [put_self]
  have inside : Creating fresh made failed (.call op next) ∧
      Untouched entity programs start labels caller := by
    cases progress with
    | inl creating => exact creating
    | inr added =>
        obtain ⟨value, _, returned, _⟩ := added
        cases returned
  obtain ⟨creating, untouched⟩ := inside
  cases performs
  case inserted value free =>
    obtain ⟨new, returned, _⟩ := creating
    right
    exact ⟨value, new, returned, labels, choice, [], config, _, rfl, ran, taken, free,
      ⟨config.shared.made.length, rfl⟩, untouched, Untouched.nil⟩
  case conflicted value row found =>
    exact .inl ⟨creating.2.2 _, untouched.snoc ran (keeps rfl)⟩
  case insertFailed value cause failure =>
    exact .inl ⟨creating.2.2 _, untouched.snoc ran (keeps rfl)⟩
  case read => exact .inl ⟨creating _, untouched.snoc ran (keeps rfl)⟩
  case drew draw => exact .inl ⟨creating _, untouched.snoc ran (keeps rfl)⟩
  all_goals exact creating.elim

theorem run_progress (creating : Creating fresh made failed (programs caller))
    (idle : start.threads caller = none)
    (ran : run (service entity) programs start labels = some config) :
    Progress entity programs start fresh made failed caller labels config := by
  apply run_induction (Progress entity programs start fresh made failed caller) _ _ ran
  · unfold Progress
    rw [idle]
    exact Untouched.nil
  · intro history middle label next rest progress reached taken _ _
    obtain ⟨other, rfl, waits, rfl⟩ | ⟨other, choice, op, more, memory, reply, remembered, shared,
      rfl, running, performed, rfl⟩ | ⟨event, shared, rfl, happened, rfl⟩ := step_cases taken
    · by_cases same : caller = other
      · subst same
        unfold Progress at progress ⊢
        rw [waits] at progress
        dsimp only
        rw [put_self]
        exact .inl ⟨creating, progress.snoc reached fun _ _ own => nomatch own⟩
      · exact progress.others reached nofun (put_other middle other caller _ same)
    · by_cases same : caller = other
      · subst same
        exact progress.own reached running taken (perform_cases performed)
      · apply progress.others reached _ (put_other middle other caller _ same)
        intro own labelled
        cases labelled
        exact same rfl
    · exact progress.others reached nofun rfl

/-- A call that creates and has returned either failed and changed nothing, or added what
it returned. -/
theorem returned_created (creating : Creating fresh made failed (programs caller))
    (idle : start.threads caller = none)
    (ran : run (service entity) programs start labels = some config) {value : α}
    {memory : Memory V} (returned : config.Returned caller value memory) :
    (failed value ∧ Untouched entity programs start labels caller) ∨
      ∃ new, fresh new ∧ value = made new ∧ Added entity programs start labels caller new := by
  have progress := run_progress creating idle ran
  unfold Progress at progress
  rw [returned] at progress
  cases progress with
  | inl failure => exact .inl failure
  | inr added =>
      obtain ⟨new, fine, same, added⟩ := added
      cases same
      exact .inr ⟨new, fine, rfl, added⟩

/-- Somewhere in a run that empties a key is a step that removes its row. -/
theorem run_loses {before after : Calls K V α} {key : K} {row : Row V}
    (ran : run (service entity) programs before labels = some after)
    (stored : before.shared.repo key = some row) (gone : after.shared.repo key = none) :
    ∃ history label rest middle next, labels = history ++ label :: rest ∧
      run (service entity) programs before history = some middle ∧
      step (service entity) programs middle label = some next ∧
      (∃ remover, Removes middle label remover key) ∧ next.shared.repo key = none := by
  induction labels generalizing before row with
  | nil =>
      cases ran
      rw [stored] at gone
      cases gone
  | cons label labels ih =>
      obtain ⟨next, taken, onwards⟩ := run_cons ran
      cases stored_after taken stored with
      | inl kept =>
          obtain ⟨n, still⟩ := kept
          obtain ⟨history, removal, rest, middle, last, split, reached, removed, remover, empty⟩ :=
            ih onwards still
          refine ⟨label :: history, removal, rest, middle, last, ?_, ?_, removed, remover, empty⟩
          · rw [split, List.cons_append]
          · simp only [Trace.run, taken, Option.bind_some]
            exact reached
      | inr removed =>
          obtain ⟨remover, _, _, removes, empty, _⟩ := removed
          exact ⟨[], label, labels, before, next, rfl, rfl, taken, ⟨remover, removes⟩, empty⟩

/-- The first caller's insert, a removal of the key, and the second caller's insert, in
this order. -/
def Separated (entity : Entity K V) (programs : Nat → UseCase K V α) (start : Calls K V α)
    (labels : List (Label Choice (Event K))) (key : K) (first second : Nat) (value value' : V) :
    Prop :=
  ∃ history label rest before after, labels = history ++ label :: rest ∧
    run (service entity) programs start history = some before ∧
    step (service entity) programs before label = some after ∧
    (∃ remover, Removes before label remover key) ∧ after.shared.repo key = none ∧
    Added entity programs start history first value ∧
    Added entity programs after rest second value'

theorem separated_of_order {first second : Nat} {value value' : V}
    (same : entity.key value = entity.key value')
    {front middle rest rest' : List (Label Choice (Event K))} {choice choice' : Choice}
    {before after before' after' : Calls K V α}
    (one : Inserts entity programs start labels first value front choice rest before after)
    (two : Inserts entity programs start labels second value'
      (front ++ .step first choice :: middle) choice' rest' before' after') :
    Separated entity programs start labels (entity.key value) first second value value' := by
  obtain ⟨stamp, inserted⟩ := one.inserted
  have stored : after.shared.repo (entity.key value) = some ⟨value, stamp⟩ := by
    rw [inserted, Function.update_self]
  have between : run (service entity) programs after middle = some before' :=
    run_onwards two.reached one.reached one.taken
  obtain ⟨early, label, late, state, next, cut, came, removed, remover, empty⟩ :=
    run_loses between stored (same ▸ two.free)
  subst cut
  have others : Untouched entity programs after (early ++ label :: late) second := by
    have parts : front ++ .step first choice :: (early ++ label :: late) =
        (front ++ [.step first choice]) ++ (early ++ label :: late) := by
      rw [List.append_assoc, List.singleton_append]
    have earlier := two.earlier
    rw [parts] at earlier
    exact Trace.Throughout.back earlier (run_through one.reached one.taken rfl)
  have untouched : Untouched entity programs next late second := by
    have parts : early ++ label :: late = (early ++ [label]) ++ late := by
      rw [List.append_assoc, List.singleton_append]
    rw [parts] at others
    exact Trace.Throughout.back others (run_through came removed rfl)
  have split : labels = (front ++ .step first choice :: early) ++
      label :: (late ++ .step second choice' :: rest') := by
    rw [two.split]
    simp only [List.append_assoc, List.cons_append]
  have kept : Untouched entity programs after early first := by
    have tail : rest = early ++ (label :: late ++ .step second choice' :: rest') := by
      have both := one.split.symm.trans two.split
      simp only [List.append_assoc, List.cons_append, List.append_cancel_left_eq,
        List.cons.injEq, true_and] at both ⊢
      exact both
    have later := one.later
    rw [tail] at later
    exact Trace.Throughout.front later
  refine ⟨front ++ .step first choice :: early, label, late ++ .step second choice' :: rest',
    state, next, split, run_through one.reached one.taken came, removed, remover, empty, ?_, ?_⟩
  · exact ⟨front, choice, early, before, after, rfl, one.reached, one.taken, one.free,
      one.inserted, one.earlier, kept⟩
  · exact ⟨late, choice', rest', before', after', rfl,
      run_onwards between came removed, two.taken, two.free, two.inserted, untouched, two.later⟩

/-- Two callers that added the same key are separated by a removal of it. -/
theorem added_separated {first second : Nat} {value value' : V} (distinct : first ≠ second)
    (same : entity.key value = entity.key value')
    (one : Added entity programs start labels first value)
    (two : Added entity programs start labels second value') :
    Separated entity programs start labels (entity.key value) first second value value' ∨
      Separated entity programs start labels (entity.key value) second first value' value := by
  obtain ⟨front, choice, rest, before, after, inserts⟩ := one
  obtain ⟨front', choice', rest', before', after', inserts'⟩ := two
  have splits := inserts.split.symm.trans inserts'.split
  cases List.append_eq_append_iff.mp splits with
  | inl longer =>
      obtain ⟨middle, history, tail⟩ := longer
      cases middle with
      | nil =>
          simp only [List.nil_append, List.cons.injEq, Label.step.injEq] at tail
          exact absurd tail.1.1 distinct
      | cons label middle =>
          cases tail
          subst history
          exact .inl (separated_of_order same inserts inserts')
  | inr longer =>
      obtain ⟨middle, history, tail⟩ := longer
      cases middle with
      | nil =>
          simp only [List.nil_append, List.cons.injEq, Label.step.injEq] at tail
          exact absurd tail.1.1 distinct.symm
      | cons label middle =>
          cases tail
          subst history
          exact .inr (same ▸ separated_of_order same.symm inserts' inserts)

/-- Over the run the callers that create are all-or-nothing: what one returned it added, with
a fresh value under a free key, and one that failed changed nothing. Keys stay unique: two that
added the same key are separated by a removal of it. -/
structure Creates (entity : Entity K V) (programs : Nat → UseCase K V α) (start : Calls K V α)
    (labels : List (Label Choice (Event K))) (config : Calls K V α) (creator : Nat → Prop)
    (fresh : V → Prop) (made : V → α) (failed : α → Prop) : Prop where
  returns : ∀ caller result memory, creator caller → config.Returned caller result memory →
    failed result ∨ ∃ value, result = made value
  added : ∀ caller value memory, creator caller → config.Returned caller (made value) memory →
    fresh value ∧ Added entity programs start labels caller value
  untouched : ∀ caller result memory, creator caller → config.Returned caller result memory →
    failed result → Untouched entity programs start labels caller
  separated : ∀ first second value value' memory memory', creator first → creator second →
    first ≠ second → config.Returned first (made value) memory →
    config.Returned second (made value') memory' → entity.key value = entity.key value' →
    Separated entity programs start labels (entity.key value) first second value value' ∨
      Separated entity programs start labels (entity.key value) second first value' value

theorem run_creates {creator : Nat → Prop} (unambiguous : ∀ value, ¬ failed (made value))
    (injective : Function.Injective made)
    (creating : ∀ caller, creator caller → Creating fresh made failed (programs caller))
    (idle : ∀ caller, creator caller → start.threads caller = none)
    (ran : run (service entity) programs start labels = some config) :
    Creates entity programs start labels config creator fresh made failed := by
  have added : ∀ caller value memory, creator caller →
      config.Returned caller (made value) memory →
      fresh value ∧ Added entity programs start labels caller value := by
    intro caller value memory creates returned
    cases returned_created (creating caller creates) (idle caller creates) ran returned with
    | inl failure => exact absurd failure.1 (unambiguous value)
    | inr success =>
        obtain ⟨new, fine, same, inserted⟩ := success
        have identical : value = new := injective same
        subst identical
        exact ⟨fine, inserted⟩
  constructor
  case returns =>
    intro caller result memory creates returned
    cases returned_created (creating caller creates) (idle caller creates) ran returned with
    | inl failure => exact .inl failure.1
    | inr success =>
        obtain ⟨new, _, same, _⟩ := success
        exact .inr ⟨new, same⟩
  case added => exact added
  case untouched =>
    intro caller result memory creates returned failure
    cases returned_created (creating caller creates) (idle caller creates) ran returned with
    | inl unchanged => exact unchanged.2
    | inr success =>
        obtain ⟨new, _, same, _⟩ := success
        exact absurd (same ▸ failure) (unambiguous new)
  case separated =>
    intro first second value value' memory memory' creates creates' distinct returned returned' same
    have one := (added first value memory creates returned).2
    have two := (added second value' memory' creates' returned').2
    exact added_separated distinct same one two

end Create

end ActorServices.Environment

namespace ActorServices.Sequential

open Environment (Entity Creating)

variable {K V α : Type} [DecidableEq K]

theorem run_creating {entity : Entity K V} {recorder : Recorder} {draws : Nat → Nat → Fin 62}
    {cache : Cache K} {instant : Instant} {fresh : V → Prop} {made : V → α} {failed : α → Prop}
    {program : UseCase K V α} (creating : Creating fresh made failed program)
    (world : World K V cache.State) :
    let ended := Proc.run (handle entity recorder draws cache instant) program world
    (failed ended.1 ∧ ended.2.repo = world.repo) ∨
      ∃ value, fresh value ∧ ended.1 = made value ∧ world.repo (entity.key value) = none ∧
        ended.2.repo = Function.update world.repo (entity.key value) (some value) := by
  induction program generalizing world with
  | ret value => exact .inl ⟨creating, rfl⟩
  | call op next ih =>
      cases op with
      | repoInsert value =>
          obtain ⟨new, returned, others⟩ := creating
          simp only [Proc.run_call, handle]
          cases present : world.repo (entity.key value) with
          | none =>
              rw [returned]
              exact .inr ⟨value, new, rfl, present, rfl⟩
          | some row => exact ih _ (others .conflict) world
      | nowUnix => exact ih _ (creating _) world
      | random => exact ih _ (creating _) { world with drawn := world.drawn + 1 }
      | _ => exact creating.elim

end ActorServices.Sequential
