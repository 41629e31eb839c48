import ActorServices.LinkConcurrent
import ActorServices.ServiceRows

set_option autoImplicit false

/- `resolve` answers from the repository, or from a cache entry that stands for
it. An entry goes stale in three ways, all of them races. -/
namespace ActorServices.UrlShortener

open Interleave Environment

/-- The repository holds a link with this target under the code. -/
def Holds (config : LinkCalls) (code : ShortCode) (text : String) : Prop :=
  ∃ row, config.shared.repo code = some row ∧ row.value.target.value = text

/-- `resolve` caches a target that the repository no longer holds, and no
invalidation of the code is on its way. -/
def FillsStale (config : LinkCalls) (label : LinkLabel) : Prop :=
  ∃ caller code text ttl memory, label = .step caller .done ∧
    config.Awaits caller (.cacheSet code text ttl) memory ∧ ¬ Holds config code text ∧
    ¬ Pending config code

/-- `get` purges a link whose target is cached; it never invalidates. -/
def GetUncovers (calls : Nat → Call) (config : LinkCalls) (label : LinkLabel) : Prop :=
  ∃ caller raw code memory, label = .step caller .done ∧ calls caller = .get raw ∧
    config.Awaits caller (.repoDelete code) memory ∧ config.shared.repo code ≠ none ∧
    config.shared.cache code ≠ none ∧ ¬ Pending config code

/-- `resolve` hits an entry that an invalidation under way has yet to drop. -/
def HitsPending (config : LinkCalls) (label : LinkLabel) : Prop :=
  ∃ caller code memory entry, label = .step caller .done ∧
    config.Awaits caller (.cacheGet code) memory ∧ config.shared.cache code = some entry ∧
    ¬ Holds config code entry.value ∧ Pending config code

/-- None of the three races takes place in this step. -/
structure Orderly (calls : Nat → Call) (config : LinkCalls) (label : LinkLabel) : Prop where
  succeeds : Succeeds label
  fills : ¬ FillsStale config label
  purges : ¬ GetUncovers calls config label
  hits : ¬ HitsPending config label

/-- Every resolve call of the run that has returned `Ok(target)` did so after a
moment, while it was under way, at which the repository held that target under
its code. -/
def ResolvesHeld (settings : Settings) (calls : Nat → Call) (labels : List LinkLabel) : Prop :=
  ∀ config caller raw target memory, runCalls settings calls labels = some config →
    calls caller = .resolve raw → config.Returned caller (.resolved (.ok target)) memory →
    ∃ code history rest middle op memory', ShortCode.parse raw = .ok code ∧
      labels = history ++ rest ∧ runCalls settings calls history = some middle ∧
      middle.Awaits caller op memory' ∧ Holds middle code target.value

section Invalidates

theorem resolveStored_invalidates (code : ShortCode) :
    (resolveStored code).Follows invalidates := by
  simp only [resolveStored, Proc.call_bind, Proc.ret_bind, Proc.pure_eq]
  rintro (err | _ | link)
  · exact ⟨not_invalidates rfl, trivial⟩
  · exact ⟨not_invalidates rfl, trivial⟩
  · refine ⟨not_invalidates rfl, fun now => ⟨not_invalidates rfl, ?_⟩⟩
    beta_reduce
    split
    · intro removed
      refine ⟨?_, fun _ => ⟨not_invalidates rfl, trivial⟩⟩
      intro required demanded
      cases removed <;> cases demanded
      exact ⟨_, rfl⟩
    · refine Proc.follows_bind ?_ fun _ _ => ⟨not_invalidates rfl, trivial⟩
      unfold fillCache
      refine Proc.follows_bind (UseCase.cacheTtlSecs_invalidates _) fun ttl => ?_
      split
      · exact fun _ => ⟨not_invalidates rfl, trivial⟩
      · trivial

theorem resolve_invalidates (raw : String) : (resolve raw).Follows invalidates := by
  unfold resolve
  split
  · trivial
  · rintro (_ | text)
    · exact ⟨not_invalidates rfl, resolveStored_invalidates _⟩
    · exact ⟨not_invalidates rfl, fun _ => ⟨not_invalidates rfl, trivial⟩⟩

theorem delete_invalidates (raw : String) : (delete raw).Follows invalidates := by
  unfold delete
  split
  · trivial
  · rintro (err | removed)
    · exact ⟨not_invalidates rfl, trivial⟩
    · refine ⟨?_, fun _ => ⟨not_invalidates rfl, ?_⟩⟩
      · rintro required ⟨⟩
        exact ⟨_, rfl⟩
      · cases removed <;> trivial

theorem program_invalidates (settings : Settings) (call : Call) (other : ∀ raw, call ≠ .get raw)
    (creates : ∀ url requested ttl, call ≠ .create url requested ttl) :
    (call.program settings).Follows invalidates := by
  cases call with
  | create url requested ttl => exact absurd rfl (creates url requested ttl)
  | resolve raw => exact Proc.follows_bind (resolve_invalidates raw) fun _ => trivial
  | get raw => exact absurd rfl (other raw)
  | delete raw => exact Proc.follows_bind (delete_invalidates raw) fun _ => trivial

end Invalidates

theorem asks_removal {call : Call} {code : ShortCode} {memory : Memory Link}
    (asks : call.Asks memory (.repoDelete code)) :
    (∃ raw, call = .get raw) ∨
      ((∀ raw, call ≠ .get raw) ∧ ∀ url requested ttl, call ≠ .create url requested ttl) := by
  cases call with
  | create _ _ _ => exact asks.elim
  | resolve raw => exact Or.inr ⟨nofun, nofun⟩
  | get raw => exact Or.inl ⟨raw, rfl⟩
  | delete raw => exact Or.inr ⟨nofun, nofun⟩

/-- Every cache entry stands for what the repository holds, or is about to be
dropped. -/
def Covered (config : LinkCalls) : Prop :=
  ∀ code entry, config.shared.cache code = some entry →
    Holds config code entry.value ∨ Pending config code

/-- The invariant of orderly runs. -/
structure Coherent (calls : Nat → Call) (config : LinkCalls) : Prop where
  held : Held calls config
  follows : ∀ caller, (∀ raw, calls caller ≠ .get raw) →
    (∀ url requested ttl, calls caller ≠ .create url requested ttl) →
    ∀ thread, config.threads caller = some thread → thread.program.Follows invalidates
  covered : Covered config

section Step

variable {settings : Settings} {calls : Nat → Call} {before after : LinkCalls}
  {label : LinkLabel}

/-- What the repository holds, it still holds after a step, or the removal is
followed by an invalidation, or it is the purge of `get`. -/
theorem Coherent.holds_after (coherent : Coherent calls before)
    (taken : callStep settings calls before label = some after) {code : ShortCode}
    {text : String} (holds : Holds before code text) :
    Holds after code text ∨ Pending after code ∨
      ∃ caller raw memory, label = .step caller .done ∧ calls caller = .get raw ∧
        before.Awaits caller (.repoDelete code) memory := by
  obtain ⟨row, stored, rfl⟩ := holds
  rcases stored_after taken stored with ⟨n, kept⟩ | ⟨caller, next, memory, removes, gone, -⟩
  · exact Or.inl ⟨_, kept, rfl⟩
  · obtain ⟨choice, op, memory, rfl, awaits, rfl | ⟨rfl, rfl⟩⟩ := removes
    · exact absurd (coherent.held.awaits awaits).2 asks_take
    · rcases asks_removal (coherent.held.awaits awaits).2 with ⟨raw, call⟩ | ⟨get, creates⟩
      · exact Or.inr (Or.inr ⟨caller, raw, memory, rfl, call, awaits⟩)
      · obtain ⟨next, running⟩ := awaits
        have follows := coherent.follows caller get creates _ running (.ok true)
        obtain ⟨rest, waits⟩ := follows.1 (.cacheDelete code) rfl
        simp only [step, running, service, Environment.perform, stored, Option.map_some,
          Option.some.injEq] at taken
        rw [← taken, waits]
        exact Or.inr (Or.inl ⟨caller, _, rest, put_self _ _ _⟩)

theorem Coherent.step (coherent : Coherent calls before) (orderly : Orderly calls before label)
    (taken : callStep settings calls before label = some after) : Coherent calls after where
  held := held_step coherent.held taken
  follows caller get creates := step_follows taken
    (program_invalidates settings (calls caller) get creates) (coherent.follows caller get creates)
  covered := by
    intro code entry present
    rcases cached_before taken present with old | ⟨caller, text, ttl, memory, rfl, awaits, rfl⟩
    · rcases coherent.covered code entry old with holds | pending
      · rcases coherent.holds_after taken holds with kept | pending | ⟨caller, raw, memory, rfl,
          call, awaits⟩
        · exact Or.inl kept
        · exact Or.inr pending
        · have pending : Pending before code := by
            by_contra absent
            obtain ⟨row, stored, -⟩ := holds
            exact orderly.purges ⟨caller, raw, code, memory, rfl, call, awaits,
              by rw [stored]; nofun, by rw [old]; nofun, absent⟩
          exact Or.inr (pending.step taken orderly.succeeds present)
      · exact Or.inr (pending.step taken orderly.succeeds present)
    · by_cases pending : Pending before code
      · exact Or.inr (pending.step taken orderly.succeeds present)
      · have holds : Holds before code text := by
          by_contra stale
          exact orderly.fills ⟨caller, code, text, ttl, memory, rfl, awaits, stale, pending⟩
        rcases coherent.holds_after taken holds with kept | pending | ⟨caller', raw, memory', same,
          -, awaits'⟩
        · exact Or.inl kept
        · exact Or.inr pending
        · cases same
          exact absurd (awaits.op?.symm.trans awaits'.op?) nofun

end Step

section Seen

variable {settings : Settings} {calls : Nat → Call} {before after : LinkCalls}
  {history : List LinkLabel} {label : LinkLabel} {caller : Nat} {row : Row Link}

/-- While the call was under way, the repository held the row's target under
the row's code. -/
def Seen (settings : Settings) (calls : Nat → Call) (history : List LinkLabel) (caller : Nat)
    (row : Row Link) : Prop :=
  ∃ early rest middle op memory, history = early ++ rest ∧
    runCalls settings calls early = some middle ∧ middle.Awaits caller op memory ∧
    Holds middle row.value.code row.value.target.value

theorem Seen.later (seen : Seen settings calls history caller row) (label : LinkLabel) :
    Seen settings calls (history ++ [label]) caller row := by
  obtain ⟨early, rest, middle, op, memory, rfl, reached, awaits, holds⟩ := seen
  exact ⟨early, rest ++ [label], middle, op, memory, by simp, reached, awaits, holds⟩

def AllSeen (settings : Settings) (calls : Nat → Call) (history : List LinkLabel)
    (config : LinkCalls) : Prop :=
  ∀ caller raw thread row, calls caller = .resolve raw →
    config.threads caller = some thread → thread.memory.held = some row →
    Seen settings calls history caller row

theorem Coherent.seen (coherent : Coherent calls before) (orderly : Orderly calls before label)
    (taken : callStep settings calls before label = some after)
    (reached : runCalls settings calls history = some before)
    (seen : AllSeen settings calls history before) :
    AllSeen settings calls (history ++ [label]) after := by
  intro caller raw thread row call present holds
  rcases step_cases taken with ⟨other, -, -, rfl⟩ | ⟨other, choice, op, next, memory, reply,
    remembered, shared, rfl, running, performed, rfl⟩ | ⟨event, shared, rfl, -, rfl⟩
  · rcases put_cases present with ⟨-, rfl⟩ | ⟨-, present⟩
    · cases holds
    · exact (seen caller raw thread row call present holds).later _
  · rcases put_cases present with ⟨rfl, rfl⟩ | ⟨-, present⟩
    · have now : Holds before row.value.code row.value.target.value →
          Seen settings calls (history ++ [.step caller choice]) caller row := fun here =>
        ⟨history, [.step caller choice], before, op, memory, rfl, reached, ⟨next, running⟩, here⟩
      have stored : ∀ {key : ShortCode} {found : Row Link},
          before.shared.repo key = some found → some found = some row →
          Holds before row.value.code row.value.target.value := by
        intro key found here same
        cases same
        have keyed : row.value.code = key := coherent.held.shared.keyed key row here
        rw [keyed]
        exact ⟨row, here, rfl⟩
      have asks := (coherent.held.awaits ⟨next, running⟩).2
      rw [call] at asks
      cases perform_cases performed
      case hit key entry done found =>
        obtain ⟨row', source, -, keyed, same⟩ := coherent.held.shared.cached key entry found
        obtain rfl : row = row' := Option.some.inj (holds.symm.trans source)
        have fresh : Holds before key entry.value := by
          by_contra stale
          rcases coherent.covered key entry found with held | pending
          · exact stale held
          · exact orderly.hits ⟨caller, key, memory, entry, by rw [done], ⟨next, running⟩, found,
              stale, pending⟩
        have keys : row.value.code = key := keyed
        apply now
        rw [keys, show row.value.target.value = entry.value from same]
        exact fresh
      case got key found here => exact now (stored here holds)
      case took key found here => exact now (stored here holds)
      case deleted key found done here => exact now (stored here holds)
      case inserted value free =>
        obtain ⟨code, -, impossible⟩ := asks
        exact impossible.elim
      all_goals exact (seen caller raw _ row call running holds).later _
    · exact (seen caller raw thread row call present holds).later _
  · exact (seen caller raw thread row call present holds).later _

end Seen

/-- In every orderly run, each target that `resolve` returned was held by the
repository while that call was under way. -/
theorem resolves_held (settings : Settings) (calls : Nat → Call) (labels : List LinkLabel)
    (orderly : Throughout linkStores (fun caller => (calls caller).program settings)
      (Orderly calls) (.initial .empty) labels) : ResolvesHeld settings calls labels := by
  intro config caller raw target memory ran call returned
  have invariant : Coherent calls config ∧ AllSeen settings calls labels config := by
    refine run_induction (fun history config => Coherent calls config ∧
      AllSeen settings calls history config) ?_ ?_ ran
    · refine ⟨⟨.initial _ .empty, ?_, ?_⟩, ?_⟩
      · intro caller _ _ thread present
        cases present
      · intro code entry present
        cases present
      · intro caller raw thread row _ present
        cases present
    · intro history middle label next rest held reached taken split _
      have tidy := orderly history label rest middle split reached
      exact ⟨held.1.step tidy taken, held.1.seen tidy taken reached held.2⟩
  obtain ⟨coherent, seen⟩ := invariant
  have knows := coherent.held.returned returned
  rw [call] at knows
  obtain ⟨row, holds, parsed, same⟩ := knows
  obtain ⟨early, rest, middle, op, memory', split, reached, awaits, held⟩ :=
    seen caller raw _ row call returned holds
  rw [same] at held
  exact ⟨row.value.code, early, rest, middle, op, memory', parsed, split, reached, awaits, held⟩

def staleCalls : Nat → Call
  | 0 => .create "https://example.com" (some "a") none
  | 1 => .resolve "a"
  | 2 => .delete "a"
  | 3 => .resolve "a"
  | _ => .get ""

/-- The first resolve reads the link, the delete call runs to its end, the
first resolve fills the cache, and the second starts and hits it. -/
def staleLabels : List LinkLabel :=
  [.start 0, .step 0 .done, .step 0 .done, .start 1, .step 1 .done, .step 1 .done, .step 1 .done,
    .start 2, .step 2 .done, .step 2 .done, .step 1 .done, .start 3, .step 3 .done, .step 3 .done]

theorem staleCalls_end : (runCalls exampleSettings staleCalls staleLabels).map (fun config =>
    (config.result? 2, config.result? 3)) =
      some (some (.deleted (.ok ()),
          ⟨some ⟨.withExpiry ⟨"a"⟩ ⟨"https://example.com"⟩ 0 none, 0⟩, true, none⟩),
        some (.resolved (.ok ⟨"https://example.com"⟩),
          ⟨some ⟨.withExpiry ⟨"a"⟩ ⟨"https://example.com"⟩ 0 none, 0⟩, false, none⟩)) := by
  decide +kernel

/-- While the second resolve is under way, nothing is stored under the alias. -/
theorem staleCalls_absent :
    check linkStores (fun caller => (staleCalls caller).program exampleSettings)
    (fun config _ => (config.op? 3).isNone || (config.shared.repo ⟨"a"⟩).isNone)
    (.initial .empty) staleLabels = true := by
  decide +kernel

theorem resolve_returns_deleted :
    (∀ label ∈ staleLabels, Succeeds label) ∧
    ¬ ResolvesHeld exampleSettings staleCalls staleLabels := by
  refine ⟨by simp [staleLabels, Succeeds], fun held => ?_⟩
  obtain ⟨config, ran, facts⟩ := Option.map_eq_some_iff.mp staleCalls_end
  simp only [Prod.mk.injEq] at facts
  have returned := returned_iff.mpr facts.2
  obtain ⟨code, history, rest, middle, op, memory, parsed, split, reached, awaits, row, stored,
    -⟩ := held config 3 "a" _ _ ran rfl returned
  obtain rfl := parse_code parsed
  cases rest with
  | nil =>
      rw [List.append_nil] at split
      rw [← split, ran] at reached
      cases reached
      obtain ⟨next, running⟩ := awaits
      rw [Config.Returned, running] at returned
      cases returned
  | cons label rest =>
      have absent := throughout_of_check staleCalls_absent history label rest middle split reached
      simp [awaits.op?, stored] at absent

/-- A reading of `Orderly` that can be computed, for these calls. -/
def orderly (config : LinkCalls) : LinkLabel → Bool
  | .step caller _ =>
      match config.op? caller with
      | some (.cacheSet code text _) =>
          (config.shared.repo code).any fun row => row.value.target.value == text
      | some (.cacheGet code) => (config.shared.cache code).all fun entry =>
          (config.shared.repo code).any fun row => row.value.target.value == entry.value
      | some (.repoDelete _) => caller == 2
      | _ => true
  | _ => true

theorem orderly_of_test {config : LinkCalls} {label : LinkLabel} (succeeds : Succeeds label)
    (test : orderly config label = true) : Orderly staleCalls config label where
  succeeds := succeeds
  fills := by
    rintro ⟨caller, code, text, ttl, memory, rfl, awaits, stale, -⟩
    simp only [orderly, awaits.op?, Option.any_eq_true, beq_iff_eq] at test
    exact stale test
  purges := by
    rintro ⟨caller, raw, code, memory, rfl, call, awaits, -⟩
    simp only [orderly, awaits.op?, beq_iff_eq] at test
    subst test
    cases call
  hits := by
    rintro ⟨caller, code, memory, entry, rfl, awaits, cached, stale, -⟩
    simp only [orderly, awaits.op?, cached, Option.all_some, Option.any_eq_true, beq_iff_eq] at test
    exact stale test

def orderlyLabels : List LinkLabel :=
  [.start 0, .step 0 .done, .step 0 .done,
    .start 1, .step 1 .done, .step 1 .done, .step 1 .done, .step 1 .done, .step 1 .done,
    .start 3, .step 3 .done, .step 3 .done, .start 2, .step 2 .done, .step 2 .done]

theorem resolves_held_in_turn :
    (runCalls exampleSettings staleCalls orderlyLabels).isSome ∧
    ResolvesHeld exampleSettings staleCalls orderlyLabels := by
  refine ⟨by decide +kernel, resolves_held exampleSettings staleCalls orderlyLabels ?_⟩
  have checked : check linkStores (fun caller => (staleCalls caller).program exampleSettings)
      orderly (.initial .empty) orderlyLabels = true := by decide +kernel
  intro history label rest middle split reached
  refine orderly_of_test ?_ (throughout_of_check checked history label rest middle split reached)
  have succeed : ∀ label ∈ orderlyLabels, Succeeds label := by simp [orderlyLabels, Succeeds]
  exact succeed label (by rw [split]; simp)

end ActorServices.UrlShortener
