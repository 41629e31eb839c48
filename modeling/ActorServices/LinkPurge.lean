import ActorServices.LinkConcurrent
import ActorServices.ServiceRows

set_option autoImplicit false

/- The lazy purge of `resolve` and `get` deletes by code, some time after the
link was read: what it removes may be another link than the expired one. -/
namespace ActorServices.UrlShortener

open Interleave Environment

/-- The step in which a client's delete call executes on a stored row. -/
def ClientDeletes (calls : Nat → Call) (stamp : Nat) (config : LinkCalls) (label : LinkLabel) :
    Prop :=
  ∃ caller raw code memory, label = .step caller .done ∧ calls caller = .delete raw ∧
    config.Awaits caller (.repoDelete code) memory ∧ Present config code stamp

/-- A purge by `resolve` or `get` finds, under its code, another link than the
one it read, and that link has not expired. -/
def PurgesOther (calls : Nat → Call) (config : LinkCalls) (label : LinkLabel) : Prop :=
  ∃ caller code memory read row, label = .step caller .done ∧ (∀ raw, calls caller ≠ .delete raw) ∧
    config.Awaits caller (.repoDelete code) memory ∧ memory.held = some read ∧
    config.shared.repo code = some row ∧ row.stamp ≠ read.stamp ∧
    row.value.isExpired config.shared.clock = false

/-- At the end of the run, every link that was ever stored and has not expired
is still stored, unless a client's delete call has executed on it. -/
def LinksStay (settings : Settings) (calls : Nat → Call) (labels : List LinkLabel) : Prop :=
  ∀ config (stamp : Nat) link, runCalls settings calls labels = some config →
    config.shared.made[stamp]? = some link → link.isExpired config.shared.clock = false →
    Throughout linkStores (fun caller => (calls caller).program settings)
      (fun config label => ¬ ClientDeletes calls stamp config label) (.initial .empty) labels →
    Present config link.code stamp

section Step

variable {settings : Settings} {calls : Nat → Call} {before after : LinkCalls}
  {label : LinkLabel}

/-- Two rows of one stamp expire together. -/
theorem expires_together {shared : Shared ShortCode Link} {left right : Row Link}
    (first : Origin linkEntity shared left) (second : Origin linkEntity shared right)
    (same : left.stamp = right.stamp) (now : Int) :
    left.value.isExpired now = right.value.isExpired now := by
  obtain ⟨link, n, made, counted⟩ := first
  obtain ⟨link', n', made', counted'⟩ := second
  rw [same, made'] at made
  cases made
  rw [counted, counted']
  rfl

/-- A live row survives every step but a client's delete call on it. -/
theorem live_kept (held : Held calls before) (timed : Timed before)
    (careful : ¬ PurgesOther calls before label)
    (taken : callStep settings calls before label = some after) {code : ShortCode}
    {row : Row Link} (stored : before.shared.repo code = some row)
    (live : row.value.isExpired before.shared.clock = false)
    (spared : ¬ ClientDeletes calls row.stamp before label) : Present after code row.stamp := by
  rcases stored_after taken stored with ⟨n, kept⟩ | ⟨caller, next, memory, removes, -, here⟩
  · exact ⟨_, kept, rfl⟩
  · obtain ⟨choice, op, memory, rfl, awaits, rfl | ⟨rfl, rfl⟩⟩ := removes
    · exact absurd (held.awaits awaits).2 asks_take
    · rcases asks_delete (held.awaits awaits).2 with ⟨raw, call⟩ | ⟨other, read, now, holds,
        reading, -, lapsed⟩
      · exact absurd ⟨caller, raw, code, memory, rfl, call, awaits, row, stored, rfl⟩ spared
      · by_cases same : row.stamp = read.stamp
        · -- the row that was read: its expiry has passed on the clock as well
          obtain ⟨next, running⟩ := awaits
          have passed : now ≤ before.shared.clock := timed caller _ now running reading
          have together := expires_together (held.shared.stored code row stored)
            (held.memory caller _ running read holds) same before.shared.clock
          have expired : read.value.isExpired before.shared.clock = true :=
            isExpired_mono passed lapsed
          rw [live, expired] at together
          cases together
        · exact absurd ⟨caller, code, memory, read, row, rfl, other, awaits, holds, stored, same,
            live⟩ careful

/-- What a careful run keeps of one link. -/
structure Kept (calls : Nat → Call) (stamp : Nat) (config : LinkCalls) : Prop where
  held : Held calls config
  timed : Timed config
  stays : ∀ link, config.shared.made[stamp]? = some link →
    link.isExpired config.shared.clock = false → Present config link.code stamp

theorem Kept.step {stamp : Nat} (kept : Kept calls stamp before) (forward : Forward before label)
    (careful : ¬ PurgesOther calls before label)
    (spared : ¬ ClientDeletes calls stamp before label)
    (taken : callStep settings calls before label = some after) : Kept calls stamp after where
  held := held_step kept.held taken
  timed := kept.timed.step forward taken
  stays := by
    intro link made live
    by_cases old : stamp < before.shared.made.length
    · have here : before.shared.made[stamp]? = some link := by
        obtain ⟨extra, grown⟩ := step_made taken
        rw [← grown, List.getElem?_append_left old] at made
        exact made
      have earlier : link.isExpired before.shared.clock = false := by
        by_contra other
        have expired : link.isExpired before.shared.clock = true := by simpa using other
        have later := isExpired_mono (step_clock taken forward) expired
        rw [Link.isExpired, later] at live
        cases live
      obtain ⟨row, stored, rfl⟩ := kept.stays link here earlier
      obtain ⟨value, n, made', counted⟩ := kept.held.shared.stored _ row stored
      obtain rfl : link = value := Option.some.inj (here.symm.trans made')
      have alive : row.value.isExpired before.shared.clock = false := by
        rw [counted]
        exact earlier
      exact live_kept kept.held kept.timed careful taken stored alive spared
    · exact present_made taken (Nat.not_lt.mp old) made

end Step

theorem kept_run {settings : Settings} {calls : Nat → Call} {labels : List LinkLabel}
    {config : LinkCalls} {stamp : Nat}
    (careful : Throughout linkStores (fun caller => (calls caller).program settings)
      (fun config label => Forward config label ∧ ¬ PurgesOther calls config label)
      (.initial .empty) labels)
    (spared : Throughout linkStores (fun caller => (calls caller).program settings)
      (fun config label => ¬ ClientDeletes calls stamp config label) (.initial .empty) labels)
    (ran : runCalls settings calls labels = some config) : Kept calls stamp config := by
  refine run_induction (fun _ config => Kept calls stamp config) ?_ ?_ ran
  · refine ⟨.initial _ .empty, ?_, ?_⟩
    · intro caller thread now present
      cases present
    · intro link made
      cases made
  · intro history middle label next rest kept reached taken split later
    obtain ⟨forward, other⟩ := careful history label rest middle split reached
    exact kept.step forward other (spared history label rest middle split reached) taken

section Exact

variable {settings : Settings} {calls : Nat → Call} {config : LinkCalls} {label : LinkLabel}

/-- A row that is still stored has met no delete call. -/
theorem spared_while_present {history : List LinkLabel} {code : ShortCode} {stamp : Nat}
    (ran : runCalls settings calls history = some config) (present : Present config code stamp) :
    Throughout linkStores (fun caller => (calls caller).program settings)
      (fun config label => ¬ ClientDeletes calls stamp config label) (.initial .empty) history := by
  rintro earlier label rest before rfl reached ⟨caller, raw, code', memory, rfl, -, awaits,
    row, stored, rfl⟩
  obtain ⟨middle, same, later⟩ := run_append_some ran
  obtain rfl : before = middle := Option.some.inj (reached.symm.trans same)
  obtain ⟨after, taken, rest_ran⟩ := run_cons later
  have held := runCalls_held reached
  obtain ⟨value, n, made, -⟩ := held.shared.stored code' row stored
  have old : row.stamp < before.shared.made.length := (List.getElem?_eq_some_iff.mp made).1
  have still : Present after code row.stamp :=
    run_present_before rest_ran (Nat.lt_of_lt_of_le old (step_made taken).length_le) present
  obtain ⟨here, stored', stamped⟩ := present_before taken old still
  obtain ⟨rfl, rfl⟩ := held.shared.stamp_unique stored stored' stamped.symm
  obtain ⟨next, running⟩ := awaits
  have removed : after.shared.repo code' = none := by
    simp only [step, running, service, Environment.perform, stored, Option.map_some,
      Option.some.injEq] at taken
    rw [← taken]
    exact Function.update_self _ _ _
  obtain ⟨other, present', -⟩ := still
  rw [removed] at present'
  cases present'

/-- A careless purge leaves a link behind that is gone before its time. -/
theorem purge_breaks {history : List LinkLabel} {rest : List LinkLabel}
    (ran : runCalls settings calls history = some config)
    (careless : PurgesOther calls config label)
    (stay : ∀ labels, labels <+: history ++ label :: rest → LinksStay settings calls labels) :
    False := by
  obtain ⟨caller, code, memory, read, row, rfl, client, awaits, -, stored, -, live⟩ := careless
  have held := runCalls_held ran
  obtain ⟨link, n, made, counted⟩ := held.shared.stored code row stored
  have keyed : link.code = code := by
    rw [← held.shared.keyed code row stored, counted]
    rfl
  obtain ⟨next, running⟩ := awaits
  have taken : ∃ after, callStep settings calls config (.step caller .done) = some after ∧
      after.shared = config.shared.setRepo code none := by
    simp only [callStep, step, running, service, Environment.perform, stored, Option.map_some]
    exact ⟨_, rfl, rfl⟩
  obtain ⟨after, taken, shared⟩ := taken
  have early : history ++ [.step caller .done] <+: history ++ .step caller .done :: rest :=
    ⟨rest, by simp⟩
  have reached : runCalls settings calls (history ++ [.step caller .done]) = some after := by
    rw [runCalls, run, run_append]
    exact Option.bind_eq_some_iff.mpr ⟨config, ran, Option.bind_eq_some_iff.mpr
      ⟨after, taken, rfl⟩⟩
  have present := stay _ early after row.stamp link reached
    (by rw [shared]; exact made)
    (by rw [shared]; rw [counted] at live; exact live)
    ((spared_while_present ran ⟨row, stored, rfl⟩).snoc fun middle _ => by
      rintro ⟨other, raw, -, -, same, call, -⟩
      cases same
      exact client raw call)
  obtain ⟨other, here, -⟩ := present
  rw [shared, keyed, setRepo_repo, if_pos rfl] at here
  cases here

end Exact

/-- On a clock that does not go back, links stay to the end of every initial
part of a run exactly when each purge in it is careful. -/
theorem links_stay_iff (settings : Settings) (calls : Nat → Call) (labels : List LinkLabel)
    (forward : Throughout linkStores (fun caller => (calls caller).program settings) Forward
      (.initial .empty) labels) :
    (∀ history, history <+: labels → LinksStay settings calls history) ↔
      Throughout linkStores (fun caller => (calls caller).program settings)
        (fun config label => ¬ PurgesOther calls config label) (.initial .empty) labels := by
  constructor
  · intro stay history label rest middle split reached careless
    subst split
    exact purge_breaks reached careless stay
  · rintro careful history ⟨rest, rfl⟩ config stamp link ran made live spared
    have both : Throughout linkStores (fun caller => (calls caller).program settings)
        (fun config label => Forward config label ∧ ¬ PurgesOther calls config label)
        (.initial .empty) history := by
      intro earlier label later middle split reached
      exact ⟨forward.front earlier label later middle split reached,
        careful.front earlier label later middle split reached⟩
    exact (kept_run both spared ran).stays link made live

def raceCalls : Nat → Call
  | 0 => .create "https://example.com" (some "a") (some 1)
  | 1 => .resolve "a"
  | 2 => .resolve "a"
  | 3 => .create "https://example.org" (some "a") none
  | _ => .get ""

/-- Two readers find the first link expired; one of them purges it, and the
alias is taken again by a link without expiry. -/
def raceHistory : List LinkLabel :=
  [.start 0, .step 0 .done, .step 0 .done, .event (.clock 1),
    .start 1, .step 1 .done, .step 1 .done, .step 1 .done,
    .start 2, .step 2 .done, .step 2 .done, .step 2 .done, .step 2 .done, .step 2 .done,
    .start 3, .step 3 .done, .step 3 .done]

/-- The other reader then purges as well. -/
def raceLabels : List LinkLabel := raceHistory ++ [.step 1 .done]

def raceLink : Link := .withExpiry ⟨"a"⟩ ⟨"https://example.org"⟩ 1 none

theorem raceCalls_ends : (runCalls exampleSettings raceCalls raceLabels).map (fun config =>
    (config.result? 3, config.shared.made[1]?, config.shared.repo ⟨"a"⟩)) =
      some (some (.created (.ok raceLink), ⟨some ⟨raceLink, 1⟩, false, some 1⟩), some raceLink,
        none) := by
  decide +kernel

theorem raceCalls_forward :
    check linkStores (fun caller => (raceCalls caller).program exampleSettings)
    (fun config label => decide (Forward config label)) (.initial .empty) raceLabels = true := by
  decide +kernel

theorem purge_removes_live_link :
    (∃ config memory, runCalls exampleSettings raceCalls raceLabels = some config ∧
      config.Returned 3 (.created (.ok raceLink)) memory) ∧
    Throughout linkStores (fun caller => (raceCalls caller).program exampleSettings) Forward
      (.initial .empty) raceLabels ∧
    ¬ LinksStay exampleSettings raceCalls raceLabels := by
  obtain ⟨config, ran, facts⟩ := Option.map_eq_some_iff.mp raceCalls_ends
  simp only [Prod.mk.injEq] at facts
  obtain ⟨created, made, gone⟩ := facts
  refine ⟨⟨config, _, ran, returned_iff.mpr created⟩, ?_, fun stay => ?_⟩
  · intro history label rest middle split reached
    exact of_decide_eq_true
      (throughout_of_check raceCalls_forward history label rest middle split reached)
  · obtain ⟨row, stored, -⟩ := stay config 1 raceLink ran made rfl (by
      rintro _ label _ middle _ _ ⟨caller, raw, -, -, -, call, -⟩
      unfold raceCalls at call
      split at call <;> cases call)
    exact absurd (stored.symm.trans gone) nofun

/-- Only expired links are removed in this step. -/
def purgesExpired (config : LinkCalls) : LinkLabel → Bool
  | .step caller _ =>
      match config.op? caller with
      | some (.repoDelete code) =>
          (config.shared.repo code).all fun row => row.value.isExpired config.shared.clock
      | _ => true
  | _ => true

theorem purgesExpired_careful {config : LinkCalls} {label : LinkLabel}
    (test : purgesExpired config label = true) : ¬ PurgesOther raceCalls config label := by
  rintro ⟨caller, code, memory, read, row, rfl, -, awaits, -, stored, -, live⟩
  simp [purgesExpired, awaits.op?, stored, live] at test

theorem links_stay_before_second_purge :
    LinksStay exampleSettings raceCalls raceHistory := by
  have forward : check linkStores (fun caller => (raceCalls caller).program exampleSettings)
      (fun config label => decide (Forward config label)) (.initial .empty) raceHistory = true := by
    decide +kernel
  have careful : check linkStores (fun caller => (raceCalls caller).program exampleSettings)
      purgesExpired (.initial .empty) raceHistory = true := by
    decide +kernel
  refine (links_stay_iff exampleSettings raceCalls raceHistory ?_).mpr ?_ raceHistory
    List.prefix_rfl
  · intro history label rest middle split reached
    exact of_decide_eq_true (throughout_of_check forward history label rest middle split reached)
  · intro history label rest middle split reached
    exact purgesExpired_careful
      (throughout_of_check careful history label rest middle split reached)

end ActorServices.UrlShortener
