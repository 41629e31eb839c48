import ActorServices.BatcherConservation
import ActorServices.CreateCalls
import ActorServices.LinkRedis

set_option autoImplicit false

namespace ActorServices.UrlShortener

open ActorServices.Sequential

abbrev HitBatcher : Type := Batcher.State ShortCode

/-- A `LinkService` over its stores, and the batcher that its recorder sends to. -/
structure Counted (cache : Cache ShortCode) where
  world : LinkWorld cache
  batcher : HitBatcher

def Counted.start (cache : Cache ShortCode) : Counted cache := ⟨.start cache, .start⟩

/-- `BatchingHitRecorder::record`, on a recorder that is still there. -/
def sendHit (batcher : HitBatcher) (code : ShortCode) : HitBatcher :=
  (batcher.record code).getD batcher

def sendRecorded (batcher : HitBatcher) : Op ShortCode Link → HitBatcher
  | .record code => sendHit batcher code
  | _ => batcher

/-- One await of a call: a recorded hit goes to the batcher. -/
def hitHandle (draws : Nat → Nat → Fin 62) (cache : Cache ShortCode) (instant : Instant)
    (state : Counted cache) (op : Op ShortCode Link) : op.Reply × Counted cache :=
  let done := handle linkEntity .batching draws cache instant state.world op
  (done.1, ⟨done.2, sendRecorded state.batcher op⟩)

/-- The next call, or the next thing that the batcher or a flush call does. -/
inductive HitEvent
  | call (instant : Instant) (call : Call)
  | task (event : Batcher.Event ShortCode)
  deriving DecidableEq, Repr

section System

variable (settings : Settings) (draws : Nat → Nat → Fin 62) (cache : Cache ShortCode)
  (maxPending : Nat)

def callCounted (instant : Instant) (call : Call) (state : Counted cache) :
    Reply × Counted cache :=
  Proc.run (hitHandle draws cache instant) (call.program settings) state

/-- The `increment_hits_by` calls that the batcher issued beyond the first `count`. -/
def writeIssued (world : LinkWorld cache) (batcher : HitBatcher) (count : Nat) : LinkWorld cache :=
  (batcher.issued.drop count).foldl
    (fun world write => world.incrementBy linkEntity write.1 write.2) world

def taskStep (state : Counted cache) (event : Batcher.Event ShortCode) :
    Option (Counted cache) :=
  match event with
  | .record _ => none
  | event => (Batcher.step (Batcher.hitBatcher maxPending) state.batcher event).map fun batcher =>
      ⟨writeIssued cache state.world batcher state.batcher.issued.length, batcher⟩

/-- The service owns a sender, so no call comes after the last one is dropped. -/
def hitStep (state : Counted cache) : HitEvent → Option (Counted cache)
  | .call instant call =>
      if state.batcher.closed then none
      else some (callCounted settings draws cache instant call state).2
  | .task event => taskStep cache maxPending state event

/-- A resolve of the code returned the target: the link stored there earns it, if it is its own. -/
def credited (earned : ShortCode → Nat) (stored : Option Link) (code : ShortCode)
    (target : TargetUrl) : ShortCode → Nat :=
  match stored with
  | some link =>
      if link.target = target then Function.update earned code (earned code + 1) else earned
  | none => earned

/-- The resolves that returned `Ok` for the link of each code since it was created. -/
def noteEarned (earned : ShortCode → Nat) (state : Counted cache) (event : HitEvent) :
    ShortCode → Nat :=
  match event with
  | .task _ => earned
  | .call instant call =>
      match call, (callCounted settings draws cache instant call state).1 with
      | _, .created (.ok link) => Function.update earned link.code 0
      | .resolve raw, .resolved (.ok target) =>
          credited earned (state.world.repo ⟨raw⟩) ⟨raw⟩ target
      | _, _ => earned

def earnedHits (events : List HitEvent) : ShortCode → Nat :=
  Trace.account (hitStep settings draws cache maxPending)
    (fun earned state event _ => noteEarned settings draws cache earned state event)
    (.start cache) (fun _ => 0) events

end System

/-- The hits of a code that the batcher has accepted and not yet written. -/
def deferred (maxPending : Nat) (batcher : HitBatcher) (code : ShortCode) : Nat :=
  batcher.pendingOf (Batcher.hitBatcher maxPending) code + batcher.queuedOf code

/-- The await inserts under a free code that has hits on their way. -/
def inheritMeets {cache : Cache ShortCode} (maxPending : Nat) (state : Counted cache) :
    Op ShortCode Link → Prop
  | .repoInsert link => state.world.repo link.code = none ∧
      0 < deferred maxPending state.batcher link.code
  | _ => False

/-- The cache answers for a stored link, with another target than the link's. -/
def Misdirects {cache : Cache ShortCode} (instant : Instant) (state : Counted cache)
    (code : ShortCode) : Prop :=
  ∃ link text, state.world.repo code = some link ∧
    (cache.get state.world.cache instant.time code).1 = some text ∧ link.target.value ≠ text

/-- No link is added under a code that has hits on their way, and no resolve is answered with
the target of another link. -/
def Attributes (settings : Settings) (draws : Nat → Nat → Fin 62) (cache : Cache ShortCode)
    (maxPending : Nat) (state : Counted cache) : HitEvent → Prop
  | .call instant call =>
      ¬ (call.program settings).Meets (hitHandle draws cache instant)
          (inheritMeets maxPending) state ∧
        ∀ raw code, call = .resolve raw → ShortCode.parse raw = .ok code →
          ¬ Misdirects instant state code
  | .task _ => True

/-- No row is added or changed. -/
def Fewer (before after : ShortCode → Option Link) : Prop :=
  ∀ code link, after code = some link → before code = some link

theorem Fewer.refl (repo : ShortCode → Option Link) : Fewer repo repo :=
  fun _ _ stored => stored

theorem Fewer.trans {first second third : ShortCode → Option Link} (some : Fewer first second)
    (more : Fewer second third) : Fewer first third :=
  fun code link stored => some code link (more code link stored)

theorem Fewer.remove (repo : ShortCode → Option Link) (code : ShortCode) :
    Fewer repo (Function.update repo code none) := by
  intro other link stored
  by_cases same : other = code
  · rw [same, Function.update_self] at stored
    cases stored
  · rwa [Function.update_of_ne same] at stored

section Calls

variable {draws : Nat → Nat → Fin 62} {cache : Cache ShortCode} {instant : Instant}
  {maxPending : Nat}

/-- The awaits of `get` and `delete`. -/
def takes : Op ShortCode Link → Prop
  | .repoInsert _ => False
  | .record _ => False
  | _ => True

theorem run_takes (draws : Nat → Nat → Fin 62) (cache : Cache ShortCode) (instant : Instant)
    {α : Type} {program : Service α} (only : program.Only takes)
    (state : Counted cache) :
    let ended := Proc.run (hitHandle draws cache instant) program state
    ended.2.batcher = state.batcher ∧ Fewer state.world.repo ended.2.world.repo := by
  induction program generalizing state with
  | ret value => exact ⟨rfl, .refl _⟩
  | call op next ih =>
      have rest := ih (hitHandle draws cache instant state op).1 (only.2 _)
        (hitHandle draws cache instant state op).2
      have first : sendRecorded state.batcher op = state.batcher ∧ Fewer state.world.repo
          (handle linkEntity .batching draws cache instant state.world op).2.repo := by
        cases op with
        | repoInsert link => exact only.1.elim
        | record code => exact only.1.elim
        | repoTake code => exact ⟨rfl, .remove _ _⟩
        | repoDelete code => exact ⟨rfl, .remove _ _⟩
        | _ => exact ⟨rfl, .refl _⟩
      exact ⟨rest.1.trans first.1, first.2.trans rest.2⟩

theorem get_takes (raw : String) : (get raw).Only takes := by
  unfold get
  split
  · trivial
  · refine ⟨trivial, fun reply => ?_⟩
    rcases reply with err | found | link
    · trivial
    · trivial
    · refine ⟨trivial, fun (now : Int) => ?_⟩
      show Proc.Only takes (if link.isExpired now then _ else _)
      split
      · exact ⟨trivial, fun _ => trivial⟩
      · trivial

theorem delete_takes (raw : String) : (delete raw).Only takes := by
  unfold delete
  split
  · trivial
  · refine ⟨trivial, fun reply => ?_⟩
    rcases reply with err | removed
    · trivial
    · refine ⟨trivial, fun _ => ?_⟩
      cases removed <;> trivial

theorem run_fillCache (draws : Nat → Nat → Fin 62) (cache : Cache ShortCode) (instant : Instant)
    (code : ShortCode) (link : Link) (state : Counted cache) :
    let ended := Proc.run (hitHandle draws cache instant) (fillCache code link) state
    ended.2.world.repo = state.world.repo ∧ ended.2.batcher = state.batcher := by
  unfold fillCache UseCase.cacheTtlSecs
  cases link.expiresAt with
  | none => exact ⟨rfl, rfl⟩
  | some exp =>
      simp only [Proc.call_bind, Proc.ret_bind, Proc.pure_eq, Proc.run_call]
      split
      · exact ⟨rfl, rfl⟩
      · exact ⟨rfl, rfl⟩

/-- What a resolve of a code does: it returns `Ok` and sends one hit, or fails and sends none. -/
inductive Resolving (instant : Instant) (state after : Counted cache) (code : ShortCode) :
    Except ServiceError TargetUrl → Prop
  | cached (text : String)
      (answered : (cache.get state.world.cache instant.time code).1 = some text)
      (kept : after.world.repo = state.world.repo)
      (sent : after.batcher = sendHit state.batcher code) :
      Resolving instant state after code (.ok ⟨text⟩)
  | stored (link : Link) (present : state.world.repo code = some link)
      (kept : after.world.repo = state.world.repo)
      (sent : after.batcher = sendHit state.batcher code) :
      Resolving instant state after code (.ok link.target)
  | failed (err : ServiceError) (fewer : Fewer state.world.repo after.world.repo)
      (quiet : after.batcher = state.batcher) : Resolving instant state after code (.error err)

theorem resolveStored_resolving {start state : Counted cache} (code : ShortCode)
    (repo : state.world.repo = start.world.repo) (batcher : state.batcher = start.batcher) :
    let ended := Proc.run (hitHandle draws cache instant) (resolveStored code) state
    Resolving instant start ended.2 code ended.1 := by
  simp only [resolveStored, Proc.call_bind, Proc.ret_bind, Proc.run_call, hitHandle, handle,
    sendRecorded, repo, batcher]
  cases present : start.world.repo code with
  | none => exact .failed _ (.refl _) rfl
  | some link =>
      simp only [Proc.run_call, hitHandle, handle, sendRecorded]
      by_cases expired : link.isExpired instant.reading = true
      · simp only [expired, ↓reduceIte]
        exact .failed _ (.remove _ _) rfl
      · simp only [expired, Bool.false_eq_true, ↓reduceIte, Proc.run_bind]
        have filled := run_fillCache draws cache instant code link
        exact .stored link present (filled _).1 (congrArg (sendHit · code) (filled _).2)

theorem resolve_resolving (draws : Nat → Nat → Fin 62) (instant : Instant)
    (state : Counted cache) {raw : String} {code : ShortCode}
    (parsed : ShortCode.parse raw = .ok code) :
    let ended := Proc.run (hitHandle draws cache instant) (resolve raw) state
    Resolving instant state ended.2 code ended.1 := by
  simp only [resolve, parsed, Proc.call_bind, Proc.ret_bind, Proc.run_call, hitHandle, handle,
    sendRecorded]
  cases answered : (cache.get state.world.cache instant.time code).1 with
  | some text => exact .cached text answered rfl rfl
  | none => exact resolveStored_resolving code rfl rfl

/-- A call that creates and spares codes with hits on their way. -/
theorem run_creating_spared {α : Type} {fresh : Link → Prop} {made : Link → α} {failed : α → Prop}
    {program : Service α} (creating : Environment.Creating fresh made failed program)
    (state : Counted cache)
    (spared : ¬ program.Meets (hitHandle draws cache instant) (inheritMeets maxPending) state) :
    let ended := Proc.run (hitHandle draws cache instant) program state
    ended.2.batcher = state.batcher ∧ ((failed ended.1 ∧ ended.2.world.repo = state.world.repo) ∨
      ∃ link, fresh link ∧ ended.1 = made link ∧ deferred maxPending state.batcher link.code = 0 ∧
        ended.2.world.repo = Function.update state.world.repo link.code (some link)) := by
  induction program generalizing state with
  | ret value => exact ⟨rfl, .inl ⟨creating, rfl⟩⟩
  | call op next ih =>
      rw [Proc.meets_call, not_or] at spared
      cases op with
      | repoInsert link =>
          obtain ⟨new, returned, others⟩ := creating
          obtain ⟨clear, later⟩ := spared
          simp only [Proc.run_call, hitHandle, handle, sendRecorded, linkEntity] at later ⊢
          cases present : state.world.repo link.code with
          | none =>
              have settled : deferred maxPending state.batcher link.code = 0 := by
                have none_left := not_and.mp clear present
                omega
              rw [returned]
              exact ⟨rfl, .inr ⟨link, new, rfl, settled, rfl⟩⟩
          | some row =>
              rw [present] at later
              exact ih _ (others .conflict) state later
      | nowUnix => exact ih _ (creating _) state spared.2
      | random => exact ih _ (creating _) _ spared.2
      | _ => exact creating.elim

end Calls

/-- The hits of each link, with those on their way to it, are at most those that it earned. -/
structure Owed {cache : Cache ShortCode} (maxPending : Nat) (state : Counted cache)
    (earned : ShortCode → Nat) : Prop where
  balanced : Batcher.Balanced (Batcher.hitBatcher maxPending) state.batcher
  covered : ∀ code link, state.world.repo code = some link →
    link.hits + deferred maxPending state.batcher code ≤ earned code

section Owed

variable {settings : Settings} {draws : Nat → Nat → Fin 62} {cache : Cache ShortCode}
  {maxPending : Nat} {instant : Instant} {state after : Counted cache} {earned : ShortCode → Nat}

theorem Owed.fewer (owed : Owed maxPending state earned)
    (fewer : Fewer state.world.repo after.world.repo) (quiet : after.batcher = state.batcher) :
    Owed maxPending after earned where
  balanced := quiet ▸ owed.balanced
  covered code link stored := quiet ▸ owed.covered code link (fewer code link stored)

theorem deferred_sendHit (maxPending : Nat) (batcher : HitBatcher) (code other : ShortCode) :
    deferred maxPending (sendHit batcher code) other ≤
      deferred maxPending batcher other + if code = other then 1 else 0 := by
  unfold sendHit Batcher.State.record
  split
  · exact Nat.le_add_right _ _
  · split
    · simp only [Option.getD_some, deferred, Batcher.State.pendingOf, Batcher.State.queuedOf,
        List.count_append, List.count_singleton, beq_iff_eq, Batcher.Msg.hit.injEq]
      omega
    · exact Nat.le_add_right _ _

theorem balanced_sendHit {batcher : HitBatcher} (code : ShortCode)
    (balanced : Batcher.Balanced (Batcher.hitBatcher maxPending) batcher) :
    Batcher.Balanced (Batcher.hitBatcher maxPending) (sendHit batcher code) := by
  unfold sendHit
  cases taken : batcher.record code with
  | none => exact balanced
  | some next =>
      have step : Batcher.step (Batcher.hitBatcher maxPending) batcher (.record code) = some next :=
        taken
      exact balanced.step step

/-- A hit is sent to a code, whose link, if it has one, earns it. -/
theorem Owed.sent (owed : Owed maxPending state earned) {code : ShortCode}
    {more : ShortCode → Nat} (kept : after.world.repo = state.world.repo)
    (sent : after.batcher = sendHit state.batcher code)
    (others : ∀ other, earned other ≤ more other)
    (earns : ∀ link, state.world.repo code = some link → earned code + 1 ≤ more code) :
    Owed maxPending after more where
  balanced := sent ▸ balanced_sendHit code owed.balanced
  covered other link stored := by
    rw [kept] at stored
    have before := owed.covered other link stored
    have counted := deferred_sendHit maxPending state.batcher code other
    rw [← sent] at counted
    by_cases same : code = other
    · subst same
      have credit := earns link stored
      rw [if_pos rfl] at counted
      omega
    · have credit := others other
      rw [if_neg same] at counted
      omega

/-- A new link starts with nothing: no hits, none on their way, none earned. -/
theorem Owed.created (owed : Owed maxPending state earned) {link : Link} (fresh : link.Fresh)
    (settled : deferred maxPending state.batcher link.code = 0)
    (changed : after.world.repo = Function.update state.world.repo link.code (some link))
    (quiet : after.batcher = state.batcher) :
    Owed maxPending after (Function.update earned link.code 0) where
  balanced := quiet ▸ owed.balanced
  covered code other stored := by
    rw [changed] at stored
    rw [quiet]
    by_cases same : code = link.code
    · rw [same, Function.update_self] at stored
      have itself : link = other := Option.some.inj stored
      have unused : other.hits = 0 := itself ▸ fresh
      rw [same, Function.update_self, settled, unused]
      exact Int.le_refl 0
    · rw [Function.update_of_ne same] at stored
      rw [Function.update_of_ne same]
      exact owed.covered code other stored

theorem Owed.create (owed : Owed maxPending state earned) {call : Call} (creates : call.IsCreate)
    (spared : Attributes settings draws cache maxPending state (.call instant call)) :
    Owed maxPending (callCounted settings draws cache instant call state).2
      (noteEarned settings draws cache earned state (.call instant call)) := by
  have made := run_creating_spared (create_call_creating settings creates) state spared.1
  obtain ⟨quiet, outcome⟩ := made
  obtain ⟨url, requested, ttlSeconds, rfl⟩ := creates
  cases outcome with
  | inl failure =>
      obtain ⟨⟨err, failed⟩, kept⟩ := failure
      have same : noteEarned settings draws cache earned state
          (.call instant (.create url requested ttlSeconds)) = earned := by
        simp only [noteEarned, callCounted, failed]
      rw [same]
      exact owed.fewer (kept ▸ .refl _) quiet
  | inr success =>
      obtain ⟨link, fresh, returned, settled, changed⟩ := success
      have started : noteEarned settings draws cache earned state
          (.call instant (.create url requested ttlSeconds)) =
            Function.update earned link.code 0 := by
        simp only [noteEarned, callCounted, returned]
      rw [started]
      exact owed.created fresh settled changed quiet

theorem credited_grows (earned : ShortCode → Nat) (stored : Option Link) (code : ShortCode)
    (target : TargetUrl) (other : ShortCode) :
    earned other ≤ credited earned stored code target other := by
  unfold credited
  split
  · split
    · by_cases same : other = code
      · rw [same, Function.update_self]
        exact Nat.le_succ _
      · rw [Function.update_of_ne same]
    · exact Nat.le_refl _
  · exact Nat.le_refl _

theorem credited_own (earned : ShortCode → Nat) (link : Link) (code : ShortCode) :
    credited earned (some link) code link.target code = earned code + 1 := by
  simp only [credited, ↓reduceIte, Function.update_self]

theorem Owed.resolve (owed : Owed maxPending state earned) {raw : String}
    (spared : Attributes settings draws cache maxPending state (.call instant (.resolve raw))) :
    Owed maxPending (callCounted settings draws cache instant (.resolve raw) state).2
      (noteEarned settings draws cache earned state (.call instant (.resolve raw))) := by
  simp only [noteEarned, callCounted, Call.program, Proc.run_map]
  cases parsed : ShortCode.parse raw with
  | error err =>
      simp only [UrlShortener.resolve, parsed]
      exact owed
  | ok code =>
      have named : code = ⟨raw⟩ := parse_code parsed
      have direct := spared.2 raw code rfl parsed
      have resolving := resolve_resolving draws instant state parsed
      subst named
      revert resolving
      generalize Proc.run (hitHandle draws cache instant) (UrlShortener.resolve raw) state = ended
      intro resolving
      obtain ⟨result, after⟩ := ended
      cases resolving with
      | cached text answered kept sent =>
          apply owed.sent kept sent (credited_grows _ _ _ _)
          intro link stored
          have own : link.target = ⟨text⟩ := by
            by_contra other
            have apart : link.target.value ≠ text := fun same => other (congrArg TargetUrl.mk same)
            exact direct ⟨link, text, stored, answered, apart⟩
          rw [stored, ← own, credited_own]
      | stored link present kept sent =>
          apply owed.sent kept sent (credited_grows _ _ _ _)
          intro other stored
          rw [present, credited_own]
      | failed err fewer quiet => exact owed.fewer fewer quiet

/-- One call that attributes its hits. -/
theorem Owed.call (owed : Owed maxPending state earned) (call : Call)
    (spared : Attributes settings draws cache maxPending state (.call instant call)) :
    Owed maxPending (callCounted settings draws cache instant call state).2
      (noteEarned settings draws cache earned state (.call instant call)) := by
  cases call with
  | create url requested ttlSeconds => exact owed.create ⟨url, requested, ttlSeconds, rfl⟩ spared
  | resolve raw => exact owed.resolve spared
  | get raw =>
      have taken := run_takes draws cache instant (get_takes raw) state
      simp only [noteEarned, callCounted, Call.program, Proc.run_map]
      exact owed.fewer taken.2 taken.1
  | delete raw =>
      have taken := run_takes draws cache instant (delete_takes raw) state
      simp only [noteEarned, callCounted, Call.program, Proc.run_map]
      exact owed.fewer taken.2 taken.1

theorem deferred_account {batcher : HitBatcher} (code : ShortCode)
    (balanced : Batcher.Balanced (Batcher.hitBatcher maxPending) batcher) :
    batcher.issuedTo code + deferred maxPending batcher code = batcher.acceptedOf code := by
  have conserved := balanced.conserved code
  unfold deferred
  omega

theorem incrementBy_stored {world : LinkWorld cache} {target code : ShortCode} {n : Nat}
    {link : Link} (stored : (world.incrementBy linkEntity target n).repo code = some link) :
    ∃ old, world.repo code = some old ∧ link.hits = old.hits + if target = code then n else 0 := by
  simp only [World.incrementBy, World.setRepo] at stored
  by_cases same : target = code
  · subst same
    rw [Function.update_self, Option.map_eq_some_iff] at stored
    obtain ⟨old, present, bumped⟩ := stored
    have counted : link.hits = old.hits + n := by
      rw [← bumped]
      rfl
    rw [if_pos rfl]
    exact ⟨old, present, counted⟩
  · rw [Function.update_of_ne (Ne.symm same)] at stored
    rw [if_neg same]
    exact ⟨link, stored, (Int.add_zero _).symm⟩

/-- A step adds to the hits of a link what it issues for the code. -/
theorem writeIssued_stored {batcher : HitBatcher} {event : Batcher.Event ShortCode}
    {code : ShortCode} {link : Link}
    (stepped : Batcher.step (Batcher.hitBatcher maxPending) state.batcher event = some batcher)
    (stored : (writeIssued cache state.world batcher state.batcher.issued.length).repo code =
      some link) :
    ∃ old, state.world.repo code = some old ∧
      link.hits + state.batcher.issuedTo code = old.hits + batcher.issuedTo code := by
  cases Batcher.step_issued stepped with
  | inl none =>
      rw [writeIssued, none, List.drop_length] at stored
      have written : batcher.issuedTo code = state.batcher.issuedTo code := by
        rw [Batcher.State.issuedTo, none, Batcher.State.issuedTo]
      exact ⟨link, stored, by rw [written]⟩
  | inr one =>
      obtain ⟨target, n, issued⟩ := one
      rw [writeIssued, issued, List.drop_left] at stored
      obtain ⟨old, present, counted⟩ := incrementBy_stored stored
      have written : batcher.issuedTo code =
          state.batcher.issuedTo code + if target = code then n else 0 := by
        simp only [Batcher.State.issuedTo, issued, List.map_append, List.sum_append, List.map_cons,
          List.map_nil, List.sum_cons, List.sum_nil, Nat.add_zero]
      refine ⟨old, present, ?_⟩
      rw [counted, written]
      push_cast
      omega

/-- The task hands a count on, or writes it to the link that has the code by then. -/
theorem Owed.task (owed : Owed maxPending state earned) {event : Batcher.Event ShortCode}
    (taken : taskStep cache maxPending state event = some after) :
    Owed maxPending after earned := by
  have moved : (∀ code, event ≠ .record code) ∧
      (Batcher.step (Batcher.hitBatcher maxPending) state.batcher event).map (fun batcher =>
        ⟨writeIssued cache state.world batcher state.batcher.issued.length, batcher⟩) =
          some after := by
    cases event with
    | record code => cases taken
    | _ => exact ⟨nofun, taken⟩
  obtain ⟨silent, moved⟩ := moved
  obtain ⟨batcher, stepped, same⟩ := Option.map_eq_some_iff.mp moved
  subst same
  have balanced := owed.balanced.step stepped
  refine ⟨balanced, ?_⟩
  intro code link stored
  have accepted : batcher.acceptedOf code = state.batcher.acceptedOf code := by
    rw [Batcher.State.acceptedOf, Batcher.step_accepted silent stepped, Batcher.State.acceptedOf]
  have before := deferred_account code owed.balanced
  have later := deferred_account code balanced
  obtain ⟨old, present, counted⟩ := writeIssued_stored stepped stored
  have covered := owed.covered code old present
  dsimp only
  omega

theorem Owed.start : Owed maxPending (.start cache) fun _ => 0 where
  balanced := .start
  covered _ _ stored := nomatch stored

theorem Owed.step {event : HitEvent} (owed : Owed maxPending state earned)
    (spared : Attributes settings draws cache maxPending state event)
    (taken : hitStep settings draws cache maxPending state event = some after) :
    Owed maxPending after (noteEarned settings draws cache earned state event) := by
  cases event with
  | task event => exact owed.task taken
  | call instant call =>
      rw [hitStep] at taken
      split at taken
      · cases taken
      · cases taken
        exact owed.call call spared

end Owed

/-- In every run whose steps all attribute their hits, no link has more hits than it earned. -/
theorem hits_earned (settings : Settings) (draws : Nat → Nat → Fin 62) (cache : Cache ShortCode)
    (maxPending : Nat) {events : List HitEvent} {state : Counted cache}
    (attributed : Trace.Throughout (hitStep settings draws cache maxPending)
      (Attributes settings draws cache maxPending) (.start cache) events)
    (ran : Trace.run (hitStep settings draws cache maxPending) (.start cache) events =
      some state) :
    ∀ code link, state.world.repo code = some link →
      link.hits ≤ earnedHits settings draws cache maxPending events code := by
  have owed : Owed maxPending state (earnedHits settings draws cache maxPending events) :=
    Trace.account_invariant (Owed maxPending)
      (fun _ _ _ _ before spared taken => before.step spared taken) .start attributed ran
  intro code link stored
  have covered := owed.covered code link stored
  omega

/-- An alias that is deleted and used again while a hit of it is on its way. -/
def reusedAlias : List HitEvent :=
  [.call ⟨0, 0⟩ (.create "https://example.com" (some "a") none), .call ⟨1, 0⟩ (.resolve "a"),
    .call ⟨2, 0⟩ (.delete "a"), .call ⟨3, 0⟩ (.create "https://example.org" (some "a") none),
    .task .recv, .task .tick, .task (.issue "a")]

theorem reusedAlias_hits :
    ((Trace.run (hitStep exampleSettings (fun _ _ => 0) (noOpCache ShortCode) 1024)
      (.start _) reusedAlias).map fun state => (state.world.repo ⟨"a"⟩).map Link.hits) =
        some (some 1) ∧
      earnedHits exampleSettings (fun _ _ => 0) (noOpCache ShortCode) 1024 reusedAlias ⟨"a"⟩ =
        0 := by
  decide +kernel

/-- A link that was never followed can have hits. -/
theorem reusedAlias_overcounted :
    ¬ ∀ settings draws cache maxPending events state,
      Trace.run (hitStep settings draws cache maxPending) (.start cache) events = some state →
      ∀ code link, state.world.repo code = some link →
        link.hits ≤ earnedHits settings draws cache maxPending events code := by
  intro bounded
  obtain ⟨hits, earned⟩ := reusedAlias_hits
  obtain ⟨state, ran, found⟩ := Option.map_eq_some_iff.mp hits
  obtain ⟨link, stored, one⟩ := Option.map_eq_some_iff.mp found
  have most := bounded _ _ _ _ _ state ran ⟨"a"⟩ link stored
  rw [one, earned] at most
  exact absurd most (by decide)

instance decidableInherit {cache : Cache ShortCode} (maxPending : Nat) (state : Counted cache) :
    (op : Op ShortCode Link) → Decidable (inheritMeets maxPending state op)
  | .repoInsert link => inferInstanceAs (Decidable
      (state.world.repo link.code = none ∧ 0 < deferred maxPending state.batcher link.code))
  | .cacheGet _ | .cacheSet _ _ _ | .cacheDelete _ | .repoGet _ | .repoTake _ | .repoDelete _
  | .record _ | .nowUnix | .random => .isFalse id

/-- `Attributes` without a cache. -/
def attributes? (settings : Settings) (draws : Nat → Nat → Fin 62) (maxPending : Nat)
    (state : Counted (noOpCache ShortCode)) : HitEvent → Bool
  | .call instant call => !decide ((call.program settings).Meets
      (hitHandle draws (noOpCache ShortCode) instant) (inheritMeets maxPending) state)
  | .task _ => true

theorem attributes?_iff {settings : Settings} {draws : Nat → Nat → Fin 62} {maxPending : Nat}
    {state : Counted (noOpCache ShortCode)} {event : HitEvent} :
    attributes? settings draws maxPending state event = true ↔
      Attributes settings draws (noOpCache ShortCode) maxPending state event := by
  cases event with
  | task event => exact ⟨fun _ => trivial, fun _ => rfl⟩
  | call instant call =>
      have missed : ∀ code, ¬ Misdirects instant state code := by
        intro code misdirects
        obtain ⟨link, text, _, answered, _⟩ := misdirects
        cases answered
      simp only [attributes?, Attributes, Bool.not_eq_true', decide_eq_false_iff_not]
      exact ⟨fun spared => ⟨spared, fun _ code _ _ => missed code⟩, And.left⟩

/-- The same, with the hit written before the alias is used again. -/
def flushedAlias : List HitEvent :=
  [.call ⟨0, 0⟩ (.create "https://example.com" (some "a") none), .call ⟨1, 0⟩ (.resolve "a"),
    .task .recv, .task .tick, .task (.issue "a"), .task .finish, .call ⟨2, 0⟩ (.delete "a"),
    .call ⟨3, 0⟩ (.create "https://example.org" (some "a") none), .call ⟨4, 0⟩ (.resolve "a"),
    .task .recv, .task .tick, .task (.issue "a")]

theorem hits_earned_flushed :
    ∃ state, Trace.run (hitStep exampleSettings (fun _ _ => 0) (noOpCache ShortCode) 1024)
        (.start _) flushedAlias = some state ∧
      (state.world.repo ⟨"a"⟩).map Link.hits = some 1 ∧
      ∀ code link, state.world.repo code = some link → link.hits ≤
        earnedHits exampleSettings (fun _ _ => 0) (noOpCache ShortCode) 1024 flushedAlias code := by
  have ended : ((Trace.run (hitStep exampleSettings (fun _ _ => 0) (noOpCache ShortCode) 1024)
      (.start _) flushedAlias).map fun state => (state.world.repo ⟨"a"⟩).map Link.hits) =
        some (some 1) := by
    decide +kernel
  obtain ⟨state, ran, hits⟩ := Option.map_eq_some_iff.mp ended
  have checked : Trace.check (hitStep exampleSettings (fun _ _ => 0) (noOpCache ShortCode) 1024)
      (attributes? exampleSettings (fun _ _ => 0) 1024) (.start _) flushedAlias = true := by
    decide +kernel
  have attributed : Trace.Throughout
      (hitStep exampleSettings (fun _ _ => 0) (noOpCache ShortCode) 1024)
      (Attributes exampleSettings (fun _ _ => 0) (noOpCache ShortCode) 1024) (.start _)
      flushedAlias := by
    intro history label rest middle split reached
    exact attributes?_iff.mp
      (Trace.throughout_of_check checked history label rest middle split reached)
  exact ⟨state, ran, hits, hits_earned exampleSettings (fun _ _ => 0) (noOpCache ShortCode) 1024
    attributed ran⟩

end ActorServices.UrlShortener
