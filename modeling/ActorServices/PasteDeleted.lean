import ActorServices.PasteServing
import ActorServices.ServiceRows

set_option autoImplicit false

namespace ActorServices.Pastebin

open Interleave Environment

/-- The delete call has returned `Ok` after removing the row stamped so. -/
def Deleted (config : PasteCalls) (caller stamp : Nat) : Prop :=
  ∃ memory row, config.Returned caller (.deleted (.ok ())) memory ∧
    memory.held = some row ∧ row.stamp = stamp

/-- A fetch writes a paste to the cache whose delete call has returned. -/
def FillsLate (config : PasteCalls) (label : PasteLabel) : Prop :=
  ∃ caller key value ttl memory row deleter, label = .step caller .done ∧
    config.Awaits caller (.cacheSet key value ttl) memory ∧ memory.held = some row ∧
    Deleted config deleter row.stamp

/-- Once a delete call for a paste has returned `Ok`, no fetch call that starts
afterwards returns that paste. -/
def DeletedStaysGone (codec : JsonCodec) (calls : Nat → Call) (labels : List PasteLabel) : Prop :=
  ∀ history reader rest middle config deleter stamp,
    labels = history ++ .start reader :: rest → runCalls codec calls history = some middle →
    Deleted middle deleter stamp → runCalls codec calls labels = some config →
    ¬ Serves config reader stamp

theorem createLoop_invalidates (content : Content) (syntaxHint : Option String) (createdAt : Int)
    (expiresAt : Option Int) (oneShot : Bool) (attempts : Nat) :
    (createLoop content syntaxHint createdAt expiresAt oneShot attempts).Follows invalidates := by
  induction attempts with
  | zero => trivial
  | succ attempts ih =>
      refine fun draw => ⟨not_invalidates rfl, ?_⟩
      rintro (⟨_ | cause⟩ | ⟨⟩)
      · exact ⟨not_invalidates rfl, ih⟩
      · exact ⟨not_invalidates rfl, trivial⟩
      · exact ⟨not_invalidates rfl, trivial⟩

theorem fetchCached_invalidates (codec : JsonCodec) (id : PasteId) :
    (fetchCached codec id).Follows invalidates := by
  simp only [fetchCached, Proc.call_bind, Proc.ret_bind, Proc.pure_eq]
  rintro (_ | json)
  · exact ⟨not_invalidates rfl, trivial⟩
  · refine ⟨not_invalidates rfl, ?_⟩
    dsimp only
    split
    · trivial
    · refine fun now => ⟨not_invalidates rfl, ?_⟩
      beta_reduce
      split
      · exact fun _ => ⟨not_invalidates rfl, trivial⟩
      · exact fun _ => ⟨not_invalidates rfl, trivial⟩

theorem fillCache_invalidates (codec : JsonCodec) (id : PasteId) (paste : Paste) :
    (fillCache codec id paste).Follows invalidates := by
  unfold fillCache
  refine Proc.follows_bind (UseCase.cacheTtlSecs_invalidates _) fun ttl => ?_
  split
  · split
    · exact fun _ => ⟨not_invalidates rfl, trivial⟩
    · trivial
  · trivial

theorem fetchStored_invalidates (codec : JsonCodec) (id : PasteId) :
    (fetchStored codec id).Follows invalidates := by
  simp only [fetchStored, Proc.call_bind, Proc.ret_bind, Proc.pure_eq]
  rintro (err | _ | paste)
  · exact ⟨not_invalidates rfl, trivial⟩
  · exact ⟨not_invalidates rfl, trivial⟩
  · refine ⟨not_invalidates rfl, fun now => ⟨not_invalidates rfl, ?_⟩⟩
    beta_reduce
    split
    · intro removed
      refine ⟨?_, fun _ => ⟨not_invalidates rfl, trivial⟩⟩
      intro required demanded
      cases removed <;> cases demanded
      exact ⟨_, rfl⟩
    · split
      · rintro (err | _ | taken) <;> exact ⟨not_invalidates rfl, trivial⟩
      · exact Proc.follows_bind (fillCache_invalidates codec id paste)
          fun _ _ => ⟨not_invalidates rfl, trivial⟩

theorem delete_invalidates (raw : String) : (delete raw).Follows invalidates := by
  unfold delete
  split
  · trivial
  · rintro (err | removed)
    · exact ⟨not_invalidates rfl, trivial⟩
    · refine ⟨?_, fun _ => ⟨not_invalidates rfl, ?_⟩⟩
      · rintro required ⟨⟩
        exact ⟨_, rfl⟩
      · cases removed <;> trivial

theorem program_invalidates (codec : JsonCodec) (call : Call) :
    (call.program codec).Follows invalidates := by
  cases call with
  | create content syntaxHint ttlSeconds oneShot =>
      refine Proc.follows_bind ?_ fun _ => trivial
      unfold create
      split
      · trivial
      · exact fun now => ⟨not_invalidates rfl, createLoop_invalidates _ _ _ _ _ _⟩
  | fetch raw =>
      refine Proc.follows_bind ?_ fun _ => trivial
      unfold fetch
      split
      · trivial
      · refine Proc.follows_bind (fetchCached_invalidates codec _) ?_
        rintro (_ | paste)
        · exact fetchStored_invalidates codec _
        · trivial
  | delete raw => exact Proc.follows_bind (delete_invalidates raw) fun _ => trivial

/-- No cache entry was computed from a row whose delete call has returned. -/
def Clean (config : PasteCalls) : Prop :=
  ∀ deleter stamp key entry row, Deleted config deleter stamp →
    config.shared.cache key = some entry → entry.origin = some row → row.stamp ≠ stamp

/-- The invariant of runs without late fills. -/
structure Purged (codec : JsonCodec) (calls : Nat → Call) (config : PasteCalls) : Prop where
  held : Held codec calls config
  follows : ∀ caller thread, config.threads caller = some thread →
    thread.program.Follows invalidates
  clean : Clean config

section Step

variable {codec : JsonCodec} {calls : Nat → Call} {before after : PasteCalls}
  {deleter stamp : Nat} {label : PasteLabel}

theorem Deleted.stays (deleted : Deleted before deleter stamp)
    (taken : callStep codec calls before label = some after) : Deleted after deleter stamp := by
  obtain ⟨memory, row, returned, holds, same⟩ := deleted
  exact ⟨memory, row, step_returned taken returned, holds, same⟩

/-- A delete call that has just returned did so from its last await. -/
theorem Deleted.origin (deleted : Deleted after deleter stamp)
    (taken : callStep codec calls before label = some after) :
    Deleted before deleter stamp ∨
      ∃ choice op next memory reply remembered, label = .step deleter choice ∧
        before.threads deleter = some ⟨.call op next, memory⟩ ∧
        perform pasteEntity before.shared memory op choice =
          some (reply, remembered, after.shared) ∧
        next reply = .ret (.deleted (.ok ())) := by
  obtain ⟨memory, row, returned, holds, same⟩ := deleted
  obtain ⟨caller, -, -, rfl⟩ | ⟨caller, choice, op, next, memory', reply, remembered, shared, rfl,
    running, performed, rfl⟩ | ⟨event, shared, -, -, rfl⟩ := step_cases taken
  · obtain ⟨-, fresh⟩ | ⟨-, present⟩ := put_cases returned
    · obtain rfl : memory = Memory.none := congrArg Thread.memory fresh
      cases holds
    · exact Or.inl ⟨memory, row, present, holds, same⟩
  · obtain ⟨rfl, moved⟩ | ⟨-, present⟩ := put_cases returned
    · exact Or.inr ⟨choice, op, next, memory', reply, remembered, rfl, running, performed,
        (congrArg Thread.program moved).symm⟩
    · exact Or.inl ⟨memory, row, present, holds, same⟩
  · exact Or.inl ⟨memory, row, returned, holds, same⟩

theorem Deleted.owns (deleted : Deleted before deleter stamp) (held : Held codec calls before) :
    ∃ row raw, Owns before deleter row ∧ row.stamp = stamp ∧ calls deleter = .delete raw ∧
      PasteId.parse raw = .ok row.value.id := by
  obtain ⟨memory, row, returned, holds, same⟩ := deleted
  have knows := held.sound.returned returned
  cases call : calls deleter with
  | create _ _ _ _ => rw [call] at knows; exact knows.elim
  | fetch _ => rw [call] at knows; exact knows.elim
  | delete raw =>
      rw [call] at knows
      obtain ⟨row', holds', parsed, owned⟩ := knows
      obtain rfl : row = row' := Option.some.inj (holds.symm.trans holds')
      exact ⟨row, raw, ⟨_, returned, holds, owned⟩, same, rfl, parsed⟩

/-- The last await of a delete call empties the cache under its id. -/
theorem Purged.invalidated (purged : Purged codec calls before) (succeeds : Succeeds label)
    (taken : callStep codec calls before label = some after)
    (fresh : ¬ Deleted before deleter stamp) (deleted : Deleted after deleter stamp) :
    ∃ row, Owns after deleter row ∧ row.stamp = stamp ∧
      after.shared.cache row.value.id = none := by
  obtain old | ⟨choice, op, next, memory, reply, remembered, rfl, running, performed, returns⟩ :=
    deleted.origin taken
  · exact absurd old fresh
  obtain ⟨row, raw, owns, same, call, parsed⟩ := deleted.owns (purged.held.step taken)
  have asks := (purged.held.sound.awaits ⟨next, running⟩).2
  rw [call] at asks
  obtain ⟨id, own, asked⟩ := asks
  obtain rfl : id = row.value.id := Except.ok.inj (own.symm.trans parsed)
  refine ⟨row, owns, same, ?_⟩
  have follows := (purged.follows deleter _ running reply).1
  have continues : ∀ required, invalidates op reply ≠ some required := by
    intro required demanded
    obtain ⟨rest, awaits⟩ := follows required demanded
    rw [returns] at awaits
    cases awaits
  have cases_ := perform_cases performed
  generalize after.shared = shared at cases_ ⊢
  cases cases_
  case unset key =>
    obtain rfl := asked
    rw [setCache_cache, if_pos rfl]
  case unsetLost key lost => rw [lost] at succeeds; exact succeeds.elim
  case deleted key row done found => exact absurd rfl (continues (.cacheDelete key))
  case deletedNone key absent => exact absurd rfl (continues (.cacheDelete key))
  case deleteFailed key cause failed => rw [failed] at succeeds; exact succeeds.elim
  all_goals exact asked.elim

theorem Purged.step (purged : Purged codec calls before) (succeeds : Succeeds label)
    (timely : ¬ FillsLate before label)
    (taken : callStep codec calls before label = some after) : Purged codec calls after where
  held := purged.held.step taken
  follows caller := step_follows taken (program_invalidates codec (calls caller))
    (purged.follows caller)
  clean := by
    intro deleter stamp key entry row deleted present source same
    by_cases old : Deleted before deleter stamp
    · obtain present | ⟨caller, value, ttl, memory, done, awaits, rfl⟩ :=
        cached_before taken present
      · exact purged.clean deleter stamp key entry row old present source same
      · exact timely ⟨caller, key, value, ttl, memory, row, deleter, done, awaits, source,
          same ▸ old⟩
    · obtain ⟨removed, owns, rfl, absent⟩ := purged.invalidated succeeds taken old deleted
      have sound := (purged.held.step taken).sound
      obtain ⟨thread, here, holds, -⟩ := owns
      obtain ⟨row', source', origin, keyed, -⟩ := sound.shared.cached key entry present
      obtain rfl : row = row' := Option.some.inj (source.symm.trans source')
      have keys := origin.key_eq (sound.memory deleter thread here removed holds) same
      rw [← keyed, keys] at present
      cases present.symm.trans absent

/-- The call has not been handed the row stamped so. -/
def Avoids (reader stamp : Nat) (config : PasteCalls) : Prop :=
  ∀ thread row, config.threads reader = some thread → thread.memory.held = some row →
    row.stamp ≠ stamp

theorem Avoids.step {reader : Nat} (avoids : Avoids reader stamp before)
    (purged : Purged codec calls before) (deleted : Deleted before deleter stamp)
    (taken : callStep codec calls before label = some after) : Avoids reader stamp after := by
  obtain ⟨removed, -, owns, rfl, -⟩ := deleted.owns purged.held
  have absent : ∀ key row, before.shared.repo key = some row → row.stamp ≠ removed.stamp :=
    fun key row found => purged.held.exclusive.absent deleter removed key row owns found
  intro thread row present holds
  obtain ⟨caller, -, -, rfl⟩ | ⟨caller, choice, op, next, memory, reply, remembered, shared, rfl,
    running, performed, rfl⟩ | ⟨event, shared, -, happened, rfl⟩ := step_cases taken
  · obtain ⟨-, rfl⟩ | ⟨-, present⟩ := put_cases present
    · cases holds
    · exact avoids thread row present holds
  · obtain ⟨rfl, rfl⟩ | ⟨-, present⟩ := put_cases present
    · cases perform_cases performed
      case hit key entry done found =>
        exact purged.clean deleter removed.stamp key entry row deleted found holds
      case got key other found =>
        cases holds
        exact absent key row found
      case took key other found =>
        cases holds
        exact absent key row found
      case deleted key other done found =>
        cases holds
        exact absent key row found
      case inserted value free =>
        cases holds
        obtain ⟨owner, here, kept, -⟩ := owns
        obtain ⟨made, n, at_, -⟩ := purged.held.sound.memory deleter owner here removed kept
        exact Nat.ne_of_gt (List.getElem?_eq_some_iff.mp at_).1
      all_goals exact avoids _ row running holds
    · exact avoids thread row present holds
  · exact avoids thread row present holds

end Step

section Run

variable {codec : JsonCodec} {calls : Nat → Call} {labels : List PasteLabel}

theorem runCalls_purged {config : PasteCalls}
    (timely : Throughout pasteStores (fun caller => (calls caller).program codec)
      (fun config label => Succeeds label ∧ ¬ FillsLate config label) (.initial .empty) labels)
    (ran : runCalls codec calls labels = some config) : Purged codec calls config := by
  refine run_invariant _
    (fun _ _ _ purged holds taken => purged.step holds.1 holds.2 taken) ⟨.initial, ?_, ?_⟩ timely
    ran
  · intro caller thread present
    cases present
  · intro deleter stamp key entry row _ present
    cases present

end Run

/-- In every run of successful steps in which no fetch fills the cache with a
paste whose delete call has returned, a deleted paste is not served again. -/
theorem deleted_stays_gone (codec : JsonCodec) (calls : Nat → Call) (labels : List PasteLabel)
    (timely : Throughout pasteStores (fun caller => (calls caller).program codec)
      (fun config label => Succeeds label ∧ ¬ FillsLate config label) (.initial .empty) labels) :
    DeletedStaysGone codec calls labels := by
  rintro history reader rest middle config deleter stamp rfl reached deleted ran
  have purged := runCalls_purged timely.front reached
  obtain ⟨other, same, later⟩ := run_append_some ran
  obtain rfl : middle = other := Option.some.inj (reached.symm.trans same)
  obtain ⟨begun, taken, -⟩ := run_cons later
  have idle := (step_start taken).1
  have avoids : Avoids reader stamp middle := by
    intro thread row present
    rw [idle] at present
    cases present
  obtain ⟨-, -, avoids⟩ := run_invariant
    (fun config => Purged codec calls config ∧ Deleted config deleter stamp ∧
      Avoids reader stamp config)
    (fun _ _ _ held holds taken => ⟨held.1.step holds.1 holds.2 taken, held.2.1.stays taken,
      held.2.2.step held.1 held.2.1 taken⟩)
    ⟨purged, deleted, avoids⟩ (timely.back reached) later
  rintro ⟨paste, memory, row, returned, holds, same⟩
  exact avoids _ row returned holds same

def textPaste : Paste := .new ⟨"AAAAAAAA"⟩ ⟨"hello"⟩ none 0 none false

def lateCodec : JsonCodec := .single (.fromPaste textPaste)
  "\x7b\"id\":\"AAAAAAAA\",\"content\":\"hello\",\"syntax\":null,\"created_at\":0,\"expires_at\":null,\"one_shot\":false,\"views\":0\x7d"

def lateCalls : Nat → Call
  | 0 => .create "hello" none none false
  | 1 => .fetch "AAAAAAAA"
  | 2 => .delete "AAAAAAAA"
  | _ => .fetch "AAAAAAAA"

/-- The first fetch reads the repository, the delete call runs to its end, and
only then does the first fetch fill the cache, just before the second starts. -/
def lateHistory : List PasteLabel :=
  [.start 0, .step 0 .done, .step 0 (.drew fun _ => 0), .step 0 .done,
    .start 1, .step 1 .done, .step 1 .done, .step 1 .done,
    .start 2, .step 2 .done, .step 2 .done, .step 1 .done]

def lateRest : List PasteLabel := [.step 3 .done, .step 3 .done, .step 3 .done]

theorem lateCalls_deleted : (runCalls lateCodec lateCalls lateHistory).map
    (fun config => config.result? 2) =
      some (some (.deleted (.ok ()), ⟨some ⟨textPaste, 0⟩, true, none⟩)) := by
  decide +kernel

theorem lateCalls_served : (runCalls lateCodec lateCalls (lateHistory ++ .start 3 :: lateRest)).map
    (fun config => config.result? 3) =
      some (some (.fetched (.ok textPaste), ⟨some ⟨textPaste, 0⟩, false, some 0⟩)) := by
  decide +kernel

theorem deleted_served_again :
    (∀ label ∈ lateHistory ++ .start 3 :: lateRest, Succeeds label) ∧
    ¬ DeletedStaysGone lateCodec lateCalls (lateHistory ++ .start 3 :: lateRest) := by
  refine ⟨by simp [lateHistory, lateRest, Succeeds], fun gone => ?_⟩
  obtain ⟨middle, reached, deleted⟩ := Option.map_eq_some_iff.mp lateCalls_deleted
  obtain ⟨config, ran, served⟩ := Option.map_eq_some_iff.mp lateCalls_served
  exact gone lateHistory 3 lateRest middle config 2 0 rfl reached
    ⟨_, _, returned_iff.mpr deleted, rfl, rfl⟩ ran ⟨_, _, _, returned_iff.mpr served, rfl, rfl⟩

/-- The same calls with the cache filled before the delete call starts. -/
def timelyLabels : List PasteLabel :=
  [.start 0, .step 0 .done, .step 0 (.drew fun _ => 0), .step 0 .done,
    .start 1, .step 1 .done, .step 1 .done, .step 1 .done, .step 1 .done,
    .start 2, .step 2 .done, .step 2 .done, .start 3, .step 3 .done, .step 3 .done]

/-- No cache fill once the delete call has returned. -/
def timely (config : PasteCalls) : PasteLabel → Bool
  | .step caller _ =>
      match config.op? caller with
      | some (.cacheSet _ _ _) => (config.result? 2).isNone
      | _ => true
  | _ => true

theorem timely_fills {config : PasteCalls} {label : PasteLabel}
    (test : timely config label = true) (deletes : ∀ deleter stamp,
      Deleted config deleter stamp → deleter = 2) : ¬ FillsLate config label := by
  rintro ⟨caller, key, value, ttl, memory, row, deleter, rfl, awaits, -, deleted⟩
  obtain rfl := deletes deleter row.stamp deleted
  obtain ⟨memory', row', returned, -, -⟩ := deleted
  simp [timely, awaits.op?, returned_iff.mp returned] at test

theorem deleted_stays_gone_timely :
    (runCalls lateCodec lateCalls timelyLabels).isSome ∧
    DeletedStaysGone lateCodec lateCalls timelyLabels := by
  refine ⟨by decide +kernel, deleted_stays_gone lateCodec lateCalls timelyLabels ?_⟩
  have checked : check pasteStores (fun caller => (lateCalls caller).program lateCodec) timely
      (.initial .empty) timelyLabels = true := by decide +kernel
  intro history label rest middle split reached
  refine ⟨?_, timely_fills (throughout_of_check checked history label rest middle split reached) ?_⟩
  · have succeed : ∀ label ∈ timelyLabels, Succeeds label := by simp [timelyLabels, Succeeds]
    exact succeed label (by rw [split]; simp)
  · intro deleter stamp deleted
    obtain ⟨-, raw, -, -, call, -⟩ := deleted.owns (runCalls_held reached)
    unfold lateCalls at call
    split at call <;> first | rfl | cases call

end ActorServices.Pastebin
