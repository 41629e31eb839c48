import ActorServices.PasteServing
import ActorServices.ServiceRows

set_option autoImplicit false

namespace ActorServices.Pastebin

open Interleave Environment

/-- The step in which a delete call removes the row stamped so. -/
def Deletes (calls : Nat → Call) (stamp : Nat) (config : PasteCalls) (label : PasteLabel) : Prop :=
  ∃ caller raw key memory row, label = .step caller .done ∧ calls caller = .delete raw ∧
    config.Awaits caller (.repoDelete key) memory ∧ config.shared.repo key = some row ∧
    row.stamp = stamp

/-- What a step must not do to a one-shot paste for it to be served. -/
structure Spares (calls : Nat → Call) (paste : Paste) (stamp : Nat) (config : PasteCalls)
    (label : PasteLabel) : Prop where
  undeleted : ¬ Deletes calls stamp config label
  unexpired : stamp < config.shared.made.length → paste.isExpired config.shared.clock = false
  working : ∀ caller cause, label ≠ .step caller (.failed cause)

section Held

variable {codec : JsonCodec} {calls : Nat → Call} {config : PasteCalls} {caller stamp : Nat}

theorem served_once (held : Held codec calls config) {paste : Paste}
    (inserted : config.shared.made[stamp]? = some paste) (single : paste.oneShot = true)
    {other : Nat} (first : Serves config caller stamp) (second : Serves config other stamp) :
    caller = other := by
  obtain ⟨row, owns, rfl⟩ := first.owns held inserted single
  obtain ⟨row', owns', same⟩ := second.owns held inserted single
  exact held.exclusive.single caller other row row' owns owns' same.symm

theorem cached_many (held : Held codec calls config) {id : PasteId} {entry : Entry Paste}
    (present : config.shared.cache id = some entry) :
    ∃ cached, codec.fromStr entry.value = some cached ∧ cached.oneShot = false := by
  obtain ⟨row, -, -, -, encoded, many⟩ := held.sound.shared.cached id entry present
  exact ⟨_, codec.roundTrip _ _ encoded, many⟩

end Held

/-- `made` is what was made under the stamp, and nothing else under its id. -/
structure Alone (made : Paste) (stamp : Nat) (config : PasteCalls) : Prop where
  only : ∀ other value, config.shared.made[other]? = some value → value.id = made.id →
    other = stamp
  same : ∀ value, config.shared.made[stamp]? = some value → value = made

/-- What a fetch of the id of a lone one-shot paste meets; `waiting` if the
paste stays in the repository all the while. -/
def burnContract (made : Paste) (waiting : Prop) :
    Contract (Op PasteId Paste) Op.Reply (Memory Paste) where
  allows memory op := memory.owned = false ∧
    match op with
    | .cacheSet _ _ _ => False
    | .repoDelete _ => False
    | .repoInsert _ => False
    | op => op.key? = none ∨ op.key? = some made.id
  replies memory op reply after :=
    match op, reply with
    | .cacheGet _, some _ => False
    | .repoGet _, .ok (some value) => ∃ row, after = memory.given (some row) false ∧
        row.value = value ∧ value.id = made.id ∧ value.oneShot = true ∧
        value.expiresAt = made.expiresAt
    | .repoGet _, .ok none => ¬ waiting ∧ after = memory
    | .repoTake _, .ok (some _) => ¬ waiting ∧ after.owned = true
    | .repoTake _, .ok none => ¬ waiting ∧ after = memory
    | .repoGet _, .error _ => False
    | .repoTake _, .error _ => False
    | .nowUnix, now => after = { memory with reading := some now } ∧
        ((∃ row, memory.held = some row ∧ row.value.id = made.id) →
          isExpired made.expiresAt now = false)
    | _, _ => after = memory

def Burns (waiting : Prop) (memory : Memory Paste) (result : Except ServiceError Paste) : Prop :=
  ¬ waiting ∧ (result = .error .notFound ∧ memory.owned = false ∨
    (∃ paste, result = .ok paste) ∧ memory.owned = true)

theorem fetch_burns (codec : JsonCodec) (made : Paste) (waiting : Prop) (raw : String)
    (parsed : PasteId.parse raw = .ok made.id) :
    (fetch codec raw).Safe (burnContract made waiting) (Burns waiting) .none := by
  simp only [fetch, parsed, fetchCached, fetchStored, Proc.call_bind, Proc.ret_bind, Proc.pure_eq]
  refine ⟨⟨rfl, Or.inr rfl⟩, ?_⟩
  intro reply after promised
  cases reply with
  | some json => exact promised.elim
  | none =>
      obtain rfl := promised
      refine ⟨⟨rfl, Or.inr rfl⟩, ?_⟩
      intro reply after promised
      rcases reply with err | found | paste
      · exact promised.elim
      · obtain ⟨gone, rfl⟩ := promised
        exact ⟨gone, Or.inl ⟨rfl, rfl⟩⟩
      · obtain ⟨row, rfl, rfl, keyed, single, expiry⟩ := promised
        refine ⟨⟨rfl, Or.inl rfl⟩, ?_⟩
        intro now _ read
        obtain ⟨rfl, live⟩ := read
        have live : row.value.isExpired now = false := by
          rw [Paste.isExpired, expiry]
          exact live ⟨row, rfl, keyed⟩
        simp only [live, single, ↓reduceIte, Bool.false_eq_true]
        refine ⟨⟨rfl, Or.inr rfl⟩, ?_⟩
        intro reply after promised
        rcases reply with err | found | taken
        · exact promised.elim
        · obtain ⟨gone, rfl⟩ := promised
          exact ⟨gone, Or.inl ⟨rfl, rfl⟩⟩
        · obtain ⟨gone, owned⟩ := promised
          exact ⟨gone, Or.inr ⟨⟨taken, rfl⟩, owned⟩⟩

section Burning

variable {codec : JsonCodec} {calls : Nat → Call} {before after : PasteCalls}
  {paste made : Paste} {stamp caller : Nat} {label : PasteLabel}

theorem Alone.row (alone : Alone made stamp before) {row : Row Paste}
    (origin : Origin pasteEntity before.shared row) (keyed : row.value.id = made.id) :
    row.stamp = stamp ∧ row.value.oneShot = made.oneShot ∧
      row.value.expiresAt = made.expiresAt ∧ stamp < before.shared.made.length := by
  obtain ⟨value, views, at_, counted⟩ := origin
  have id_eq : value.id = made.id := by
    rw [← keyed, counted]
    rfl
  obtain rfl := alone.only row.stamp value at_ id_eq
  obtain rfl := alone.same value at_
  rw [counted]
  exact ⟨rfl, rfl, rfl, (List.getElem?_eq_some_iff.mp at_).1⟩

theorem Alone.present (alone : Alone made stamp before) (held : Held codec calls before)
    {row : Row Paste} (found : before.shared.repo made.id = some row) :
    row.stamp = stamp ∧ row.value.oneShot = made.oneShot ∧
      row.value.expiresAt = made.expiresAt ∧ stamp < before.shared.made.length :=
  alone.row (held.sound.shared.stored _ _ found) (held.sound.shared.keyed _ _ found)

/-- Every await of a fetch keeps the burn contract. -/
theorem burn_replies (held : Held codec calls before) (alone : Alone made stamp before)
    (single : made.oneShot = true) (expiry : paste.expiresAt = made.expiresAt)
    {waiting : Prop} (waits : waiting → Present before made.id stamp ∧ Present after made.id stamp)
    {choice : Choice} (spares : Spares calls paste stamp before (.step caller choice))
    {op : Op PasteId Paste} {memory remembered : Memory Paste} {reply : op.Reply}
    (remembers : Remembers pasteEntity before.shared memory)
    (allowed : (burnContract made waiting).allows memory op)
    (performed : perform pasteEntity before.shared memory op choice =
      some (reply, remembered, after.shared)) :
    (burnContract made waiting).replies memory op reply remembered := by
  have own : ∀ key, op.key? = some key → op.key? = none ∨ op.key? = some made.id →
      key = made.id := by
    rintro key here (none_ | id_)
    · rw [here] at none_; cases none_
    · exact Option.some.inj (here.symm.trans id_)
  have absent : before.shared.repo made.id = none → ¬ waiting := by
    intro empty waiting
    obtain ⟨row, found, -⟩ := (waits waiting).1
    rw [empty] at found
    cases found
  obtain ⟨unowned, asked⟩ := allowed
  have cases_ := perform_cases performed
  generalize shared_eq : after.shared = shared at cases_
  cases cases_
  case hit key entry done found =>
    obtain rfl := own key rfl asked
    obtain ⟨row, -, origin, keyed, -, many⟩ := held.sound.shared.cached _ _ found
    rw [(alone.row origin keyed).2.1, single] at many
    cases many
  case got key row found =>
    obtain rfl := own key rfl asked
    obtain ⟨-, burnt, expires, -⟩ := alone.present held found
    exact ⟨row, rfl, rfl, held.sound.shared.keyed _ _ found, burnt.trans single, expires⟩
  case gotNone key empty =>
    obtain rfl := own key rfl asked
    exact ⟨absent empty, rfl⟩
  case took key row found =>
    obtain rfl := own key rfl asked
    refine ⟨fun waiting => ?_, rfl⟩
    obtain ⟨other, still, -⟩ := (waits waiting).2
    rw [shared_eq, setRepo_repo, if_pos rfl] at still
    cases still
  case tookNone key empty =>
    obtain rfl := own key rfl asked
    exact ⟨absent empty, rfl⟩
  case read =>
    refine ⟨rfl, ?_⟩
    rintro ⟨row, holds, keyed⟩
    rw [← expiry]
    exact spares.unexpired (alone.row (remembers row holds) keyed).2.2.2
  case getFailed cause failed => exact spares.working caller cause (by rw [failed])
  case takeFailed cause failed => exact spares.working caller cause (by rw [failed])
  case insertFailed => exact asked.elim
  case inserted => exact asked.elim
  case conflicted => exact asked.elim
  case deleted => exact asked.elim
  case deletedNone => exact asked.elim
  case deleteFailed => exact asked.elim
  all_goals rfl

theorem Alone.earlier (alone : Alone made stamp after)
    (grown : before.shared.made <+: after.shared.made) : Alone made stamp before := by
  have later : ∀ (other : Nat) (value : Paste), before.shared.made[other]? = some value →
      after.shared.made[other]? = some value := by
    intro other value here
    obtain ⟨extra, rest⟩ := grown
    rw [← rest, List.getElem?_append_left (List.getElem?_eq_some_iff.mp here).1, here]
  exact ⟨fun other value here => alone.only other value (later other value here),
    fun value here => alone.same value (later stamp value here)⟩

/-- The invariant behind exactly-once: from its insertion on, the paste is
either still stored or owned by a fetch, which then serves it. -/
structure Burning (codec : JsonCodec) (calls : Nat → Call) (made : Paste) (stamp : Nat)
    (config : PasteCalls) : Prop where
  held : Held codec calls config
  fetches : ∀ caller, Fetches calls made.id caller →
    ∀ thread, config.threads caller = some thread →
      thread.program.Safe (burnContract made False)
        (fun memory reply => ∃ result, reply = .fetched result ∧ Burns False memory result)
        thread.memory
  kept : stamp < config.shared.made.length → Present config made.id stamp ∨
    ∃ caller row, Fetches calls made.id caller ∧ Owns config caller row ∧ row.stamp = stamp

theorem program_burns {waiting : Prop} (fetches : Fetches calls made.id caller) :
    ((calls caller).program codec).Safe (burnContract made waiting)
      (fun memory reply => ∃ result, reply = .fetched result ∧ Burns waiting memory result)
      .none := by
  obtain ⟨raw, call, parsed⟩ := fetches
  rw [call]
  exact Proc.safe_bind _ _ _ _ _ _ (fetch_burns codec made waiting raw parsed)
    fun after result burns => ⟨result, rfl, burns⟩

/-- A fetch that took the paste has returned. -/
theorem Burning.owner_returned (burning : Burning codec calls made stamp before)
    (fetches : Fetches calls made.id caller) {row : Row Paste} (owns : Owns before caller row) :
    ∃ result memory, before.Returned caller (.fetched result) memory ∧
      memory.held = some row ∧ memory.owned = true := by
  obtain ⟨⟨program, memory⟩, present, holds, owned⟩ := owns
  have safe := burning.fetches caller fetches _ present
  cases program with
  | ret reply =>
      obtain ⟨result, rfl, -⟩ := safe
      exact ⟨result, memory, present, holds, owned⟩
  | call op next =>
      have unowned := safe.1.1
      rw [owned] at unowned
      cases unowned

theorem Burning.owned (burning : Burning codec calls made stamp before)
    (taken : callStep codec calls before label = some after)
    (fetches : Fetches calls made.id caller) {row : Row Paste} (owns : Owns before caller row) :
    Owns after caller row := by
  obtain ⟨result, memory, returned, holds, owned⟩ := burning.owner_returned fetches owns
  exact ⟨_, step_returned taken returned, holds, owned⟩

/-- The stored one-shot paste either stays or goes to a fetch. -/
theorem Burning.present (burning : Burning codec calls made stamp before)
    (spares : Spares calls paste stamp before label)
    (taken : callStep codec calls before label = some after)
    (present : Present before made.id stamp) :
    Present after made.id stamp ∨
      ∃ caller row, Fetches calls made.id caller ∧ Owns after caller row ∧ row.stamp = stamp := by
  obtain ⟨row, stored, rfl⟩ := present
  rcases stored_after taken stored with ⟨views, kept⟩ | ⟨caller, next, memory, removes, -, here⟩
  · exact Or.inl ⟨_, kept, rfl⟩
  · have owns : Owns after caller row := ⟨_, here, rfl, rfl⟩
    obtain ⟨choice, op, memory, rfl, awaits, rfl | ⟨rfl, rfl⟩⟩ := removes
    · exact Or.inr ⟨caller, row, asks_take (burning.held.sound.awaits awaits).2, owns, rfl⟩
    · rcases asks_delete (burning.held.sound.awaits awaits).2 with fetches | ⟨raw, call, -⟩
      · obtain ⟨next, running⟩ := awaits
        exact (burning.fetches caller fetches _ running).1.2.elim
      · exact absurd ⟨caller, raw, made.id, memory, row, rfl, call, awaits, stored, rfl⟩
          spares.undeleted

theorem Burning.step (burning : Burning codec calls made stamp before)
    (alone : Alone made stamp after) (single : made.oneShot = true)
    (expiry : paste.expiresAt = made.expiresAt) (spares : Spares calls paste stamp before label)
    (taken : callStep codec calls before label = some after) :
    Burning codec calls made stamp after where
  held := burning.held.step taken
  fetches caller fetches := by
    refine safe_step taken (program_burns fetches) (burning.fetches caller fetches) ?_
    rintro choice op memory reply remembered rfl ⟨next, running⟩ allowed performed
    exact burn_replies burning.held (alone.earlier (step_made taken)) single expiry False.elim
      spares (burning.held.sound.memory caller _ running) allowed performed
  kept grown := by
    by_cases old : stamp < before.shared.made.length
    · rcases burning.kept old with present | ⟨caller, row, fetches, owns, same⟩
      · exact burning.present spares taken present
      · exact Or.inr ⟨caller, row, fetches, burning.owned taken fetches owns, same⟩
    · have here := List.getElem?_eq_getElem grown
      have present := present_made taken (Nat.not_lt.mp old) here
      rw [alone.same _ here] at present
      exact Or.inl present

/-- A fetch started after the insertion cannot return while the paste stays. -/
def Waits (made : Paste) (stamp reader : Nat) (config : PasteCalls) : Prop :=
  Present config made.id stamp → ∀ thread, config.threads reader = some thread →
    thread.program.Safe (burnContract made True)
      (fun memory reply => ∃ result, reply = .fetched result ∧ Burns True memory result)
      thread.memory

theorem Waits.step {reader : Nat} (waits : Waits made stamp reader before)
    (fetches : Fetches calls made.id reader) (held : Held codec calls before)
    (alone : Alone made stamp after) (single : made.oneShot = true)
    (expiry : paste.expiresAt = made.expiresAt) (old : stamp < before.shared.made.length)
    (spares : Spares calls paste stamp before label)
    (taken : callStep codec calls before label = some after) : Waits made stamp reader after := by
  intro present
  have still := present_before taken old present
  refine safe_step taken (program_burns fetches) (waits still) ?_
  rintro choice op memory reply remembered rfl ⟨next, running⟩ allowed performed
  exact burn_replies held (alone.earlier (step_made taken)) single expiry
    (fun _ => ⟨still, present⟩) spares (held.sound.memory reader _ running) allowed performed

end Burning

section Once

variable {codec : JsonCodec} {calls : Nat → Call} {config middle : PasteCalls}
  {paste made : Paste} {stamp reader : Nat} {labels history rest : List PasteLabel}

theorem runCalls_burning (alone : Alone made stamp config) (single : made.oneShot = true)
    (expiry : paste.expiresAt = made.expiresAt)
    (spared : Throughout pasteStores (fun caller => (calls caller).program codec)
      (Spares calls paste stamp) (.initial .empty) labels)
    (ran : runCalls codec calls labels = some config) : Burning codec calls made stamp config := by
  refine run_induction (fun _ config => Burning codec calls made stamp config)
    ⟨.initial, nofun, nofun⟩ ?_ ran
  intro history middle label next rest burning reached taken split later
  exact burning.step (alone.earlier (run_made later)) single expiry
    (spared history label rest middle split reached) taken

/-- A fetch started after the insertion has not returned while the paste stays. -/
theorem runCalls_waits (alone : Alone made stamp config) (single : made.oneShot = true)
    (expiry : paste.expiresAt = made.expiresAt) (fetches : Fetches calls made.id reader)
    (old : stamp < middle.shared.made.length) (idle : middle.threads reader = none)
    (held : Held codec calls middle)
    (spared : Throughout pasteStores (fun caller => (calls caller).program codec)
      (Spares calls paste stamp) middle rest)
    (ran : run pasteStores (fun caller => (calls caller).program codec) middle rest =
      some config) : Waits made stamp reader config := by
  refine (run_induction (fun _ config => Held codec calls config ∧
    stamp < config.shared.made.length ∧ Waits made stamp reader config) ⟨held, old, ?_⟩ ?_ ran).2.2
  · intro _ thread present
    rw [idle] at present
    cases present
  · rintro history before label next rest ⟨held, old, waits⟩ reached taken split later
    exact ⟨held.step taken, Nat.lt_of_lt_of_le old (step_made taken).length_le,
      waits.step fetches held (alone.earlier (run_made later)) single expiry old
        (spared history label rest before split reached) taken⟩

/-- What a fetch of the id has returned once it is done. -/
theorem Burning.outcome (burning : Burning codec calls made stamp config)
    (alone : Alone made stamp config) {caller : Nat} (fetches : Fetches calls made.id caller)
    {reply : Reply} {memory : Memory Paste} (returned : config.Returned caller reply memory) :
    (reply = .fetched (.error .notFound) ∧ memory.owned = false) ∨
      ∃ views row, reply = .fetched (.ok (made.addViews views)) ∧ memory.held = some row ∧
        row.stamp = stamp ∧ memory.owned = true := by
  obtain ⟨result, rfl, -, ⟨rfl, unowned⟩ | ⟨⟨served, rfl⟩, owned⟩⟩ :=
    burning.fetches caller fetches _ returned
  · exact Or.inl ⟨rfl, unowned⟩
  · obtain ⟨raw, call, parsed⟩ := fetches
    obtain ⟨row, ⟨raw', call', parsed'⟩, holds, rfl, -⟩ := burning.held.fetched returned
    obtain ⟨value, views, at_, counted⟩ := burning.held.sound.memory caller _ returned row holds
    obtain rfl : raw = raw' := Call.fetch.inj (call.symm.trans call')
    have keyed : row.value.id = made.id := Except.ok.inj (parsed'.symm.trans parsed)
    have same : value.id = made.id := by
      rw [← keyed, counted]
      rfl
    have last := alone.only row.stamp value at_ same
    obtain rfl := alone.same value (last ▸ at_)
    exact Or.inr ⟨views, row, by rw [counted]; rfl, holds, last, owned⟩

theorem alone_of_unique
    (unique : ∀ (other : Nat) value, config.shared.made[other]? = some value →
      value.id = made.id → other = stamp)
    (inserted : middle.shared.made[stamp]? = some made)
    (grown : middle.shared.made <+: config.shared.made) : Alone made stamp config where
  only := unique
  same value here := by
    obtain ⟨extra, grown⟩ := grown
    rw [← grown, List.getElem?_append_left (List.getElem?_eq_some_iff.mp inserted).1,
      inserted] at here
    exact (Option.some.inj here).symm

/-- A fetch that waited and is done has seen the paste go. -/
theorem Waits.gone (waits : Waits made stamp reader config)
    (started : config.threads reader ≠ none)
    (completed : ∀ thread, config.threads reader = some thread →
      ∃ reply, thread.program = .ret reply) : ¬ Present config made.id stamp := by
  intro present
  obtain ⟨⟨program, memory⟩, here⟩ := Option.ne_none_iff_exists'.mp started
  obtain ⟨reply, rfl⟩ := completed _ here
  obtain ⟨-, -, waiting, -⟩ := waits present _ here
  exact waiting trivial

/-- Once the paste is gone, a fetch has served it. -/
theorem Burning.winner (burning : Burning codec calls made stamp config)
    (alone : Alone made stamp config) (old : stamp < config.shared.made.length)
    (gone : ¬ Present config made.id stamp) :
    ∃ winner row views memory, Fetches calls made.id winner ∧ Owns config winner row ∧
      row.stamp = stamp ∧ memory.held = some row ∧
      config.Returned winner (.fetched (.ok (made.addViews views))) memory := by
  rcases burning.kept old with present | ⟨winner, row, wins, owns, same⟩
  · exact absurd present gone
  · obtain ⟨result, memory, returned, holds, owned⟩ := burning.owner_returned wins owns
    rcases burning.outcome alone wins returned with ⟨-, unowned⟩ | ⟨views, -, served, -, -, -⟩
    · rw [owned] at unowned
      cases unowned
    · rw [served] at returned
      exact ⟨winner, row, views, memory, wins, owns, same, holds, returned⟩

/-- Every other fetch that is done has found nothing. -/
theorem Burning.loser (burning : Burning codec calls made stamp config)
    (alone : Alone made stamp config) {winner : Nat} {row : Row Paste}
    (owns : Owns config winner row) (same : row.stamp = stamp) {other : Nat}
    (fetches : Fetches calls made.id other) (distinct : other ≠ winner) {reply : Reply}
    {memory : Memory Paste} (returned : config.Returned other reply memory) :
    reply = .fetched (.error .notFound) := by
  rcases burning.outcome alone fetches returned with ⟨none, -⟩ | ⟨-, row', -, holds, same', owned⟩
  · exact none
  · have second : Owns config other row' := ⟨_, returned, holds, owned⟩
    have one := burning.held.exclusive.single other winner row' row second owns
      (same'.trans same.symm)
    exact absurd one distinct

theorem served_exactly_once {creator : Nat} (ran : runCalls codec calls labels = some config)
    (single : paste.oneShot = true)
    (unique : ∀ (other : Nat) value, config.shared.made[other]? = some value →
      value.id = paste.id → other = stamp)
    (spared : Throughout pasteStores (fun caller => (calls caller).program codec)
      (Spares calls paste stamp) (.initial .empty) labels)
    (completed : ∀ caller, Fetches calls paste.id caller →
      ∀ thread, config.threads caller = some thread → ∃ reply, thread.program = .ret reply)
    (late : labels = history ++ .start reader :: rest)
    (reached : runCalls codec calls history = some middle)
    (created : Creates middle creator paste stamp) (fetches : Fetches calls paste.id reader) :
    (∃ winner views memory, Fetches calls paste.id winner ∧ Serves config winner stamp ∧
      config.Returned winner (.fetched (.ok (paste.addViews views))) memory ∧
      ∀ other, Fetches calls paste.id other → other ≠ winner →
        ∀ thread, config.threads other = some thread →
          thread.program = .ret (.fetched (.error .notFound))) ∧
    config.shared.repo paste.id = none := by
  subst late
  have heldMiddle := runCalls_held reached
  obtain ⟨made, counted, at_, rfl⟩ := created.made heldMiddle
  obtain ⟨other, same, later⟩ := run_append_some ran
  obtain rfl : middle = other := Option.some.inj (reached.symm.trans same)
  have old := (List.getElem?_eq_some_iff.mp at_).1
  have grown := run_made later
  have alone : Alone made stamp config := alone_of_unique unique at_ grown
  have expiry : (made.addViews counted).expiresAt = made.expiresAt := rfl
  have burning := runCalls_burning alone single expiry spared ran
  obtain ⟨begun, taken, finished⟩ := run_cons later
  obtain ⟨idle, rfl⟩ := step_start taken
  have waits := runCalls_waits alone single expiry fetches old idle heldMiddle
    (spared.back reached) later
  have gone := waits.gone (run_started finished (by simp)) (completed reader fetches)
  obtain ⟨winner, row, views, memory, wins, owns, rfl, holds, returned⟩ :=
    burning.winner alone (Nat.lt_of_lt_of_le old grown.length_le) gone
  refine ⟨⟨winner, views - counted, memory, wins, ⟨_, _, row, returned, holds, rfl⟩, ?_, ?_⟩, ?_⟩
  · -- the create may have returned a paste with views, so these are counted from there
    have total : counted + (views - counted) = views := by omega
    have same : (made.addViews counted).addViews (views - counted) = made.addViews views :=
      (pasteEntity.bump_bump _ _ made).trans (congrArg (pasteEntity.bump · made) total)
    rw [same]
    exact returned
  · intro other fetches distinct thread here
    obtain ⟨program, memory'⟩ := thread
    obtain ⟨reply, rfl⟩ := completed other fetches _ here
    exact congrArg Proc.ret (burning.loser alone owns rfl fetches distinct here)
  · cases stored : config.shared.repo made.id with
    | none => exact stored
    | some row => exact absurd ⟨row, stored, (alone.present burning.held stored).1⟩ gone

end Once

/-- Burn after reading, over every run: whatever is served was made; a one-shot
paste is served to one fetch at most and never cached; and if nothing else
removes it, to exactly one. -/
theorem burn_after_reading (codec : JsonCodec) (calls : Nat → Call) (labels : List PasteLabel)
    (config : PasteCalls) (ran : runCalls codec calls labels = some config) :
    (∀ caller paste memory, config.Returned caller (.fetched (.ok paste)) memory →
      ∃ stamp made views, Serves config caller stamp ∧
        config.shared.made[stamp]? = some made ∧ paste = made.addViews views) ∧
    (∀ (stamp : Nat) paste, config.shared.made[stamp]? = some paste → paste.oneShot = true →
      ∀ caller other, Serves config caller stamp → Serves config other stamp → caller = other) ∧
    (∀ id entry, config.shared.cache id = some entry →
      ∃ cached, codec.fromStr entry.value = some cached ∧ cached.oneShot = false) ∧
    (∀ history reader rest middle creator paste stamp, paste.oneShot = true →
      (∀ (other : Nat) value, config.shared.made[other]? = some value →
        value.id = paste.id → other = stamp) →
      Throughout pasteStores (fun caller => (calls caller).program codec)
        (Spares calls paste stamp) (.initial .empty) labels →
      (∀ caller, Fetches calls paste.id caller →
        ∀ thread, config.threads caller = some thread → ∃ reply, thread.program = .ret reply) →
      labels = history ++ .start reader :: rest → runCalls codec calls history = some middle →
      Creates middle creator paste stamp → Fetches calls paste.id reader →
      (∃ winner views memory, Fetches calls paste.id winner ∧ Serves config winner stamp ∧
        config.Returned winner (.fetched (.ok (paste.addViews views))) memory ∧
        ∀ other, Fetches calls paste.id other → other ≠ winner →
          ∀ thread, config.threads other = some thread →
            thread.program = .ret (.fetched (.error .notFound))) ∧
      config.shared.repo paste.id = none) := by
  have held := runCalls_held ran
  refine ⟨?_, ?_, ?_, ?_⟩
  · intro caller paste memory returned
    exact held.fetched_made returned
  · intro stamp paste inserted single caller other
    exact served_once held inserted single
  · intro id entry present
    exact cached_many held present
  · intro history reader rest middle creator paste stamp single unique spared completed late
      reached created fetches
    exact served_exactly_once ran single unique spared completed late reached created fetches

def burnPaste : Paste := .new ⟨"AAAAAAAA"⟩ ⟨"secret"⟩ none 0 none true

def burnCodec : JsonCodec := .single (.fromPaste burnPaste)
  "\x7b\"id\":\"AAAAAAAA\",\"content\":\"secret\",\"syntax\":null,\"created_at\":0,\"expires_at\":null,\"one_shot\":true,\"views\":0\x7d"

def burnCalls : Nat → Call
  | 0 => .create "secret" none none true
  | 1 => .fetch "AAAAAAAA"
  | 2 => .fetch "AAAAAAAA"
  | _ => .fetch ""

/-- Both fetches read the row before the first of them takes it. -/
def burnLabels : List PasteLabel :=
  [.start 0, .step 0 .done, .step 0 (.drew fun _ => 0), .step 0 .done] ++ .start 1 ::
    [.start 2, .step 1 .done, .step 2 .done, .step 1 .done, .step 2 .done, .step 1 .done,
      .step 2 .done, .step 1 .done, .step 2 .done]

theorem burnCalls_created : (runCalls burnCodec burnCalls (burnLabels.take 4)).map
    (fun config => config.result? 0) =
      some (some (.created (.ok burnPaste), ⟨some ⟨burnPaste, 0⟩, false, some 0⟩)) := by
  decide +kernel

theorem burnCalls_fetched : (runCalls burnCodec burnCalls burnLabels).map (fun config =>
    (config.shared.made, (config.result? 1).isSome, (config.result? 2).isSome)) =
      some ([burnPaste], true, true) := by
  decide +kernel

theorem burnCalls_spares (label : PasteLabel) (member : label ∈ burnLabels)
    (config : PasteCalls) : Spares burnCalls burnPaste 0 config label where
  undeleted := by
    rintro ⟨caller, raw, -, -, -, -, call, -⟩
    unfold burnCalls at call
    split at call <;> cases call
  unexpired _ := rfl
  working caller cause failed := by
    subst failed
    simp [burnLabels] at member

theorem burnCalls_fetches {caller : Nat} (fetches : Fetches burnCalls burnPaste.id caller) :
    caller = 1 ∨ caller = 2 := by
  obtain ⟨raw, call, parsed⟩ := fetches
  unfold burnCalls at call
  split at call
  · cases call
  · exact Or.inl rfl
  · exact Or.inr rfl
  · cases call
    exact absurd (parse_id parsed) (by decide +kernel)

theorem burn_after_reading_race : ∃ config winner,
    runCalls burnCodec burnCalls burnLabels = some config ∧ Serves config winner 0 ∧
    Fetches burnCalls burnPaste.id winner ∧ config.shared.repo burnPaste.id = none := by
  obtain ⟨middle, reached, created⟩ := Option.map_eq_some_iff.mp burnCalls_created
  obtain ⟨config, ran, facts⟩ := Option.map_eq_some_iff.mp burnCalls_fetched
  simp only [Prod.mk.injEq] at facts
  obtain ⟨only, first, second⟩ := facts
  have single : burnPaste.oneShot = true := rfl
  have unique : ∀ (other : Nat) value, config.shared.made[other]? = some value →
      value.id = burnPaste.id → other = 0 := by
    intro other value here _
    rw [only] at here
    have bound := (List.getElem?_eq_some_iff.mp here).1
    simpa using bound
  have completed : ∀ caller, Fetches burnCalls burnPaste.id caller →
      ∀ thread, config.threads caller = some thread → ∃ reply, thread.program = .ret reply := by
    intro caller fetches thread present
    have done : (config.result? caller).isSome := by
      obtain rfl | rfl := burnCalls_fetches fetches
      · exact first
      · exact second
    obtain ⟨⟨reply, memory⟩, result⟩ := Option.isSome_iff_exists.mp done
    have returned := returned_iff.mpr result
    rw [Config.Returned, present] at returned
    exact ⟨reply, congrArg Thread.program (Option.some.inj returned)⟩
  obtain ⟨-, -, -, exactly⟩ := burn_after_reading burnCodec burnCalls burnLabels config ran
  obtain ⟨⟨winner, -, -, wins, serves, -⟩, gone⟩ := exactly (burnLabels.take 4) 1
    (burnLabels.drop 5) middle 0 burnPaste 0 single unique
    (fun history label rest middle split _ => burnCalls_spares label (by rw [split]; simp) middle)
    completed rfl reached ⟨_, _, returned_iff.mpr created, rfl, rfl⟩
    ⟨"AAAAAAAA", rfl, by decide +kernel⟩
  exact ⟨config, winner, ran, serves, wins, gone⟩

end ActorServices.Pastebin
