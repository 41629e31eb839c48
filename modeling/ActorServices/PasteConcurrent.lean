import ActorServices.ServiceOwnership
import ActorServices.PasteService

set_option autoImplicit false

namespace ActorServices.Pastebin

open Interleave Environment

inductive Call
  | create (content : String) (syntaxHint : Option String) (ttlSeconds : Option Nat)
      (oneShot : Bool)
  | fetch (raw : String)
  | delete (raw : String)
  deriving DecidableEq, Repr

inductive Reply
  | created (result : Except ServiceError Paste)
  | fetched (result : Except ServiceError Paste)
  | deleted (result : Except ServiceError Unit)
  deriving DecidableEq

def Call.program (codec : JsonCodec) : Call → Service Reply
  | .create content syntaxHint ttlSeconds oneShot =>
      Reply.created <$> Pastebin.create content syntaxHint ttlSeconds oneShot
  | .fetch raw => Reply.fetched <$> Pastebin.fetch codec raw
  | .delete raw => Reply.deleted <$> Pastebin.delete raw

def pasteEntity : Entity PasteId Paste where
  key := Paste.id
  bump := Paste.addViews
  key_bump _ _ := rfl
  bump_zero paste := by simp [Paste.addViews]
  bump_bump m n paste := by simp [Paste.addViews, Int.add_assoc]

abbrev pasteStores : Interleave.Environment (Op PasteId Paste) Op.Reply (Shared PasteId Paste)
    (Memory Paste) Choice (Environment.Event PasteId) := service pasteEntity

abbrev PasteCalls : Type := Calls PasteId Paste Reply
abbrev PasteLabel : Type := Label Choice (Environment.Event PasteId)

/-- A run from empty stores of the given calls, the `i`-th made by caller `i`. -/
def runCalls (codec : JsonCodec) (calls : Nat → Call) (labels : List PasteLabel) :
    Option PasteCalls :=
  run pasteStores (fun caller => (calls caller).program codec) (.initial .empty) labels

abbrev callStep (codec : JsonCodec) (calls : Nat → Call) (config : PasteCalls)
    (label : PasteLabel) : Option PasteCalls :=
  step pasteStores (fun caller => (calls caller).program codec) config label

/-- What may be cached for a paste: its encoding, if it is not one-shot. -/
def Cacheable (codec : JsonCodec) (paste : Paste) (json : String) : Prop :=
  codec.toString (.fromPaste paste) = some json ∧ paste.oneShot = false

/-- The awaits of `create`. -/
def createAsks : Op PasteId Paste → Prop
  | .nowUnix => True
  | .random => True
  | .repoInsert _ => True
  | _ => False

/-- The awaits of `fetch` on one id. -/
def fetchAsks (id : PasteId) : Op PasteId Paste → Prop
  | .nowUnix => True
  | .random => False
  | .repoInsert _ => False
  | op => op.key? = some id

/-- The awaits of `delete` on one id. -/
def deleteAsks (id : PasteId) : Op PasteId Paste → Prop
  | .repoDelete key => key = id
  | .cacheDelete key => key = id
  | _ => False

def Call.Asks : Call → Op PasteId Paste → Prop
  | .create _ _ _ _, op => createAsks op
  | .fetch raw, op => ∃ id, PasteId.parse raw = .ok id ∧ fetchAsks id op
  | .delete raw, op => ∃ id, PasteId.parse raw = .ok id ∧ deleteAsks id op

/-- The contract of one call: only its own awaits, and only cacheable fills. -/
def callContract (codec : JsonCodec) (asks : Op PasteId Paste → Prop) :
    Contract (Op PasteId Paste) Op.Reply (Memory Paste) where
  allows memory op := (contract pasteEntity (Cacheable codec)).allows memory op ∧ asks op
  replies := (contract pasteEntity (Cacheable codec)).replies

/-- What a returned call knows of the row it was last handed. -/
def Knows : Call → Memory Paste → Reply → Prop
  | .create _ _ _ oneShot, memory, .created (.ok paste) =>
      ∃ row, memory.held = some row ∧ row.value = paste ∧ paste.oneShot = oneShot
  | .fetch raw, memory, .fetched (.ok paste) =>
      PasteId.parse raw = .ok paste.id ∧ ∃ row, memory.held = some row ∧ row.value = paste ∧
        (paste.oneShot = true → memory.owned = true)
  | .delete raw, memory, .deleted (.ok ()) =>
      ∃ row, memory.held = some row ∧ PasteId.parse raw = .ok row.value.id ∧ memory.owned = true
  | .create _ _ _ _, _, .created (.error _) => True
  | .fetch _, _, .fetched (.error _) => True
  | .delete _, _, .deleted (.error _) => True
  | _, _, _ => False

theorem parse_id {raw : String} {id : PasteId} (parsed : PasteId.parse raw = .ok id) :
    id = ⟨raw⟩ :=
  parseIdentifier_trusted parsed

section Safe

variable (codec : JsonCodec)

theorem asks_weaken {α : Type} {narrow wide : Op PasteId Paste → Prop} {program : Service α}
    {post : Memory Paste → α → Prop} {memory : Memory Paste}
    (asks : ∀ op, narrow op → wide op)
    (body : program.Safe (callContract codec narrow) post memory) :
    program.Safe (callContract codec wide) post memory :=
  Proc.safe_weaken _ _ _ _ _ body (fun _ op allowed => ⟨allowed.1, asks op allowed.2⟩)
    fun _ _ _ _ _ promised => promised

theorem createLoop_safe (content : Content) (syntaxHint : Option String) (createdAt : Int)
    (expiresAt : Option Int) (oneShot : Bool) (attempts : Nat) (memory : Memory Paste) :
    (createLoop content syntaxHint createdAt expiresAt oneShot attempts).Safe
      (callContract codec createAsks)
      (fun after result => ∀ paste, result = .ok paste →
        ∃ row, after.held = some row ∧ row.value = paste ∧ paste.oneShot = oneShot) memory := by
  induction attempts generalizing memory with
  | zero =>
      intro paste impossible
      cases impossible
  | succ attempts ih =>
      refine ⟨⟨trivial, trivial⟩, ?_⟩
      intro draw _ _
      refine ⟨⟨trivial, trivial⟩, ?_⟩
      intro reply after promised
      cases reply with
      | error err =>
          cases err with
          | conflict => exact ih after
          | backend cause =>
              intro paste impossible
              cases impossible
      | ok done =>
          obtain ⟨row, rfl, same⟩ := promised
          intro paste served
          cases served
          exact ⟨row, rfl, same, rfl⟩

theorem fetchCached_safe (id : PasteId) (memory : Memory Paste) :
    (fetchCached codec id).Safe (callContract codec (fetchAsks id))
      (fun after result => ∀ paste, result = some paste → paste.id = id ∧ paste.oneShot = false ∧
        ∃ row, after.held = some row ∧ row.value = paste) memory := by
  simp only [fetchCached, Proc.call_bind, Proc.ret_bind, Proc.pure_eq]
  refine ⟨⟨trivial, rfl⟩, ?_⟩
  intro reply after promised
  cases reply with
  | none =>
      intro paste impossible
      cases impossible
  | some json =>
      obtain ⟨row, rfl, keyed, encoded, many⟩ := promised
      simp only [codec.roundTrip _ _ encoded, intoPaste_fromPaste]
      refine ⟨⟨trivial, trivial⟩, ?_⟩
      intro now _ read
      subst read
      by_cases expired : row.value.isExpired now = true
      · simp only [expired, ↓reduceIte]
        refine ⟨⟨trivial, rfl⟩, ?_⟩
        intro _ _ _ paste impossible
        cases impossible
      · simp only [expired]
        refine ⟨⟨trivial, rfl⟩, ?_⟩
        intro _ _ same paste served
        subst same
        cases served
        exact ⟨keyed, many, row, rfl, rfl⟩

theorem fillCache_safe (id : PasteId) (paste : Paste) (memory : Memory Paste) (row : Row Paste)
    (held : memory.held = some row) (same : row.value = paste) (keyed : paste.id = id)
    (many : paste.oneShot = false) :
    (fillCache codec id paste).Safe (callContract codec (fetchAsks id))
      (fun after _ => after.held = some row) memory := by
  have timed : (UseCase.cacheTtlSecs paste.expiresAt).Safe (callContract codec (fetchAsks id))
      (fun after _ => after.held = some row) memory := by
    apply UseCase.cacheTtlSecs_safe (fun after : Memory Paste => after.held = some row) _ held
    · exact ⟨trivial, trivial⟩
    · intro now after read
      subst read
      exact held
  unfold fillCache
  apply Proc.safe_bind _ _ _ _ _ _ timed
  · intro memory ttl held
    split
    · split
      · rename_i json encoded
        refine ⟨⟨⟨row, held, same ▸ keyed, same ▸ ⟨encoded, many⟩⟩, rfl⟩, ?_⟩
        intro _ _ after
        subst after
        exact held
      · exact held
    · exact held

theorem fetchStored_safe (id : PasteId) (memory : Memory Paste) :
    (fetchStored codec id).Safe (callContract codec (fetchAsks id))
      (fun after result => ∀ paste, result = .ok paste → paste.id = id ∧
        ∃ row, after.held = some row ∧ row.value = paste ∧
          (paste.oneShot = true → after.owned = true)) memory := by
  simp only [fetchStored, Proc.call_bind, Proc.ret_bind, Proc.pure_eq]
  refine ⟨⟨trivial, rfl⟩, ?_⟩
  intro reply after promised
  rcases reply with err | found | paste
  · intro paste impossible
    cases impossible
  · intro paste impossible
    cases impossible
  · obtain ⟨row, rfl, rfl, keyed⟩ := promised
    refine ⟨⟨trivial, trivial⟩, ?_⟩
    intro now _ read
    subst read
    beta_reduce
    split
    · refine ⟨⟨trivial, rfl⟩, fun removed _ _ => ⟨⟨trivial, rfl⟩, ?_⟩⟩
      intro _ _ _ paste impossible
      cases impossible
    · split
      · refine ⟨⟨trivial, rfl⟩, ?_⟩
        intro reply after promised
        rcases reply with err | found | taken
        · intro paste impossible
          cases impossible
        · intro paste impossible
          cases impossible
        · obtain ⟨row, rfl, rfl, keyed⟩ := promised
          intro paste served
          cases served
          exact ⟨keyed, row, rfl, rfl, fun _ => rfl⟩
      · rename_i many
        have many : row.value.oneShot = false := by simpa using many
        refine Proc.safe_bind _ (fun after _ => after.held = some row) _ _ _ _
          (fillCache_safe codec id row.value _ row rfl rfl keyed many) ?_
        intro after _ held
        refine ⟨⟨trivial, rfl⟩, ?_⟩
        intro _ _ same paste served
        subst same
        cases served
        exact ⟨keyed, row, held, rfl, fun single => by simp [many] at single⟩

theorem fetch_safe (raw : String) (memory : Memory Paste) :
    (fetch codec raw).Safe (callContract codec (Call.fetch raw).Asks)
      (fun after result => Knows (.fetch raw) after (.fetched result)) memory := by
  unfold fetch
  split
  · trivial
  · rename_i id parsed
    refine asks_weaken codec (fun op own => ⟨id, parsed, own⟩) ?_
    refine Proc.safe_bind _ _ _ _ _ _ (fetchCached_safe codec id memory) ?_
    intro after found known
    cases found with
    | none =>
        refine Proc.safe_mono _ _ _ _ _ (fetchStored_safe codec id after) ?_
        intro final result stored
        cases result with
        | error err => trivial
        | ok paste =>
            obtain ⟨rfl, row, held, same, single⟩ := stored paste rfl
            exact ⟨parsed, row, held, same, single⟩
    | some paste =>
        obtain ⟨rfl, many, row, held, same⟩ := known paste rfl
        exact ⟨parsed, row, held, same, fun single => by simp [many] at single⟩

theorem create_safe (content : String) (syntaxHint : Option String) (ttlSeconds : Option Nat)
    (oneShot : Bool) (memory : Memory Paste) :
    (create content syntaxHint ttlSeconds oneShot).Safe (callContract codec createAsks)
      (fun after result => Knows (.create content syntaxHint ttlSeconds oneShot) after
        (.created result)) memory := by
  unfold create
  split
  · trivial
  · rename_i parsed _
    refine ⟨⟨trivial, trivial⟩, ?_⟩
    intro now _ _
    refine Proc.safe_mono _ _ _ _ _ (createLoop_safe codec parsed syntaxHint now _ oneShot _ _) ?_
    intro after result known
    cases result with
    | error err => trivial
    | ok paste => exact known paste rfl

theorem delete_safe (raw : String) (memory : Memory Paste) :
    (delete raw).Safe (callContract codec (Call.delete raw).Asks)
      (fun after result => Knows (.delete raw) after (.deleted result)) memory := by
  unfold delete
  split
  · trivial
  · rename_i id parsed
    refine asks_weaken codec (fun op own => ⟨id, parsed, own⟩) ?_
    refine ⟨⟨trivial, rfl⟩, ?_⟩
    intro reply after promised
    rcases reply with err | removed | removed
    · trivial
    · refine ⟨⟨trivial, rfl⟩, ?_⟩
      intro _ _ _
      trivial
    · obtain ⟨row, rfl, keyed⟩ := promised
      refine ⟨⟨trivial, rfl⟩, ?_⟩
      intro _ _ same
      subst same
      exact ⟨row, rfl, parsed.trans (congrArg Except.ok keyed.symm), rfl⟩

theorem program_safe (call : Call) :
    (call.program codec).Safe (callContract codec call.Asks) (Knows call) .none := by
  cases call with
  | create content syntaxHint ttlSeconds oneShot =>
      exact Proc.safe_bind _ _ _ _ _ _ (create_safe codec content syntaxHint ttlSeconds oneShot _)
        fun _ _ known => known
  | fetch raw => exact Proc.safe_bind _ _ _ _ _ _ (fetch_safe codec raw _) fun _ _ known => known
  | delete raw => exact Proc.safe_bind _ _ _ _ _ _ (delete_safe codec raw _) fun _ _ known => known

end Safe

/-- The invariant of every run: the stores are consistent, every returned call
knows what it returned, and rows taken out have one owner. -/
structure Held (codec : JsonCodec) (calls : Nat → Call) (config : PasteCalls) : Prop where
  sound : Sound (fun caller => callContract codec (calls caller).Asks)
    (Consistent pasteEntity (Cacheable codec)) (Remembers pasteEntity)
    (fun caller => Knows (calls caller)) config
  exclusive : Exclusive config

section Run

variable {codec : JsonCodec} {calls : Nat → Call} {config next : PasteCalls}
  {labels : List PasteLabel}

theorem Held.initial : Held codec calls (.initial .empty) where
  sound := .initial _ .empty
  exclusive := ⟨(fun _ _ _ _ ⟨_, absent, _⟩ _ => nomatch absent),
    (fun _ _ _ _ ⟨_, absent, _⟩ _ _ => nomatch absent)⟩

theorem paste_rule : Rule (α := Reply) pasteStores (fun _ _ => True)
    (fun caller => callContract codec (calls caller).Asks)
    (Consistent pasteEntity (Cacheable codec)) (Remembers pasteEntity) :=
  service_rule (fun _ _ _ allowed => allowed.1) fun _ _ _ _ _ _ _ _ _ _ _ _ promised => promised

theorem Held.step {label : PasteLabel} (held : Held codec calls config)
    (taken : callStep codec calls config label = some next) :
    Held codec calls next where
  sound := held.sound.step paste_rule (fun caller => program_safe codec (calls caller)) trivial
    taken
  exclusive := held.exclusive.step held.sound.shared held.sound.memory taken

theorem runCalls_held (ran : runCalls codec calls labels = some config) :
    Held codec calls config :=
  run_preserves (Held codec calls) (fun _ _ _ held taken => held.step taken) .initial ran

end Run

end ActorServices.Pastebin
