import ActorServices.LinkService
import ActorServices.ServiceOwnership

set_option autoImplicit false

namespace ActorServices.UrlShortener

open Interleave Environment

inductive Call
  | create (url : String) (requested : Option String) (ttlSeconds : Option Nat)
  | resolve (raw : String)
  | get (raw : String)
  | delete (raw : String)
  deriving DecidableEq, Repr

inductive Reply
  | created (result : Except ServiceError Link)
  | resolved (result : Except ServiceError TargetUrl)
  | got (result : Except ServiceError Link)
  | deleted (result : Except ServiceError Unit)
  deriving DecidableEq

def Call.program (settings : Settings) : Call → Service Reply
  | .create url requested ttlSeconds =>
      Reply.created <$> UrlShortener.create settings url requested ttlSeconds
  | .resolve raw => Reply.resolved <$> UrlShortener.resolve raw
  | .get raw => Reply.got <$> UrlShortener.get raw
  | .delete raw => Reply.deleted <$> UrlShortener.delete raw

def linkEntity : Entity ShortCode Link where
  key := Link.code
  bump := Link.addHits
  key_bump _ _ := rfl
  bump_zero link := by simp [Link.addHits]
  bump_bump m n link := by simp [Link.addHits, Int.add_assoc]

abbrev linkStores : Interleave.Environment (Op ShortCode Link) Op.Reply (Shared ShortCode Link)
    (Memory Link) Choice (Environment.Event ShortCode) := service linkEntity

abbrev LinkCalls : Type := Calls ShortCode Link Reply
abbrev LinkLabel : Type := Label Choice (Environment.Event ShortCode)

/-- A run from empty stores of the given calls, the `i`-th made by caller `i`. -/
def runCalls (settings : Settings) (calls : Nat → Call) (labels : List LinkLabel) :
    Option LinkCalls :=
  run linkStores (fun caller => (calls caller).program settings) (.initial .empty) labels

abbrev callStep (settings : Settings) (calls : Nat → Call) (config : LinkCalls)
    (label : LinkLabel) : Option LinkCalls :=
  step linkStores (fun caller => (calls caller).program settings) config label

/-- Settings for runs on fixed data: one well-formed URL, nothing blocked. -/
def exampleSettings : Settings where
  urls raw := if raw = "https://example.com" then some ⟨"https", true, some "example.com"⟩
    else if raw = "https://example.org" then some ⟨"https", true, some "example.org"⟩ else none
  blockedHosts := []

/-- What is cached for a link. -/
def Cacheable (link : Link) (text : String) : Prop := link.target.value = text

/-- The call read a link of this code that had expired at its clock reading. -/
def Lapsed (code : ShortCode) (memory : Memory Link) : Prop :=
  ∃ row now, memory.held = some row ∧ memory.reading = some now ∧ row.value.code = code ∧
    row.value.isExpired now = true

/-- The awaits of `create`. -/
def createAsks : Memory Link → Op ShortCode Link → Prop
  | _, .nowUnix => True
  | _, .random => True
  | _, .repoInsert _ => True
  | _, _ => False

/-- The awaits of `resolve` on one code. -/
def resolveAsks (code : ShortCode) : Memory Link → Op ShortCode Link → Prop
  | _, .random => False
  | _, .repoInsert _ => False
  | _, .repoTake _ => False
  | _, .nowUnix => True
  | memory, .repoDelete key => key = code ∧ Lapsed code memory
  | _, op => op.key? = some code

/-- The awaits of `get` on one code. -/
def getAsks (code : ShortCode) : Memory Link → Op ShortCode Link → Prop
  | _, .repoGet key => key = code
  | _, .nowUnix => True
  | memory, .repoDelete key => key = code ∧ Lapsed code memory
  | _, _ => False

/-- The awaits of `delete` on one code. -/
def deleteAsks (code : ShortCode) : Memory Link → Op ShortCode Link → Prop
  | _, .repoDelete key => key = code
  | _, .cacheDelete key => key = code
  | _, _ => False

def Call.Asks : Call → Memory Link → Op ShortCode Link → Prop
  | .create _ _ _, memory, op => createAsks memory op
  | .resolve raw, memory, op => ∃ code, ShortCode.parse raw = .ok code ∧ resolveAsks code memory op
  | .get raw, memory, op => ∃ code, ShortCode.parse raw = .ok code ∧ getAsks code memory op
  | .delete raw, memory, op => ∃ code, ShortCode.parse raw = .ok code ∧ deleteAsks code memory op

/-- Who may await a removal, and on what grounds. -/
theorem asks_delete {calls : Nat → Call} {caller : Nat} {code : ShortCode} {memory : Memory Link}
    (asks : (calls caller).Asks memory (.repoDelete code)) :
    (∃ raw, calls caller = .delete raw) ∨
      ((∀ raw, calls caller ≠ .delete raw) ∧ Lapsed code memory) := by
  cases call : calls caller with
  | create _ _ _ => rw [call] at asks; exact asks.elim
  | resolve raw =>
      rw [call] at asks
      obtain ⟨own, -, rfl, lapsed⟩ := asks
      exact Or.inr ⟨nofun, lapsed⟩
  | get raw =>
      rw [call] at asks
      obtain ⟨own, -, rfl, lapsed⟩ := asks
      exact Or.inr ⟨nofun, lapsed⟩
  | delete raw => exact Or.inl ⟨raw, rfl⟩

theorem asks_take {call : Call} {code : ShortCode} {memory : Memory Link} :
    ¬ call.Asks memory (.repoTake code) := by
  intro asks
  cases call with
  | create _ _ _ => exact asks
  | resolve raw =>
      obtain ⟨own, -, impossible⟩ := asks
      exact impossible
  | get raw =>
      obtain ⟨own, -, impossible⟩ := asks
      exact impossible
  | delete raw =>
      obtain ⟨own, -, impossible⟩ := asks
      exact impossible

/-- The contract of one call: only its own awaits, and only true cache fills. -/
def callContract (asks : Memory Link → Op ShortCode Link → Prop) :
    Contract (Op ShortCode Link) Op.Reply (Memory Link) where
  allows memory op := (contract linkEntity Cacheable).allows memory op ∧ asks memory op
  replies := (contract linkEntity Cacheable).replies

/-- What a returned call knows of the row it was last handed. -/
def Knows : Call → Memory Link → Reply → Prop
  | .create _ _ _, memory, .created (.ok link) => ∃ row, memory.held = some row ∧ row.value = link
  | .resolve raw, memory, .resolved (.ok target) =>
      ∃ row, memory.held = some row ∧ ShortCode.parse raw = .ok row.value.code ∧
        row.value.target = target
  | .get raw, memory, .got (.ok link) =>
      ShortCode.parse raw = .ok link.code ∧ ∃ row, memory.held = some row ∧ row.value = link
  | .delete raw, memory, .deleted (.ok ()) =>
      ∃ row, memory.held = some row ∧ ShortCode.parse raw = .ok row.value.code ∧
        memory.owned = true
  | .create _ _ _, _, .created (.error _) => True
  | .resolve _, _, .resolved (.error _) => True
  | .get _, _, .got (.error _) => True
  | .delete _, _, .deleted (.error _) => True
  | _, _, _ => False

section Safe

theorem asks_weaken {α : Type} {narrow wide : Memory Link → Op ShortCode Link → Prop}
    {program : Service α} {post : Memory Link → α → Prop} {memory : Memory Link}
    (asks : ∀ memory op, narrow memory op → wide memory op)
    (body : program.Safe (callContract narrow) post memory) :
    program.Safe (callContract wide) post memory :=
  Proc.safe_weaken _ _ _ _ _ body (fun memory op allowed => ⟨allowed.1, asks memory op allowed.2⟩)
    fun _ _ _ _ _ promised => promised

theorem createLoop_safe (target : TargetUrl) (createdAt : Int) (expiresAt : Option Int)
    (attempts : Nat) (memory : Memory Link) :
    (createLoop target createdAt expiresAt attempts).Safe (callContract createAsks)
      (fun after result => ∀ link, result = .ok link →
        ∃ row, after.held = some row ∧ row.value = link) memory := by
  induction attempts generalizing memory with
  | zero =>
      intro link impossible
      cases impossible
  | succ attempts ih =>
      refine ⟨⟨trivial, trivial⟩, ?_⟩
      intro draw _ _
      refine ⟨⟨trivial, trivial⟩, ?_⟩
      intro reply after promised
      cases reply with
      | error err =>
          cases err with
          | conflict => exact ih after
          | backend cause =>
              intro link impossible
              cases impossible
      | ok done =>
          obtain ⟨row, rfl, same⟩ := promised
          intro link made
          cases made
          exact ⟨row, rfl, same⟩

theorem createAlias_safe (requested : String) (target : TargetUrl) (createdAt : Int)
    (expiresAt : Option Int) (memory : Memory Link) :
    (createAlias requested target createdAt expiresAt).Safe (callContract createAsks)
      (fun after result => ∀ link, result = .ok link →
        ∃ row, after.held = some row ∧ row.value = link) memory := by
  unfold createAlias
  split
  · intro link impossible
    cases impossible
  · refine ⟨⟨trivial, trivial⟩, ?_⟩
    intro reply after promised
    cases reply with
    | error err =>
        intro link impossible
        cases impossible
    | ok done =>
        obtain ⟨row, rfl, same⟩ := promised
        intro link made
        cases made
        exact ⟨row, rfl, same⟩

theorem create_safe (settings : Settings) (url : String) (requested : Option String)
    (ttlSeconds : Option Nat) (memory : Memory Link) :
    (create settings url requested ttlSeconds).Safe (callContract createAsks)
      (fun after result => Knows (.create url requested ttlSeconds) after (.created result))
      memory := by
  unfold create
  split
  · trivial
  · split
    · trivial
    · refine ⟨⟨trivial, trivial⟩, ?_⟩
      intro now _ _
      have known : ∀ (after : Memory Link) (result : Except ServiceError Link),
          (∀ link, result = .ok link → ∃ row, after.held = some row ∧ row.value = link) →
          Knows (.create url requested ttlSeconds) after (.created result) := by
        intro after result known
        cases result with
        | error err => trivial
        | ok link => exact known link rfl
      cases requested with
      | none => exact Proc.safe_mono _ _ _ _ _ (createLoop_safe _ now _ _ _) known
      | some requested =>
          exact Proc.safe_mono _ _ _ _ _ (createAlias_safe requested _ now _ _) known

theorem fillCache_safe (code : ShortCode) (link : Link) (memory : Memory Link) (row : Row Link)
    (held : memory.held = some row) (same : row.value = link) (keyed : link.code = code) :
    (fillCache code link).Safe (callContract (resolveAsks code))
      (fun after _ => after.held = some row) memory := by
  have timed : (UseCase.cacheTtlSecs link.expiresAt).Safe (callContract (resolveAsks code))
      (fun after _ => after.held = some row) memory := by
    apply UseCase.cacheTtlSecs_safe (fun after : Memory Link => after.held = some row) _ held
    · exact ⟨trivial, trivial⟩
    · intro now after read
      subst read
      exact held
  unfold fillCache
  apply Proc.safe_bind _ _ _ _ _ _ timed
  · intro memory ttl held
    split
    · refine ⟨⟨⟨row, held, same ▸ keyed, same ▸ rfl⟩, rfl⟩, ?_⟩
      intro _ _ same
      subst same
      exact held
    · exact held

theorem resolveStored_safe (code : ShortCode) (memory : Memory Link) :
    (resolveStored code).Safe (callContract (resolveAsks code))
      (fun after result => ∀ target, result = .ok target →
        ∃ row, after.held = some row ∧ row.value.code = code ∧ row.value.target = target)
      memory := by
  simp only [resolveStored, Proc.call_bind, Proc.ret_bind, Proc.pure_eq]
  refine ⟨⟨trivial, rfl⟩, ?_⟩
  intro reply after promised
  rcases reply with err | found | link
  · intro target impossible
    cases impossible
  · intro target impossible
    cases impossible
  · obtain ⟨row, rfl, rfl, keyed⟩ := promised
    refine ⟨⟨trivial, trivial⟩, ?_⟩
    intro now _ read
    subst read
    beta_reduce
    split
    · rename_i expired
      refine ⟨⟨trivial, rfl, row, now, rfl, rfl, keyed, expired⟩, fun removed _ _ =>
        ⟨⟨trivial, rfl⟩, ?_⟩⟩
      intro _ _ _ target impossible
      cases impossible
    · refine Proc.safe_bind _ (fun after _ => after.held = some row) _ _ _ _
        (fillCache_safe code row.value _ row rfl rfl keyed) ?_
      intro after _ held
      refine ⟨⟨trivial, rfl⟩, ?_⟩
      intro _ _ same target resolved
      subst same
      cases resolved
      exact ⟨row, held, keyed, rfl⟩

theorem resolve_safe (raw : String) (memory : Memory Link) :
    (resolve raw).Safe (callContract (Call.resolve raw).Asks)
      (fun after result => Knows (.resolve raw) after (.resolved result)) memory := by
  unfold resolve
  split
  · trivial
  · rename_i code parsed
    apply asks_weaken (fun memory op own => ⟨code, parsed, own⟩)
    refine ⟨⟨trivial, rfl⟩, ?_⟩
    intro reply after promised
    cases reply with
    | none =>
        refine Proc.safe_mono _ _ _ _ _ (resolveStored_safe code after) ?_
        intro final result stored
        cases result with
        | error err => trivial
        | ok target =>
            obtain ⟨row, held, rfl, same⟩ := stored target rfl
            exact ⟨row, held, parsed, same⟩
    | some text =>
        obtain ⟨row, rfl, keyed, rfl⟩ := promised
        refine ⟨⟨trivial, rfl⟩, ?_⟩
        intro _ _ same
        subst same
        exact ⟨row, rfl, parsed.trans (congrArg Except.ok keyed.symm), rfl⟩

theorem get_safe (raw : String) (memory : Memory Link) :
    (get raw).Safe (callContract (Call.get raw).Asks)
      (fun after result => Knows (.get raw) after (.got result)) memory := by
  unfold get
  split
  · trivial
  · rename_i code parsed
    apply asks_weaken (fun memory op own => ⟨code, parsed, own⟩)
    refine ⟨⟨trivial, rfl⟩, ?_⟩
    simp only [Proc.call_bind, Proc.ret_bind, Proc.pure_eq]
    intro reply after promised
    rcases reply with err | found | link
    · trivial
    · trivial
    · obtain ⟨row, rfl, rfl, keyed⟩ := promised
      refine ⟨⟨trivial, trivial⟩, ?_⟩
      intro now _ read
      subst read
      beta_reduce
      split
      · rename_i expired
        exact ⟨⟨trivial, rfl, row, now, rfl, rfl, keyed, expired⟩, fun _ _ _ => trivial⟩
      · exact ⟨parsed.trans (congrArg Except.ok keyed.symm), row, rfl, rfl⟩

theorem delete_safe (raw : String) (memory : Memory Link) :
    (delete raw).Safe (callContract (Call.delete raw).Asks)
      (fun after result => Knows (.delete raw) after (.deleted result)) memory := by
  unfold delete
  split
  · trivial
  · rename_i code parsed
    apply asks_weaken (fun memory op own => ⟨code, parsed, own⟩)
    refine ⟨⟨trivial, rfl⟩, ?_⟩
    intro reply after promised
    rcases reply with err | removed | removed
    · trivial
    · refine ⟨⟨trivial, rfl⟩, ?_⟩
      intro _ _ _
      trivial
    · obtain ⟨row, rfl, keyed⟩ := promised
      refine ⟨⟨trivial, rfl⟩, ?_⟩
      intro _ _ same
      subst same
      exact ⟨row, rfl, parsed.trans (congrArg Except.ok keyed.symm), rfl⟩

theorem program_safe (settings : Settings) (call : Call) :
    (call.program settings).Safe (callContract call.Asks) (Knows call) .none := by
  cases call with
  | create url requested ttlSeconds =>
      exact Proc.safe_bind _ _ _ _ _ _ (create_safe settings url requested ttlSeconds _)
        fun _ _ known => known
  | resolve raw => exact Proc.safe_bind _ _ _ _ _ _ (resolve_safe raw _) fun _ _ known => known
  | get raw => exact Proc.safe_bind _ _ _ _ _ _ (get_safe raw _) fun _ _ known => known
  | delete raw => exact Proc.safe_bind _ _ _ _ _ _ (delete_safe raw _) fun _ _ known => known

end Safe

/-- The invariant of every run: the stores are consistent, and every returned
call knows what it returned. -/
abbrev Held (calls : Nat → Call) (config : LinkCalls) : Prop :=
  Sound (fun caller => callContract (calls caller).Asks) (Consistent linkEntity Cacheable)
    (Remembers linkEntity) (fun caller => Knows (calls caller)) config

section Run

variable {settings : Settings} {calls : Nat → Call} {config next : LinkCalls}
  {labels : List LinkLabel}

theorem link_rule : Rule (α := Reply) linkStores (fun _ _ => True)
    (fun caller => callContract (calls caller).Asks) (Consistent linkEntity Cacheable)
    (Remembers linkEntity) :=
  service_rule (fun _ _ _ allowed => allowed.1) fun _ _ _ _ _ _ _ _ _ _ _ _ promised => promised

theorem held_step {label : LinkLabel} (held : Held calls config)
    (taken : callStep settings calls config label = some next) : Held calls next :=
  held.step link_rule (fun caller => program_safe settings (calls caller)) trivial taken

theorem runCalls_held (ran : runCalls settings calls labels = some config) : Held calls config :=
  (Sound.initial _ .empty).run link_rule (fun caller => program_safe settings (calls caller))
    (fun _ _ _ _ _ _ => trivial) ran

end Run

end ActorServices.UrlShortener
