import ActorServices.LinkConcurrent
import ActorServices.PasteConcurrent
import ActorServices.ServiceCreate

set_option autoImplicit false

namespace ActorServices

open Interleave Environment

namespace UrlShortener

/-- A link nobody has followed yet. -/
def Link.Fresh (link : Link) : Prop := link.hits = 0

def CreateFailed (result : Except ServiceError Link) : Prop := ∃ err, result = .error err

/-- The link is what `create` makes at this time, under some code. -/
def Link.Made (target : TargetUrl) (createdAt : Int) (expiresAt : Option Int) (link : Link) :
    Prop :=
  link = .withExpiry link.code target createdAt expiresAt

theorem Link.Made.fresh {target : TargetUrl} {createdAt : Int} {expiresAt : Option Int}
    {link : Link} (made : link.Made target createdAt expiresAt) : link.Fresh := by
  unfold Link.Made at made
  rw [made]
  rfl

theorem createLoop_creating (target : TargetUrl) (createdAt : Int) (expiresAt : Option Int)
    (attempts : Nat) :
    Creating (Link.Made target createdAt expiresAt) .ok CreateFailed
      (createLoop target createdAt expiresAt attempts) := by
  induction attempts with
  | zero => exact ⟨.conflict, rfl⟩
  | succ attempts ih =>
      intro draw
      refine ⟨rfl, rfl, fun err => ?_⟩
      cases err with
      | conflict => exact ih
      | backend cause => exact ⟨.backend cause, rfl⟩

theorem createAlias_creating (requested : String) (target : TargetUrl) (createdAt : Int)
    (expiresAt : Option Int) :
    Creating (Link.Made target createdAt expiresAt) .ok CreateFailed
      (createAlias requested target createdAt expiresAt) := by
  unfold createAlias
  split
  · rename_i err _
    exact ⟨.validation err, rfl⟩
  · exact ⟨rfl, rfl, fun err => ⟨.fromRepo err, rfl⟩⟩

theorem create_creating (settings : Settings) (url : String) (requested : Option String)
    (ttlSeconds : Option Nat) :
    Creating Link.Fresh .ok CreateFailed (create settings url requested ttlSeconds) := by
  unfold create
  split
  · rename_i err _
    exact ⟨.validation err, rfl⟩
  · rename_i target _
    split
    · exact ⟨.blocked, rfl⟩
    · intro now
      cases requested with
      | none =>
          exact creating_mono (createLoop_creating target now _ _) fun _ made => made.fresh
      | some requested =>
          exact creating_mono (createAlias_creating requested target now _) fun _ made => made.fresh

def Call.IsCreate (call : Call) : Prop :=
  ∃ url requested ttlSeconds, call = .create url requested ttlSeconds

theorem create_call_creating {call : Call} (settings : Settings) (creates : call.IsCreate) :
    Creating Link.Fresh (fun link => Reply.created (.ok link))
      (fun reply => ∃ err, reply = .created (.error err)) (call.program settings) := by
  obtain ⟨url, requested, ttlSeconds, rfl⟩ := creates
  apply creating_map Reply.created (create_creating settings url requested ttlSeconds)
  intro result failure
  obtain ⟨err, rfl⟩ := failure
  exact ⟨err, rfl⟩

end UrlShortener

namespace Pastebin

/-- A paste nobody has fetched yet. -/
def Paste.Fresh (paste : Paste) : Prop := paste.views = 0

def CreateFailed (result : Except ServiceError Paste) : Prop := ∃ err, result = .error err

/-- The paste is what `create` makes at this time, under some id. -/
def Paste.Made (content : Content) (syntaxHint : Option String) (createdAt : Int)
    (expiresAt : Option Int) (oneShot : Bool) (paste : Paste) : Prop :=
  paste = .new paste.id content syntaxHint createdAt expiresAt oneShot

theorem Paste.Made.fresh {content : Content} {syntaxHint : Option String} {createdAt : Int}
    {expiresAt : Option Int} {oneShot : Bool} {paste : Paste}
    (made : paste.Made content syntaxHint createdAt expiresAt oneShot) : paste.Fresh := by
  unfold Paste.Made at made
  rw [made]
  rfl

theorem createLoop_creating (content : Content) (syntaxHint : Option String) (createdAt : Int)
    (expiresAt : Option Int) (oneShot : Bool) (attempts : Nat) :
    Creating (Paste.Made content syntaxHint createdAt expiresAt oneShot) .ok CreateFailed
      (createLoop content syntaxHint createdAt expiresAt oneShot attempts) := by
  induction attempts with
  | zero => exact ⟨.conflict, rfl⟩
  | succ attempts ih =>
      intro draw
      refine ⟨rfl, rfl, fun err => ?_⟩
      cases err with
      | conflict => exact ih
      | backend cause => exact ⟨.backend cause, rfl⟩

theorem create_creating (content : String) (syntaxHint : Option String)
    (ttlSeconds : Option Nat) (oneShot : Bool) :
    Creating Paste.Fresh .ok CreateFailed (create content syntaxHint ttlSeconds oneShot) := by
  unfold create
  split
  · rename_i err _
    exact ⟨.validation err, rfl⟩
  · intro now
    exact creating_mono (createLoop_creating _ syntaxHint now _ oneShot _) fun _ made => made.fresh

def Call.IsCreate (call : Call) : Prop :=
  ∃ content syntaxHint ttlSeconds oneShot, call = .create content syntaxHint ttlSeconds oneShot

theorem create_call_creating {call : Call} (codec : JsonCodec) (creates : call.IsCreate) :
    Creating Paste.Fresh (fun paste => Reply.created (.ok paste))
      (fun reply => ∃ err, reply = .created (.error err)) (call.program codec) := by
  obtain ⟨content, syntaxHint, ttlSeconds, oneShot, rfl⟩ := creates
  apply creating_map Reply.created (create_creating content syntaxHint ttlSeconds oneShot)
  intro result failure
  obtain ⟨err, rfl⟩ := failure
  exact ⟨err, rfl⟩

end Pastebin

/-- Whatever calls run beside them, from whatever stores, and however the awaits interleave and
fail: the `create` calls of a `LinkService` are all-or-nothing. -/
def LinkCreates (settings : UrlShortener.Settings) (calls : Nat → UrlShortener.Call)
    (stores : Shared UrlShortener.ShortCode UrlShortener.Link)
    (labels : List UrlShortener.LinkLabel) : Prop :=
  ∀ config, run UrlShortener.linkStores (fun caller => (calls caller).program settings)
      (.initial stores) labels = some config →
    Creates UrlShortener.linkEntity (fun caller => (calls caller).program settings)
      (.initial stores) labels config (fun caller => (calls caller).IsCreate)
      UrlShortener.Link.Fresh (fun link => .created (.ok link))
      (fun reply => ∃ err, reply = .created (.error err))

/-- The same of the `create` calls of a `PasteService`. -/
def PasteCreates (codec : Pastebin.JsonCodec) (calls : Nat → Pastebin.Call)
    (stores : Shared Pastebin.PasteId Pastebin.Paste) (labels : List Pastebin.PasteLabel) : Prop :=
  ∀ config, run Pastebin.pasteStores (fun caller => (calls caller).program codec)
      (.initial stores) labels = some config →
    Creates Pastebin.pasteEntity (fun caller => (calls caller).program codec)
      (.initial stores) labels config (fun caller => (calls caller).IsCreate)
      Pastebin.Paste.Fresh (fun paste => .created (.ok paste))
      (fun reply => ∃ err, reply = .created (.error err))

theorem creates_atomic :
    (∀ settings calls stores labels, LinkCreates settings calls stores labels) ∧
      ∀ codec calls stores labels, PasteCreates codec calls stores labels := by
  constructor
  · intro settings calls stores labels config ran
    apply run_creates _ _ _ (fun _ _ => rfl) ran
    · intro link failure
      obtain ⟨err, impossible⟩ := failure
      cases impossible
    · intro link other same
      injection same with same
      exact Except.ok.inj same
    · exact fun caller creates => UrlShortener.create_call_creating settings creates
  · intro codec calls stores labels config ran
    apply run_creates _ _ _ (fun _ _ => rfl) ran
    · intro paste failure
      obtain ⟨err, impossible⟩ := failure
      cases impossible
    · intro paste other same
      injection same with same
      exact Except.ok.inj same
    · exact fun caller creates => Pastebin.create_call_creating codec creates

def reuseCalls : Nat → UrlShortener.Call
  | 0 => .create "https://example.com" (some "a") none
  | 1 => .create "https://example.org" (some "a") none
  | 2 => .delete "a"
  | 3 => .create "https://example.org" (some "a") none
  | _ => .get ""

/-- The second `create` finds the alias taken; the third comes after a `delete`. -/
def reuseLabels : List UrlShortener.LinkLabel :=
  [.start 0, .start 1, .step 0 .done, .step 1 .done, .step 0 .done, .step 1 .done,
    .start 2, .step 2 .done, .start 3, .step 3 .done, .step 3 .done]

def reuseLink (url : String) : UrlShortener.Link := .withExpiry ⟨"a"⟩ ⟨url⟩ 0 none

def repeatCalls : Nat → Pastebin.Call
  | 2 => .delete "AAAAAAAA"
  | _ => .create "text" none none false

/-- The second `create` draws an id that is taken and then meets a failure; the third draws
the same id after a `delete`. -/
def repeatLabels : List Pastebin.PasteLabel :=
  [.start 0, .start 1, .step 0 .done, .step 1 .done, .step 0 (.drew fun _ => 0), .step 0 .done,
    .step 1 (.drew fun _ => 0), .step 1 .done, .step 1 (.drew fun _ => 1),
    .step 1 (.failed "disk full"), .start 2, .step 2 .done, .start 3, .step 3 .done,
    .step 3 (.drew fun _ => 0), .step 3 .done]

def repeatPaste : Pastebin.Paste := .new ⟨"AAAAAAAA"⟩ ⟨"text"⟩ none 0 none false

def repeatCodec : Pastebin.JsonCodec := .single (.fromPaste repeatPaste) "text"

theorem reuseCalls_end :
    (run UrlShortener.linkStores (fun caller => (reuseCalls caller).program
      UrlShortener.exampleSettings) (.initial .empty) reuseLabels).map (fun config =>
        [0, 1, 3].map fun caller => (config.result? caller).map Prod.fst) =
      some [some (.created (.ok (reuseLink "https://example.com"))),
        some (.created (.error .conflict)),
        some (.created (.ok (reuseLink "https://example.org")))] := by
  decide +kernel

theorem repeatCalls_end :
    (run Pastebin.pasteStores (fun caller => (repeatCalls caller).program repeatCodec)
      (.initial .empty) repeatLabels).map (fun config =>
        [0, 1, 3].map fun caller => (config.result? caller).map Prod.fst) =
      some [some (.created (.ok repeatPaste)), some (.created (.error (.backend "disk full"))),
        some (.created (.ok repeatPaste))] := by
  decide +kernel

theorem creates_atomic_reused :
    (∃ config, run UrlShortener.linkStores (fun caller => (reuseCalls caller).program
        UrlShortener.exampleSettings) (.initial .empty) reuseLabels = some config ∧
      Creates UrlShortener.linkEntity (fun caller => (reuseCalls caller).program
        UrlShortener.exampleSettings) (.initial .empty) reuseLabels config
        (fun caller => (reuseCalls caller).IsCreate) UrlShortener.Link.Fresh
        (fun link => .created (.ok link)) (fun reply => ∃ err, reply = .created (.error err))) ∧
    ∃ config, run Pastebin.pasteStores (fun caller => (repeatCalls caller).program repeatCodec)
        (.initial .empty) repeatLabels = some config ∧
      Creates Pastebin.pasteEntity (fun caller => (repeatCalls caller).program repeatCodec)
        (.initial .empty) repeatLabels config (fun caller => (repeatCalls caller).IsCreate)
        Pastebin.Paste.Fresh (fun paste => .created (.ok paste))
        (fun reply => ∃ err, reply = .created (.error err)) := by
  constructor
  · obtain ⟨config, ran, _⟩ := Option.map_eq_some_iff.mp reuseCalls_end
    exact ⟨config, ran, creates_atomic.1 _ reuseCalls _ reuseLabels config ran⟩
  · obtain ⟨config, ran, _⟩ := Option.map_eq_some_iff.mp repeatCalls_end
    exact ⟨config, ran, creates_atomic.2 _ repeatCalls _ repeatLabels config ran⟩

end ActorServices
