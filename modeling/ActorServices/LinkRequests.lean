import ActorServices.CreateCalls
import ActorServices.LinkCreate
import ActorServices.RequestCalls
import ActorServices.ServiceMade
import ActorServices.ServiceMetrics

set_option autoImplicit false

namespace ActorServices.UrlShortener

open Api Interleave Environment

/-- The call creates such a link from what it is given, under a code that it would accept. -/
def Gives (settings : Settings) (calls : Nat → Call) (caller : Nat) (link : Link) : Prop :=
  ∃ url requested ttlSeconds, calls caller = .create url requested ttlSeconds ∧
    TargetUrl.parse settings.urls url = .ok link.target ∧ settings.isBlocked link.target = false ∧
      ShortCode.parse link.code.value = .ok link.code ∧
        ∀ text, requested = some text → link.code = ⟨text⟩

section Creators

variable {settings : Settings} {calls : Nat → Call} {config : LinkCalls} {labels : List LinkLabel}
  {caller : Nat}

theorem createLoop_of (target : TargetUrl) (createdAt : Int) (expiresAt : Option Int)
    (attempts : Nat) :
    Creating (fun link : Link => link.target = target ∧
        ShortCode.parse link.code.value = .ok link.code)
      .ok CreateFailed (createLoop target createdAt expiresAt attempts) := by
  induction attempts with
  | zero => exact ⟨.conflict, rfl⟩
  | succ attempts ih =>
      intro draw
      refine ⟨⟨rfl, parseIdentifier_generated (by decide) (by decide) draw⟩, rfl, fun err => ?_⟩
      cases err with
      | conflict => exact ih
      | backend cause => exact ⟨.backend cause, rfl⟩

theorem createAlias_of (requested : String) (target : TargetUrl) (createdAt : Int)
    (expiresAt : Option Int) :
    Creating (fun link : Link => link.target = target ∧
        ShortCode.parse link.code.value = .ok link.code ∧ link.code = ⟨requested⟩)
      .ok CreateFailed (createAlias requested target createdAt expiresAt) := by
  unfold createAlias
  split
  · rename_i err _
    exact ⟨.validation err, rfl⟩
  · rename_i code parsed
    obtain rfl := parse_code parsed
    exact ⟨⟨rfl, parsed, rfl⟩, rfl, fun err => ⟨.fromRepo err, rfl⟩⟩

theorem create_of (settings : Settings) (url : String) (requested : Option String)
    (ttlSeconds : Option Nat) :
    Creating (fun link : Link => TargetUrl.parse settings.urls url = .ok link.target ∧
        settings.isBlocked link.target = false ∧ ShortCode.parse link.code.value = .ok link.code ∧
          ∀ text, requested = some text → link.code = ⟨text⟩)
      .ok CreateFailed (create settings url requested ttlSeconds) := by
  unfold create
  split
  · rename_i err _
    exact ⟨.validation err, rfl⟩
  · rename_i target parsed
    split
    · exact ⟨.blocked, rfl⟩
    · rename_i free
      have allowed : settings.isBlocked target = false := Bool.eq_false_iff.mpr free
      intro now
      cases requested with
      | none =>
          refine creating_mono (createLoop_of target now _ _) ?_
          rintro link ⟨rfl, coded⟩
          exact ⟨parsed, allowed, coded, nofun⟩
      | some requested =>
          refine creating_mono (createAlias_of requested target now _) ?_
          rintro link ⟨rfl, coded, same⟩
          refine ⟨parsed, allowed, coded, fun text asked => ?_⟩
          cases asked
          exact same

theorem create_gives {url : String} {requested : Option String} {ttlSeconds : Option Nat}
    (call : calls caller = .create url requested ttlSeconds) :
    Creating (Gives settings calls caller) (fun link => Reply.created (.ok link))
      (fun reply => ∃ err, reply = .created (.error err)) ((calls caller).program settings) := by
  rw [call]
  refine creating_mono
    (creating_map Reply.created (create_of settings url requested ttlSeconds) ?_) ?_
  · rintro result ⟨err, rfl⟩
    exact ⟨err, rfl⟩
  · exact fun link given => ⟨url, requested, ttlSeconds, call, given⟩

/-- A call that awaits an insert is one that creates. -/
theorem inserts_creating (ran : runCalls settings calls labels = some config) {link : Link}
    {memory : Memory Link} (awaits : config.Awaits caller (.repoInsert link) memory) :
    Creating (Gives settings calls caller) (fun link => Reply.created (.ok link))
      (fun reply => ∃ err, reply = .created (.error err))
      ((calls caller).program settings) := by
  have asked := ((runCalls_held ran).awaits awaits).2
  cases call : calls caller with
  | create url requested ttlSeconds => exact call ▸ create_gives call
  | resolve raw =>
      rw [call] at asked
      obtain ⟨own, -, impossible⟩ := asked
      exact impossible.elim
  | get raw =>
      rw [call] at asked
      obtain ⟨own, -, impossible⟩ := asked
      exact impossible.elim
  | delete raw =>
      rw [call] at asked
      obtain ⟨own, -, impossible⟩ := asked
      exact impossible.elim

/-- Every link that was ever stored has a call that created it and has returned it. -/
theorem made_credited (ran : runCalls settings calls labels = some config) {link : Link}
    {stamp : Nat} (made : config.shared.made[stamp]? = some link) :
    ∃ creator memory, Gives settings calls creator link ∧
      config.Returned creator (.created (.ok link)) memory := by
  have creators : ∀ history middle caller link memory,
      run linkStores (fun caller => (calls caller).program settings) (.initial .empty) history =
        some middle → middle.Awaits caller (.repoInsert link) memory →
      Creating (Gives settings calls caller) (fun link => Reply.created (.ok link))
        (fun reply => ∃ err, reply = .created (.error err)) ((calls caller).program settings) :=
    fun _ _ _ _ _ reached awaits => inserts_creating reached awaits
  obtain ⟨creator, gives, memory, row, returned, -⟩ :=
    made_by (fun _ => rfl) creators rfl ran made
  exact ⟨creator, memory, gives, returned⟩

theorem created_gives (ran : runCalls settings calls labels = some config) {link : Link}
    {memory : Memory Link} (returned : config.Returned caller (.created (.ok link)) memory) :
    Gives settings calls caller link ∧ ∃ (stamp : Nat) (made : Link) (hits : Int),
      config.shared.made[stamp]? = some made ∧ link = made.addHits hits := by
  have held := runCalls_held ran
  have knows := held.returned returned
  cases call : calls caller with
  | create url requested ttlSeconds =>
      rw [call] at knows
      obtain ⟨row, holds, same⟩ := knows
      obtain ⟨made, hits, here, counted⟩ := held.memory caller _ returned row holds
      refine ⟨?_, row.stamp, made, hits, here, same.symm.trans counted⟩
      rcases returned_created (create_gives call) rfl ran returned with
        ⟨⟨err, failed⟩, -⟩ | ⟨new, gives, reply, -⟩
      · cases failed
      · cases reply
        exact gives
  | resolve raw =>
      rw [call] at knows
      exact knows.elim
  | get raw =>
      rw [call] at knows
      exact knows.elim
  | delete raw =>
      rw [call] at knows
      exact knows.elim

end Creators

/-- The request posts a URL that passes the checks, under the code if it asks for one. -/
structure App.Accepts (app : App) (request : Request) (req : CreateLinkRequest) (code : String) :
    Prop where
  routed : dispatch request.method request.path = .createLink
  read : app.extract request.headers request.body = .ok req
  valid : TargetUrl.parse app.settings.urls req.url = .ok ⟨req.url⟩
  allowed : app.settings.isBlocked ⟨req.url⟩ = false
  requested : ∀ text, req.requested = some text → text = code

theorem creates_post {method : Method} {path : String}
    (routed : dispatch method path = .createLink) :
    method = .post := by
  have other : ∀ values handler, (∀ text, handler text ≠ Dispatched.createLink) →
      withParam values handler ≠ .createLink := by
    intro values handler apart
    unfold withParam
    split
    · split
      · exact apart _
      · nofun
    · nofun
  unfold dispatch at routed
  split at routed
  · cases routed
  · split at routed
    all_goals first
      | rfl
      | cases routed
      | exact absurd routed (other _ _ nofun)

/-- The handler of the request has created the link and answers 201 with its code. -/
def App.Created (app : App) (config : ApiConfig ShortCode Link) (caller : Nat) (link : Link) :
    Prop :=
  Responded config caller (json 201 (CreateLinkResponse.fromLink link app.publicBaseUrl).fields)

section Requests

variable {app : App} {requests : Nat → Request} {caller : Nat}

theorem Gives.accepts {link : Link} {code : String}
    (gives : Gives app.settings (app.calls requests) caller link) (coded : link.code = ⟨code⟩) :
    ∃ req, app.Accepts (requests caller) req code ∧ link.target.value = req.url := by
  obtain ⟨url, requested, ttlSeconds, call, valid, allowed, -, asked⟩ := gives
  unfold App.calls App.callOf at call
  split at call
  · rename_i routed
    split at call
    · rename_i req read
      cases call
      have target := parse_target valid
      rw [target] at valid allowed
      refine ⟨req, ⟨routed, read, valid, allowed, fun text same => ?_⟩, by rw [target]⟩
      cases (asked text same).symm.trans coded
      rfl
    · cases call
  · cases call
  · cases call
  · cases call
  · cases call

end Requests

end ActorServices.UrlShortener
