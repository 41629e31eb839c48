import ActorServices.LinkRequests
import ActorServices.RequestFound

set_option autoImplicit false

namespace ActorServices.UrlShortener

open Api Interleave Environment

/-- What a call for the link comes to. -/
inductive Finds (made : Link) (waiting failing : Prop) : Reply → Prop
  | resolved : Finds made waiting failing (.resolved (.ok made.target))
  | got (hits : Int) : Finds made waiting failing (.got (.ok (made.addHits hits)))
  | unresolved (gone : ¬ waiting) : Finds made waiting failing (.resolved (.error .notFound))
  | ungot (gone : ¬ waiting) : Finds made waiting failing (.got (.error .notFound))
  | failedResolve (cause : String) (fails : failing) :
      Finds made waiting failing (.resolved (.error (.backend cause)))
  | failedGet (cause : String) (fails : failing) :
      Finds made waiting failing (.got (.error (.backend cause)))

/-- An error in the end is one of the backend, if the link was there. -/
theorem Finds.backend {made : Link} {failing : Prop} {reply : Reply} {err : ServiceError}
    (finds : Finds made True failing reply)
    (failed : reply = .created (.error err) ∨ reply = .resolved (.error err) ∨
      reply = .got (.error err) ∨ reply = .deleted (.error err)) :
    failing ∧ ∃ cause, err = .backend cause := by
  cases finds with
  | resolved => rcases failed with other | other | other | other <;> cases other
  | got hits => rcases failed with other | other | other | other <;> cases other
  | unresolved gone => exact absurd trivial gone
  | ungot gone => exact absurd trivial gone
  | failedResolve cause fails =>
      rcases failed with other | other | other | other <;> cases other
      exact ⟨fails, cause, rfl⟩
  | failedGet cause fails =>
      rcases failed with other | other | other | other <;> cases other
      exact ⟨fails, cause, rfl⟩

/-- What a call for the link meets before it expires. -/
abbrev linkContract (made : Link) (waiting failing : Prop) :
    Contract (Op ShortCode Link) Op.Reply (Memory Link) :=
  findContract linkEntity Cacheable made (fun now => made.isExpired now = false) waiting failing

section Finds

variable {made : Link} {waiting failing : Prop} (memory : Memory Link)

theorem fillCache_finds (link : Link) :
    (fillCache made.code link).Safe (linkContract made waiting failing) (fun _ _ => True)
      memory := by
  unfold fillCache
  refine Proc.safe_bind _ (fun _ _ => True) _ _ _ _ ?_ ?_
  · exact UseCase.cacheTtlSecs_safe (fun _ => True) _ trivial (Or.inl rfl) fun _ _ _ => trivial
  · intro after ttl _
    split
    · exact ⟨Or.inr rfl, fun _ _ _ => trivial⟩
    · trivial

theorem resolveStored_finds :
    (resolveStored made.code).Safe (linkContract made waiting failing)
      (fun _ result => Finds made waiting failing (.resolved result)) memory := by
  simp only [resolveStored, Proc.call_bind, Proc.ret_bind, Proc.pure_eq]
  refine ⟨Or.inr rfl, ?_⟩
  intro reply after promised
  rcases reply with err | found | link
  · obtain ⟨fails, cause, rfl⟩ := promised
    exact .failedResolve cause fails
  · exact .unresolved promised
  · obtain ⟨hits, rfl⟩ := promised
    refine ⟨Or.inl rfl, ?_⟩
    intro now after live
    have live : (linkEntity.bump hits made).isExpired now = false := live
    simp only [live, Bool.false_eq_true, ↓reduceIte]
    refine Proc.safe_bind _ (fun _ _ => True) _ _ _ _ (fillCache_finds after _) ?_
    intro _ _ _
    exact ⟨Or.inr rfl, fun _ _ _ => .resolved⟩

theorem resolve_finds {raw : String} (parsed : ShortCode.parse raw = .ok made.code) :
    (resolve raw).Safe (linkContract made waiting failing)
      (fun _ result => Finds made waiting failing (.resolved result)) memory := by
  simp only [resolve, parsed]
  refine ⟨Or.inr rfl, ?_⟩
  intro reply after promised
  cases reply with
  | none => exact resolveStored_finds after
  | some text =>
      obtain ⟨hits, rfl⟩ := promised
      exact ⟨Or.inr rfl, fun _ _ _ => .resolved⟩

theorem get_finds {raw : String} (parsed : ShortCode.parse raw = .ok made.code) :
    (get raw).Safe (linkContract made waiting failing)
      (fun _ result => Finds made waiting failing (.got result)) memory := by
  simp only [get, parsed, Proc.call_bind, Proc.ret_bind, Proc.pure_eq]
  refine ⟨Or.inr rfl, ?_⟩
  intro reply after promised
  rcases reply with err | found | link
  · obtain ⟨fails, cause, rfl⟩ := promised
    exact .failedGet cause fails
  · exact .ungot promised
  · obtain ⟨hits, rfl⟩ := promised
    refine ⟨Or.inl rfl, ?_⟩
    intro now after live
    have live : (linkEntity.bump hits made).isExpired now = false := live
    simp only [live, Bool.false_eq_true, ↓reduceIte]
    exact .got hits

end Finds

/-- A call for the link of this code. -/
def Seeks (calls : Nat → Call) (code : ShortCode) (caller : Nat) : Prop :=
  ∃ raw, (calls caller = .resolve raw ∨ calls caller = .get raw) ∧ ShortCode.parse raw = .ok code

/-- Nobody asks for the link to be deleted. -/
theorem calls_seeking {settings : Settings} {calls : Nat → Call} {made : Link}
    (spared : ∀ caller raw, calls caller = .delete raw → ShortCode.parse raw ≠ .ok made.code) :
    Seeking linkEntity Cacheable (fun caller => (calls caller).program settings)
      (fun caller => callContract (calls caller).Asks) (fun caller => Knows (calls caller))
      made (fun now => made.isExpired now = false) (Seeks calls made.code) (Finds made) where
  rule := link_rule
  safe caller := program_safe settings (calls caller)
  removes caller memory op allowed removal := by
    rcases removal with rfl | rfl
    · exact absurd allowed.2 asks_take
    · have asks := allowed.2
      cases call : calls caller with
      | create _ _ _ =>
          rw [call] at asks
          exact asks.elim
      | resolve raw =>
          rw [call] at asks
          obtain ⟨own, parsed, rfl, -⟩ := asks
          exact ⟨raw, .inl call, parsed⟩
      | get raw =>
          rw [call] at asks
          obtain ⟨own, parsed, rfl, -⟩ := asks
          exact ⟨raw, .inr call, parsed⟩
      | delete raw =>
          rw [call] at asks
          obtain ⟨own, parsed, rfl⟩ := asks
          exact absurd parsed (spared caller raw call)
  finding caller waiting failing seeks := by
    obtain ⟨raw, call | call, parsed⟩ := seeks
    · rw [call]
      exact Proc.safe_bind _ _ _ _ _ _ (resolve_finds .none parsed) fun _ _ finds => finds
    · rw [call]
      exact Proc.safe_bind _ _ _ _ _ _ (get_finds .none parsed) fun _ _ finds => finds

section Routes

variable {app : App} {requests : Nat → Request} {caller : Nat}

/-- A call that deletes is that of a request to delete. -/
theorem calls_delete {raw : String} (call : app.calls requests caller = .delete raw) :
    dispatch (requests caller).method (requests caller).path = .deleteLink raw := by
  unfold App.calls App.callOf at call
  split at call
  · split at call
    · cases call
    · cases call
  · cases call
  · rename_i routed
    cases call
    exact routed
  · cases call
  · cases call

theorem CreateLinkResponse.fields_injective {left right : CreateLinkResponse}
    (same : left.fields = right.fields) : left = right := by
  simp only [CreateLinkResponse.fields, List.cons.injEq, Prod.mk.injEq, Scalar.text.injEq,
    Scalar.number.injEq, true_and, and_true] at same
  obtain ⟨code, shortUrl, target, created, expires⟩ := same
  cases left
  cases right
  cases nullable_number expires
  simp_all

/-- The client asked for this link to be created. -/
def App.Posts (app : App) (request : Request) (req : CreateLinkRequest) : Prop :=
  dispatch request.method request.path = .createLink ∧
    app.extract request.headers request.body = .ok req

theorem failure_refused (err : ServiceError) :
    400 ≤ (intoResponse (AppError.fromService err)).status := by
  cases err <;> simp [intoResponse, json, AppError.fromService, AppError.status]

/-- A request to create that is answered with 201 has created a link. -/
theorem posted_created {config : ApiConfig ShortCode Link} {whole : LinkCalls}
    {req : CreateLinkRequest} (mirrors : app.Mirrors requests config whole)
    (posts : app.Posts (requests caller) req) {response : Response}
    (responded : Responded config caller response) (status : response.status = 201) :
    ∃ link memory, whole.Returned caller (.created (.ok link)) memory ∧
      response = (json 201 (CreateLinkResponse.fromLink link app.publicBaseUrl).fields).answering
        (requests caller).method := by
  rcases mirrors.responded caller response responded with
    ⟨unasked, -⟩ | ⟨reply, memory, returned, answers⟩
  · cases unasked with
    | limited _ refused => cases status.symm.trans refused
    | rejected rejection _ read => cases read.symm.trans posts.2
    | other _ unasking =>
        rw [posts.1] at unasking
        cases unasking
  · cases answers with
    | created link _ => exact ⟨link, memory, returned, rfl⟩
    | redirected _ _ _ other _ => cases posts.1.symm.trans other
    | unsendable _ _ other _ => cases posts.1.symm.trans other
    | got _ _ other => cases posts.1.symm.trans other
    | deleted _ other => cases posts.1.symm.trans other
    | failed err _ _ =>
        rw [answering_status] at status
        have refused := failure_refused err
        omega

/-- The link that a request to create was told of, as its call has made it. -/
theorem answered_made {config : ApiConfig ShortCode Link} {whole : LinkCalls}
    {labels : List LinkLabel} {req : CreateLinkRequest} {created : CreateLinkResponse}
    (mirrors : app.Mirrors requests config whole)
    (followed : runCalls app.settings (app.calls requests) labels = some whole)
    (posts : app.Posts (requests caller) req)
    (answered : Responded config caller (json 201 created.fields)) :
    ∃ (stamp : Nat) (made : Link), config.shared.stores.made[stamp]? = some made ∧
      (∃ baseUrl, CreateLinkResponse.fromLink made baseUrl = created) ∧
      ShortCode.parse created.code = .ok made.code ∧ made.target.value = req.url := by
  obtain ⟨link, memory, returned, shown⟩ := posted_created mirrors posts answered rfl
  rw [creates_post posts.1] at shown
  have same : created = CreateLinkResponse.fromLink link app.publicBaseUrl :=
    CreateLinkResponse.fields_injective (Body.json.inj (congrArg Response.body shown))
  obtain ⟨gives, stamp, made, hits, here, rfl⟩ := created_gives followed returned
  obtain ⟨req', accepts, url⟩ := gives.accepts rfl
  obtain ⟨-, -, -, -, -, -, parsed, -⟩ := gives
  cases accepts.read.symm.trans posts.2
  rw [mirrors.stores] at here
  exact ⟨stamp, made, here, ⟨app.publicBaseUrl, same.symm⟩, same ▸ parsed, url⟩

end Routes

/-- What the handler of a request for a link returns that was created, if nobody deletes it and it
does not expire. -/
theorem link_found {app : App} {rps burst : UInt32} {requests : Nat → Request}
    {front rest : List (ApiLabel ShortCode)} {middle config : ApiConfig ShortCode Link}
    (reached : serve linkEntity app.answer requests (.start rps burst) front = some middle)
    (ran : run (environment linkEntity) (fun caller => app.answer (requests caller)) middle rest =
      some config)
    {creator reader : Nat} {req : CreateLinkRequest} {created : CreateLinkResponse}
    {response : Response} (posts : app.Posts (requests creator) req)
    (answered : Responded middle creator (json 201 created.fields))
    (once : Unrepeated linkEntity config.shared.stores ⟨created.code⟩)
    (spared : ∀ caller,
      dispatch (requests caller).method (requests caller).path ≠ .deleteLink created.code)
    (lives : Throughout (environment linkEntity) (fun caller => app.answer (requests caller))
      (fun config _ => isExpired created.expiresAt config.shared.stores.clock = false)
      (.initial (.start rps burst)) (front ++ rest))
    (idle : middle.threads reader = none)
    (routed : dispatch (requests reader).method (requests reader).path = .redirect created.code ∨
      dispatch (requests reader).method (requests reader).path = .getLink created.code)
    (responded : Responded config reader response) :
    response.status = 429 ∨
      (response.status = 500 ∧ (Fails reader rest ∨ headerValue req.url = none)) ∨
      (dispatch (requests reader).method (requests reader).path = .redirect created.code ∧
        ∃ location, headerValue req.url = some location ∧
          response = ⟨302, [("location", location)], .empty⟩) ∨
      dispatch (requests reader).method (requests reader).path = .getLink created.code ∧
        ∃ link, link.target.value = req.url ∧ link.code.value = created.code ∧
          link.createdAt = created.createdAt ∧ link.expiresAt = created.expiresAt ∧
          response = (json 200 (LinkResponse.fromLink link).fields).answering
            (requests reader).method := by
  obtain ⟨labels, whole, followed, mirrors⟩ := app.mirrors reached
  obtain ⟨stamp, made, here, ⟨baseUrl, rfl⟩, parsed, url⟩ :=
    answered_made mirrors followed posts answered
  have undeleted : ∀ caller raw, app.calls requests caller = .delete raw →
      ShortCode.parse raw ≠ .ok made.code := by
    intro caller raw call same
    apply spared caller
    rw [calls_delete call, CreateLinkResponse.fromLink, parse_code same]
  have seeks : Seeks (app.calls requests) made.code reader := by
    refine ⟨made.code.value, ?_, parsed⟩
    rcases routed with redirect | got
    · exact .inl (by simp only [App.calls, App.callOf, redirect, CreateLinkResponse.fromLink,
        Option.getD_some])
    · exact .inr (by simp only [App.calls, App.callOf, got, CreateLinkResponse.fromLink,
        Option.getD_some])
  obtain ⟨inner, carries, looks⟩ := requests_find (calls_seeking undeleted)
    (fun caller => app.answer_carries (requests caller)) reached ran here once lives idle seeks
  obtain ⟨memory, returned⟩ := responded
  rcases carries.returned returned with ⟨-, -, unasked, -⟩ | ⟨reply, ended, answers⟩
  · cases unasked with
    | limited _ status => exact .inl status
    | rejected _ other _ => rcases routed with redirect | got <;> cases other.symm.trans ‹_›
    | other _ unasking =>
        rcases routed with redirect | got <;> simp [*, Dispatched.asks] at unasking
  · have finds := looks _ ended
    cases answers with
    | created => cases finds
    | deleted => cases finds
    | redirected code target location there encoded =>
        cases finds
        rw [url] at encoded
        refine .inr (.inr (.inl ⟨?_, location, encoded, ?_⟩))
        · rcases routed with redirect | got
          · exact redirect
          · cases there.symm.trans got
        · cases (requests reader).method <;> rfl
    | unsendable code target there unfit =>
        cases finds
        rw [url] at unfit
        refine .inr (.inl ⟨?_, .inr unfit⟩)
        rw [answering_status]
        rfl
    | got code link there =>
        cases finds with
        | got hits =>
            refine .inr (.inr (.inr ⟨?_, made.addHits hits, url, rfl, rfl, rfl, rfl⟩))
            rcases routed with redirect | got
            · cases there.symm.trans redirect
            · exact got
    | failed err _ failed =>
        obtain ⟨fails, cause, rfl⟩ := finds.backend failed
        refine .inr (.inl ⟨?_, .inl fails⟩)
        rw [answering_status]
        rfl

/-- A link is found over HTTP. Its request was answered with the code; then a request for it
begins. If the code was used once, if nobody asks to delete it and the clock does not reach its
expiry, the answer leads to the posted URL, or shows it, unless the client is over its rate, an
await of that request itself fails at the backend, the URL is not fit for a header, or the
middleware answers in place of the handler. -/
theorem links_found {app : App} {middleware : Middleware} {rps burst : UInt32}
    {requests : Nat → Request} {front rest : List (ServingLabel ShortCode)}
    {middle serving : Serving ShortCode Link}
    (reached : serveAll linkEntity app.answer middleware requests (.start rps burst) front =
      some middle)
    (ran : Trace.run (servingStep linkEntity app.answer middleware requests) middle rest =
      some serving)
    {creator reader : Nat} {req : CreateLinkRequest} {created : CreateLinkResponse}
    {response : Response} (posts : app.Posts (requests creator) req)
    (told : middle.Answered creator (json 201 created.fields))
    (once : Unrepeated linkEntity serving.config.shared.stores ⟨created.code⟩)
    (spared : ∀ caller,
      dispatch (requests caller).method (requests caller).path ≠ .deleteLink created.code)
    (lives : Trace.Throughout (servingStep linkEntity app.answer middleware requests)
      (fun serving _ => isExpired created.expiresAt serving.config.shared.stores.clock = false)
      ⟨.initial (.start rps burst), fun _ => none⟩ (front ++ rest))
    (idle : middle.config.threads reader = none)
    (routed : dispatch (requests reader).method (requests reader).path = .redirect created.code ∨
      dispatch (requests reader).method (requests reader).path = .getLink created.code)
    (answered : serving.Answered reader response) :
    middleware.CutOff (requests reader) response ∨ response.status = 429 ∨
      (response.status = 500 ∧ (Fails reader (rest.filterMap ServingLabel.inside?) ∨
        headerValue req.url = none)) ∨
      (dispatch (requests reader).method (requests reader).path = .redirect created.code ∧
        ∃ location, headerValue req.url = some location ∧
          response = ⟨302, [("location", location)], .empty⟩) ∨
      dispatch (requests reader).method (requests reader).path = .getLink created.code ∧
        ∃ link, link.target.value = req.url ∧ link.code.value = created.code ∧
          link.createdAt = created.createdAt ∧ link.expiresAt = created.expiresAt ∧
          response = (json 200 (LinkResponse.fromLink link).fields).answering
            (requests reader).method := by
  rcases answered_responded (serveAll_append reached ran) answered with cut | responded
  · exact .inl cut
  · have told := answered_handled reached told (show 201 ≠ 408 by decide)
      (show 201 ≠ 500 by decide)
    have lives := serving_lives (fun now => isExpired created.expiresAt now = false) reached ran
      lives
    exact .inr (link_found (serveAll_serve reached) (serving_projects.run ran) posts told once
      spared lives idle routed responded)

def leadFront : List (ServingLabel ShortCode) :=
  ServingLabel.insides [.start 0, .step 0 (.sampled 0), .step 0 (.stores .done),
    .step 0 (.stores .done)] ++ [.sends 0]

def leadRest : List (ServingLabel ShortCode) :=
  ServingLabel.insides [.start 1, .step 1 (.sampled 0), .step 1 (.stores .done),
    .step 1 (.stores .done), .step 1 (.stores .done), .step 1 (.stores .done),
    .step 1 (.stores .done), .step 1 (.stores .done)] ++ [.sends 1]

def leadCreated : CreateLinkResponse :=
  ⟨"a", "http://localhost:8080/a", "https://example.com", 0, none⟩

def leadAway : Response := ⟨302, [("location", Utf8.encode "https://example.com".toList)], .empty⟩

def leadMiddle : Option (Serving ShortCode Link) :=
  serveAll linkEntity followApp.answer plainMiddleware followRequests (.start 0 0) leadFront

theorem leadMiddle_end : (leadMiddle.bind fun middle =>
    (Trace.run (servingStep linkEntity followApp.answer plainMiddleware followRequests) middle
      leadRest).map fun serving =>
        (middle.sent 0, (middle.config.threads 1).isNone,
          serving.config.shared.stores.made.length, serving.sent 1)) =
      some (some ⟨json 201 leadCreated.fields, false⟩, true, 1, some ⟨leadAway, false⟩) := by
  decide +kernel

theorem lead_spared (caller : Nat) :
    dispatch (followRequests caller).method (followRequests caller).path ≠
      .deleteLink leadCreated.code := by
  have reads : dispatch .get "/a" ≠ .deleteLink leadCreated.code := by
    decide
  cases caller with
  | zero => decide
  | succ caller => exact reads

theorem links_found_led : ∃ middle serving, leadMiddle = some middle ∧
    Trace.run (servingStep linkEntity followApp.answer plainMiddleware followRequests) middle
      leadRest = some serving ∧
    ∃ location, headerValue "https://example.com" = some location ∧
      leadAway = ⟨302, [("location", location)], .empty⟩ := by
  obtain ⟨middle, reached, later⟩ := Option.bind_eq_some_iff.mp leadMiddle_end
  obtain ⟨serving, ran, ended⟩ := Option.map_eq_some_iff.mp later
  simp only [Prod.mk.injEq] at ended
  obtain ⟨created, idle, only, led⟩ := ended
  have once : Unrepeated linkEntity serving.config.shared.stores ⟨leadCreated.code⟩ := by
    intro stamp stamp' value value' here here' _ _
    have bound := (List.getElem?_eq_some_iff.mp here).1
    have bound' := (List.getElem?_eq_some_iff.mp here').1
    omega
  have posts : followApp.Posts (followRequests 0) ⟨"https://example.com", some "a", none⟩ :=
    ⟨by decide, rfl⟩
  rcases links_found reached ran posts ⟨false, created⟩ once lead_spared
    (fun _ _ _ _ _ _ => rfl) (Option.isNone_iff_eq_none.mp idle) (.inl (by decide))
    ⟨false, led⟩ with cut | status | ⟨status, -⟩ | ⟨-, found⟩ | ⟨got, -⟩
  · rcases cut.status with status | status <;> cases status
  · cases status
  · cases status
  · exact ⟨middle, serving, reached, ran, found⟩
  · exact absurd got (by decide)

end ActorServices.UrlShortener
