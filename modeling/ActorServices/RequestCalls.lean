import ActorServices.LinkHandlers
import ActorServices.PasteApi
import ActorServices.PasteBurn
import ActorServices.ProcLayer
import ActorServices.ServiceMiddleware

set_option autoImplicit false

namespace ActorServices.Api

open Interleave Environment Proc

variable {K V α : Type}

/-- The awaits of a use case among those of a handler. -/
def useCaseLayer : Layer (Op K V) Op.Reply (ApiOp K V) ApiOp.Reply :=
  ⟨.useCase, fun _ reply => reply⟩

/-- The awaits that a handler makes besides its use case. -/
def isOwn : ApiOp K V → Prop
  | .useCase _ => False
  | _ => True

/-- Such an await, which is not made behind a `last` result of the use case. -/
def Besides (last : α → Prop) (op : ApiOp K V) (inner : UseCase K V α) : Prop :=
  isOwn op ∧ ∀ result, inner = .ret result → ¬ last result

theorem api_surrounds [DecidableEq K] (entity : Entity K V) (last : α → Prop) :
    Surrounds useCaseLayer (Besides last) AppState.stores ApiChoice.stores (environment entity)
      (service entity) where
  fresh := rfl
  lifted shared memory op choice reply remembered next performed := by
    cases choice with
    | sampled now => cases performed
    | stores choice =>
        obtain ⟨⟨answer, kept, stores⟩, done, same⟩ := Option.map_eq_some_iff.mp performed
        cases same
        exact ⟨choice, rfl, done⟩
  own shared memory op inner choice reply remembered next mine performed := by
    cases op with
    | useCase op => exact mine.1.elim
    | check ip =>
        cases choice with
        | stores choice => cases performed
        | sampled now =>
            cases performed
            exact ⟨rfl, rfl⟩
    | ping =>
        rcases choice with ⟨_ | cause | _ | _⟩ | now <;> cases performed
        · exact ⟨rfl, rfl⟩
        · exact ⟨rfl, rfl⟩
    | count =>
        rcases choice with ⟨_ | cause | _ | _⟩ | now <;> cases performed
        exact ⟨rfl, rfl⟩
    | counted =>
        rcases choice with ⟨_ | cause | _ | _⟩ | now <;> cases performed
        exact ⟨rfl, rfl⟩
  happened shared event next happened := by
    cases event with
    | stores event =>
        obtain ⟨stores, done, same⟩ := Option.map_eq_some_iff.mp happened
        cases same
        exact .inr ⟨event, done⟩
    | sweep now =>
        cases happened
        exact .inl rfl

section Handlers

variable {last : α → Prop} {early : Response → UseCase K V α → Prop} {ends : α → Response → Prop}

theorem rateLimit_carries {next : Handler K V Response} {inner : UseCase K V α}
    (carries : Carries useCaseLayer (Besides last) early ends next inner)
    (begins : ∀ result, inner = .ret result → ¬ last result) (trustProxy : Bool)
    (request : Request)
    (refused : early (json 429 [("error", .text "rate limit exceeded")]) inner) :
    Carries useCaseLayer (Besides last) early ends (rateLimit trustProxy request next) inner := by
  refine .own _ _ _ ⟨trivial, begins⟩ fun admitted => ?_
  cases admitted with
  | true => exact carries
  | false => exact .early _ _ refused

theorem ready_own : (ready : Handler K V Response).Only isOwn := by
  refine ⟨trivial, fun reply => ?_⟩
  rcases reply with err | done <;> trivial

theorem metrics_own (name : String) : (metrics name : Handler K V Response).Only isOwn :=
  ⟨trivial, fun _ => trivial⟩

end Handlers

end ActorServices.Api

namespace ActorServices.Pastebin

open Api Interleave Proc

/-- The routes that call the service. -/
def Dispatched.asks : Dispatched → Bool
  | .createPaste => true
  | .getPaste _ => true
  | .rawPaste _ => true
  | .deletePaste _ => true
  | _ => false

/-- The call that the handler of the request makes. -/
def App.callOf (app : App) (request : Request) : Option Call :=
  match dispatch request.method request.path with
  | .createPaste =>
      match app.extract request.headers request.body with
      | .ok req => some (.create req.content req.syntaxHint req.ttlSeconds req.oneShot)
      | .error _ => none
  | .getPaste id | .rawPaste id => some (.fetch id)
  | .deletePaste id => some (.delete id)
  | _ => none

/-- The calls of the requests. A request that makes none stands for one that never begins. -/
def App.calls (app : App) (requests : Nat → Request) (caller : Nat) : Call :=
  (app.callOf (requests caller)).getD (.fetch "")

/-- The response when the call has returned the reply. -/
inductive App.Answers (app : App) (request : Request) : Reply → Response → Prop
  | created (paste : Paste) (routed : dispatch request.method request.path = .createPaste) :
      Answers app request (.created (.ok paste))
        ((json 201 (CreatePasteResponse.fromPaste paste app.publicBaseUrl).fields).answering
          request.method)
  | got (id : String) (paste : Paste)
      (routed : dispatch request.method request.path = .getPaste id) :
      Answers app request (.fetched (.ok paste))
        ((json 200 (PasteResponse.fromPaste paste).fields).answering request.method)
  | raw (id : String) (paste : Paste)
      (routed : dispatch request.method request.path = .rawPaste id) :
      Answers app request (.fetched (.ok paste))
        (Response.answering
          ⟨200, contentType "text/plain; charset=utf-8", .text paste.content.value⟩ request.method)
  | deleted (id : String) (routed : dispatch request.method request.path = .deletePaste id) :
      Answers app request (.deleted (.ok ())) (Response.answering ⟨204, [], .empty⟩ request.method)
  | failed (err : ServiceError) (reply : Reply)
      (fails : reply = .created (.error err) ∨ reply = .fetched (.error err) ∨
        reply = .deleted (.error err)) :
      Answers app request reply
        ((intoResponse (AppError.fromService err)).answering request.method)

/-- The response to a request that has made no call: it was over the limit, its body was none,
or its route has none. -/
inductive App.Unasked (app : App) (request : Request) : Response → Prop
  | limited (response : Response) (status : response.status = 429) : Unasked app request response
  | rejected (rejection : Response)
      (routed : dispatch request.method request.path = .createPaste)
      (read : app.extract request.headers request.body = .error rejection) :
      Unasked app request (rejection.answering request.method)
  | other (response : Response) (routed : (dispatch request.method request.path).asks = false) :
      Unasked app request response

/-- What the call of the request is when it ends without it. -/
def App.Early (app : App) (request : Request) (response : Response) (program : Service Reply) :
    Prop :=
  app.Unasked request response ∧
    program = ((app.callOf request).getD (.fetch "")).program app.codec

/-- The reply of a call that has created a paste. -/
def Creation (reply : Reply) : Prop := ∃ paste, reply = .created (.ok paste)

theorem Call.begins (call : Call) (codec : JsonCodec) {result : Reply}
    (returns : call.program codec = .ret result) : ¬ Creation result := by
  rintro ⟨paste, rfl⟩
  cases call with
  | create content syntaxHint ttlSeconds oneShot =>
      obtain ⟨created, stops, same⟩ := map_eq_ret returns
      cases same
      unfold Pastebin.create at stops
      split at stops <;> cases stops
  | fetch raw =>
      obtain ⟨_, _, same⟩ := map_eq_ret returns
      cases same
  | delete raw =>
      obtain ⟨_, _, same⟩ := map_eq_ret returns
      cases same

theorem App.servePaste_carries (app : App) {request : Request} (id : String)
    {answer : Paste → Response} {early : Response → Service Reply → Prop}
    (served : ∀ paste, app.Answers request (.fetched (.ok paste))
      ((answer paste).answering request.method)) :
    Carries useCaseLayer (Besides Creation)
      (fun response => early (response.answering request.method))
      (fun reply response => app.Answers request reply (response.answering request.method))
      (app.servePaste id answer) ((Call.fetch id).program app.codec) := by
  refine carries_lifted (fetch app.codec id) Reply.fetched fun result => ?_
  cases result with
  | error err => exact .ended _ _ (.failed err _ (.inr (.inl rfl)))
  | ok paste =>
      refine .own _ _ _ ⟨trivial, ?_⟩ fun _ => .ended _ _ (served paste)
      rintro _ same ⟨_, rfl⟩
      cases same

theorem App.route_carries (app : App) (request : Request) :
    Carries useCaseLayer (Besides Creation)
      (fun response => app.Early request (response.answering request.method))
      (fun reply response => app.Answers request reply (response.answering request.method))
      (app.route request) (((app.callOf request).getD (.fetch "")).program app.codec) := by
  have unasked : ∀ {handler : PasteHandler},
      (dispatch request.method request.path).asks = false → handler.Only isOwn →
      Carries useCaseLayer (Besides Creation)
        (fun response => app.Early request (response.answering request.method))
        (fun reply response => app.Answers request reply (response.answering request.method))
        handler (((app.callOf request).getD (.fetch "")).program app.codec) :=
    fun other only => carries_own
      (only.mono fun _ mine => ⟨mine, fun _ returns => Call.begins _ _ returns⟩)
      fun _ => ⟨.other _ other, rfl⟩
  unfold App.route
  cases routed : dispatch request.method request.path with
  | index => exact unasked (by rw [routed]; rfl) trivial
  | appJs => exact unasked (by rw [routed]; rfl) trivial
  | qrcodeJs => exact unasked (by rw [routed]; rfl) trivial
  | health => exact unasked (by rw [routed]; rfl) trivial
  | ready => exact unasked (by rw [routed]; rfl) ready_own
  | metrics => exact unasked (by rw [routed]; rfl) (metrics_own _)
  | createPaste =>
      cases read : app.extract request.headers request.body with
      | error rejection =>
          simp only [App.createPaste, read]
          exact .early _ _ ⟨.rejected rejection routed read, rfl⟩
      | ok req =>
          simp only [App.createPaste, callOf, routed, read, Option.getD_some]
          refine carries_lifted (create _ _ _ _) Reply.created fun result => ?_
          cases result with
          | error err => exact .ended _ _ (.failed err _ (.inl rfl))
          | ok paste => exact .ended _ _ (.created paste routed)
  | getPaste id =>
      simp only [callOf, routed, Option.getD_some]
      exact app.servePaste_carries id fun paste => .got id paste routed
  | rawPaste id =>
      simp only [callOf, routed, Option.getD_some]
      exact app.servePaste_carries id fun paste => .raw id paste routed
  | deletePaste id =>
      simp only [callOf, routed, Option.getD_some]
      refine carries_lifted (delete id) Reply.deleted fun result => ?_
      cases result with
      | error err => exact .ended _ _ (.failed err _ (.inr (.inr rfl)))
      | ok done => exact .ended _ _ (.deleted id routed)
  | badRequest => exact unasked (by rw [routed]; rfl) trivial
  | methodNotAllowed => exact unasked (by rw [routed]; rfl) trivial
  | notFound => exact unasked (by rw [routed]; rfl) trivial

theorem App.answer_carries (app : App) (request : Request) :
    Carries useCaseLayer (Besides Creation) (app.Early request) (app.Answers request)
      (app.answer request) (((app.callOf request).getD (.fetch "")).program app.codec) :=
  Carries.map (rateLimit_carries (app.route_carries request)
    (fun _ returns => Call.begins _ _ returns) _ _ ⟨.limited _ (answering_status _ _), rfl⟩)

/-- The calls have come as far as the requests have: the stores are the same, and a response is
what the call of its request has returned, unless that has not begun. What a call has created
is in the response at once. -/
structure App.Mirrors (app : App) (requests : Nat → Request)
    (config : ApiConfig PasteId Paste) (whole : PasteCalls) : Prop where
  stores : whole.shared = config.shared.stores
  responded : ∀ caller response, Responded config caller response →
    (app.Unasked (requests caller) response ∧ ∃ memory, whole.threads caller =
      some ⟨(app.calls requests caller).program app.codec, memory⟩) ∨
    ∃ reply memory, whole.Returned caller reply memory ∧
      app.Answers (requests caller) reply response
  created : ∀ caller paste memory, whole.Returned caller (.created (.ok paste)) memory →
    Responded config caller
      ((json 201 (CreatePasteResponse.fromPaste paste app.publicBaseUrl).fields).answering
        (requests caller).method)

theorem App.mirrors (app : App) {requests : Nat → Request} {state : AppState PasteId Paste}
    {labels : List (ApiLabel PasteId)} {config : ApiConfig PasteId Paste}
    (ran : serve pasteEntity app.answer requests state labels = some config) :
    ∃ labels' whole,
      run pasteStores (fun caller => (app.calls requests caller).program app.codec)
        (.initial state.stores) labels' = some whole ∧ app.Mirrors requests config whole := by
  obtain ⟨labels', whole, followed, carries⟩ :=
    (ConfigCarries.initial state).run (api_surrounds pasteEntity Creation)
      (fun caller => app.answer_carries (requests caller)) ran
  refine ⟨labels', whole, followed, carries.shared, ?_, ?_⟩
  · rintro caller response ⟨memory, returned⟩
    rcases carries.returned returned with ⟨program, there, unasked, rfl⟩ | ⟨reply, there, answers⟩
    · exact .inl ⟨unasked, memory, there⟩
    · exact .inr ⟨reply, memory, there, answers⟩
  · intro caller paste memory returned
    obtain ⟨response, there, answers⟩ := carries.ended returned
      (fun _ mine => mine.2 _ rfl ⟨paste, rfl⟩)
      (fun _ early => Call.begins _ _ early.2.symm ⟨paste, rfl⟩)
    cases answers with
    | created => exact ⟨memory, there⟩
    | failed _ _ fails => rcases fails with other | other | other <;> cases other

end ActorServices.Pastebin

namespace ActorServices.UrlShortener

open Api Interleave Proc

def Dispatched.asks : Dispatched → Bool
  | .createLink => true
  | .getLink _ => true
  | .deleteLink _ => true
  | .redirect _ => true
  | _ => false

def App.callOf (app : App) (request : Request) : Option Call :=
  match dispatch request.method request.path with
  | .createLink =>
      match app.extract request.headers request.body with
      | .ok req => some (.create req.url req.requested req.ttlSeconds)
      | .error _ => none
  | .getLink code => some (.get code)
  | .deleteLink code => some (.delete code)
  | .redirect code => some (.resolve code)
  | _ => none

/-- The calls of the requests. A request that makes none stands for one that never begins. -/
def App.calls (app : App) (requests : Nat → Request) (caller : Nat) : Call :=
  (app.callOf (requests caller)).getD (.get "")

/-- The response when the call has returned the reply. -/
inductive App.Answers (app : App) (request : Request) : Reply → Response → Prop
  | created (link : Link) (routed : dispatch request.method request.path = .createLink) :
      Answers app request (.created (.ok link))
        ((json 201 (CreateLinkResponse.fromLink link app.publicBaseUrl).fields).answering
          request.method)
  | redirected (code : String) (target : TargetUrl) (location : List UInt8)
      (routed : dispatch request.method request.path = .redirect code)
      (encoded : headerValue target.value = some location) :
      Answers app request (.resolved (.ok target))
        (Response.answering ⟨302, [("location", location)], .empty⟩ request.method)
  | unsendable (code : String) (target : TargetUrl)
      (routed : dispatch request.method request.path = .redirect code)
      (unfit : headerValue target.value = none) :
      Answers app request (.resolved (.ok target))
        ((intoResponse (.internal "failed to parse header value")).answering request.method)
  | got (code : String) (link : Link)
      (routed : dispatch request.method request.path = .getLink code) :
      Answers app request (.got (.ok link))
        ((json 200 (LinkResponse.fromLink link).fields).answering request.method)
  | deleted (code : String) (routed : dispatch request.method request.path = .deleteLink code) :
      Answers app request (.deleted (.ok ())) (Response.answering ⟨204, [], .empty⟩ request.method)
  | failed (err : ServiceError) (reply : Reply)
      (fails : reply = .created (.error err) ∨ reply = .resolved (.error err) ∨
        reply = .got (.error err) ∨ reply = .deleted (.error err)) :
      Answers app request reply
        ((intoResponse (AppError.fromService err)).answering request.method)

/-- The response to a request that has made no call: it was over the limit, its body was none,
or its route has none. -/
inductive App.Unasked (app : App) (request : Request) : Response → Prop
  | limited (response : Response) (status : response.status = 429) : Unasked app request response
  | rejected (rejection : Response)
      (routed : dispatch request.method request.path = .createLink)
      (read : app.extract request.headers request.body = .error rejection) :
      Unasked app request (rejection.answering request.method)
  | other (response : Response) (routed : (dispatch request.method request.path).asks = false) :
      Unasked app request response

/-- What the call of the request is when it ends without it. -/
def App.Early (app : App) (request : Request) (response : Response) (program : Service Reply) :
    Prop :=
  app.Unasked request response ∧
    program = ((app.callOf request).getD (.get "")).program app.settings

/-- The reply of a call that has created a link. -/
def Creation (reply : Reply) : Prop := ∃ link, reply = .created (.ok link)

theorem Call.begins (call : Call) (settings : Settings) {result : Reply}
    (returns : call.program settings = .ret result) : ¬ Creation result := by
  rintro ⟨link, rfl⟩
  cases call with
  | create url requested ttlSeconds =>
      obtain ⟨created, stops, same⟩ := map_eq_ret returns
      cases same
      unfold UrlShortener.create at stops
      split at stops
      · cases stops
      · split at stops <;> cases stops
  | resolve raw =>
      obtain ⟨_, _, same⟩ := map_eq_ret returns
      cases same
  | get raw =>
      obtain ⟨_, _, same⟩ := map_eq_ret returns
      cases same
  | delete raw =>
      obtain ⟨_, _, same⟩ := map_eq_ret returns
      cases same

theorem App.follow_carries (app : App) {request : Request} {code : String}
    {early : Response → Service Reply → Prop}
    (routed : dispatch request.method request.path = .redirect code) :
    Carries useCaseLayer (Besides Creation)
      (fun response => early (response.answering request.method))
      (fun reply response => app.Answers request reply (response.answering request.method))
      (App.follow code) ((Call.resolve code).program app.settings) := by
  refine carries_lifted (resolve code) Reply.resolved fun result => ?_
  cases result with
  | error err => exact .ended _ _ (.failed err _ (.inr (.inl rfl)))
  | ok target =>
      refine .own _ _ _ ⟨trivial, ?_⟩ fun _ => ?_
      · rintro _ same ⟨_, rfl⟩
        cases same
      · cases encoded : headerValue target.value with
        | none => exact .ended _ _ (.unsendable code target routed encoded)
        | some location => exact .ended _ _ (.redirected code target location routed encoded)

theorem App.route_carries (app : App) (request : Request) :
    Carries useCaseLayer (Besides Creation)
      (fun response => app.Early request (response.answering request.method))
      (fun reply response => app.Answers request reply (response.answering request.method))
      (app.route request) (((app.callOf request).getD (.get "")).program app.settings) := by
  have unasked : ∀ {handler : LinkHandler},
      (dispatch request.method request.path).asks = false → handler.Only isOwn →
      Carries useCaseLayer (Besides Creation)
        (fun response => app.Early request (response.answering request.method))
        (fun reply response => app.Answers request reply (response.answering request.method))
        handler (((app.callOf request).getD (.get "")).program app.settings) :=
    fun other only => carries_own
      (only.mono fun _ mine => ⟨mine, fun _ returns => Call.begins _ _ returns⟩)
      fun _ => ⟨.other _ other, rfl⟩
  unfold App.route
  cases routed : dispatch request.method request.path with
  | health => exact unasked (by rw [routed]; rfl) trivial
  | ready => exact unasked (by rw [routed]; rfl) ready_own
  | metrics => exact unasked (by rw [routed]; rfl) (metrics_own _)
  | createLink =>
      cases read : app.extract request.headers request.body with
      | error rejection =>
          simp only [App.createLink, read]
          exact .early _ _ ⟨.rejected rejection routed read, rfl⟩
      | ok req =>
          simp only [App.createLink, callOf, routed, read, Option.getD_some]
          refine carries_lifted (create _ _ _ _) Reply.created fun result => ?_
          cases result with
          | error err => exact .ended _ _ (.failed err _ (.inl rfl))
          | ok link => exact .ended _ _ (.created link routed)
  | getLink code =>
      simp only [callOf, routed, Option.getD_some]
      refine carries_lifted (get code) Reply.got fun result => ?_
      cases result with
      | error err => exact .ended _ _ (.failed err _ (.inr (.inr (.inl rfl))))
      | ok link => exact .ended _ _ (.got code link routed)
  | deleteLink code =>
      simp only [callOf, routed, Option.getD_some]
      refine carries_lifted (delete code) Reply.deleted fun result => ?_
      cases result with
      | error err => exact .ended _ _ (.failed err _ (.inr (.inr (.inr rfl))))
      | ok done => exact .ended _ _ (.deleted code routed)
  | redirect code =>
      simp only [callOf, routed, Option.getD_some]
      exact app.follow_carries routed
  | badRequest => exact unasked (by rw [routed]; rfl) trivial
  | methodNotAllowed => exact unasked (by rw [routed]; rfl) trivial
  | notFound => exact unasked (by rw [routed]; rfl) trivial

theorem App.answer_carries (app : App) (request : Request) :
    Carries useCaseLayer (Besides Creation) (app.Early request) (app.Answers request)
      (app.answer request) (((app.callOf request).getD (.get "")).program app.settings) :=
  Carries.map (rateLimit_carries (app.route_carries request)
    (fun _ returns => Call.begins _ _ returns) _ _ ⟨.limited _ (answering_status _ _), rfl⟩)

/-- The calls have come as far as the requests have: the stores are the same, and a response is
what the call of its request has returned, unless that has not begun. What a call has created
is in the response at once. -/
structure App.Mirrors (app : App) (requests : Nat → Request)
    (config : ApiConfig ShortCode Link) (whole : LinkCalls) : Prop where
  stores : whole.shared = config.shared.stores
  responded : ∀ caller response, Responded config caller response →
    (app.Unasked (requests caller) response ∧ ∃ memory, whole.threads caller =
      some ⟨(app.calls requests caller).program app.settings, memory⟩) ∨
    ∃ reply memory, whole.Returned caller reply memory ∧
      app.Answers (requests caller) reply response
  created : ∀ caller link memory, whole.Returned caller (.created (.ok link)) memory →
    Responded config caller
      ((json 201 (CreateLinkResponse.fromLink link app.publicBaseUrl).fields).answering
        (requests caller).method)

theorem App.mirrors (app : App) {requests : Nat → Request} {state : AppState ShortCode Link}
    {labels : List (ApiLabel ShortCode)} {config : ApiConfig ShortCode Link}
    (ran : serve linkEntity app.answer requests state labels = some config) :
    ∃ labels' whole,
      run linkStores (fun caller => (app.calls requests caller).program app.settings)
        (.initial state.stores) labels' = some whole ∧ app.Mirrors requests config whole := by
  obtain ⟨labels', whole, followed, carries⟩ :=
    (ConfigCarries.initial state).run (api_surrounds linkEntity Creation)
      (fun caller => app.answer_carries (requests caller)) ran
  refine ⟨labels', whole, followed, carries.shared, ?_, ?_⟩
  · rintro caller response ⟨memory, returned⟩
    rcases carries.returned returned with ⟨program, there, unasked, rfl⟩ | ⟨reply, there, answers⟩
    · exact .inl ⟨unasked, memory, there⟩
    · exact .inr ⟨reply, memory, there, answers⟩
  · intro caller link memory returned
    obtain ⟨response, there, answers⟩ := carries.ended returned
      (fun _ mine => mine.2 _ rfl ⟨link, rfl⟩)
      (fun _ early => Call.begins _ _ early.2.symm ⟨link, rfl⟩)
    cases answers with
    | created => exact ⟨memory, there⟩
    | failed _ _ fails => rcases fails with other | other | other | other <;> cases other

end ActorServices.UrlShortener

namespace ActorServices.Api

open Interleave Environment

/-- Every run of the requests of a service, with the limits, counters, pings and middleware around
its use cases, is a run of calls of its use cases with the same stores. A client gets what its own
call has returned, or an answer that was given without a call, or one in place of its handler. -/
theorem requests_call :
    (∀ (app : Pastebin.App) middleware requests state labels serving,
      serveAll Pastebin.pasteEntity app.answer middleware requests state labels = some serving →
      ∃ labels' whole,
        run Pastebin.pasteStores (fun caller => (app.calls requests caller).program app.codec)
          (.initial state.stores) labels' = some whole ∧
        app.Mirrors requests serving.config whole ∧
        ∀ caller response, serving.Answered caller response →
          middleware.CutOff (requests caller) response ∨
            Responded serving.config caller response) ∧
    ∀ (app : UrlShortener.App) middleware requests state labels serving,
      serveAll UrlShortener.linkEntity app.answer middleware requests state labels =
        some serving →
      ∃ labels' whole,
        run UrlShortener.linkStores
          (fun caller => (app.calls requests caller).program app.settings)
          (.initial state.stores) labels' = some whole ∧
        app.Mirrors requests serving.config whole ∧
        ∀ caller response, serving.Answered caller response →
          middleware.CutOff (requests caller) response ∨
            Responded serving.config caller response := by
  constructor
  · intro app middleware requests state labels serving ran
    obtain ⟨labels', whole, followed, mirrors⟩ := app.mirrors (serveAll_serve ran)
    exact ⟨labels', whole, followed, mirrors, fun _ _ => answered_responded ran⟩
  · intro app middleware requests state labels serving ran
    obtain ⟨labels', whole, followed, mirrors⟩ := app.mirrors (serveAll_serve ran)
    exact ⟨labels', whole, followed, mirrors, fun _ _ => answered_responded ran⟩

def plainFramework : Framework := ⟨⟨404, [], .empty⟩, ⟨405, [], .empty⟩, ⟨400, [], .empty⟩⟩

def plainMiddleware : Middleware where
  timedOut := ⟨408, [], .empty⟩
  panicked := ⟨500, contentType "text/plain; charset=utf-8", .text "Service panicked"⟩
  timedOut_status := rfl
  panicked_status := rfl

def burnApp : Pastebin.App where
  publicBaseUrl := "http://localhost:8080"
  trustProxy := false
  indexHtml := ""
  appJs := ""
  qrcodeJs := ""
  codec := Pastebin.burnCodec
  extract _ _ := .ok ⟨"secret", none, none, true⟩
  framework := plainFramework

/-- Caller 0 creates the paste, caller 1 asks for it, and everyone else for its headers. -/
def burnRequests : Nat → Request
  | 0 => ⟨.post, "/api/pastes", [], none, []⟩
  | 1 => ⟨.get, "/raw/AAAAAAAA", [], none, []⟩
  | _ => ⟨.head, "/raw/AAAAAAAA", [], none, []⟩

/-- Three readers have read the row before one of them takes it, and one is out of time. -/
def burnLabels : List (ServingLabel Pastebin.PasteId) :=
  ServingLabel.insides [.start 0, .step 0 (.sampled 0), .step 0 (.stores .done),
    .step 0 (.stores (.drew fun _ => 0)), .step 0 (.stores .done)] ++ [.sends 0] ++
  ServingLabel.insides [.start 1, .start 2, .start 3, .step 1 (.sampled 0), .step 2 (.sampled 0),
    .step 3 (.sampled 0), .step 1 (.stores .done), .step 2 (.stores .done),
    .step 3 (.stores .done), .step 1 (.stores .done), .step 2 (.stores .done),
    .step 3 (.stores .done)] ++ [.timesOut 3] ++
  ServingLabel.insides [.step 3 (.stores .done), .step 1 (.stores .done), .step 2 (.stores .done),
    .step 1 (.stores .done), .step 2 (.stores .done), .step 1 (.stores .done)] ++
  [.sends 1, .sends 2]

def burnRun : Option (Serving Pastebin.PasteId Pastebin.Paste) :=
  serveAll Pastebin.pasteEntity burnApp.answer plainMiddleware burnRequests (.start 0 0) burnLabels

theorem burnRun_end : burnRun.map (fun serving => (serving.sent 1, serving.sent 2,
    serving.sent 3)) =
      some (some ⟨⟨200, contentType "text/plain; charset=utf-8", .text "secret"⟩, false⟩,
        some ⟨⟨404, contentType "application/json", .empty⟩, false⟩,
        some ⟨⟨408, [], .empty⟩, false⟩) := by
  decide +kernel

def followApp : UrlShortener.App where
  publicBaseUrl := "http://localhost:8080"
  trustProxy := false
  settings := UrlShortener.exampleSettings
  extract _ _ := .ok ⟨"https://example.com", some "a", none⟩
  framework := plainFramework

def followRequests : Nat → Request
  | 0 => ⟨.post, "/api/links", [], none, []⟩
  | _ => ⟨.get, "/a", [], none, []⟩

def followLabels : List (ServingLabel UrlShortener.ShortCode) :=
  ServingLabel.insides [.start 0, .step 0 (.sampled 0), .step 0 (.stores .done),
    .step 0 (.stores .done)] ++ [.sends 0] ++
  ServingLabel.insides [.start 1, .step 1 (.sampled 0), .step 1 (.stores .done),
    .step 1 (.stores .done), .step 1 (.stores .done), .step 1 (.stores .done),
    .step 1 (.stores .done), .step 1 (.stores .done)] ++ [.sends 1]

def followRun : Option (Serving UrlShortener.ShortCode UrlShortener.Link) :=
  serveAll UrlShortener.linkEntity followApp.answer plainMiddleware followRequests (.start 0 0)
    followLabels

theorem followRun_end : followRun.map (fun serving => (serving.config.result? 1).map Prod.fst) =
    some (some ⟨302, [("location", Utf8.encode "https://example.com".toList)], .empty⟩) := by
  decide +kernel

theorem requests_call_read :
    (∃ serving labels' whole, burnRun = some serving ∧
      serving.Answered 3 plainMiddleware.timedOut ∧
      run Pastebin.pasteStores
        (fun caller => (burnApp.calls burnRequests caller).program burnApp.codec)
        (.initial .empty) labels' = some whole ∧
      burnApp.Mirrors burnRequests serving.config whole) ∧
    ∃ serving labels' whole, followRun = some serving ∧
      run UrlShortener.linkStores
        (fun caller => (followApp.calls followRequests caller).program followApp.settings)
        (.initial .empty) labels' = some whole ∧
      followApp.Mirrors followRequests serving.config whole := by
  constructor
  · obtain ⟨serving, ran, sent⟩ := Option.map_eq_some_iff.mp burnRun_end
    simp only [Prod.mk.injEq] at sent
    obtain ⟨labels', whole, followed, mirrors, -⟩ := requests_call.1 burnApp plainMiddleware
      burnRequests (.start 0 0) burnLabels serving ran
    exact ⟨serving, labels', whole, ran, ⟨false, sent.2.2⟩, followed, mirrors⟩
  · obtain ⟨serving, ran, -⟩ := Option.map_eq_some_iff.mp followRun_end
    obtain ⟨labels', whole, followed, mirrors, -⟩ := requests_call.2 followApp plainMiddleware
      followRequests (.start 0 0) followLabels serving ran
    exact ⟨serving, labels', whole, ran, followed, mirrors⟩

end ActorServices.Api
