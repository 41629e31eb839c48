import ActorServices.PasteCreators
import ActorServices.RequestCalls
import ActorServices.ServiceMetrics

set_option autoImplicit false

namespace ActorServices.Pastebin

open Api Interleave Environment

/-- The response shows the paste as the request asks for it, under its id. -/
inductive Shows (request : Request) (paste : Paste) : Response → Prop
  | got (routed : dispatch request.method request.path = .getPaste paste.id.value) :
      Shows request paste
        ((json 200 (PasteResponse.fromPaste paste).fields).answering request.method)
  | raw (routed : dispatch request.method request.path = .rawPaste paste.id.value) :
      Shows request paste
        (Response.answering
          ⟨200, contentType "text/plain; charset=utf-8", .text paste.content.value⟩ request.method)

/-- The client asked for this paste to be created. -/
def App.Posts (app : App) (request : Request) (req : CreatePasteRequest) : Prop :=
  dispatch request.method request.path = .createPaste ∧
    app.extract request.headers request.body = .ok req

theorem parse_content {raw : String} {content : Content}
    (parsed : Content.parse raw = .ok content) :
    content.value = raw := by
  unfold Content.parse at parsed
  split at parsed
  · cases parsed
  · split at parsed
    · cases parsed
    · cases parsed
      rfl

theorem creates_post {method : UrlShortener.Method} {path : String}
    (routed : dispatch method path = .createPaste) : method = .post := by
  have other : ∀ values handler, (∀ text, handler text ≠ Dispatched.createPaste) →
      withParam values handler ≠ .createPaste := by
    intro values handler apart
    unfold withParam
    split
    · split
      · exact apart _
      · nofun
    · nofun
  unfold dispatch at routed
  split at routed
  · cases routed
  · split at routed
    all_goals first
      | rfl
      | cases routed
      | exact absurd routed (other _ _ nofun)

section Calls

variable {app : App} {requests : Nat → Request} {caller : Nat}

theorem calls_create {content : String} {syntaxHint : Option String} {ttlSeconds : Option Nat}
    {oneShot : Bool}
    (call : app.calls requests caller = .create content syntaxHint ttlSeconds oneShot) :
    app.Posts (requests caller) ⟨content, syntaxHint, ttlSeconds, oneShot⟩ := by
  unfold App.calls App.callOf at call
  split at call
  · rename_i routed
    split at call
    · rename_i req read
      cases call
      exact ⟨routed, read⟩
    · cases call
  · cases call
  · cases call
  · cases call
  · cases call

theorem calls_serves {id : String}
    (routed : dispatch (requests caller).method (requests caller).path = .getPaste id ∨
      dispatch (requests caller).method (requests caller).path = .rawPaste id) :
    app.calls requests caller = .fetch id := by
  rcases routed with got | raw
  · simp only [App.calls, App.callOf, got, Option.getD_some]
  · simp only [App.calls, App.callOf, raw, Option.getD_some]

theorem App.Unasked.unserved {request : Request} {response : Response}
    (unasked : app.Unasked request response)
    (serves : (dispatch request.method request.path).serves = true) : response.status ≠ 200 := by
  intro status
  cases unasked with
  | limited _ refused => cases status.symm.trans refused
  | rejected rejection routed _ =>
      rw [routed] at serves
      cases serves
  | other _ routed =>
      generalize dispatch request.method request.path = found at routed serves
      cases found <;> simp [Dispatched.asks, Dispatched.serves] at routed serves

theorem App.Mirrors.served {config : ApiConfig PasteId Paste} {whole : PasteCalls}
    (mirrors : app.Mirrors requests config whole)
    (held : Held app.codec (app.calls requests) whole) {response : Response}
    (responded : Responded config caller response)
    (served : PasteServed (requests caller) response) :
    ∃ paste memory, whole.Returned caller (.fetched (.ok paste)) memory ∧
      Shows (requests caller) paste response := by
  obtain ⟨serves, status⟩ := served
  have own : ∀ {id paste memory}, whole.Returned caller (.fetched (.ok paste)) memory →
      app.calls requests caller = .fetch id → paste.id.value = id := by
    intro id paste memory returned call
    obtain ⟨-, ⟨raw, fetches, parsed⟩, -⟩ := held.fetched returned
    rw [call] at fetches
    cases fetches
    rw [parse_id parsed]
  rcases mirrors.responded caller response responded with
    ⟨unasked, -⟩ | ⟨reply, memory, returned, answers⟩
  · exact absurd status (unasked.unserved serves)
  · cases answers with
    | created paste routed =>
        rw [routed] at serves
        cases serves
    | got id paste routed =>
        refine ⟨paste, memory, returned, .got ?_⟩
        rw [own returned (calls_serves (.inl routed))]
        exact routed
    | raw id paste routed =>
        refine ⟨paste, memory, returned, .raw ?_⟩
        rw [own returned (calls_serves (.inr routed))]
        exact routed
    | deleted id routed =>
        rw [routed] at serves
        cases serves
    | failed err _ _ =>
        rw [answering_status] at status
        exact absurd status (failure_status err)

theorem failure_refused (err : ServiceError) :
    400 ≤ (intoResponse (AppError.fromService err)).status := by
  cases err <;> simp [intoResponse, json, AppError.fromService, UrlShortener.AppError.status]

/-- A request to create that is answered with success has created a paste. -/
theorem posted_created {config : ApiConfig PasteId Paste} {whole : PasteCalls}
    (mirrors : app.Mirrors requests config whole)
    (rejected : ∀ rejection,
      app.extract (requests caller).headers (requests caller).body = .error rejection →
        400 ≤ rejection.status)
    (routed : dispatch (requests caller).method (requests caller).path = .createPaste)
    {response : Response} (responded : Responded config caller response)
    (ok : response.status ≤ 299) :
    ∃ paste memory, whole.Returned caller (.created (.ok paste)) memory ∧
      response = (json 201 (CreatePasteResponse.fromPaste paste app.publicBaseUrl).fields).answering
        (requests caller).method := by
  rcases mirrors.responded caller response responded with
    ⟨unasked, -⟩ | ⟨reply, memory, returned, answers⟩
  · cases unasked with
    | limited _ refused => omega
    | rejected rejection _ read =>
        rw [answering_status] at ok
        have refused := rejected _ read
        omega
    | other _ unasking =>
        rw [routed] at unasking
        cases unasking
  · cases answers with
    | created paste _ => exact ⟨paste, memory, returned, rfl⟩
    | got _ _ other => cases routed.symm.trans other
    | raw _ _ other => cases routed.symm.trans other
    | deleted _ other => cases routed.symm.trans other
    | failed err _ _ =>
        rw [answering_status] at ok
        have refused := failure_refused err
        omega

/-- A created paste is the one made under the stamp of its row, up to counted views. -/
theorem created_made {codec : JsonCodec} {calls : Nat → Call} {whole : PasteCalls}
    (held : Held codec calls whole) {paste : Paste} {memory : Memory Paste}
    (created : whole.Returned caller (.created (.ok paste)) memory) :
    ∃ row made views, memory.held = some row ∧ whole.shared.made[row.stamp]? = some made ∧
      paste = made.addViews views := by
  have knows := held.sound.returned created
  cases call : calls caller with
  | fetch _ =>
      rw [call] at knows
      exact knows.elim
  | delete _ =>
      rw [call] at knows
      exact knows.elim
  | create content syntaxHint ttlSeconds oneShot =>
      rw [call] at knows
      obtain ⟨row, holds, same, -⟩ := knows
      obtain ⟨made, views, here, counted⟩ := held.sound.memory caller _ created row holds
      exact ⟨row, made, views, holds, here, same.symm.trans counted⟩

end Calls

/-- The handler of the request has created the paste and answers 201 with its id. That is what the
client gets, if the middleware does not answer in its place. -/
structure App.Created (app : App) (middleware : Middleware) (requests : Nat → Request)
    (serving : Serving PasteId Paste) (caller : Nat) (paste : Paste) : Prop where
  responded : Responded serving.config caller
    (json 201 (CreatePasteResponse.fromPaste paste app.publicBaseUrl).fields)
  answered : ∀ response, serving.Answered caller response →
    middleware.CutOff (requests caller) response ∨
      response = json 201 (CreatePasteResponse.fromPaste paste app.publicBaseUrl).fields

/-- In every run of the requests to a fresh service, each paste that a response shows goes back
to a request that created it: the response shows the content, the syntax hint and the flag that
were posted, under the id it was asked for, which is the one that the request is told. Of all the
responses that go back to one request for a one-shot paste there is one, whether they are for the
paste, its text or its headers. -/
theorem requests_burn {app : App} {middleware : Middleware} {rps burst : UInt32}
    {requests : Nat → Request} {labels : List (ServingLabel PasteId)}
    {serving : Serving PasteId Paste}
    (ran : serveAll pasteEntity app.answer middleware requests (.start rps burst) labels =
      some serving) :
    ∃ creator : Nat → Nat,
      (∀ caller response, serving.Answered caller response →
        PasteServed (requests caller) response → ∃ req paste,
          app.Posts (requests (creator caller)) req ∧
            app.Created middleware requests serving (creator caller) paste ∧
            paste.content.value = req.content ∧ paste.syntaxHint = req.syntaxHint ∧
            paste.oneShot = req.oneShot ∧ Shows (requests caller) paste response) ∧
      ∀ first second response response' req, serving.Answered first response →
        serving.Answered second response' → PasteServed (requests first) response →
        PasteServed (requests second) response' → creator first = creator second →
        app.Posts (requests (creator first)) req → req.oneShot = true → first = second := by
  obtain ⟨labels', whole, followed, mirrors⟩ := app.mirrors (serveAll_serve ran)
  have held : Held app.codec (app.calls requests) whole := runCalls_held followed
  obtain ⟨creator, given, once⟩ := calls_burn followed
  have fetched : ∀ {caller response}, serving.Answered caller response →
      PasteServed (requests caller) response →
      ∃ paste memory, whole.Returned caller (.fetched (.ok paste)) memory ∧
        Shows (requests caller) paste response := by
    intro caller response answered served
    rcases answered_responded ran answered with cut | responded
    · rcases cut.status with other | other <;> cases served.2.symm.trans other
    · exact mirrors.served held responded served
  refine ⟨creator, ?_, ?_⟩
  · intro caller response answered served
    obtain ⟨paste, memory, returned, shows⟩ := fetched answered served
    obtain ⟨made, views, kept, creates, rfl, ⟨content, ttlSeconds, call, parsed⟩, -⟩ :=
      given caller paste memory returned
    have posts := calls_create call
    have told := mirrors.created _ _ _ creates
    rw [creates_post posts.1] at told
    refine ⟨_, made.addViews views, posts, ⟨told, fun other gets => ?_⟩,
      parse_content parsed, rfl, rfl, shows⟩
    refine (answered_responded ran gets).imp_right ?_
    rintro ⟨_, there⟩
    obtain ⟨_, here⟩ := told
    rw [Config.Returned] at there here
    cases there.symm.trans here
    rfl
  · intro first second response response' req answered answered' served served' same posts single
    obtain ⟨paste, memory, returned, -⟩ := fetched answered served
    obtain ⟨paste', memory', returned', -⟩ := fetched answered' served'
    obtain ⟨made, views, kept, -, rfl, ⟨content, ttlSeconds, call, -⟩, -⟩ :=
      given first paste memory returned
    have read := (calls_create call).2.symm.trans posts.2
    cases read
    exact once first second _ paste' memory memory' returned returned' single same

theorem requests_burn_read : ∃ serving, burnRun = some serving ∧
    ∃ creator : Nat → Nat, ∃ req paste, burnApp.Posts (burnRequests (creator 1)) req ∧
      burnApp.Created plainMiddleware burnRequests serving (creator 1) paste ∧
      paste.content.value = req.content ∧
      Shows (burnRequests 1) paste
        ⟨200, contentType "text/plain; charset=utf-8", .text "secret"⟩ := by
  obtain ⟨serving, ran, sent⟩ := Option.map_eq_some_iff.mp burnRun_end
  simp only [Prod.mk.injEq] at sent
  obtain ⟨creator, shown, -⟩ := requests_burn ran
  obtain ⟨req, paste, posts, created, content, -, -, shows⟩ :=
    shown 1 _ ⟨false, sent.1⟩ ⟨by decide, rfl⟩
  exact ⟨serving, ran, creator, req, paste, posts, created, content, shows⟩

end ActorServices.Pastebin
