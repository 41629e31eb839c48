import ActorServices.LinkHandlers
import ActorServices.PasteApi
import ActorServices.Tally

set_option autoImplicit false

namespace ActorServices.Api

open Interleave Environment

/-- The await that bumps the counter. -/
def isCount {K V : Type} : ApiOp K V → Prop
  | .count => True
  | _ => False

/-- `fetch_add(1)`. -/
def bump (counter : UInt64) : UInt64 := counter + 1

theorem iterate_bump (n : Nat) (counter : UInt64) :
    bump^[n] counter = counter + UInt64.ofNat n := by
  induction n with
  | zero => simp
  | succ n ih =>
      rw [Function.iterate_succ_apply', ih, bump, UInt64.add_assoc, UInt64.ofNat_add]
      rfl

section Counter

theorem call_uncounted {K V α : Type} (program : UseCase K V α) :
    (call program).Only fun op => ¬ isCount op := by
  refine Proc.only_expand (fun op => ?_) program
  exact ⟨id, fun _ => trivial⟩

theorem rateLimit_marks {K V : Type} {next : Handler K V Response} {must may : Response → Prop}
    (marks : next.Marks isCount must may) (trustProxy : Bool) (request : Request)
    (refused : ∀ response, must response → response.status ≠ 429) :
    (rateLimit trustProxy request next).Marks isCount must may := by
  refine .inl ⟨id, fun admitted => ?_⟩
  cases admitted with
  | true => exact marks
  | false => exact fun counts => refused _ counts rfl

variable {K V : Type} [DecidableEq K] {entity : Entity K V}

theorem perform_counts (state : AppState K V) (memory : Memory V) (op : ApiOp K V)
    (choice : ApiChoice) (reply : op.Reply) (remembered : Memory V) (next : AppState K V)
    (performed : (environment entity).perform state memory op choice =
      some (reply, remembered, next)) :
    (isCount op → next.counter = bump state.counter) ∧
      (¬ isCount op → next.counter = state.counter) := by
  cases op with
  | useCase op =>
      cases choice with
      | sampled now => cases performed
      | stores choice =>
          obtain ⟨done, -, same⟩ := Option.map_eq_some_iff.mp performed
          cases same
          exact ⟨fun counts => counts.elim, fun _ => rfl⟩
  | check ip =>
      cases choice with
      | stores choice => cases performed
      | sampled now =>
          cases performed
          exact ⟨fun counts => counts.elim, fun _ => rfl⟩
  | ping =>
      rcases choice with ⟨_ | cause | _ | _⟩ | now <;> cases performed
      · exact ⟨fun counts => counts.elim, fun _ => rfl⟩
      · exact ⟨fun counts => counts.elim, fun _ => rfl⟩
  | count =>
      rcases choice with ⟨_ | cause | _ | _⟩ | now <;> cases performed
      exact ⟨fun _ => rfl, fun other => absurd trivial other⟩
  | counted =>
      rcases choice with ⟨_ | cause | _ | _⟩ | now <;> cases performed
      exact ⟨fun counts => counts.elim, fun _ => rfl⟩

theorem perform_counted {state next : AppState K V} {memory remembered : Memory V}
    {choice : ApiChoice} {reply : UInt64}
    (performed : (environment entity).perform state memory .counted choice =
      some (reply, remembered, next)) : reply = state.counter := by
  rcases choice with ⟨_ | cause | _ | _⟩ | now <;> cases performed
  rfl

theorem happen_counts (state : AppState K V) (event : ApiEvent K) (next : AppState K V)
    (happened : (environment entity).happen state event = some next) :
    next.counter = state.counter := by
  cases event with
  | stores event =>
      obtain ⟨stores, -, same⟩ := Option.map_eq_some_iff.mp happened
      cases same
      rfl
  | sweep now =>
      cases happened
      rfl

end Counter

/-- How far a request to `/metrics` has come. -/
inductive Reporting {K V : Type} (reports : Response → Prop) (request : Request) (trustProxy : Bool)
    (name : String) : Handler K V Response → Prop
  | waiting : Reporting reports request trustProxy name
      ((fun response => response.answering request.method) <$>
        rateLimit trustProxy request (metrics name))
  | admitted : Reporting reports request trustProxy name
      ((fun response => response.answering request.method) <$> metrics name)
  | refused (response : Response) (status : response.status = 429) :
      Reporting reports request trustProxy name (.ret response)
  | reported (response : Response) (told : reports response) :
      Reporting reports request trustProxy name (.ret response)

theorem Reporting.mono {K V : Type} {reports later : Response → Prop} {request : Request}
    {trustProxy : Bool} {name : String} {handler : Handler K V Response}
    (reporting : Reporting reports request trustProxy name handler)
    (implied : ∀ response, reports response → later response) :
    Reporting later request trustProxy name handler := by
  cases reporting with
  | waiting => exact .waiting
  | admitted => exact .admitted
  | refused response status => exact .refused response status
  | reported response told => exact .reported response (implied response told)

section Runs

variable {K V : Type} [DecidableEq K] {entity : Entity K V}
  {answer : Request → Handler K V Response} {requests : Nat → Request} {state : AppState K V}
  {labels : List (ApiLabel K)} {config : ApiConfig K V} {must may : Request → Response → Prop}

/-- In every run, the counter has gone up by the number of the callers in some set: all of them
have got a response that may be counted, and whoever has got one that must be is among them. -/
theorem serve_tallied
    (marks : ∀ request, (answer request).Marks isCount (must request) (may request))
    (ran : serve entity answer requests state labels = some config) :
    ∃ tally : Finset Nat,
      config.shared.counter = state.counter + UInt64.ofNat tally.card ∧
        (∀ caller response, Responded config caller response → must (requests caller) response →
          caller ∈ tally) ∧
        ∀ caller ∈ tally, ∃ response, Responded config caller response ∧
          may (requests caller) response := by
  obtain ⟨tally, tallied, total⟩ := run_tallied perform_counts happen_counts
    (fun caller => marks (requests caller)) ran
  refine ⟨tally, total.trans (iterate_bump _ _), ?_, ?_⟩
  · rintro caller response ⟨memory, returned⟩ counts
    exact tallied.counted returned counts
  · intro caller member
    obtain ⟨response, memory, returned, counts⟩ := tallied.returned caller member
    exact ⟨response, ⟨memory, returned⟩, counts⟩

/-- The response shows the counter of a state that the run has been in. -/
def ReportsCounter (entity : Entity K V) (answer : Request → Handler K V Response)
    (requests : Nat → Request) (state : AppState K V) (labels : List (ApiLabel K))
    (name : String) (request : Request) (response : Response) : Prop :=
  ∃ history middle, history <+: labels ∧
    serve entity answer requests state history = some middle ∧
    response = (json 200 [(name, .number middle.shared.counter.toNat)]).answering request.method

theorem metrics_reported {caller : Nat} {trustProxy : Bool} {name : String}
    (routed : answer (requests caller) =
      (fun response => response.answering (requests caller).method) <$>
        rateLimit trustProxy (requests caller) (metrics name))
    (ran : serve entity answer requests state labels = some config) {response : Response}
    (responded : Responded config caller response) (answered : response.status = 200) :
    ReportsCounter entity answer requests state labels name (requests caller) response := by
  have held : ∀ thread, config.threads caller = some thread →
      Reporting (ReportsCounter entity answer requests state labels name (requests caller))
        (requests caller) trustProxy name thread.program := by
    apply run_induction (fun history config => ∀ thread, config.threads caller = some thread →
      Reporting (ReportsCounter entity answer requests state history name (requests caller))
        (requests caller) trustProxy name thread.program) _ _ ran
    · intro thread present
      cases present
    · intro history middle label next rest held reached taken _ _ thread present
      have later : ∀ response,
          ReportsCounter entity answer requests state history name (requests caller) response →
          ReportsCounter entity answer requests state (history ++ [label]) name (requests caller)
            response := by
        rintro response ⟨front, shown, before, followed, same⟩
        exact ⟨front, shown, before.trans (List.prefix_append _ _), followed, same⟩
      obtain ⟨other, -, idle, rfl⟩ | ⟨other, choice, op, onwards, memory, reply, remembered,
        shared, -, running, performed, rfl⟩ | ⟨event, shared, -, -, rfl⟩ := step_cases taken
      · obtain ⟨rfl, rfl⟩ | ⟨-, present⟩ := put_cases present
        · show Reporting _ _ _ _ (answer (requests caller))
          rw [routed]
          exact .waiting
        · exact (held thread present).mono later
      · obtain ⟨rfl, rfl⟩ | ⟨-, present⟩ := put_cases present
        · have stage := held _ running
          generalize program : Proc.call op onwards = waits at stage
          cases stage with
          | waiting =>
              cases program
              cases reply with
              | true => exact .admitted
              | false => exact .refused _ (answering_status _ _)
          | admitted =>
              cases program
              have shown := perform_counted performed
              subst shown
              exact .reported _ ⟨history, middle, List.prefix_append _ _, reached, rfl⟩
          | refused => cases program
          | reported => cases program
        · exact (held thread present).mono later
      · exact (held thread present).mono later
  obtain ⟨memory, returned⟩ := responded
  have stage := held _ returned
  generalize done : Proc.ret response = program at stage
  cases stage with
  | waiting => cases done
  | admitted => cases done
  | refused _ status =>
      cases done
      cases answered.symm.trans status
  | reported _ told =>
      cases done
      exact told

end Runs

end ActorServices.Api

namespace ActorServices.Pastebin

open Api

/-- The routes that serve a paste. -/
def Dispatched.serves : Dispatched → Bool
  | .getPaste _ => true
  | .rawPaste _ => true
  | _ => false

/-- The request is for a paste and has been answered with it. -/
def PasteServed (request : Request) (response : Response) : Prop :=
  (dispatch request.method request.path).serves = true ∧ response.status = 200

theorem failure_status (err : ServiceError) :
    (intoResponse (AppError.fromService err)).status ≠ 200 := by
  cases err <;> simp [intoResponse, json, AppError.fromService, UrlShortener.AppError.status]

theorem servePaste_marks (app : App) (id : String) (answer : Paste → Response) (served : Prop)
    (status : ∀ paste, (answer paste).status = 200) (here : served) :
    (app.servePaste id answer).Marks isCount (fun response => served ∧ response.status = 200)
      fun response => served ∧ response.status = 200 := by
  refine Proc.marks_bind (call_uncounted _) fun result => ?_
  cases result with
  | error err => exact fun counts => failure_status err counts.2
  | ok paste => exact .inr ⟨trivial, fun _ => ⟨answer paste, rfl, here, status paste⟩⟩

/-- Everything else leaves the counter alone. -/
theorem route_uncounted (app : App) {request : Request}
    (other : (dispatch request.method request.path).serves = false) :
    (app.route request).Only fun op => ¬ isCount op := by
  unfold App.route
  cases routed : dispatch request.method request.path with
  | ready =>
      refine ⟨id, fun reply => ?_⟩
      rcases reply with err | done <;> trivial
  | metrics => exact ⟨id, fun _ => trivial⟩
  | createPaste =>
      cases read : app.extract request.headers request.body with
      | error rejection =>
          simp only [App.createPaste, read]
          trivial
      | ok req =>
          simp only [App.createPaste, read]
          refine Proc.only_bind (call_uncounted _) fun result => ?_
          cases result <;> trivial
  | getPaste id =>
      rw [routed] at other
      cases other
  | rawPaste id =>
      rw [routed] at other
      cases other
  | deletePaste id =>
      refine Proc.only_bind (call_uncounted _) fun result => ?_
      rcases result with err | done <;> trivial
  | _ => trivial

theorem answer_marks (app : App) (request : Request) :
    (app.answer request).Marks isCount (PasteServed request) (PasteServed request) := by
  refine Proc.marks_map ?_
  simp only [PasteServed, answering_status]
  refine rateLimit_marks ?_ app.trustProxy request fun response served refused => by omega
  cases serves : (dispatch request.method request.path).serves with
  | false =>
      refine Proc.marks_only (route_uncounted app serves) fun response served => ?_
      cases served.1
  | true =>
      unfold App.route
      cases routed : dispatch request.method request.path with
      | getPaste id => exact servePaste_marks app _ _ _ (fun _ => rfl) rfl
      | rawPaste id => exact servePaste_marks app _ _ _ (fun _ => rfl) rfl
      | _ =>
          rw [routed] at serves
          cases serves

end ActorServices.Pastebin

namespace ActorServices.UrlShortener

open Api

def Dispatched.follows : Dispatched → Bool
  | .redirect _ => true
  | _ => false

/-- The request is for a short link and has been answered with a redirect. -/
def Redirected (request : Request) (response : Response) : Prop :=
  (dispatch request.method request.path).follows = true ∧ response.status = 302

/-- The request is for a short link and has been answered with a redirect, or with an internal
error, as a target is that cannot be sent. -/
def RedirectedOrFailed (request : Request) (response : Response) : Prop :=
  (dispatch request.method request.path).follows = true ∧
    (response.status = 302 ∨ response.status = 500)

theorem failure_status (err : ServiceError) :
    (intoResponse (AppError.fromService err)).status ≠ 302 := by
  cases err <;> simp [intoResponse, json, AppError.fromService, AppError.status]

theorem follow_marks (code : String) (followed : Prop) (here : followed) :
    (App.follow code).Marks isCount (fun response => followed ∧ response.status = 302)
      fun response => followed ∧ (response.status = 302 ∨ response.status = 500) := by
  refine Proc.marks_bind (call_uncounted _) fun result => ?_
  cases result with
  | error err => exact fun counts => failure_status err counts.2
  | ok target =>
      refine .inr ⟨trivial, fun _ => ?_⟩
      cases encoded : headerValue target.value with
      | none =>
          refine ⟨intoResponse (.internal "failed to parse header value"), ?_, here, .inr rfl⟩
          simp only [Proc.bind]
          rfl
      | some location =>
          refine ⟨⟨302, [("location", location)], .empty⟩, ?_, here, .inl rfl⟩
          simp only [Proc.bind]
          rfl

theorem route_uncounted (app : App) {request : Request}
    (other : (dispatch request.method request.path).follows = false) :
    (app.route request).Only fun op => ¬ isCount op := by
  unfold App.route
  cases routed : dispatch request.method request.path with
  | ready =>
      refine ⟨id, fun reply => ?_⟩
      rcases reply with err | done <;> trivial
  | metrics => exact ⟨id, fun _ => trivial⟩
  | createLink =>
      cases read : app.extract request.headers request.body with
      | error rejection =>
          simp only [App.createLink, read]
          trivial
      | ok req =>
          simp only [App.createLink, read]
          refine Proc.only_bind (call_uncounted _) fun result => ?_
          cases result <;> trivial
  | getLink code =>
      refine Proc.only_bind (call_uncounted _) fun result => ?_
      cases result <;> trivial
  | deleteLink code =>
      refine Proc.only_bind (call_uncounted _) fun result => ?_
      rcases result with err | done <;> trivial
  | redirect code =>
      rw [routed] at other
      cases other
  | _ => trivial

theorem answer_marks (app : App) (request : Request) :
    (app.answer request).Marks isCount (Redirected request) (RedirectedOrFailed request) := by
  refine Proc.marks_map ?_
  simp only [Redirected, RedirectedOrFailed, answering_status]
  refine rateLimit_marks ?_ app.trustProxy request fun response followed refused => by omega
  cases follows : (dispatch request.method request.path).follows with
  | false =>
      refine Proc.marks_only (route_uncounted app follows) fun response followed => ?_
      cases followed.1
  | true =>
      unfold App.route
      cases routed : dispatch request.method request.path with
      | redirect code => exact follow_marks _ _ rfl
      | _ =>
          rw [routed] at follows
          cases follows

end ActorServices.UrlShortener

namespace ActorServices.Api

open Interleave Environment

/-- The counters in every run. `pastes_served` has gone up once for each request that has been
answered with a paste, and for no other. `redirects` has gone up once for each request that has
been answered with a redirect, and beyond that only for requests for a short link that failed.
`/metrics` shows the counter of a state that the run has been in. -/
theorem counters_exact :
    (∀ (app : Pastebin.App) requests state labels config,
      serve Pastebin.pasteEntity app.answer requests state labels = some config →
      (∃ served : Finset Nat,
        config.shared.counter = state.counter + UInt64.ofNat served.card ∧
          ∀ caller, caller ∈ served ↔ ∃ response, Responded config caller response ∧
            Pastebin.PasteServed (requests caller) response) ∧
      ∀ caller response, Responded config caller response → response.status = 200 →
        Pastebin.dispatch (requests caller).method (requests caller).path = .metrics →
        ReportsCounter Pastebin.pasteEntity app.answer requests state labels "pastes_served"
          (requests caller) response) ∧
    ∀ (app : UrlShortener.App) requests state labels config,
      serve UrlShortener.linkEntity app.answer requests state labels = some config →
      (∃ counted : Finset Nat,
        config.shared.counter = state.counter + UInt64.ofNat counted.card ∧
          (∀ caller response, Responded config caller response →
            UrlShortener.Redirected (requests caller) response → caller ∈ counted) ∧
          ∀ caller ∈ counted, ∃ response, Responded config caller response ∧
            UrlShortener.RedirectedOrFailed (requests caller) response) ∧
      ∀ caller response, Responded config caller response → response.status = 200 →
        UrlShortener.dispatch (requests caller).method (requests caller).path = .metrics →
        ReportsCounter UrlShortener.linkEntity app.answer requests state labels "redirects"
          (requests caller) response := by
  constructor
  · intro app requests state labels config ran
    constructor
    · obtain ⟨served, counter, inside, outside⟩ :=
        serve_tallied (Pastebin.answer_marks app) ran
      refine ⟨served, counter, fun caller => ⟨outside caller, ?_⟩⟩
      rintro ⟨response, responded, paste⟩
      exact inside caller response responded paste
    · intro caller response responded answered routed
      have handler : app.answer (requests caller) =
          (fun response => response.answering (requests caller).method) <$>
            rateLimit app.trustProxy (requests caller) (metrics "pastes_served") := by
        simp only [Pastebin.App.answer, Pastebin.App.route, routed]
      exact metrics_reported handler ran responded answered
  · intro app requests state labels config ran
    constructor
    · exact serve_tallied (UrlShortener.answer_marks app) ran
    · intro caller response responded answered routed
      have handler : app.answer (requests caller) =
          (fun response => response.answering (requests caller).method) <$>
            rateLimit app.trustProxy (requests caller) (metrics "redirects") := by
        simp only [UrlShortener.App.answer, UrlShortener.App.route, routed]
      exact metrics_reported handler ran responded answered

def notedPaste : Pastebin.Paste := ⟨⟨"abc"⟩, ⟨"text"⟩, none, 0, none, false, 0⟩

def notedApp : Pastebin.App where
  publicBaseUrl := "http://localhost:8080"
  trustProxy := false
  indexHtml := ""
  appJs := ""
  qrcodeJs := ""
  codec := .single (.fromPaste notedPaste) "text"
  extract _ _ := .error ⟨415, [], .empty⟩
  framework := ⟨⟨404, [], .empty⟩, ⟨405, [], .empty⟩, ⟨400, [], .empty⟩⟩

/-- Caller 0 asks for the paste, and everyone else for the counter. -/
def notedRequests (caller : Nat) : Request :=
  ⟨.get, if caller = 0 then "/raw/abc" else "/metrics", [], none, []⟩

/-- The one paste is stored. -/
def notedState : AppState Pastebin.PasteId Pastebin.Paste :=
  ⟨Shared.empty.setRepo ⟨"abc"⟩ (some ⟨notedPaste, 0⟩), RateLimit.new 0 0, 0⟩

def notedRun : Option (ApiConfig Pastebin.PasteId Pastebin.Paste) :=
  serve Pastebin.pasteEntity notedApp.answer notedRequests notedState
    [.start 0, .start 1, .step 0 (.sampled 0), .step 0 (.stores .done), .step 0 (.stores .done),
      .step 1 (.sampled 0), .step 0 (.stores .done), .step 0 (.stores .done),
      .step 0 (.stores .done), .step 0 (.stores .done), .step 1 (.stores .done)]

theorem counters_exact_noted :
    let shown : Response := json 200 [("pastes_served", .number 1)]
    ∃ config, notedRun = some config ∧ Responded config 1 shown ∧
      ∃ served : Finset Nat, config.shared.counter = 0 + UInt64.ofNat served.card ∧
        ∀ caller, caller ∈ served ↔ ∃ response, Responded config caller response ∧
          Pastebin.PasteServed (notedRequests caller) response := by
  intro shown
  have ended : notedRun.map (fun config => config.result? 1) =
      some (some (shown, .none)) := by
    decide +kernel
  obtain ⟨config, ran, result⟩ := Option.map_eq_some_iff.mp ended
  have main := counters_exact.1 notedApp notedRequests notedState _ config ran
  exact ⟨config, ran, ⟨_, returned_iff.mpr result⟩, main.1⟩

end ActorServices.Api
