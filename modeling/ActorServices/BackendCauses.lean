import ActorServices.LinkHandlers
import ActorServices.PasteApi
import ActorServices.ProcAlike

set_option autoImplicit false

namespace ActorServices.Api

open Interleave Environment
open UrlShortener (AppError)

/-- The same result, or two failures of the backend. -/
inductive Concealed {ε α : Type} (backend : String → ε) : Except ε α → Except ε α → Prop
  | same (result : Except ε α) : Concealed backend result result
  | failed (cause cause' : String) :
      Concealed backend (.error (backend cause)) (.error (backend cause'))

section Replies

variable {K V : Type}

/-- Replies to an await of a use case that differ in the cause of a failure only. -/
def opAlike : (op : Op K V) → op.Reply → op.Reply → Prop
  | .repoInsert _ => Concealed .backend
  | .repoGet _ => Concealed .backend
  | .repoTake _ => Concealed .backend
  | .repoDelete _ => Concealed .backend
  | .cacheGet _ => Eq
  | .cacheSet _ _ _ => Eq
  | .cacheDelete _ => Eq
  | .record _ => Eq
  | .nowUnix => Eq
  | .random => Eq

def replyAlike : (op : ApiOp K V) → op.Reply → op.Reply → Prop
  | .useCase op => opAlike op
  | .check _ => Eq
  | .ping => Concealed .backend
  | .count => Eq
  | .counted => Eq

inductive ChoiceAlike : ApiChoice → ApiChoice → Prop
  | same (choice : ApiChoice) : ChoiceAlike choice choice
  | failed (cause cause' : String) :
      ChoiceAlike (.stores (.failed cause)) (.stores (.failed cause'))

theorem opAlike_refl (op : Op K V) (reply : op.Reply) : opAlike op reply reply := by
  cases op with
  | repoInsert _ => exact .same reply
  | repoGet _ => exact .same reply
  | repoTake _ => exact .same reply
  | repoDelete _ => exact .same reply
  | _ => rfl

theorem replyAlike_refl (op : ApiOp K V) (reply : op.Reply) : replyAlike op reply reply := by
  cases op with
  | useCase op => exact opAlike_refl op reply
  | ping => exact .same reply
  | _ => rfl

variable [DecidableEq K] {entity : Entity K V}

/-- A failure leaves the state as it was, whatever its cause. -/
theorem perform_failed {stores next : Shared K V} {memory remembered : Memory V} {op : Op K V}
    {cause : String} {reply : op.Reply} (cause' : String)
    (performed : Environment.perform entity stores memory op (.failed cause) =
      some (reply, remembered, next)) :
    ∃ reply', Environment.perform entity stores memory op (.failed cause') =
        some (reply', remembered, next) ∧ opAlike op reply reply' := by
  cases op with
  | repoInsert _ =>
      cases performed
      exact ⟨_, rfl, .failed cause cause'⟩
  | repoGet _ =>
      cases performed
      exact ⟨_, rfl, .failed cause cause'⟩
  | repoTake _ =>
      cases performed
      exact ⟨_, rfl, .failed cause cause'⟩
  | repoDelete _ =>
      cases performed
      exact ⟨_, rfl, .failed cause cause'⟩
  | _ => cases performed

/-- Alike choices lead to the same state, with alike replies. -/
theorem perform_alike (state : AppState K V) (memory : Memory V) (op : ApiOp K V)
    (choice choice' : ApiChoice) (reply : op.Reply) (remembered : Memory V) (next : AppState K V)
    (alike : ChoiceAlike choice choice')
    (performed : (environment entity).perform state memory op choice =
      some (reply, remembered, next)) :
    ∃ reply', (environment entity).perform state memory op choice' =
        some (reply', remembered, next) ∧ replyAlike op reply reply' := by
  cases alike with
  | same => exact ⟨reply, performed, replyAlike_refl op reply⟩
  | failed cause cause' =>
      cases op with
      | useCase op =>
          obtain ⟨⟨given, kept, stores⟩, below, same⟩ := Option.map_eq_some_iff.mp performed
          cases same
          obtain ⟨reply', done, together⟩ := perform_failed cause' below
          exact ⟨reply', congrArg (Option.map _) done, together⟩
      | ping =>
          cases performed
          exact ⟨_, rfl, .failed cause cause'⟩
      | check _ => cases performed
      | count => cases performed
      | counted => cases performed

end Replies

section Handlers

variable {K V α : Type} {program : UseCase K V α}

/-- The use case makes nothing of a cause but to return it. -/
abbrev Discreet {ε : Type} (backend : String → ε) (program : UseCase K V (Except ε α)) : Prop :=
  program.Alike opAlike (Concealed backend) program

/-- The handler makes nothing of a cause at all. -/
abbrev Silent (handler : Handler K V α) : Prop := handler.Alike replyAlike Eq handler

theorem silent_ret (value : α) : Silent (.ret value : Handler K V α) := .ret value value rfl

theorem call_alike {values : α → α → Prop} (alike : program.Alike opAlike values program) :
    (call program).Alike replyAlike values (call program) := by
  refine alike.expand fun op => ?_
  exact .call _ _ _ fun reply reply' same => .ret reply reply' same

theorem cacheTtlSecs_alike (expiresAt : Option Int) :
    (UseCase.cacheTtlSecs expiresAt : UseCase K V Nat).Alike opAlike Eq
      (UseCase.cacheTtlSecs expiresAt) := by
  cases expiresAt with
  | none => exact .ret _ _ rfl
  | some exp =>
      refine .call _ _ _ ?_
      rintro now _ rfl
      exact .ret _ _ rfl

theorem health_silent : Silent (health : Handler K V Response) := silent_ret _

theorem ready_silent : Silent (ready : Handler K V Response) := by
  refine .call _ _ _ ?_
  rintro _ _ (⟨_ | _⟩ | ⟨_, _⟩)
  · exact silent_ret _
  · exact silent_ret _
  · exact silent_ret _

theorem metrics_silent (name : String) : Silent (metrics name : Handler K V Response) := by
  refine .call _ _ _ ?_
  rintro total _ rfl
  exact silent_ret _

theorem rateLimit_silent {next : Handler K V Response} (silent : Silent next) (trustProxy : Bool)
    (request : Request) : Silent (rateLimit trustProxy request next) := by
  refine .call _ _ _ ?_
  rintro admitted _ rfl
  cases admitted with
  | true => exact silent
  | false => exact silent_ret _

/-- A handler that calls a use case and answers every failure of the backend in one way. -/
theorem call_silent {ε : Type} {backend : String → ε} {program : UseCase K V (Except ε α)}
    (discreet : Discreet backend program) {next : Except ε α → Handler K V Response}
    (hides : ∀ cause cause', next (.error (backend cause)) = next (.error (backend cause')))
    (onwards : ∀ result, Silent (next result)) : Silent (call program >>= next) := by
  refine (call_alike discreet).bind ?_
  rintro result _ (_ | ⟨cause, cause'⟩)
  · exact onwards result
  · rw [hides cause cause']
    exact onwards _

end Handlers

end ActorServices.Api

namespace ActorServices.Pastebin

open Api UseCase

theorem createLoop_discreet (content : Content) (syntaxHint : Option String) (createdAt : Int)
    (expiresAt : Option Int) (oneShot : Bool) (attempts : Nat) :
    Discreet .backend (createLoop content syntaxHint createdAt expiresAt oneShot attempts) := by
  induction attempts with
  | zero => exact .ret _ _ (.same _)
  | succ attempts ih =>
      refine .call _ _ _ ?_
      rintro draw _ rfl
      refine .call _ _ _ ?_
      rintro _ _ (⟨(_ | cause) | ⟨⟩⟩ | ⟨cause, cause'⟩)
      · exact ih
      · exact .ret _ _ (.same _)
      · exact .ret _ _ (.same _)
      · exact .ret _ _ (.failed cause cause')

theorem create_discreet (content : String) (syntaxHint : Option String)
    (ttlSeconds : Option Nat) (oneShot : Bool) :
    Discreet .backend (create content syntaxHint ttlSeconds oneShot) := by
  unfold create
  split
  · exact .ret _ _ (.same _)
  · refine .call _ _ _ ?_
    rintro createdAt _ rfl
    exact createLoop_discreet _ syntaxHint createdAt _ oneShot _

theorem fetchCached_alike (codec : JsonCodec) (id : PasteId) :
    (fetchCached codec id).Alike opAlike Eq (fetchCached codec id) := by
  refine .call _ _ _ ?_
  rintro (_ | json) _ rfl
  · exact .ret _ _ rfl
  · simp only [Proc.bind]
    split
    · exact .ret _ _ rfl
    · refine .call _ _ _ ?_
      rintro now _ rfl
      simp only [Proc.bind]
      split
      · refine .call _ _ _ ?_
        rintro _ _ rfl
        exact .ret _ _ rfl
      · refine .call _ _ _ ?_
        rintro _ _ rfl
        exact .ret _ _ rfl

theorem fillCache_alike (codec : JsonCodec) (id : PasteId) (paste : Paste) :
    (fillCache codec id paste).Alike opAlike Eq (fillCache codec id paste) := by
  refine (cacheTtlSecs_alike paste.expiresAt).bind ?_
  rintro ttl _ rfl
  split
  · split
    · refine .call _ _ _ ?_
      rintro _ _ rfl
      exact .ret _ _ rfl
    · exact .ret _ _ rfl
  · exact .ret _ _ rfl

theorem fetchStored_discreet (codec : JsonCodec) (id : PasteId) :
    Discreet .backend (fetchStored codec id) := by
  refine .call _ _ _ ?_
  rintro _ _ (⟨err | _ | paste⟩ | ⟨cause, cause'⟩)
  · exact .ret _ _ (.same _)
  · exact .ret _ _ (.same _)
  · refine .call _ _ _ ?_
    rintro now _ rfl
    simp only [Proc.bind]
    split
    · refine .call _ _ _ ?_
      rintro _ _ -
      refine .call _ _ _ ?_
      rintro _ _ rfl
      exact .ret _ _ (.same _)
    · split
      · refine .call _ _ _ ?_
        rintro _ _ (⟨err | _ | taken⟩ | ⟨cause, cause'⟩)
        · exact .ret _ _ (.same _)
        · exact .ret _ _ (.same _)
        · exact .ret _ _ (.same _)
        · exact .ret _ _ (.failed cause cause')
      · refine (fillCache_alike codec id paste).bind ?_
        rintro _ _ rfl
        refine .call _ _ _ ?_
        rintro _ _ rfl
        exact .ret _ _ (.same _)
  · exact .ret _ _ (.failed cause cause')

theorem fetch_discreet (codec : JsonCodec) (raw : String) :
    Discreet .backend (fetch codec raw) := by
  unfold fetch
  split
  · exact .ret _ _ (.same _)
  · refine (fetchCached_alike codec _).bind ?_
    rintro (_ | paste) _ rfl
    · exact fetchStored_discreet codec _
    · exact .ret _ _ (.same _)

theorem delete_discreet (raw : String) : Discreet .backend (delete raw) := by
  unfold delete
  split
  · exact .ret _ _ (.same _)
  · refine .call _ _ _ ?_
    rintro _ _ (⟨err | removed⟩ | ⟨cause, cause'⟩)
    · exact .ret _ _ (.same _)
    · refine .call _ _ _ ?_
      rintro _ _ rfl
      simp only [Proc.bind]
      split
      · exact .ret _ _ (.same _)
      · exact .ret _ _ (.same _)
    · exact .ret _ _ (.failed cause cause')

theorem createPaste_silent (app : App) (request : Request) : Silent (app.createPaste request) := by
  unfold App.createPaste
  split
  · exact silent_ret _
  · refine call_silent (create_discreet ..) (fun _ _ => rfl) ?_
    rintro (err | paste)
    · exact silent_ret _
    · exact silent_ret _

theorem servePaste_silent (app : App) (id : String) (answer : Paste → Response) :
    Silent (app.servePaste id answer) := by
  refine call_silent (fetch_discreet app.codec id) (fun _ _ => rfl) ?_
  rintro (err | paste)
  · exact silent_ret _
  · refine .call _ _ _ ?_
    rintro _ _ rfl
    exact silent_ret _

theorem deletePaste_silent (id : String) : Silent (App.deletePaste id) := by
  refine call_silent (delete_discreet id) (fun _ _ => rfl) ?_
  rintro (err | done)
  · exact silent_ret _
  · exact silent_ret _

theorem answer_silent (app : App) (request : Request) : Silent (app.answer request) := by
  have routed : Silent (app.route request) := by
    unfold App.route
    cases dispatch request.method request.path with
    | health => exact health_silent
    | ready => exact ready_silent
    | metrics => exact metrics_silent "pastes_served"
    | createPaste => exact createPaste_silent app request
    | getPaste id => exact servePaste_silent app _ _
    | rawPaste id => exact servePaste_silent app _ _
    | deletePaste id => exact deletePaste_silent _
    | _ => exact silent_ret _
  refine (rateLimit_silent routed app.trustProxy request).map ?_
  rintro response _ rfl
  rfl

end ActorServices.Pastebin

namespace ActorServices.UrlShortener

open Api UseCase

theorem createLoop_discreet (target : TargetUrl) (createdAt : Int) (expiresAt : Option Int)
    (attempts : Nat) : Discreet .backend (createLoop target createdAt expiresAt attempts) := by
  induction attempts with
  | zero => exact .ret _ _ (.same _)
  | succ attempts ih =>
      refine .call _ _ _ ?_
      rintro draw _ rfl
      refine .call _ _ _ ?_
      rintro _ _ (⟨(_ | cause) | ⟨⟩⟩ | ⟨cause, cause'⟩)
      · exact ih
      · exact .ret _ _ (.same _)
      · exact .ret _ _ (.same _)
      · exact .ret _ _ (.failed cause cause')

theorem createAlias_discreet (requested : String) (target : TargetUrl) (createdAt : Int)
    (expiresAt : Option Int) :
    Discreet .backend (createAlias requested target createdAt expiresAt) := by
  unfold createAlias
  split
  · exact .ret _ _ (.same _)
  · refine .call _ _ _ ?_
    rintro _ _ (⟨err | ⟨⟩⟩ | ⟨cause, cause'⟩)
    · exact .ret _ _ (.same _)
    · exact .ret _ _ (.same _)
    · exact .ret _ _ (.failed cause cause')

theorem create_discreet (settings : Settings) (url : String) (requested : Option String)
    (ttlSeconds : Option Nat) : Discreet .backend (create settings url requested ttlSeconds) := by
  unfold create
  split
  · exact .ret _ _ (.same _)
  · split
    · exact .ret _ _ (.same _)
    · refine .call _ _ _ ?_
      rintro createdAt _ rfl
      cases requested with
      | some requested => exact createAlias_discreet requested _ createdAt _
      | none => exact createLoop_discreet _ createdAt _ _

theorem fillCache_alike (code : ShortCode) (link : Link) :
    (fillCache code link).Alike opAlike Eq (fillCache code link) := by
  refine (cacheTtlSecs_alike link.expiresAt).bind ?_
  rintro ttl _ rfl
  split
  · refine .call _ _ _ ?_
    rintro _ _ rfl
    exact .ret _ _ rfl
  · exact .ret _ _ rfl

theorem resolveStored_discreet (code : ShortCode) :
    Discreet .backend (resolveStored code) := by
  refine .call _ _ _ ?_
  rintro _ _ (⟨err | _ | link⟩ | ⟨cause, cause'⟩)
  · exact .ret _ _ (.same _)
  · exact .ret _ _ (.same _)
  · refine .call _ _ _ ?_
    rintro now _ rfl
    simp only [Proc.bind]
    split
    · refine .call _ _ _ ?_
      rintro _ _ -
      refine .call _ _ _ ?_
      rintro _ _ rfl
      exact .ret _ _ (.same _)
    · refine (fillCache_alike code link).bind ?_
      rintro _ _ rfl
      refine .call _ _ _ ?_
      rintro _ _ rfl
      exact .ret _ _ (.same _)
  · exact .ret _ _ (.failed cause cause')

theorem resolve_discreet (raw : String) : Discreet .backend (resolve raw) := by
  unfold resolve
  split
  · exact .ret _ _ (.same _)
  · refine .call _ _ _ ?_
    rintro (_ | target) _ rfl
    · exact resolveStored_discreet _
    · refine .call _ _ _ ?_
      rintro _ _ rfl
      exact .ret _ _ (.same _)

theorem get_discreet (raw : String) : Discreet .backend (get raw) := by
  unfold get
  split
  · exact .ret _ _ (.same _)
  · refine .call _ _ _ ?_
    rintro _ _ (⟨err | _ | link⟩ | ⟨cause, cause'⟩)
    · exact .ret _ _ (.same _)
    · exact .ret _ _ (.same _)
    · refine .call _ _ _ ?_
      rintro now _ rfl
      simp only [Proc.bind]
      split
      · refine .call _ _ _ ?_
        rintro _ _ -
        exact .ret _ _ (.same _)
      · exact .ret _ _ (.same _)
    · exact .ret _ _ (.failed cause cause')

theorem delete_discreet (raw : String) : Discreet .backend (delete raw) := by
  unfold delete
  split
  · exact .ret _ _ (.same _)
  · refine .call _ _ _ ?_
    rintro _ _ (⟨err | removed⟩ | ⟨cause, cause'⟩)
    · exact .ret _ _ (.same _)
    · refine .call _ _ _ ?_
      rintro _ _ rfl
      simp only [Proc.bind]
      split
      · exact .ret _ _ (.same _)
      · exact .ret _ _ (.same _)
    · exact .ret _ _ (.failed cause cause')

theorem createLink_silent (app : App) (request : Request) : Silent (app.createLink request) := by
  unfold App.createLink
  split
  · exact silent_ret _
  · refine call_silent (create_discreet ..) (fun _ _ => rfl) ?_
    rintro (err | link)
    · exact silent_ret _
    · exact silent_ret _

theorem follow_silent (code : String) : Silent (App.follow code) := by
  refine call_silent (resolve_discreet code) (fun _ _ => rfl) ?_
  rintro (err | target)
  · exact silent_ret _
  · refine .call _ _ _ ?_
    rintro _ _ rfl
    simp only [Proc.bind]
    split
    · exact silent_ret _
    · exact silent_ret _

theorem getLink_silent (code : String) : Silent (App.getLink code) := by
  refine call_silent (get_discreet code) (fun _ _ => rfl) ?_
  rintro (err | link)
  · exact silent_ret _
  · exact silent_ret _

theorem deleteLink_silent (code : String) : Silent (App.deleteLink code) := by
  refine call_silent (delete_discreet code) (fun _ _ => rfl) ?_
  rintro (err | done)
  · exact silent_ret _
  · exact silent_ret _

theorem answer_silent (app : App) (request : Request) : Silent (app.answer request) := by
  have routed : Silent (app.route request) := by
    unfold App.route
    cases dispatch request.method request.path with
    | health => exact health_silent
    | ready => exact ready_silent
    | metrics => exact metrics_silent "redirects"
    | createLink => exact createLink_silent app request
    | getLink code => exact getLink_silent _
    | deleteLink code => exact deleteLink_silent _
    | redirect code => exact follow_silent _
    | _ => exact silent_ret _
  refine (rateLimit_silent routed app.trustProxy request).map ?_
  rintro response _ rfl
  rfl

end ActorServices.UrlShortener

namespace ActorServices.Api

open Interleave Environment

section Runs

variable {K V : Type} [DecidableEq K] {entity : Entity K V}
  {answer : Request → Handler K V Response} {requests : Nat → Request} {state : AppState K V}
  {labels labels' : List (ApiLabel K)} {config : ApiConfig K V}

theorem serve_silent (silent : ∀ request, Silent (answer request))
    (alike : List.Forall₂ (LabelAlike ChoiceAlike) labels labels')
    (ran : serve entity answer requests state labels = some config) :
    ∃ config', serve entity answer requests state labels' = some config' ∧
      config'.shared = config.shared ∧
      ∀ caller response, Responded config caller response ↔ Responded config' caller response := by
  have start : ConfigAlike replyAlike Eq (.initial state : ApiConfig K V) (.initial state) :=
    .initial state
  obtain ⟨config', ran', ended⟩ :=
    start.run perform_alike (fun caller => silent (requests caller)) alike ran
  refine ⟨config', ran', ended.shared.symm, fun caller response => ?_⟩
  exact exists_congr fun memory => ended.returned_iff caller response memory

end Runs

/-- In both services: of two runs that differ only in the causes of backend failures, each
client gets the same response in both, and the stores, the limiter and the counter end the
same. -/
theorem causes_hidden :
    (∀ (app : Pastebin.App) requests state labels labels' config,
      List.Forall₂ (LabelAlike ChoiceAlike) labels labels' →
      serve Pastebin.pasteEntity app.answer requests state labels = some config →
      ∃ config', serve Pastebin.pasteEntity app.answer requests state labels' = some config' ∧
        config'.shared = config.shared ∧ ∀ caller response,
          Responded config caller response ↔ Responded config' caller response) ∧
    ∀ (app : UrlShortener.App) requests state labels labels' config,
      List.Forall₂ (LabelAlike ChoiceAlike) labels labels' →
      serve UrlShortener.linkEntity app.answer requests state labels = some config →
      ∃ config', serve UrlShortener.linkEntity app.answer requests state labels' = some config' ∧
        config'.shared = config.shared ∧ ∀ caller response,
          Responded config caller response ↔ Responded config' caller response := by
  constructor
  · intro app requests state labels labels' config alike ran
    exact serve_silent (Pastebin.answer_silent app) alike ran
  · intro app requests state labels labels' config alike ran
    exact serve_silent (UrlShortener.answer_silent app) alike ran

def failingApp : Pastebin.App where
  publicBaseUrl := "http://localhost:8080"
  trustProxy := false
  indexHtml := ""
  appJs := ""
  qrcodeJs := ""
  codec := .single ⟨"abc", "text", none, 0, none, false, 0⟩ ""
  extract _ _ := .error ⟨415, [], .empty⟩
  framework := ⟨⟨404, [], .empty⟩, ⟨405, [], .empty⟩, ⟨400, [], .empty⟩⟩

def failingRequest : Request := ⟨.get, "/raw/abc", [], none, []⟩

/-- The read of the repository fails for this cause. -/
def failingLabels (cause : String) : List (ApiLabel Pastebin.PasteId) :=
  [.start 0, .step 0 (.sampled 0), .step 0 (.stores .done), .step 0 (.stores (.failed cause))]

def failingRun (cause : String) : Option (ApiConfig Pastebin.PasteId Pastebin.Paste) :=
  serve Pastebin.pasteEntity failingApp.answer (fun _ => failingRequest) (.start 0 0)
    (failingLabels cause)

theorem causes_hidden_disk :
    let refused : Response := json 500 [("error", .text "internal error")]
    ∃ config config', failingRun "disk I/O error" = some config ∧
      failingRun "no such table: pastes" = some config' ∧
      Responded config 0 refused ∧ Responded config' 0 refused := by
  intro refused
  have failed : (failingRun "disk I/O error").map (fun config => config.result? 0) =
      some (some (refused, .none)) := by
    decide +kernel
  obtain ⟨config, ran, result⟩ := Option.map_eq_some_iff.mp failed
  have responded : Responded config 0 refused := ⟨_, returned_iff.mpr result⟩
  have alike : List.Forall₂ (LabelAlike ChoiceAlike) (failingLabels "disk I/O error")
      (failingLabels "no such table: pastes") :=
    .cons (.start 0) (.cons (.step 0 _ _ (.same _)) (.cons (.step 0 _ _ (.same _))
      (.cons (.step 0 _ _ (.failed _ _)) .nil)))
  obtain ⟨config', ran', -, same⟩ := causes_hidden.1 failingApp _ _ _ _ config alike ran
  exact ⟨config, config', ran, ran', responded, (same 0 refused).mp responded⟩

end ActorServices.Api
