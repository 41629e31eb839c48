import ActorServices.ServiceApi

set_option autoImplicit false

/- `middleware` between the rate limit and the handlers: `TimeoutLayer` and `CatchPanicLayer` may
answer a request at any moment in place of its handler, which is dropped then. -/
namespace ActorServices.Api

open Interleave Environment

structure Middleware where
  timedOut : Response
  panicked : Response
  timedOut_status : timedOut.status = 408
  panicked_status : panicked.status = 500

/-- A response that has gone out. `pending` says that the handler was dropped while it waited for
a store, which may still do what it was asked for. -/
structure Sent where
  response : Response
  pending : Bool
  deriving DecidableEq

structure Serving (K V : Type) where
  config : ApiConfig K V
  sent : Nat → Option Sent

inductive ServingLabel (K : Type)
  | inside (label : ApiLabel K)
  | sends (caller : Nat)
  | timesOut (caller : Nat)
  | panics (caller : Nat)

def ServingLabel.inside? {K : Type} : ServingLabel K → Option (ApiLabel K)
  | .inside label => some label
  | _ => none

/-- Steps of handlers and of what surrounds them, with no response in between. -/
def ServingLabel.insides {K : Type} (labels : List (ApiLabel K)) : List (ServingLabel K) :=
  labels.map .inside

variable {K V : Type}

/-- `rate_limit` has let the request pass, and has not answered it. -/
def Serving.admitted (serving : Serving K V) (caller : Nat) : Bool :=
  match serving.config.threads caller with
  | some ⟨.call (.check _) _, _⟩ => false
  | some ⟨.call _ _, _⟩ => true
  | some ⟨.ret response, _⟩ => response.status != 429
  | none => false

/-- The handler waits for a store. -/
def Serving.asking (serving : Serving K V) (caller : Nat) : Bool :=
  match serving.config.op? caller with
  | some (.useCase _) => true
  | _ => false

def Serving.send (serving : Serving K V) (caller : Nat) (response : Response) (pending : Bool) :
    Serving K V :=
  { serving with sent := Function.update serving.sent caller (some ⟨response, pending⟩) }

/-- A handler that was dropped takes no step, but for the one that is pending. -/
def dropped (sent : Nat → Option Sent) : ApiLabel K → Option (Nat → Option Sent)
  | .step caller _ =>
      match sent caller with
      | some ⟨_, false⟩ => none
      -- the store does what it was asked for, and nobody takes its reply
      | some ⟨response, true⟩ => some (Function.update sent caller (some ⟨response, false⟩))
      | none => some sent
  | _ => some sent

/-- The client has got the response. -/
def Serving.Answered (serving : Serving K V) (caller : Nat) (response : Response) : Prop :=
  ∃ pending, serving.sent caller = some ⟨response, pending⟩

theorem dropped_answered {serving : Serving K V} {inner : ApiLabel K} {sent : Nat → Option Sent}
    (kept : dropped serving.sent inner = some sent) {caller : Nat} {response : Response}
    {pending : Bool} (found : sent caller = some ⟨response, pending⟩) :
    serving.Answered caller response := by
  cases inner with
  | start other =>
      cases kept
      exact ⟨pending, found⟩
  | event event =>
      cases kept
      exact ⟨pending, found⟩
  | step other choice =>
      simp only [dropped] at kept
      split at kept
      · cases kept
      · rename_i before late
        cases kept
        by_cases same : caller = other
        · subst same
          rw [Function.update_self] at found
          cases found
          exact ⟨true, late⟩
        · rw [Function.update_of_ne same] at found
          exact ⟨pending, found⟩
      · cases kept
        exact ⟨pending, found⟩

variable [DecidableEq K]

def servingStep (entity : Entity K V) (answer : Request → Handler K V Response)
    (middleware : Middleware) (requests : Nat → Request) (serving : Serving K V) :
    ServingLabel K → Option (Serving K V)
  | .inside label => do
      let sent ← dropped serving.sent label
      let config ← Interleave.step (environment entity) (fun caller => answer (requests caller))
        serving.config label
      return ⟨config, sent⟩
  | .sends caller =>
      match serving.sent caller, serving.config.result? caller with
      | none, some (response, _) => some (serving.send caller response false)
      | _, _ => none
  | .timesOut caller =>
      -- also a handler that is over may come too late
      if (serving.sent caller).isNone && serving.admitted caller then
        some (serving.send caller (middleware.timedOut.answering (requests caller).method)
          (serving.asking caller))
      else none
  | .panics caller =>
      if (serving.sent caller).isNone && serving.admitted caller then
        some (serving.send caller (middleware.panicked.answering (requests caller).method) false)
      else none

/-- A run of the given requests through the middleware, from a state. -/
abbrev serveAll (entity : Entity K V) (answer : Request → Handler K V Response)
    (middleware : Middleware) (requests : Nat → Request) (state : AppState K V)
    (labels : List (ServingLabel K)) : Option (Serving K V) :=
  Trace.run (servingStep entity answer middleware requests) ⟨.initial state, fun _ => none⟩ labels

/-- The middleware has answered in place of the handler. -/
inductive Middleware.CutOff (middleware : Middleware) (request : Request) : Response → Prop
  | timedOut : CutOff middleware request (middleware.timedOut.answering request.method)
  | panicked : CutOff middleware request (middleware.panicked.answering request.method)

theorem Middleware.CutOff.status {middleware : Middleware} {request : Request}
    {response : Response} (cut : middleware.CutOff request response) :
    response.status = 408 ∨ response.status = 500 := by
  cases cut with
  | timedOut => exact .inl ((answering_status _ _).trans middleware.timedOut_status)
  | panicked => exact .inr ((answering_status _ _).trans middleware.panicked_status)

section Steps

variable {entity : Entity K V} {answer : Request → Handler K V Response} {middleware : Middleware}
  {requests : Nat → Request} {serving next : Serving K V}

/-- All that a step can do: what a handler or the surroundings do, or a response goes out. -/
theorem servingStep_cases {label : ServingLabel K}
    (taken : servingStep entity answer middleware requests serving label = some next) :
    (∃ inner, label = .inside inner ∧ dropped serving.sent inner = some next.sent ∧
      Interleave.step (environment entity) (fun caller => answer (requests caller))
        serving.config inner = some next.config) ∨
    label.inside? = none ∧ ∃ caller response pending,
      next = serving.send caller response pending ∧ serving.sent caller = none ∧
      (middleware.CutOff (requests caller) response ∨
        Responded serving.config caller response) := by
  have free : ∀ {caller}, ((serving.sent caller).isNone && serving.admitted caller) = true →
      serving.sent caller = none :=
    fun both => Option.isNone_iff_eq_none.mp (Bool.and_eq_true_iff.mp both).1
  cases label with
  | inside inner =>
      simp only [servingStep, Option.bind_eq_bind, Option.bind_eq_some_iff] at taken
      obtain ⟨sent, kept, config, moved, same⟩ := taken
      cases same
      exact .inl ⟨inner, rfl, kept, moved⟩
  | sends caller =>
      simp only [servingStep] at taken
      split at taken
      · rename_i response memory idle returned
        cases taken
        exact .inr ⟨rfl, caller, response, false, rfl, idle,
          .inr ⟨memory, returned_iff.mpr returned⟩⟩
      · cases taken
  | timesOut caller =>
      simp only [servingStep] at taken
      split at taken
      · rename_i both
        cases taken
        exact .inr ⟨rfl, caller, _, _, rfl, free both, .inl .timedOut⟩
      · cases taken
  | panics caller =>
      simp only [servingStep] at taken
      split at taken
      · rename_i both
        cases taken
        exact .inr ⟨rfl, caller, _, _, rfl, free both, .inl .panicked⟩
      · cases taken

/-- What is left of a run without the responses is a run of the handlers. -/
theorem serving_projects :
    Trace.Projects (servingStep entity answer middleware requests)
      (Interleave.step (environment entity) fun caller => answer (requests caller))
      Serving.config ServingLabel.inside? := by
  intro serving label next taken
  rcases servingStep_cases taken with ⟨inner, rfl, -, moved⟩ | ⟨outside, caller, response, pending,
    rfl, -⟩
  · exact moved
  · rw [outside]
    rfl

variable {state : AppState K V} {labels : List (ServingLabel K)}

theorem serveAll_serve
    (ran : serveAll entity answer middleware requests state labels = some serving) :
    serve entity answer requests state (labels.filterMap ServingLabel.inside?) =
      some serving.config :=
  serving_projects.run ran

theorem serveAll_append {front rest : List (ServingLabel K)} {middle : Serving K V}
    (reached : serveAll entity answer middleware requests state front = some middle)
    (ran : Trace.run (servingStep entity answer middleware requests) middle rest = some serving) :
    serveAll entity answer middleware requests state (front ++ rest) = some serving := by
  rw [serveAll, Trace.run_append]
  exact Option.bind_eq_some_iff.mpr ⟨middle, reached, ran⟩

/-- A client gets what its handler has returned, or an answer of the middleware. -/
theorem answered_responded
    (ran : serveAll entity answer middleware requests state labels = some serving) {caller : Nat}
    {response : Response} (answered : serving.Answered caller response) :
    middleware.CutOff (requests caller) response ∨
      Responded serving.config caller response := by
  refine Trace.run_preserves (fun serving : Serving K V => ∀ caller response,
    serving.Answered caller response → middleware.CutOff (requests caller) response ∨
      Responded serving.config caller response) ?_ ?_ ran caller response answered
  · intro middle label next known taken caller response answered
    obtain ⟨pending, found⟩ := answered
    rcases servingStep_cases taken with ⟨inner, rfl, kept, moved⟩ | ⟨-, other, given, late, rfl, -,
      source⟩
    · rcases known caller response (dropped_answered kept found) with cut | ⟨memory, returned⟩
      · exact .inl cut
      · exact .inr ⟨memory, step_returned moved returned⟩
    · by_cases same : caller = other
      · subst same
        simp only [Serving.send, Function.update_self] at found
        cases found
        exact source
      · simp only [Serving.send, Function.update_of_ne same] at found
        exact known caller response ⟨pending, found⟩
  · rintro caller response ⟨pending, found⟩
    cases found

/-- A response with another status than 408 and 500 comes from the handler. -/
theorem answered_handled
    (ran : serveAll entity answer middleware requests state labels = some serving)
    {caller : Nat} {response : Response} (answered : serving.Answered caller response)
    (timely : response.status ≠ 408) (sound : response.status ≠ 500) :
    Responded serving.config caller response := by
  rcases answered_responded ran answered with cut | responded
  · exact (cut.status.elim timely sound).elim
  · exact responded

end Steps

end ActorServices.Api
