import ActorServices.RequestCalls
import ActorServices.ServiceFound

set_option autoImplicit false

namespace ActorServices.Api

open Interleave Environment Proc

variable {K V α : Type} [DecidableEq K]

theorem nullable_number {left right : Option Int}
    (same : nullable Scalar.number left = nullable Scalar.number right) : left = right := by
  cases left <;> cases right <;> simp [nullable] at same ⊢
  exact same

/-- The calls of a service as one row sees them: only those that seek it may remove it, and
these end as `finds` says. -/
structure Seeking (entity : Entity K V) (cacheable : V → String → Prop)
    (programs : Nat → UseCase K V α) (contracts : Nat → Contract (Op K V) Op.Reply (Memory V))
    (post : Nat → Memory V → α → Prop) (made : V) (live : Int → Prop) (seeks : Nat → Prop)
    (finds : Prop → Prop → α → Prop) : Prop where
  rule : Rule (α := α) (service entity) (fun _ _ => True) contracts (Consistent entity cacheable)
    (Remembers entity)
  safe : ∀ caller, (programs caller).Safe (contracts caller) (post caller) .none
  removes : ∀ caller memory op, (contracts caller).allows memory op →
    op = .repoTake (entity.key made) ∨ op = .repoDelete (entity.key made) → seeks caller
  finding : ∀ caller waiting failing, seeks caller →
    (programs caller).Safe (findContract entity cacheable made live waiting failing)
      (fun _ reply => finds waiting failing reply) .none

def Looks (entity : Entity K V) (cacheable : V → String → Prop) (made : V) (live : Int → Prop)
    (finds : Prop → Prop → α → Prop) (waiting failing : Prop) (caller : Nat)
    (config : Calls K V α) : Prop :=
  ∀ thread, config.threads caller = some thread →
    thread.program.Safe (findContract entity cacheable made live waiting failing)
      (fun _ reply => finds waiting failing reply) thread.memory

/-- The row is stored from the moment it is made, and nobody who seeks it will remove it. -/
structure Finding (entity : Entity K V) (cacheable : V → String → Prop)
    (contracts : Nat → Contract (Op K V) Op.Reply (Memory V)) (post : Nat → Memory V → α → Prop)
    (made : V) (live : Int → Prop) (seeks : Nat → Prop) (finds : Prop → Prop → α → Prop)
    (stamp : Nat) (config : Calls K V α) : Prop where
  sound : Sound contracts (Consistent entity cacheable) (Remembers entity) post config
  seekers : ∀ caller, seeks caller →
    Looks entity cacheable made live finds False True caller config
  kept : stamp < config.shared.made.length → Present config (entity.key made) stamp

section Finding

variable {entity : Entity K V} {cacheable : V → String → Prop} {programs : Nat → UseCase K V α}
  {contracts : Nat → Contract (Op K V) Op.Reply (Memory V)} {post : Nat → Memory V → α → Prop}
  {made : V} {live : Int → Prop} {seeks : Nat → Prop} {finds : Prop → Prop → α → Prop}
  {stamp reader : Nat} {before after : Calls K V α} {label : Label Choice (Environment.Event K)}

theorem Finding.step
    (finding : Finding entity cacheable contracts post made live seeks finds stamp before)
    (seeking : Seeking entity cacheable programs contracts post made live seeks finds)
    (sole : Sole entity made stamp after.shared) (lives : live before.shared.clock)
    (taken : Interleave.step (service entity) programs before label = some after) :
    Finding entity cacheable contracts post made live seeks finds stamp after where
  sound := finding.sound.step seeking.rule seeking.safe trivial taken
  seekers caller seeks := by
    refine safe_step taken (seeking.finding caller False True seeks)
      (finding.seekers caller seeks) ?_
    rintro choice op memory reply remembered rfl - allowed performed
    exact find_replies finding.sound.shared (sole.earlier (step_made taken)) lives False.elim
      (fun _ _ => trivial) allowed performed
  kept grown := by
    by_cases old : stamp < before.shared.made.length
    · refine present_after taken ?_ (finding.kept old)
      rintro caller ⟨choice, op, memory, rfl, awaits, removal⟩
      have seeks := seeking.removes caller memory op (finding.sound.awaits awaits)
        (removal.imp_right And.left)
      obtain ⟨next, running⟩ := awaits
      have allowed := (finding.seekers caller seeks _ running).1
      rcases removal with rfl | ⟨rfl, -⟩
      · exact allowed
      · exact allowed
    · have here := List.getElem?_eq_getElem grown
      have present := present_made taken (Nat.not_lt.mp old) here
      rw [sole.same _ here] at present
      exact present

/-- A call that began when the row was stored finds it, unless an await of its own fails. -/
theorem Finding.waits {failing : Prop}
    (finding : Finding entity cacheable contracts post made live seeks finds stamp before)
    (seeking : Seeking entity cacheable programs contracts post made live seeks finds)
    (sole : Sole entity made stamp after.shared) (lives : live before.shared.clock)
    (old : stamp < before.shared.made.length) (reads : seeks reader)
    (fails : ∀ cause, label = .step reader (.failed cause) → failing)
    (taken : Interleave.step (service entity) programs before label = some after)
    (looks : Looks entity cacheable made live finds True failing reader before) :
    Looks entity cacheable made live finds True failing reader after := by
  refine safe_step taken (seeking.finding reader True failing reads) looks ?_
  rintro choice op memory reply remembered rfl - allowed performed
  refine find_replies finding.sound.shared (sole.earlier (step_made taken)) lives (fun _ => ?_)
    (fun cause failed => fails cause (by rw [failed])) allowed performed
  obtain ⟨row, stored, -⟩ := finding.kept old
  exact ⟨row, stored⟩

end Finding

section Requests

variable {entity : Entity K V} {cacheable : V → String → Prop} {programs : Nat → UseCase K V α}
  {contracts : Nat → Contract (Op K V) Op.Reply (Memory V)} {post : Nat → Memory V → α → Prop}
  {made : V} {live : Int → Prop} {seeks : Nat → Prop} {finds : Prop → Prop → α → Prop}
  {last : α → Prop} {early : Nat → Response → UseCase K V α → Prop}
  {ends : Nat → α → Response → Prop}
  {handlers : Nat → Handler K V Response} {rps burst : UInt32} {stamp reader : Nat}
  {front rest : List (ApiLabel K)} {middle config : ApiConfig K V}

theorem carried_made
    (together : ∀ caller, Carries useCaseLayer (Besides last) (early caller) (ends caller)
      (handlers caller) (programs caller)) {inner : Calls K V α}
    (carries : ConfigCarries useCaseLayer (Besides last) AppState.stores early ends middle inner)
    (ran : Interleave.run (environment entity) handlers middle rest = some config) :
    middle.shared.stores.made <+: config.shared.stores.made := by
  obtain ⟨labels, after, followed, came⟩ := carries.run (api_surrounds entity last) together ran
  have grown := run_made followed
  rw [carries.shared, came.shared] at grown
  exact grown

/-- An await of the caller's own fails. -/
def Fails (reader : Nat) (labels : List (ApiLabel K)) : Prop :=
  ∃ cause, .step reader (.stores (.failed cause)) ∈ labels

/-- What the call of the reader comes to in a run of requests, if it began when the row had been
made, whose key was used once. -/
theorem requests_find
    (seeking : Seeking entity cacheable programs contracts post made live seeks finds)
    (together : ∀ caller, Carries useCaseLayer (Besides last) (early caller) (ends caller)
      (handlers caller) (programs caller))
    (reached : Interleave.run (environment entity) handlers (.initial (.start rps burst)) front =
      some middle)
    (ran : Interleave.run (environment entity) handlers middle rest = some config)
    (here : middle.shared.stores.made[stamp]? = some made)
    (once : Unrepeated entity config.shared.stores (entity.key made))
    (lives : Throughout (environment entity) handlers
      (fun config _ => live config.shared.stores.clock) (.initial (.start rps burst))
      (front ++ rest))
    (idle : middle.threads reader = none) (reads : seeks reader) :
    ∃ inner : Calls K V α,
      ConfigCarries useCaseLayer (Besides last) AppState.stores early ends config inner ∧
      Looks entity cacheable made live finds True (Fails reader rest) reader inner := by
  have old : stamp < middle.shared.stores.made.length := (List.getElem?_eq_some_iff.mp here).1
  have sole : Sole entity made stamp config.shared.stores := by
    obtain ⟨_, _, -, carries⟩ :=
      (ConfigCarries.initial _).run (api_surrounds entity last) together reached
    obtain ⟨extra, grown⟩ := carried_made together carries ran
    refine once.sole ?_
    rw [← grown, List.getElem?_append_left old, here]
  have onwards : ∀ {next : ApiConfig K V} {labels : List (ApiLabel K)},
      Interleave.run (environment entity) handlers next labels = some middle →
      Interleave.run (environment entity) handlers next (labels ++ rest) = some config := by
    intro next labels came
    rw [Interleave.run, run_append]
    exact Option.bind_eq_some_iff.mpr ⟨middle, came, ran⟩
  have start : Finding entity cacheable contracts post made live seeks finds stamp
      (.initial .empty) := by
    refine ⟨.initial _ .empty, ?_, ?_⟩
    · intro _ _ _ present
      cases present
    · exact fun grown => absurd grown (Nat.not_lt_zero stamp)
  obtain ⟨inside, carries, finding⟩ := ConfigCarries.invariant (api_surrounds entity last) together
    (Finding entity cacheable contracts post made live seeks finds stamp)
    (by
      intro history label after before next before' label' next' split came later stands moves
        finding taken _
      refine finding.step seeking ?_ ?_ taken
      · rw [moves.shared]
        exact sole.earlier (carried_made together moves (onwards later))
      · rw [stands.shared]
        exact lives.front history label after before split came)
    (ConfigCarries.initial _) start reached
  have begins : Looks entity cacheable made live finds True (Fails reader rest) reader inside := by
    intro thread present
    rw [carries.idle idle] at present
    cases present
  obtain ⟨inner, ended, -, -, looks⟩ := carries.invariant (api_surrounds entity last) together
    (fun config : Calls K V α =>
      Finding entity cacheable contracts post made live seeks finds stamp config ∧
        stamp < config.shared.made.length ∧
        Looks entity cacheable made live finds True (Fails reader rest) reader config)
    (by
      rintro history label after before next before' label' next' split came later stands moves
        ⟨finding, old, looks⟩ taken same
      have alone : Sole entity made stamp next'.shared := by
        rw [moves.shared]
        exact sole.earlier (carried_made together moves later)
      have alive : live before'.shared.clock := by
        rw [stands.shared]
        exact lives.back reached history label after before split came
      refine ⟨finding.step seeking alone alive taken,
        Nat.lt_of_lt_of_le old (step_made taken).length_le,
        finding.waits seeking alone alive old reads ?_ taken looks⟩
      intro cause failed
      refine ⟨cause, ?_⟩
      rw [split, same reader (.failed cause) failed]
      exact List.mem_append_right _ List.mem_cons_self)
    ⟨finding, by rw [carries.shared]; exact old, begins⟩ ran
  exact ⟨inner, ended, looks⟩

end Requests

section Middleware

variable {entity : Entity K V} {answer : Request → Handler K V Response} {middleware : Middleware}
  {requests : Nat → Request} {rps burst : UInt32} {front rest : List (ServingLabel K)}
  {middle serving : Serving K V}

theorem serving_lives (live : Int → Prop)
    (reached : serveAll entity answer middleware requests (.start rps burst) front = some middle)
    (ran : Trace.run (servingStep entity answer middleware requests) middle rest = some serving)
    (lives : Trace.Throughout (servingStep entity answer middleware requests)
      (fun serving _ => live serving.config.shared.stores.clock)
      ⟨.initial (.start rps burst), fun _ => none⟩ (front ++ rest)) :
    Throughout (environment entity) (fun caller => answer (requests caller))
      (fun config _ => live config.shared.stores.clock) (.initial (.start rps burst))
      (front.filterMap ServingLabel.inside? ++ rest.filterMap ServingLabel.inside?) := by
  rw [← List.filterMap_append]
  exact serving_projects.throughout (fun config : ApiConfig K V => live config.shared.stores.clock)
    lives (serveAll_append reached ran)

end Middleware

end ActorServices.Api
