import ActorServices.ActorLinear

set_option autoImplicit false

namespace ActorServices.Actor

open Interleave

def isTurn {A χ ε : Type} [DecidableEq A] (actor : A) : Label χ (ActorEvent A ε) → Bool
  | .event (.turn other) => other = actor
  | _ => false

section Progress

theorem posts_waiting {M : Type} {R : M → Type} {τ σ : Type} (net : Net M R τ σ)
    (messages : List M) :
    ∃ extra, (messages.foldl Net.post net).waiting = net.waiting ++ extra ∧
      (messages.foldl Net.post net).answered = net.answered := by
  induction messages generalizing net with
  | nil => exact ⟨[], (List.append_nil _).symm, rfl⟩
  | cons message messages ih =>
      obtain ⟨extra, waiting, answered⟩ := ih (net.post message)
      exact ⟨(net.sent, message) :: extra, by rw [List.foldl_cons, waiting, Net.post]; simp,
        answered⟩

variable {A M ι ε χ σ τ α : Type} {R : M → Type} {ρ : ι → Type} [DecidableEq A] [DecidableEq M]
  {system : System A M R τ σ ι ρ χ ε} {programs : Nat → Proc (ActorOp ι M) (ActorOp.Reply ρ R) α}
  {before after : Config (ActorOp ι M) (ActorOp.Reply ρ R) α (Net M R τ σ) Unit}
  {label : Label (Option χ) (ActorEvent A ε)} {message : M} {ticket : Nat}

theorem network_step (taken : step system.network programs before label = some after) :
    (∃ actor, label = .event (.turn actor) ∧
      before.shared.turn system.toActors actor = some after.shared) ∨
    ((∀ actor : A, isTurn actor label = false) ∧
      (before.shared.Orderly → after.shared.Orderly) ∧
      ∃ extra, after.shared.waiting = before.shared.waiting ++ extra ∧
        after.shared.answered = before.shared.answered) := by
  obtain ⟨caller, rfl, idle, rfl⟩ | ⟨caller, choice, op, next, memory, reply, remembered, net,
    rfl, running, performed, rfl⟩ | ⟨event, net, rfl, happened, rfl⟩ := step_cases taken
  · exact .inr ⟨fun _ => rfl, id, [], (List.append_nil _).symm, rfl⟩
  · refine .inr ⟨fun _ => rfl, ?_⟩
    cases op with
    | send message =>
        cases choice <;> cases performed
        exact ⟨fun orderly => orderly.post message, _, rfl, rfl⟩
    | recv message ticket =>
        cases choice with
        | some choice => cases performed
        | none =>
            obtain ⟨answer, -, same⟩ := Option.map_eq_some_iff.mp performed
            cases same
            exact ⟨id, [], (List.append_nil _).symm, rfl⟩
    | direct op =>
        cases choice with
        | none => cases performed
        | some choice =>
            obtain ⟨⟨answer, outside⟩, -, same⟩ := Option.map_eq_some_iff.mp performed
            cases same
            exact ⟨fun orderly => ⟨orderly.distinct, orderly.posted, orderly.unanswered,
              orderly.opened⟩, [], (List.append_nil _).symm, rfl⟩
  · cases event with
    | turn actor => exact .inl ⟨actor, rfl, happened⟩
    | outside event =>
        obtain ⟨⟨outside, messages⟩, -, rfl⟩ := Option.map_eq_some_iff.mp happened
        obtain ⟨extra, waiting, answered⟩ :=
          posts_waiting { before.shared with outside } messages
        refine .inr ⟨fun _ => rfl, fun orderly => ?_, extra, waiting, answered⟩
        have ready : ({ before.shared with outside } : Net M R τ σ).Orderly :=
          ⟨orderly.distinct, orderly.posted, orderly.unanswered, orderly.opened⟩
        exact (posts_settled system.toActors ready messages).1

/-- The message waits with so many others of its actor before it. -/
def Queued (actors : Actors A M R τ) (ticket : Nat) (message : M) (ahead : Nat)
    (net : Net M R τ σ) : Prop :=
  ∃ front back, channel actors.owner (actors.owner message) net.waiting =
    front ++ (ticket, message) :: back ∧ front.length = ahead

theorem answered_turn {net later : Net M R τ σ} {actor : A} (orderly : net.Orderly)
    (answered : net.answered ticket message ≠ none)
    (taken : net.turn system.toActors actor = some later) :
    later.answered ticket message ≠ none := by
  obtain ⟨entry, rest, found, rfl⟩ := turn_some taken
  obtain ⟨first, last, split, -, -, -⟩ := takeOldest_some found
  have queued : entry ∈ net.waiting := by simp [split]
  have differs : ticket ≠ entry.1 := by
    rintro rfl
    exact answered (congrFun (orderly.unanswered entry queued) message)
  have stays : (handle system.toActors (net.owned, net.answered) entry).2 ticket message =
      net.answered ticket message := congrFun (Function.update_of_ne differs _ _) message
  intro gone
  exact answered (stays.symm.trans gone)

/-- A turn of its actor brings a message one place forward, or answers it. -/
theorem Queued.turn {net later : Net M R τ σ} {ahead : Nat} {actor : A}
    (queued : Queued system.toActors ticket message ahead net)
    (taken : net.turn system.toActors actor = some later) :
    (actor ≠ system.owner message ∧ Queued system.toActors ticket message ahead later) ∨
      (actor = system.owner message ∧ (later.answered ticket message ≠ none ∨
        ∃ fewer, ahead = fewer + 1 ∧ Queued system.toActors ticket message fewer later)) := by
  obtain ⟨entry, rest, found, rfl⟩ := turn_some taken
  obtain ⟨front, back, waits, length⟩ := queued
  have moved := channel_takeOldest found (system.owner message)
  rw [waits] at moved
  by_cases own : system.owner message = actor
  · rw [if_pos own] at moved
    refine .inr ⟨own.symm, ?_⟩
    cases front with
    | nil =>
        obtain ⟨rfl, -⟩ := List.cons.inj moved
        left
        simp [handle]
    | cons head front =>
        obtain ⟨rfl, same⟩ := List.cons.inj moved
        exact .inr ⟨front.length, length.symm, front, back, same.symm, rfl⟩
  · rw [if_neg own] at moved
    exact .inl ⟨Ne.symm own, front, back, moved.symm, length⟩

/-- A message that is sent later takes no one's place. -/
theorem Queued.post {A M : Type} {R : M → Type} {τ σ : Type} [DecidableEq A]
    {actors : Actors A M R τ} {message : M} {net later : Net M R τ σ} {ahead : Nat}
    (queued : Queued actors ticket message ahead net) {extra : List (Nat × M)}
    (waiting : later.waiting = net.waiting ++ extra) :
    Queued actors ticket message ahead later := by
  obtain ⟨front, back, waits, length⟩ := queued
  refine ⟨front, back ++ channel actors.owner (actors.owner message) extra, ?_, length⟩
  rw [waiting, channel, List.filter_append, ← channel, ← channel, waits, List.append_assoc,
    List.cons_append]

/-- Where a message is after some turns of its actor: answered, or that much further on. -/
structure Due (actors : Actors A M R τ) (ticket : Nat) (message : M) (ahead turns : Nat)
    (net : Net M R τ σ) : Prop where
  orderly : net.Orderly
  place : net.answered ticket message ≠ none ∨
    ∃ left, Queued actors ticket message left net ∧ left + turns = ahead

theorem Due.step {ahead turns : Nat}
    (due : Due system.toActors ticket message ahead turns before.shared)
    (taken : step system.network programs before label = some after) :
    Due system.toActors ticket message ahead
      (turns + if isTurn (system.owner message) label then 1 else 0) after.shared := by
  rcases network_step taken with ⟨actor, rfl, turned⟩ | ⟨other, orderly, extra, waiting, answered⟩
  · refine ⟨due.orderly.turn turned, ?_⟩
    rcases due.place with answered | ⟨left, queued, length⟩
    · exact .inl (answered_turn due.orderly answered turned)
    · rcases queued.turn turned with ⟨differs, queued⟩ | ⟨rfl, answered | ⟨fewer, less, queued⟩⟩
      · exact .inr ⟨left, queued, by simp [isTurn, differs, length]⟩
      · exact .inl answered
      · refine .inr ⟨fewer, queued, ?_⟩
        simp only [isTurn, decide_true, ↓reduceIte]
        omega
  · refine ⟨orderly due.orderly, ?_⟩
    rw [other]
    rcases due.place with done | ⟨left, queued, length⟩
    · exact .inl (answered ▸ done)
    · exact .inr ⟨left, queued.post waiting, length⟩

theorem answered_run {labels : List (Label (Option χ) (ActorEvent A ε))}
    (orderly : before.shared.Orderly) (answered : before.shared.answered ticket message ≠ none)
    (ran : run system.network programs before labels = some after) :
    after.shared.answered ticket message ≠ none := by
  refine (Trace.run_preserves (fun config => config.shared.Orderly ∧
    config.shared.answered ticket message ≠ none) ?_ ⟨orderly, answered⟩ ran).2
  rintro middle label next ⟨orderly, answered⟩ taken
  rcases network_step taken with ⟨actor, rfl, turned⟩ | ⟨-, kept, extra, -, same⟩
  · exact ⟨orderly.turn turned, answered_turn orderly answered turned⟩
  · exact ⟨kept orderly, same ▸ answered⟩

theorem Due.run {ahead : Nat} {labels : List (Label (Option χ) (ActorEvent A ε))}
    (due : Due system.toActors ticket message ahead 0 before.shared)
    (ran : run system.network programs before labels = some after) :
    Due system.toActors ticket message ahead (labels.countP (isTurn (system.owner message)))
      after.shared := by
  refine Trace.run_induction (fun history config => Due system.toActors ticket message ahead
    (history.countP (isTurn (system.owner message))) config.shared) ?_ ?_ ran
  · exact due
  rintro history middle label next rest due - taken - -
  rw [List.countP_append, List.countP_singleton]
  exact due.step taken

/-- As long as a request waits, its actor can take a turn. -/
theorem Queued.enabled {net : Net M R τ σ} {ahead : Nat}
    (queued : Queued system.toActors ticket message ahead net) :
    ∃ later, net.turn system.toActors (system.owner message) = some later := by
  obtain ⟨front, back, waits, -⟩ := queued
  cases found : takeOldest system.owner (system.owner message) net.waiting with
  | none =>
      rw [takeOldest_none found] at waits
      exact absurd waits.symm (by simp)
  | some taken => exact ⟨_, by rw [Net.turn, found, Option.map_some]⟩

/-- A request whose answer is to come has been answered, or it is in its actor's channel. -/
theorem promised_queued {net : Net M R τ σ} (orderly : net.Orderly) {answer : R message}
    (promised : (net.settled system.toActors).2 ticket message = some answer) :
    net.answered ticket message ≠ none ∨ ∃ ahead,
      ahead < (channel system.owner (system.owner message) net.waiting).length ∧
      Queued system.toActors ticket message ahead net := by
  by_cases waits : ticket ∈ net.waiting.map Prod.fst
  · obtain ⟨⟨ticket, asked⟩, member, rfl⟩ := List.mem_map.mp waits
    have same : message = asked := by
      by_contra differs
      rw [Net.settled, settle_entry member orderly.distinct differs] at promised
      cases promised
    subst same
    have among : (ticket, message) ∈ channel system.owner (system.owner message) net.waiting :=
      List.mem_filter.mpr ⟨member, by simp⟩
    obtain ⟨front, back, split⟩ := List.append_of_mem among
    refine .inr ⟨front.length, ?_, front, back, split, rfl⟩
    rw [split, List.length_append, List.length_cons]
    omega
  · left
    rw [Net.settled, settle_other waits] at promised
    intro none
    cases none.symm.trans promised

/-- The answer is there once the actor has taken as many turns as there are messages in its
channel, whatever else happens. -/
theorem promised_answered {labels : List (Label (Option χ) (ActorEvent A ε))}
    (orderly : before.shared.Orderly) {answer : R message}
    (promised : (before.shared.settled system.toActors).2 ticket message = some answer)
    (ran : run system.network programs before labels = some after)
    (turns : (channel system.owner (system.owner message) before.shared.waiting).length ≤
      labels.countP (isTurn (system.owner message))) :
    after.shared.answered ticket message ≠ none := by
  rcases promised_queued orderly promised with answered | ⟨ahead, within, queued⟩
  · exact answered_run orderly answered ran
  · have due : Due system.toActors ticket message ahead 0 before.shared :=
      ⟨orderly, .inr ⟨ahead, queued, rfl⟩⟩
    rcases (due.run ran).place with answered | ⟨left, -, length⟩
    · exact answered
    · omega

end Progress

end ActorServices.Actor
