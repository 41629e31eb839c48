import Mathlib.Data.List.Nodup
import ActorServices.Interleave

set_option autoImplicit false

/- Actors that own their state outright. A caller posts a message into the channel of the
actor that owns what it asks for, and awaits the answer on a reply channel of its own. The
actors take their messages one at a time, the oldest first, whenever they are scheduled. -/
namespace ActorServices.Actor

open Interleave

/-- The actors `A` and their turns over the state that they own together. A message belongs to
one actor, and turns of different actors touch different parts of the state. -/
structure Actors (A M : Type) (R : M → Type) (τ : Type) where
  owner : M → A
  turn : τ → (message : M) → R message × τ
  apart : ∀ state first second, owner first ≠ owner second →
    (turn (turn state first).2 second).1 = (turn state second).1 ∧
      (turn (turn state first).2 second).2 = (turn (turn state second).2 first).2

/-- What has come back on the reply channels. -/
abbrev Answers (M : Type) (R : M → Type) : Type := Nat → (message : M) → Option (R message)

/-- `waiting` are the messages that no actor has taken yet, in the order they were sent, each
with its reply channel: the channel of an actor is the part of it that is addressed to that
actor. `outside` is the state that no actor owns. -/
structure Net (M : Type) (R : M → Type) (τ σ : Type) where
  owned : τ
  outside : σ
  waiting : List (Nat × M)
  answered : Answers M R
  sent : Nat

/-- What a caller does at a channel: send, await the answer, or something that needs no actor. -/
inductive ActorOp (ι M : Type)
  | send (message : M)
  | recv (message : M) (ticket : Nat)
  | direct (op : ι)

@[reducible] def ActorOp.Reply {ι M : Type} (ρ : ι → Type) (R : M → Type) :
    ActorOp ι M → Type
  | .send _ => Nat
  | .recv message _ => R message
  | .direct op => ρ op

/-- An actor is scheduled, or something happens outside that may post messages. -/
inductive ActorEvent (A ε : Type)
  | turn (actor : A)
  | outside (event : ε)
  deriving DecidableEq, Repr

/-- How an operation is done with actors: by a message and its decoded answer, by a message
that is not answered, or without one. -/
inductive Way (M : Type) (R : M → Type) (β : Type)
  | request (message : M) (decode : R message → β)
  | cast (message : M) (value : β)
  | direct

/-- The operation as the channel operations it takes. -/
def Way.program {ι M : Type} {ρ : ι → Type} {R : M → Type} (op : ι) :
    Way M R (ρ op) → Proc (ActorOp ι M) (ActorOp.Reply ρ R) (ρ op)
  | .request message decode =>
      .call (.send message) fun ticket =>
        .call (.recv message ticket) fun answer => .ret (decode answer)
  | .cast message value => .call (.send message) fun _ => .ret value
  | .direct => .call (.direct op) .ret

/-- What a service makes of its actors: what needs no actor, what happens outside, and how each
operation is done. -/
structure System (A M : Type) (R : M → Type) (τ σ ι : Type) (ρ : ι → Type) (χ ε : Type) extends
    Actors A M R τ where
  direct : σ → (op : ι) → χ → Option (ρ op × σ)
  happen : σ → ε → Option (σ × List M)
  way : (op : ι) → Way M R (ρ op)

section Turns

variable {A M : Type} {R : M → Type} {τ σ : Type} [DecidableEq A] [DecidableEq M]

def takeOldest (owner : M → A) (actor : A) :
    List (Nat × M) → Option ((Nat × M) × List (Nat × M))
  | [] => none
  | entry :: entries =>
      if owner entry.2 = actor then some (entry, entries)
      else (takeOldest owner actor entries).map fun (oldest, rest) => (oldest, entry :: rest)

def channel (owner : M → A) (actor : A) (waiting : List (Nat × M)) : List (Nat × M) :=
  waiting.filter fun entry => owner entry.2 = actor

def handle (actors : Actors A M R τ) (state : τ × Answers M R) (entry : Nat × M) :
    τ × Answers M R :=
  let (answer, owned) := actors.turn state.1 entry.2
  (owned, Function.update state.2 entry.1 (Function.update (fun _ => none) entry.2 (some answer)))

/-- All messages are handled, in the order in which they were sent. -/
def settle (actors : Actors A M R τ) (waiting : List (Nat × M)) (state : τ × Answers M R) :
    τ × Answers M R :=
  waiting.foldl (handle actors) state

def Net.initial (owned : τ) (outside : σ) : Net M R τ σ := ⟨owned, outside, [], fun _ _ => none, 0⟩

def Net.post (net : Net M R τ σ) (message : M) : Net M R τ σ :=
  { net with waiting := net.waiting ++ [(net.sent, message)], sent := net.sent + 1 }

def Net.turn (actors : Actors A M R τ) (net : Net M R τ σ) (actor : A) : Option (Net M R τ σ) :=
  (takeOldest actors.owner actor net.waiting).map fun (entry, rest) =>
    let (owned, answered) := handle actors (net.owned, net.answered) entry
    { net with owned, answered, waiting := rest }

/-- What all the messages under way will have led to. -/
def Net.settled (actors : Actors A M R τ) (net : Net M R τ σ) : τ × Answers M R :=
  settle actors net.waiting (net.owned, net.answered)

/-- Programs over the actors. What needs no actor is done at once. -/
def System.network {ι ε χ : Type} {ρ : ι → Type} (system : System A M R τ σ ι ρ χ ε) :
    Environment (ActorOp ι M) (ActorOp.Reply ρ R) (Net M R τ σ) Unit (Option χ)
      (ActorEvent A ε) where
  fresh := ()
  perform net _ op choice :=
    match op, choice with
    | .send message, none => some (net.sent, (), net.post message)
    | .recv message ticket, none =>
        (net.answered ticket message).map fun answer => (answer, (), net)
    | .direct op, some choice =>
        (system.direct net.outside op choice).map fun (reply, outside) =>
          (reply, (), { net with outside })
    | _, _ => none
  happen net event :=
    match event with
    | .turn actor => net.turn system.toActors actor
    | .outside event =>
        (system.happen net.outside event).map fun (outside, messages) =>
          messages.foldl Net.post { net with outside }

/-- The program with its operations done over the actors. -/
abbrev System.dispatched {ι ε χ α : Type} {ρ : ι → Type} (system : System A M R τ σ ι ρ χ ε)
    (program : Proc ι ρ α) : Proc (ActorOp ι M) (ActorOp.Reply ρ R) α :=
  program.expand fun op => (system.way op).program op

end Turns

section Channels

variable {A M : Type} [DecidableEq A] {owner : M → A} {actor : A} {entry : Nat × M}
  {waiting rest : List (Nat × M)}

theorem takeOldest_some (taken : takeOldest owner actor waiting = some (entry, rest)) :
    ∃ front back, waiting = front ++ entry :: back ∧ rest = front ++ back ∧
      owner entry.2 = actor ∧ ∀ other ∈ front, owner other.2 ≠ actor := by
  induction waiting generalizing rest with
  | nil => cases taken
  | cons first waiting ih =>
      rw [takeOldest] at taken
      split at taken
      · rename_i own
        cases taken
        exact ⟨[], waiting, rfl, rfl, own, by simp⟩
      · rename_i foreign
        obtain ⟨⟨oldest, others⟩, found, same⟩ := Option.map_eq_some_iff.mp taken
        cases same
        obtain ⟨front, back, rfl, rfl, own, before⟩ := ih found
        exact ⟨first :: front, back, rfl, rfl, own, List.forall_mem_cons.mpr ⟨foreign, before⟩⟩

theorem takeOldest_none (idle : takeOldest owner actor waiting = none) :
    channel owner actor waiting = [] := by
  induction waiting with
  | nil => rfl
  | cons first waiting ih =>
      rw [takeOldest] at idle
      split at idle
      · cases idle
      · rename_i foreign
        rw [channel, List.filter_cons_of_neg (by simpa using foreign)]
        exact ih (Option.map_eq_none_iff.mp idle)

/-- Each actor sees a queue of its own. -/
theorem channel_takeOldest
    (taken : takeOldest owner actor waiting = some (entry, rest)) (other : A) :
    channel owner other waiting =
      if other = actor then entry :: channel owner other rest else channel owner other rest := by
  obtain ⟨front, back, rfl, rfl, rfl, before⟩ := takeOldest_some taken
  split
  · rename_i same
    subst same
    have empty : channel owner (owner entry.2) front = [] := by
      refine List.filter_eq_nil_iff.mpr fun earlier member => ?_
      simp [before earlier member]
    rw [channel, List.filter_append, ← channel, empty, List.nil_append, channel,
      List.filter_cons_of_pos (by simp), List.filter_append, ← channel, ← channel, empty,
      List.nil_append]
  · rename_i differs
    rw [channel, channel, List.filter_append, List.filter_append,
      List.filter_cons_of_neg (by simpa using fun same => differs same.symm)]

end Channels

section Settled

variable {A M : Type} {R : M → Type} {τ σ : Type} [DecidableEq M] {actors : Actors A M R τ}

theorem handle_apart (state : τ × Answers M R) {first second : Nat × M}
    (owners : actors.owner first.2 ≠ actors.owner second.2) (tickets : first.1 ≠ second.1) :
    handle actors (handle actors state first) second =
      handle actors (handle actors state second) first := by
  obtain ⟨replied, moved⟩ := actors.apart state.1 first.2 second.2 owners
  have replied' := (actors.apart state.1 second.2 first.2 owners.symm).1
  simp only [handle, replied, replied', moved]
  rw [Function.update_comm tickets]

theorem settle_other {ticket : Nat} {waiting : List (Nat × M)}
    (absent : ticket ∉ waiting.map Prod.fst) (state : τ × Answers M R) :
    (settle actors waiting state).2 ticket = state.2 ticket := by
  induction waiting generalizing state with
  | nil => rfl
  | cons first waiting ih =>
      rw [List.map_cons, List.mem_cons, not_or] at absent
      have skipped : (handle actors state first).2 ticket = state.2 ticket :=
        Function.update_of_ne absent.1 _ _
      exact (ih absent.2 _).trans skipped

theorem settle_entry {entry : Nat × M} {waiting : List (Nat × M)} {message : M}
    (member : entry ∈ waiting) (distinct : (waiting.map Prod.fst).Nodup)
    (differs : message ≠ entry.2) (state : τ × Answers M R) :
    (settle actors waiting state).2 entry.1 message = none := by
  induction waiting generalizing state with
  | nil => cases member
  | cons first waiting ih =>
      obtain ⟨fresh, distinct⟩ := List.nodup_cons.mp distinct
      rcases List.mem_cons.mp member with rfl | later
      · refine (congrFun (settle_other fresh (handle actors state entry)) message).trans ?_
        simp [handle, differs]
      · exact ih later distinct _

variable [DecidableEq A] {actor : A} {entry : Nat × M} {waiting rest : List (Nat × M)}

/-- The oldest message of an actor may as well be handled first of all. -/
theorem settle_oldest (taken : takeOldest actors.owner actor waiting = some (entry, rest))
    (distinct : (waiting.map Prod.fst).Nodup) (state : τ × Answers M R) :
    settle actors waiting state = settle actors rest (handle actors state entry) := by
  induction waiting generalizing rest state with
  | nil => cases taken
  | cons first waiting ih =>
      rw [takeOldest] at taken
      split at taken
      · cases taken
        rfl
      · rename_i foreign
        obtain ⟨⟨oldest, others⟩, found, same⟩ := Option.map_eq_some_iff.mp taken
        cases same
        obtain ⟨fresh, distinct⟩ := List.nodup_cons.mp distinct
        obtain ⟨front, back, split, -, own, -⟩ := takeOldest_some found
        have owners : actors.owner first.2 ≠ actors.owner entry.2 := own ▸ foreign
        have tickets : first.1 ≠ entry.1 := by
          intro same
          refine fresh (List.mem_map.mpr ⟨entry, ?_, same.symm⟩)
          simp [split]
        calc settle actors (first :: waiting) state
            = settle actors waiting (handle actors state first) := rfl
          _ = settle actors others (handle actors (handle actors state first) entry) :=
              ih found distinct _
          _ = settle actors others (handle actors (handle actors state entry) first) := by
              rw [handle_apart state owners tickets]

end Settled

/-- Every message has a reply channel of its own, and only a message that was taken has been
answered. -/
structure Net.Orderly {M : Type} {R : M → Type} {τ σ : Type} (net : Net M R τ σ) : Prop where
  distinct : (net.waiting.map Prod.fst).Nodup
  posted : ∀ entry ∈ net.waiting, entry.1 < net.sent
  unanswered : ∀ entry ∈ net.waiting, net.answered entry.1 = fun _ => none
  opened : ∀ ticket, net.sent ≤ ticket → net.answered ticket = fun _ => none

section Orderly

variable {M : Type} {R : M → Type} {τ σ : Type} {net : Net M R τ σ}

theorem Net.Orderly.initial (owned : τ) (outside : σ) :
    (Net.initial owned outside : Net M R τ σ).Orderly :=
  ⟨List.nodup_nil, by simp [Net.initial], by simp [Net.initial], fun _ _ => rfl⟩

theorem Net.Orderly.post (orderly : net.Orderly) (message : M) : (net.post message).Orderly := by
  have unused : net.sent ∉ net.waiting.map Prod.fst := by
    intro member
    obtain ⟨entry, waits, same⟩ := List.mem_map.mp member
    exact absurd (orderly.posted entry waits) (by omega)
  refine ⟨?_, ?_, ?_, fun ticket late => orderly.opened ticket (Nat.le_of_lt late)⟩
  · rw [Net.post, List.map_append, List.map_singleton]
    exact List.nodup_append.mpr ⟨orderly.distinct, List.nodup_singleton _, by
      intro ticket member other same
      rw [List.mem_singleton.mp same]
      rintro rfl
      exact unused member⟩
  · intro entry member
    rcases List.mem_append.mp member with old | new
    · exact Nat.lt_succ_of_lt (orderly.posted entry old)
    · rw [List.mem_singleton.mp new]
      exact Nat.lt_succ_self _
  · intro entry member
    rcases List.mem_append.mp member with old | new
    · exact orderly.unanswered entry old
    · rw [List.mem_singleton.mp new]
      exact orderly.opened net.sent (Nat.le_refl _)

variable {A : Type} [DecidableEq M] {actors : Actors A M R τ} {message : M} {ticket : Nat}

theorem settled_post (actors : Actors A M R τ) (net : Net M R τ σ) (message : M) :
    (net.post message).settled actors = handle actors (net.settled actors) (net.sent, message) := by
  simp only [Net.settled, Net.post, settle, List.foldl_append, List.foldl_cons, List.foldl_nil]

theorem settled_answered (orderly : net.Orderly) {answer : R message}
    (answered : net.answered ticket message = some answer) :
    (net.settled actors).2 ticket message = some answer := by
  have absent : ticket ∉ net.waiting.map Prod.fst := by
    intro member
    obtain ⟨entry, waits, rfl⟩ := List.mem_map.mp member
    rw [orderly.unanswered entry waits] at answered
    cases answered
  rw [Net.settled, settle_other absent]
  exact answered

theorem settled_sent (orderly : net.Orderly) {answer : R message}
    (settled : (net.settled actors).2 ticket message = some answer) : ticket < net.sent := by
  by_contra late
  have absent : ticket ∉ net.waiting.map Prod.fst := by
    intro member
    obtain ⟨entry, waits, rfl⟩ := List.mem_map.mp member
    exact late (orderly.posted entry waits)
  rw [Net.settled, settle_other absent] at settled
  have closed := congrFun (orderly.opened ticket (Nat.not_lt.mp late)) message
  cases closed.symm.trans settled

/-- The answers to come are not changed by what is posted later. -/
theorem promised_post (orderly : net.Orderly) (posted : M) {answer : R message}
    (settled : (net.settled actors).2 ticket message = some answer) :
    ((net.post posted).settled actors).2 ticket message = some answer := by
  have differs : ticket ≠ net.sent := Nat.ne_of_lt (settled_sent orderly settled)
  rw [settled_post]
  exact (congrFun (Function.update_of_ne differs _ _) message).trans settled

variable [DecidableEq A] {after : Net M R τ σ} {actor : A}

theorem turn_some (taken : net.turn actors actor = some after) :
    ∃ entry rest, takeOldest actors.owner actor net.waiting = some (entry, rest) ∧
      after = { net with
        owned := (handle actors (net.owned, net.answered) entry).1,
        answered := (handle actors (net.owned, net.answered) entry).2, waiting := rest } := by
  obtain ⟨⟨entry, rest⟩, found, rfl⟩ := Option.map_eq_some_iff.mp taken
  exact ⟨entry, rest, found, rfl⟩

theorem Net.Orderly.turn (orderly : net.Orderly) (taken : net.turn actors actor = some after) :
    after.Orderly := by
  obtain ⟨entry, rest, found, rfl⟩ := turn_some taken
  obtain ⟨front, back, split, rfl, -, -⟩ := takeOldest_some found
  have member : entry ∈ net.waiting := by simp [split]
  have stays : ∀ other ∈ front ++ back, other ∈ net.waiting := by
    intro other among
    rw [split]
    simp only [List.mem_append, List.mem_cons] at among ⊢
    exact among.imp_right Or.inr
  have distinct := orderly.distinct
  rw [split, List.map_append, List.map_cons, List.nodup_middle, List.nodup_cons,
    ← List.map_append] at distinct
  refine ⟨distinct.2, fun other among => orderly.posted other (stays other among), ?_, ?_⟩
  · intro other among
    have differs : other.1 ≠ entry.1 := by
      intro same
      exact distinct.1 (List.mem_map.mpr ⟨other, among, same⟩)
    exact (Function.update_of_ne differs _ _).trans (orderly.unanswered other (stays other among))
  · intro ticket late
    have differs : ticket ≠ entry.1 := by
      have sent := orderly.posted entry member
      have late : net.sent ≤ ticket := late
      omega
    exact (Function.update_of_ne differs _ _).trans (orderly.opened ticket late)

/-- A turn of an actor brings about nothing that was not to come. -/
theorem settled_turn (orderly : net.Orderly) (taken : net.turn actors actor = some after) :
    after.settled actors = net.settled actors := by
  obtain ⟨entry, rest, found, rfl⟩ := turn_some taken
  exact (settle_oldest found orderly.distinct _).symm

end Orderly

end ActorServices.Actor
