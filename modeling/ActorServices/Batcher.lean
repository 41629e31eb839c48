import Mathlib.Data.List.AList
import Mathlib.Logic.Equiv.Defs
import ActorServices.LinkService
import ActorServices.PasteService
import ActorServices.Trace

set_option autoImplicit false

/- The background batcher behind `BatchingHitRecorder` and
`BatchingViewRecorder`, which are the same code for two kinds of identifier. -/
namespace ActorServices.Batcher

/-- Bound on the in-flight command queue. -/
def channelCapacity : Nat := 8192

/-- Messages the background task understands. The sender that a `flush` passes
along is the number of the flush call. -/
inductive Msg (C : Type)
  | hit (code : C)
  | flush (ack : Nat)
  deriving DecidableEq, Repr

/-- What the task does once it has written the pending counts. -/
inductive After
  | proceed
  | acknowledge (ack : Nat)
  | exit
  deriving DecidableEq, Repr

inductive Task
  | waiting
  | flushing (after : After)
  | exited
  deriving DecidableEq, Repr

/-- How far a call of the recorder's `flush` has come: it awaits a slot of the
channel, then the acknowledgement. Its caller may drop it meanwhile. -/
inductive FlushCall
  | sending
  | reserved
  | sent
  | acknowledged
  | returned (acknowledged : Bool)
  | dropped
  deriving DecidableEq, Repr

def FlushCall.ended : FlushCall → Bool
  | .returned _ => true
  | .dropped => true
  | _ => false

/-- Codes are `text` in the pending map, and `from_trusted` on the way out. -/
structure Config (C : Type) where
  text : C ≃ String
  maxPending : Nat

/-- The cap that the task is spawned with. -/
def Config.cap {C : Type} (config : Config C) : Nat := max config.maxPending 1

def hitBatcher (maxPending : Nat) : Config UrlShortener.ShortCode where
  text := ⟨UrlShortener.ShortCode.value, UrlShortener.ShortCode.fromTrusted,
    fun _ => rfl, fun _ => rfl⟩
  maxPending := maxPending

def viewBatcher (maxPending : Nat) : Config Pastebin.PasteId where
  text := ⟨Pastebin.PasteId.value, Pastebin.PasteId.fromTrusted, fun _ => rfl, fun _ => rfl⟩
  maxPending := maxPending

/-- `accepted` lists the codes whose `try_send` succeeded and `issued` the
`increment_by` calls; no step reads either. A count, an `i64` that starts at zero
and grows by one, is taken as unbounded. -/
structure State (C : Type) where
  channel : List (Msg C)
  closed : Bool
  pending : AList (fun _ : String => Nat)
  task : Task
  calls : List FlushCall
  accepted : List C
  issued : List (C × Nat)

def State.start {C : Type} : State C where
  channel := []
  closed := false
  pending := ∅
  task := .waiting
  calls := []
  accepted := []
  issued := []

inductive Event (C : Type)
  | record (code : C)
  | flush
  | reserve (call : Nat)
  | enqueue (call : Nat)
  | resume (call : Nat)
  | cancel (call : Nat)
  | close
  | recv
  | tick
  | issue (key : String)
  | finish
  deriving DecidableEq, Repr

section Operations

variable {C : Type} (config : Config C) (state : State C)

/-- A slot is free. A slot that a flush call was given is its own, also before
the message is in it. -/
def State.room : Bool :=
  state.channel.length + state.calls.count .reserved < channelCapacity

/-- `record`: a hit that the channel does not take is dropped. -/
def State.record (code : C) : Option (State C) :=
  if state.closed then none
  else if state.task ≠ .exited ∧ state.room then
    some { state with
      channel := state.channel ++ [.hit code]
      accepted := state.accepted ++ [code] }
  else some state

def State.flush : Option (State C) :=
  if state.closed then none else some { state with calls := state.calls ++ [.sending] }

/-- `tx.send` of a flush call is given a slot, or finds the receiver gone. -/
def State.reserve (call : Nat) : Option (State C) :=
  if state.calls[call]? = some .sending then
    if state.task = .exited then
      some { state with calls := state.calls.set call (.returned false) }
    else if state.room then some { state with calls := state.calls.set call .reserved }
    else none
  else none

def State.enqueue (call : Nat) : Option (State C) :=
  if state.calls[call]? = some .reserved then
    some { state with
      channel := state.channel ++ [.flush call]
      calls := state.calls.set call .sent }
  else none

def State.resume (call : Nat) : Option (State C) :=
  if state.calls[call]? = some .acknowledged then
    some { state with calls := state.calls.set call (.returned true) }
  else if state.calls[call]? = some .sent ∧ state.task = .exited then
    some { state with calls := state.calls.set call (.returned false) }
  else none

def State.cancel (call : Nat) : Option (State C) :=
  match state.calls[call]? with
  | some progress =>
      if progress.ended then none
      else some { state with calls := state.calls.set call .dropped }
  | none => none

/-- The last sender is dropped. A flush call in progress still holds one. -/
def State.close : Option (State C) :=
  if state.calls.all FlushCall.ended then some { state with closed := true } else none

/-- `*pending.entry(code).or_insert(0) += 1`. -/
def State.counted (code : C) : AList (fun _ : String => Nat) :=
  state.pending.insert (config.text code) ((state.pending.lookup (config.text code)).getD 0 + 1)

/-- The task takes the next message, or learns that there will be none. -/
def State.recv : Option (State C) :=
  match state.task, state.channel with
  | .waiting, .hit code :: channel =>
      let pending := state.counted config code
      some { state with
        channel
        pending
        task := if config.cap ≤ pending.entries.length then .flushing .proceed else .waiting }
  | .waiting, .flush ack :: channel =>
      some { state with channel, task := .flushing (.acknowledge ack) }
  | .waiting, [] => if state.closed then some { state with task := .flushing .exit } else none
  | _, _ => none

def State.tick : Option (State C) :=
  match state.task with
  | .waiting => some { state with task := .flushing .proceed }
  | _ => none

/-- One turn of the drain, whose order is the map's own. -/
def State.issue (key : String) : Option (State C) :=
  match state.task, state.pending.lookup key with
  | .flushing _, some n =>
      some { state with
        pending := state.pending.erase key
        issued := state.issued ++ [(config.text.symm key, n)] }
  | _, _ => none

/-- `ack.send`, to a call that may have been dropped. -/
def State.acknowledge (ack : Nat) : List FlushCall :=
  if state.calls[ack]? = some .sent then state.calls.set ack .acknowledged else state.calls

def State.finish : Option (State C) :=
  match state.task with
  | .flushing after =>
      if state.pending.entries.isEmpty then
        match after with
        | .proceed => some { state with task := .waiting }
        | .acknowledge ack =>
            some { state with task := .waiting, calls := state.acknowledge ack }
        | .exit => some { state with task := .exited }
      else none
  | _ => none

def step : Event C → Option (State C)
  | .record code => state.record code
  | .flush => state.flush
  | .reserve call => state.reserve call
  | .enqueue call => state.enqueue call
  | .resume call => state.resume call
  | .cancel call => state.cancel call
  | .close => state.close
  | .recv => state.recv config
  | .tick => state.tick
  | .issue key => state.issue config key
  | .finish => state.finish

end Operations

/-- What becomes of a flush call between its own message and the answer to it. -/
inductive FlushCall.Moves : FlushCall → FlushCall → Prop
  | reserve : Moves .sending .reserved
  | refused : Moves .sending (.returned false)
  | answered : Moves .acknowledged (.returned true)
  | abandoned : Moves .sent (.returned false)
  | cancel (progress : FlushCall) (active : progress.ended = false) : Moves progress .dropped

section Steps

variable {C : Type} {config : Config C} {state after : State C}

/-- All that a step does. -/
inductive Turn (config : Config C) (state after : State C) : Prop
  | lost (moved : after = state)
  | accept (code : C) (opened : state.closed = false)
      (moved : after = { state with
        channel := state.channel ++ [.hit code]
        accepted := state.accepted ++ [code] })
  | call (opened : state.closed = false)
      (moved : after = { state with calls := state.calls ++ [.sending] })
  | progress (call : Nat) (old new : FlushCall) (present : state.calls[call]? = some old)
      (moves : old.Moves new) (moved : after = { state with calls := state.calls.set call new })
  | enqueue (call : Nat) (reserved : state.calls[call]? = some .reserved)
      (moved : after = { state with
        channel := state.channel ++ [.flush call]
        calls := state.calls.set call .sent })
  | close (idle : state.calls.all FlushCall.ended = true)
      (moved : after = { state with closed := true })
  | count (code : C) (channel : List (Msg C)) (task : Task) (waiting : state.task = .waiting)
      (queued : state.channel = .hit code :: channel)
      (full : task = if config.cap ≤ (state.counted config code).entries.length then
        .flushing .proceed else .waiting)
      (moved : after = { state with channel, pending := state.counted config code, task })
  | asked (ack : Nat) (channel : List (Msg C)) (waiting : state.task = .waiting)
      (queued : state.channel = .flush ack :: channel)
      (moved : after = { state with channel, task := .flushing (.acknowledge ack) })
  | leave (waiting : state.task = .waiting) (queued : state.channel = [])
      (closed : state.closed = true) (moved : after = { state with task := .flushing .exit })
  | tick (waiting : state.task = .waiting)
      (moved : after = { state with task := .flushing .proceed })
  | issue (key : String) (n : Nat) (next : After) (flushing : state.task = .flushing next)
      (present : state.pending.lookup key = some n)
      (moved : after = { state with
        pending := state.pending.erase key
        issued := state.issued ++ [(config.text.symm key, n)] })
  | proceed (flushing : state.task = .flushing .proceed)
      (drained : state.pending.entries.isEmpty = true)
      (moved : after = { state with task := .waiting })
  | answer (ack : Nat) (flushing : state.task = .flushing (.acknowledge ack))
      (drained : state.pending.entries.isEmpty = true)
      (moved : after = { state with task := .waiting, calls := state.acknowledge ack })
  | exit (flushing : state.task = .flushing .exit)
      (drained : state.pending.entries.isEmpty = true)
      (moved : after = { state with task := .exited })

theorem recv_turn (taken : state.recv config = some after) : Turn config state after := by
  unfold State.recv at taken
  split at taken
  · rename_i code channel waiting queued
    exact .count code channel _ waiting queued rfl (Option.some.inj taken).symm
  · rename_i ack channel waiting queued
    exact .asked ack channel waiting queued (Option.some.inj taken).symm
  · rename_i waiting queued
    split at taken
    · rename_i closed
      exact .leave waiting queued closed (Option.some.inj taken).symm
    · cases taken
  · cases taken

theorem finish_turn (taken : state.finish = some after) : Turn config state after := by
  unfold State.finish at taken
  split at taken
  · rename_i next flushing
    split at taken
    · rename_i drained
      cases next with
      | proceed => exact .proceed flushing drained (Option.some.inj taken).symm
      | acknowledge ack => exact .answer ack flushing drained (Option.some.inj taken).symm
      | exit => exact .exit flushing drained (Option.some.inj taken).symm
    · cases taken
  · cases taken

theorem step_turn {event : Event C} (taken : step config state event = some after) :
    Turn config state after := by
  cases event with
  | record code =>
      simp only [step, State.record] at taken
      split at taken
      · cases taken
      · rename_i opened
        split at taken
        · exact .accept code (by simpa using opened) (Option.some.inj taken).symm
        · exact .lost (Option.some.inj taken).symm
  | flush =>
      simp only [step, State.flush] at taken
      split at taken
      · cases taken
      · rename_i opened
        exact .call (by simpa using opened) (Option.some.inj taken).symm
  | reserve call =>
      simp only [step, State.reserve] at taken
      split at taken
      · rename_i sending
        split at taken
        · exact .progress call _ _ sending .refused (Option.some.inj taken).symm
        · split at taken
          · exact .progress call _ _ sending .reserve (Option.some.inj taken).symm
          · cases taken
      · cases taken
  | enqueue call =>
      simp only [step, State.enqueue] at taken
      split at taken
      · rename_i reserved
        exact .enqueue call reserved (Option.some.inj taken).symm
      · cases taken
  | resume call =>
      simp only [step, State.resume] at taken
      split at taken
      · rename_i acknowledged
        exact .progress call _ _ acknowledged .answered (Option.some.inj taken).symm
      · split at taken
        · rename_i sent
          exact .progress call _ _ sent.1 .abandoned (Option.some.inj taken).symm
        · cases taken
  | cancel call =>
      simp only [step, State.cancel] at taken
      split at taken
      · rename_i progress present
        split at taken
        · cases taken
        · rename_i active
          have moves : progress.Moves .dropped := .cancel progress (by simpa using active)
          exact .progress call _ _ present moves (Option.some.inj taken).symm
      · cases taken
  | close =>
      simp only [step, State.close] at taken
      split at taken
      · rename_i idle
        exact .close idle (Option.some.inj taken).symm
      · cases taken
  | recv => exact recv_turn taken
  | tick =>
      simp only [step, State.tick] at taken
      split at taken
      · rename_i waiting
        exact .tick waiting (Option.some.inj taken).symm
      · cases taken
  | issue key =>
      simp only [step, State.issue] at taken
      split at taken
      · rename_i next n flushing present
        exact .issue key n next flushing present (Option.some.inj taken).symm
      · cases taken
  | finish => exact finish_turn taken

end Steps

end ActorServices.Batcher
