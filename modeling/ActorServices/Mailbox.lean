import Mathlib.Data.List.Basic

set_option autoImplicit false

namespace ActorServices

/-- The unbounded channel of an actor, with the messages it has already taken,
the oldest first. -/
structure Mailbox (M : Type) where
  handled : List M
  waiting : List M
  deriving DecidableEq, Repr

namespace Mailbox

variable {M : Type}

def empty : Mailbox M := ⟨[], []⟩

def post (mailbox : Mailbox M) (message : M) : Mailbox M :=
  { mailbox with waiting := mailbox.waiting ++ [message] }

/-- The actor takes the message that has waited longest. -/
def take (mailbox : Mailbox M) : Option (M × Mailbox M) :=
  match mailbox.waiting with
  | [] => none
  | message :: waiting => some (message, ⟨mailbox.handled ++ [message], waiting⟩)

/-- All messages in mailbox order. -/
def sent (mailbox : Mailbox M) : List M := mailbox.handled ++ mailbox.waiting

@[simp] theorem sent_post (mailbox : Mailbox M) (message : M) :
    (mailbox.post message).sent = mailbox.sent ++ [message] :=
  (List.append_assoc mailbox.handled mailbox.waiting [message]).symm

theorem take_some {mailbox after : Mailbox M} {message : M}
    (taken : mailbox.take = some (message, after)) :
    after.handled = mailbox.handled ++ [message] ∧ after.sent = mailbox.sent ∧
      mailbox.sent = mailbox.handled ++ message :: after.waiting := by
  unfold take at taken
  split at taken
  · cases taken
  · rename_i queued
    cases taken
    rename_i waiting
    have order : mailbox.sent = mailbox.handled ++ message :: waiting := by
      rw [sent, queued]
    have same : (mailbox.handled ++ [message]) ++ waiting = mailbox.sent := by
      rw [order, List.append_assoc, List.cons_append, List.nil_append]
    exact ⟨rfl, same, order⟩

end Mailbox

end ActorServices
