import ActorServices.ConnectionReference

set_option autoImplicit false

namespace ActorServices.Connection

open Http

/-- The connection waits for a read. -/
def Pc.reads : Pc → Bool
  | .readIdle | .readHead | .readBody _ _ => true
  | _ => false

/-- A step, with the place that it starts from. -/
inductive Passage (maxBodyBytes : Nat) (conn : State) : Event → State → Prop
  | shutdown : Passage maxBodyBytes conn .shutdown { conn with flag := true }
  | closeFlag : Passage maxBodyBytes conn .closeFlag { conn with flagClosed := true }
  | await (place : conn.pc = .parse) (parsed : parseHead conn.buf = .error .incomplete) :
      Passage maxBodyBytes conn .turn
        { conn with pc := if conn.buf.isEmpty then .idle else .readHead }
  | malformed (err : ParseError) (place : conn.pc = .parse)
      (parsed : parseHead conn.buf = .error err) (final : err ≠ .incomplete) :
      Passage maxBodyBytes conn .turn { conn with pc := .refuse (refusalOf err) }
  | large (head : RequestHead) (headLen : Nat) (place : conn.pc = .parse)
      (parsed : parseHead conn.buf = .ok (head, headLen))
      (excess : maxBodyBytes < head.contentLength) :
      Passage maxBodyBytes conn .turn { conn with pc := .refuse payloadTooLarge }
  | accept (head : RequestHead) (headLen : Nat) (place : conn.pc = .parse)
      (parsed : parseHead conn.buf = .ok (head, headLen))
      (fits : head.contentLength ≤ maxBodyBytes) :
      Passage maxBodyBytes conn .turn { conn with pc := .body head (headLen + head.contentLength) }
  | rest (place : conn.pc = .idle) :
      Passage maxBodyBytes conn .turn { conn with pc := if conn.flag then .closed else .readIdle }
  | short (head : RequestHead) (total : Nat) (place : conn.pc = .body head total)
      (less : conn.buf.length < total) :
      Passage maxBodyBytes conn .turn { conn with pc := .readBody head total }
  | whole (head : RequestHead) (total : Nat) (place : conn.pc = .body head total)
      (enough : total ≤ conn.buf.length) :
      Passage maxBodyBytes conn .turn { conn with pc := .complete head total }
  | route (head : RequestHead) (total : Nat) (place : conn.pc = .complete head total) :
      Passage maxBodyBytes conn .turn
        { conn with
          pc := .route head total (head.keepAlive && !conn.flag), routed := conn.routed ++ [head] }
  | readHead (chunk : List UInt8) (place : conn.pc = .readIdle ∨ conn.pc = .readHead)
      (nonempty : chunk ≠ []) (fits : chunk.length ≤ readSize) :
      Passage maxBodyBytes conn (.bytes chunk)
        { conn with buf := conn.buf ++ chunk, pc := .parse }
  | readBody (chunk : List UInt8) (head : RequestHead) (total : Nat)
      (place : conn.pc = .readBody head total) (nonempty : chunk ≠ [])
      (fits : chunk.length ≤ readSize) :
      Passage maxBodyBytes conn (.bytes chunk)
        { conn with buf := conn.buf ++ chunk, pc := .body head total }
  | truncated (place : conn.pc = .readHead) :
      Passage maxBodyBytes conn .eof { conn with pc := .refuse incompleteRequest }
  | late (place : conn.pc = .readHead) :
      Passage maxBodyBytes conn .timeout { conn with pc := .refuse requestTimeout }
  | lateBody (head : RequestHead) (total : Nat) (place : conn.pc = .readBody head total) :
      Passage maxBodyBytes conn .timeout { conn with pc := .refuse requestTimeout }
  | close (event : Event) (read : conn.pc.reads = true) (unwritten : event ≠ .written)
      (other : event ≠ .turn) : Passage maxBodyBytes conn event { conn with pc := .closed }
  | reply (head : RequestHead) (total : Nat) (keepAlive : Bool) (reply : Reply)
      (place : conn.pc = .route head total keepAlive) :
      Passage maxBodyBytes conn (.routed reply)
        { conn with pc := .reply (reply.response head keepAlive) total }
  | served (response : Response) (total : Nat) (place : conn.pc = .reply response total) :
      Passage maxBodyBytes conn .written
        { conn with
          buf := conn.buf.drop total, pc := if response.keepAlive then .parse else .closed,
          written := conn.written ++ [response] }
  | refused (response : Response) (place : conn.pc = .refuse response) :
      Passage maxBodyBytes conn .written
        { conn with pc := .closed, written := conn.written ++ [response] }
  | unserved (response : Response) (total : Nat) (place : conn.pc = .reply response total) :
      Passage maxBodyBytes conn .writeError { conn with pc := .closed }
  | unrefused (response : Response) (place : conn.pc = .refuse response) :
      Passage maxBodyBytes conn .writeError { conn with pc := .closed }

section Passage

variable {maxBodyBytes : Nat} {conn next : State}

/-- A look at the buffer, whatever `parse_head` makes of it. -/
theorem parse_passage (place : conn.pc = .parse) :
    Passage maxBodyBytes conn .turn (conn.parse maxBodyBytes) := by
  cases parsed : parseHead conn.buf with
  | ok found =>
      obtain ⟨head, headLen⟩ := found
      simp only [State.parse, parsed]
      by_cases large : maxBodyBytes < head.contentLength
      · rw [if_pos large]
        exact .large head headLen place parsed large
      · rw [if_neg large]
        exact .accept head headLen place parsed (Nat.le_of_not_lt large)
  | error err =>
      by_cases waits : err = .incomplete
      · subst waits
        simp only [State.parse, parsed]
        exact .await place parsed
      · have refused : conn.parse maxBodyBytes = { conn with pc := .refuse (refusalOf err) } := by
          simp only [State.parse, parsed]
          cases err with
          | incomplete => exact absurd rfl waits
          | _ => rfl
        rw [refused]
        exact .malformed err place parsed waits

theorem turn_passage (taken : conn.turn maxBodyBytes = some next) :
    Passage maxBodyBytes conn .turn next := by
  unfold State.turn at taken
  cases place : conn.pc with
  | parse =>
      rw [place] at taken
      exact Option.some.inj taken ▸ parse_passage place
  | idle =>
      rw [place] at taken
      exact Option.some.inj taken ▸ .rest place
  | body head total =>
      rw [place] at taken
      dsimp only at taken
      by_cases less : conn.buf.length < total
      · rw [if_pos less] at taken
        exact Option.some.inj taken ▸ .short head total place less
      · rw [if_neg less] at taken
        exact Option.some.inj taken ▸ .whole head total place (Nat.le_of_not_lt less)
  | complete head total =>
      rw [place] at taken
      exact Option.some.inj taken ▸ .route head total place
  | _ =>
      rw [place] at taken
      cases taken

/-- A read yields at least one byte, and no more than its buffer holds. -/
theorem bytes_passage {chunk : List UInt8} (taken : conn.bytes chunk = some next) :
    Passage maxBodyBytes conn (.bytes chunk) next := by
  unfold State.bytes at taken
  by_cases unread : chunk = [] ∨ readSize < chunk.length
  · rw [if_pos unread] at taken
    cases taken
  · rw [if_neg unread] at taken
    have nonempty : chunk ≠ [] := fun empty => unread (.inl empty)
    have fits : chunk.length ≤ readSize := Nat.le_of_not_lt fun long => unread (.inr long)
    cases place : conn.pc with
    | readIdle =>
        rw [place] at taken
        exact Option.some.inj taken ▸ .readHead chunk (.inl place) nonempty fits
    | readHead =>
        rw [place] at taken
        exact Option.some.inj taken ▸ .readHead chunk (.inr place) nonempty fits
    | readBody head total =>
        rw [place] at taken
        exact Option.some.inj taken ▸ .readBody chunk head total place nonempty fits
    | _ =>
        rw [place] at taken
        cases taken

theorem eof_passage (taken : conn.eof = some next) : Passage maxBodyBytes conn .eof next := by
  unfold State.eof at taken
  cases place : conn.pc with
  | readIdle =>
      rw [place] at taken
      exact Option.some.inj taken ▸ .close .eof (by rw [place]; rfl) nofun nofun
  | readHead =>
      rw [place] at taken
      exact Option.some.inj taken ▸ .truncated place
  | readBody head total =>
      rw [place] at taken
      exact Option.some.inj taken ▸ .close .eof (by rw [place]; rfl) nofun nofun
  | _ =>
      rw [place] at taken
      cases taken

theorem timeout_passage (taken : conn.timeout = some next) :
    Passage maxBodyBytes conn .timeout next := by
  unfold State.timeout at taken
  cases place : conn.pc with
  | readIdle =>
      rw [place] at taken
      exact Option.some.inj taken ▸ .close .timeout (by rw [place]; rfl) nofun nofun
  | readHead =>
      rw [place] at taken
      exact Option.some.inj taken ▸ .late place
  | readBody head total =>
      rw [place] at taken
      exact Option.some.inj taken ▸ .lateBody head total place
  | _ =>
      rw [place] at taken
      cases taken

theorem readError_passage (taken : conn.readError = some next) :
    Passage maxBodyBytes conn .readError next := by
  unfold State.readError at taken
  cases place : conn.pc with
  | readIdle =>
      rw [place] at taken
      exact Option.some.inj taken ▸ .close .readError (by rw [place]; rfl) nofun nofun
  | readHead =>
      rw [place] at taken
      exact Option.some.inj taken ▸ .close .readError (by rw [place]; rfl) nofun nofun
  | readBody head total =>
      rw [place] at taken
      exact Option.some.inj taken ▸ .close .readError (by rw [place]; rfl) nofun nofun
  | _ =>
      rw [place] at taken
      cases taken

/-- Only an idle read is given up for the signal. -/
theorem interrupted_passage (taken : conn.interrupted = some next) :
    Passage maxBodyBytes conn .interrupted next := by
  unfold State.interrupted at taken
  by_cases signalled : conn.pc = .readIdle ∧ (conn.flag ∨ conn.flagClosed)
  · rw [if_pos signalled] at taken
    exact Option.some.inj taken ▸ .close .interrupted (by rw [signalled.1]; rfl) nofun nofun
  · rw [if_neg signalled] at taken
    cases taken

theorem replied_passage {reply : Reply} (taken : conn.replied reply = some next) :
    Passage maxBodyBytes conn (.routed reply) next := by
  unfold State.replied at taken
  cases place : conn.pc with
  | route head total keepAlive =>
      rw [place] at taken
      exact Option.some.inj taken ▸ .reply head total keepAlive reply place
  | _ =>
      rw [place] at taken
      cases taken

theorem wrote_passage (taken : conn.wrote = some next) :
    Passage maxBodyBytes conn .written next := by
  unfold State.wrote at taken
  cases place : conn.pc with
  | reply response total =>
      rw [place] at taken
      exact Option.some.inj taken ▸ .served response total place
  | refuse response =>
      rw [place] at taken
      exact Option.some.inj taken ▸ .refused response place
  | _ =>
      rw [place] at taken
      cases taken

theorem writeError_passage (taken : conn.writeError = some next) :
    Passage maxBodyBytes conn .writeError next := by
  unfold State.writeError at taken
  cases place : conn.pc with
  | reply response total =>
      rw [place] at taken
      exact Option.some.inj taken ▸ .unserved response total place
  | refuse response =>
      rw [place] at taken
      exact Option.some.inj taken ▸ .unrefused response place
  | _ =>
      rw [place] at taken
      cases taken

/-- All that a step can do. -/
theorem step_passage {event : Event} (taken : step maxBodyBytes conn event = some next) :
    Passage maxBodyBytes conn event next := by
  cases event with
  | shutdown => exact Option.some.inj taken ▸ .shutdown
  | closeFlag => exact Option.some.inj taken ▸ .closeFlag
  | turn => exact turn_passage taken
  | bytes chunk => exact bytes_passage taken
  | eof => exact eof_passage taken
  | timeout => exact timeout_passage taken
  | readError => exact readError_passage taken
  | interrupted => exact interrupted_passage taken
  | routed reply => exact replied_passage taken
  | written => exact wrote_passage taken
  | writeError => exact writeError_passage taken

end Passage

end ActorServices.Connection
