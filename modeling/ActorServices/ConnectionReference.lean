import ActorServices.Connection

set_option autoImplicit false

namespace ActorServices.Connection

open Http

/-- The heads that are routed and the responses that are written. -/
structure Session where
  routed : List RequestHead
  written : List Response
  deriving DecidableEq, Repr

namespace Session

def wire (session : Session) : List UInt8 := session.written.flatMap Response.bytes

def empty : Session := ⟨[], []⟩

def refused (response : Response) : Session := ⟨[], [response]⟩

/-- One request is served before the others. -/
def serve (head : RequestHead) (response : Response) (rest : Session) : Session :=
  ⟨head :: rest.routed, response :: rest.written⟩

def append (first second : Session) : Session :=
  ⟨first.routed ++ second.routed, first.written ++ second.written⟩

@[simp] theorem append_empty (session : Session) : session.append empty = session := by
  simp [append, empty]

end Session

section Reference

variable (maxBodyBytes : Nat) (route : Nat → RequestHead → Reply)

/-- The whole stream is there from the start: parse a head, check the body limit,
skip the request, and stop at the first error, close or truncated request. -/
def reference (stream : List UInt8) (position : Nat) : Session :=
  match parsed : parseHead stream with
  | .ok (head, headLen) =>
      let total := headLen + head.contentLength
      if maxBodyBytes < head.contentLength then .refused payloadTooLarge
      else if stream.length < total then .empty
      else
        .serve head ((route position head).response head head.keepAlive)
          (if head.keepAlive then reference (stream.drop total) (position + 1) else .empty)
  | .error .incomplete => if stream.isEmpty then .empty else .refused incompleteRequest
  | .error .headTooLarge => .refused headerTooLarge
  | .error .unsupported => .refused unsupportedFraming
  | .error .malformed => .refused badRequest
termination_by stream.length
decreasing_by
  have bound := parseHead_bound parsed
  rw [List.length_drop]
  omega

end Reference

/-- A connection, and the chunks in which the rest of its stream will be read
before the end of the stream. -/
structure World where
  conn : State
  input : List (List UInt8)

section World

variable (maxBodyBytes : Nat) (route : Nat → RequestHead → Reply)

/-- What happens next without timeout, shutdown or write error. -/
def World.next (world : World) : Option (Event × List (List UInt8)) :=
  match world.conn.pc with
  | .closed => none
  | .readIdle | .readHead | .readBody _ _ =>
      match world.input with
      | [] => some (.eof, [])
      | chunk :: input => some (.bytes chunk, input)
  | .route head _ _ => some (.routed (route (world.conn.routed.length - 1) head), world.input)
  | .reply _ _ | .refuse _ => some (.written, world.input)
  | _ => some (.turn, world.input)

def World.advance (world : World) : Option World :=
  (world.next route).bind fun next =>
    (step maxBodyBytes world.conn next.1).map fun conn => ⟨conn, next.2⟩

/-- As many steps as that, or until there is nothing more to do. -/
def World.run : Nat → World → World
  | 0, world => world
  | steps + 1, world =>
      match world.advance maxBodyBytes route with
      | some after => World.run steps after
      | none => world

end World

def World.start (chunks : List (List UInt8)) : World := ⟨.start, chunks⟩

/-- What is left of the stream: the buffer, and what has not been read. -/
def World.ahead (world : World) : List UInt8 := world.conn.buf ++ world.input.flatten

/-- What has been done so far. -/
def World.done (world : World) : Session := ⟨world.conn.routed, world.conn.written⟩

/-- The session that the connection is in the middle of, by where it is. -/
def goal (maxBodyBytes : Nat) (route : Nat → RequestHead → Reply) (world : World) : Session :=
  let position := world.conn.routed.length
  let rest (total : Nat) (keepAlive : Bool) : Session :=
    if keepAlive then reference maxBodyBytes route (world.ahead.drop total) position else .empty
  match world.conn.pc with
  | .route head total keepAlive =>
      world.done.append (.append
        (.refused ((route (position - 1) head).response head keepAlive)) (rest total keepAlive))
  | .reply response total =>
      world.done.append (.append (.refused response) (rest total response.keepAlive))
  | .refuse response => world.done.append (.refused response)
  | .closed => world.done
  | _ => world.done.append (reference maxBodyBytes route world.ahead position)

/-- What the connection knows of its buffer, by where it is. -/
def Coherent (maxBodyBytes : Nat) (conn : State) : Prop :=
  conn.flag = false ∧
  match conn.pc with
  | .idle | .readIdle => conn.buf = []
  | .readHead => conn.buf ≠ [] ∧ parseHead conn.buf = .error .incomplete
  | .body head total => ∃ headLen, parseHead conn.buf = .ok (head, headLen) ∧
      total = headLen + head.contentLength ∧ head.contentLength ≤ maxBodyBytes
  | .readBody head total => (∃ headLen, parseHead conn.buf = .ok (head, headLen) ∧
      total = headLen + head.contentLength ∧ head.contentLength ≤ maxBodyBytes) ∧
      conn.buf.length < total
  | .complete head total => (∃ headLen, parseHead conn.buf = .ok (head, headLen) ∧
      total = headLen + head.contentLength ∧ head.contentLength ≤ maxBodyBytes) ∧
      total ≤ conn.buf.length
  | .route head total keepAlive =>
      keepAlive = head.keepAlive ∧ 0 < total ∧ total ≤ conn.buf.length
  | .reply _ total => 0 < total ∧ total ≤ conn.buf.length
  | _ => True

section Reference

variable {maxBodyBytes : Nat} {route : Nat → RequestHead → Reply} {stream : List UInt8}
  {position : Nat}

theorem reference_ok {head : RequestHead} {headLen : Nat}
    (parsed : parseHead stream = .ok (head, headLen)) :
    reference maxBodyBytes route stream position =
      if maxBodyBytes < head.contentLength then .refused payloadTooLarge
      else if stream.length < headLen + head.contentLength then .empty
      else
        .serve head ((route position head).response head head.keepAlive)
          (if head.keepAlive then
            reference maxBodyBytes route (stream.drop (headLen + head.contentLength))
              (position + 1)
          else .empty) := by
  rw [reference]
  split <;> simp_all

theorem reference_incomplete (maxBodyBytes : Nat) (route : Nat → RequestHead → Reply)
    (position : Nat) (parsed : parseHead stream = .error .incomplete) :
    reference maxBodyBytes route stream position =
      if stream.isEmpty then .empty else .refused incompleteRequest := by
  rw [reference]
  split <;> simp_all

/-- The response to a head that no more bytes can make acceptable. -/
def refusalOf : ParseError → Response
  | .incomplete => incompleteRequest
  | .headTooLarge => headerTooLarge
  | .unsupported => unsupportedFraming
  | .malformed => badRequest

theorem reference_error {err : ParseError} (parsed : parseHead stream = .error err)
    (final : err ≠ .incomplete) :
    reference maxBodyBytes route stream position = .refused (refusalOf err) := by
  rw [reference]
  split
  · rename_i same
    cases parsed.symm.trans same
  · rename_i same
    cases parsed.symm.trans same
    exact absurd rfl final
  · rename_i same
    cases parsed.symm.trans same
    rfl
  · rename_i same
    cases parsed.symm.trans same
    rfl
  · rename_i same
    cases parsed.symm.trans same
    rfl

end Reference

end ActorServices.Connection
