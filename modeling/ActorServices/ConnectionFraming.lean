import ActorServices.ConnectionReference

set_option autoImplicit false

namespace ActorServices.Connection

open Http

/-- Where the connection is within the serving of one request. -/
def Pc.rank : Pc → Nat
  | .parse => 6
  | .idle => 5
  | .readIdle => 4
  | .readHead => 4
  | .body _ _ => 5
  | .readBody _ _ => 4
  | .complete _ _ => 4
  | .route _ _ _ => 3
  | .reply _ _ => 2
  | .refuse _ => 1
  | .closed => 0

/-- The bytes and reads that are left, and then the place. -/
def World.measure (world : World) : Nat :=
  8 * (world.ahead.length + world.input.length) + world.conn.pc.rank

def Readable (input : List (List UInt8)) : Prop :=
  ∀ chunk ∈ input, chunk ≠ [] ∧ chunk.length ≤ readSize

/-- One step towards the same goal. -/
structure Progress (maxBodyBytes : Nat) (route : Nat → RequestHead → Reply)
    (world after : World) : Prop where
  taken : world.advance maxBodyBytes route = some after
  coherent : Coherent maxBodyBytes after.conn
  readable : Readable after.input
  kept : goal maxBodyBytes route after = goal maxBodyBytes route world
  less : after.measure < world.measure

section Progress

variable {maxBodyBytes : Nat} {route : Nat → RequestHead → Reply} {conn : State}
  {input : List (List UInt8)}

/-- The connection goes to another place, with all else as it was. -/
theorem Progress.place {new : Pc}
    (taken : (⟨conn, input⟩ : World).advance maxBodyBytes route =
      some ⟨{ conn with pc := new }, input⟩)
    (coherent : Coherent maxBodyBytes { conn with pc := new }) (readable : Readable input)
    (kept : goal maxBodyBytes route ⟨{ conn with pc := new }, input⟩ =
      goal maxBodyBytes route ⟨conn, input⟩) (rank : new.rank < conn.pc.rank) :
    ∃ after, Progress maxBodyBytes route ⟨conn, input⟩ after := by
  refine ⟨_, taken, coherent, readable, kept, ?_⟩
  simp only [World.measure, World.ahead]
  omega

/-- A head that is decided by the buffer is that of the rest of the stream. -/
theorem ahead_decided (input : List (List UInt8))
    (decided : parseHead conn.buf ≠ .error .incomplete) :
    parseHead (⟨conn, input⟩ : World).ahead = parseHead conn.buf :=
  parseHead_append decided _

theorem progress_parse (coherent : Coherent maxBodyBytes conn) (readable : Readable input)
    (pc : conn.pc = .parse) : ∃ after, Progress maxBodyBytes route ⟨conn, input⟩ after := by
  have taken : (⟨conn, input⟩ : World).advance maxBodyBytes route =
      some ⟨conn.parse maxBodyBytes, input⟩ := by
    simp only [World.advance, World.next, pc, Option.bind_some, step, State.turn, Option.map_some]
  unfold State.parse at taken
  cases parsed : parseHead conn.buf with
  | ok found =>
      obtain ⟨head, headLen⟩ := found
      have ahead := (ahead_decided input (by rw [parsed]; nofun)).trans parsed
      rw [parsed] at taken
      dsimp only at taken
      by_cases large : maxBodyBytes < head.contentLength
      · rw [if_pos large] at taken
        apply Progress.place taken ⟨coherent.1, trivial⟩ readable
        · simp only [goal, pc, reference_ok ahead, if_pos large]
          rfl
        · simp [pc, Pc.rank]
      · rw [if_neg large] at taken
        apply Progress.place taken _ readable
        · simp only [goal, pc]
          rfl
        · simp [pc, Pc.rank]
        · exact ⟨coherent.1, headLen, parsed, rfl, by omega⟩
  | error err =>
      by_cases final : err = .incomplete
      · subst final
        rw [parsed] at taken
        dsimp only at taken
        by_cases empty : conn.buf = []
        · rw [if_pos (by rw [empty]; rfl)] at taken
          apply Progress.place taken ⟨coherent.1, empty⟩ readable
          · simp only [goal, pc]
            rfl
          · simp [pc, Pc.rank]
        · rw [if_neg (by simpa using empty)] at taken
          apply Progress.place taken ⟨coherent.1, empty, parsed⟩ readable
          · simp only [goal, pc]
            rfl
          · simp [pc, Pc.rank]
      · have ahead := (ahead_decided input (by rw [parsed]; simpa using final)).trans parsed
        have refused : (⟨conn, input⟩ : World).advance maxBodyBytes route =
            some ⟨{ conn with pc := .refuse (refusalOf err) }, input⟩ := by
          rw [taken, parsed]
          cases err with
          | incomplete => exact absurd rfl final
          | _ => rfl
        apply Progress.place refused ⟨coherent.1, trivial⟩ readable
        · simp only [goal, pc, reference_error ahead final]
          rfl
        · simp [pc, Pc.rank]

theorem progress_idle (coherent : Coherent maxBodyBytes conn) (readable : Readable input)
    (pc : conn.pc = .idle) : ∃ after, Progress maxBodyBytes route ⟨conn, input⟩ after := by
  have taken : (⟨conn, input⟩ : World).advance maxBodyBytes route =
      some ⟨{ conn with pc := .readIdle }, input⟩ := by
    simp [World.advance, World.next, pc, step, State.turn, coherent.1]
  simp only [Coherent, pc] at coherent
  apply Progress.place taken coherent readable
  · simp only [goal, pc]
    rfl
  · simp [pc, Pc.rank]

/-- A read returns the next chunk. -/
theorem Progress.read {chunk : List UInt8} {new : Pc}
    (taken : (⟨conn, chunk :: input⟩ : World).advance maxBodyBytes route =
      some ⟨{ conn with buf := conn.buf ++ chunk, pc := new }, input⟩)
    (coherent : Coherent maxBodyBytes { conn with buf := conn.buf ++ chunk, pc := new })
    (readable : Readable (chunk :: input))
    (kept : goal maxBodyBytes route ⟨{ conn with buf := conn.buf ++ chunk, pc := new }, input⟩ =
      goal maxBodyBytes route ⟨conn, chunk :: input⟩) (rank : new.rank ≤ conn.pc.rank + 2) :
    ∃ after, Progress maxBodyBytes route ⟨conn, chunk :: input⟩ after := by
  refine ⟨_, taken, coherent, fun other member => readable other (List.mem_cons_of_mem _ member),
    kept, ?_⟩
  simp only [World.measure, World.ahead, List.flatten_cons, List.length_append, List.length_cons]
  omega

theorem ahead_read (chunk : List UInt8) (pc : Pc) :
    (⟨{ conn with buf := conn.buf ++ chunk, pc := pc }, input⟩ : World).ahead =
      (⟨conn, chunk :: input⟩ : World).ahead := by
  simp only [World.ahead, List.flatten_cons, List.append_assoc]

/-- The next chunk is one that a read may return. -/
theorem bytes_taken {chunk : List UInt8} (readable : Readable (chunk :: input)) :
    ¬ (chunk = [] ∨ readSize < chunk.length) := by
  have sized := readable chunk List.mem_cons_self
  rw [not_or]
  exact ⟨sized.1, by omega⟩

/-- The first bytes of a request, or more of its head: the buffer is parsed again. -/
theorem progress_chunk {chunk : List UInt8} (live : conn.flag = false)
    (readable : Readable (chunk :: input)) (waits : conn.pc = .readIdle ∨ conn.pc = .readHead) :
    ∃ after, Progress maxBodyBytes route ⟨conn, chunk :: input⟩ after := by
  have taken : (⟨conn, chunk :: input⟩ : World).advance maxBodyBytes route =
      some ⟨{ conn with buf := conn.buf ++ chunk, pc := .parse }, input⟩ := by
    rcases waits with pc | pc
    all_goals
      simp only [World.advance, World.next, pc, Option.bind_some, step, State.bytes,
        if_neg (bytes_taken readable), Option.map_some]
  apply Progress.read taken ⟨live, trivial⟩ readable
  · rcases waits with pc | pc
    all_goals
      simp only [goal, pc, ahead_read]
      rfl
  · rcases waits with pc | pc <;> simp [pc, Pc.rank]

theorem progress_readIdle (coherent : Coherent maxBodyBytes conn) (readable : Readable input)
    (pc : conn.pc = .readIdle) : ∃ after, Progress maxBodyBytes route ⟨conn, input⟩ after := by
  have live := coherent.1
  simp only [Coherent, pc] at coherent
  cases input with
  | nil =>
      have taken : (⟨conn, []⟩ : World).advance maxBodyBytes route =
          some ⟨{ conn with pc := .closed }, []⟩ := by
        simp [World.advance, World.next, pc, step, State.eof]
      apply Progress.place taken ⟨live, trivial⟩ readable
      · have nothing : (⟨conn, []⟩ : World).ahead = [] := by
          rw [World.ahead, coherent.2]
          rfl
        have ended := reference_incomplete maxBodyBytes route conn.routed.length parseHead_nil
        simp only [goal, pc, nothing, ended]
        exact (Session.append_empty _).symm
      · simp [pc, Pc.rank]
  | cons chunk input => exact progress_chunk live readable (.inl pc)

theorem progress_readHead (coherent : Coherent maxBodyBytes conn) (readable : Readable input)
    (pc : conn.pc = .readHead) : ∃ after, Progress maxBodyBytes route ⟨conn, input⟩ after := by
  have live := coherent.1
  simp only [Coherent, pc] at coherent
  cases input with
  | nil =>
      have taken : (⟨conn, []⟩ : World).advance maxBodyBytes route =
          some ⟨{ conn with pc := .refuse incompleteRequest }, []⟩ := by
        simp [World.advance, World.next, pc, step, State.eof]
      apply Progress.place taken ⟨live, trivial⟩ readable
      · have whole : (⟨conn, []⟩ : World).ahead = conn.buf := List.append_nil _
        have ended := reference_incomplete maxBodyBytes route conn.routed.length coherent.2.2
        rw [if_neg (by simpa using coherent.2.1)] at ended
        simp only [goal, pc, whole, ended]
        rfl
      · simp [pc, Pc.rank]
  | cons chunk input => exact progress_chunk live readable (.inr pc)

theorem progress_body {head : RequestHead} {total : Nat} (coherent : Coherent maxBodyBytes conn)
    (readable : Readable input) (pc : conn.pc = .body head total) :
    ∃ after, Progress maxBodyBytes route ⟨conn, input⟩ after := by
  have taken : (⟨conn, input⟩ : World).advance maxBodyBytes route = some ⟨{ conn with
      pc := if conn.buf.length < total then .readBody head total else .complete head total },
      input⟩ := by
    simp only [World.advance, World.next, pc, Option.bind_some, step, State.turn, Option.map_some]
  have live := coherent.1
  simp only [Coherent, pc] at coherent
  by_cases short : conn.buf.length < total
  · rw [if_pos short] at taken
    apply Progress.place taken ⟨live, coherent.2, short⟩ readable
    · simp only [goal, pc]
      rfl
    · simp [pc, Pc.rank]
  · rw [if_neg short] at taken
    apply Progress.place taken ⟨live, coherent.2, by dsimp only; omega⟩ readable
    · simp only [goal, pc]
      rfl
    · simp [pc, Pc.rank]

theorem progress_readBody {head : RequestHead} {total : Nat}
    (coherent : Coherent maxBodyBytes conn) (readable : Readable input)
    (pc : conn.pc = .readBody head total) :
    ∃ after, Progress maxBodyBytes route ⟨conn, input⟩ after := by
  have live := coherent.1
  simp only [Coherent, pc] at coherent
  obtain ⟨-, ⟨headLen, parsed, rfl, bounded⟩, short⟩ := coherent
  cases input with
  | nil =>
      have taken : (⟨conn, []⟩ : World).advance maxBodyBytes route =
          some ⟨{ conn with pc := .closed }, []⟩ := by
        simp [World.advance, World.next, pc, step, State.eof]
      apply Progress.place taken ⟨live, trivial⟩ readable
      · have whole : (⟨conn, []⟩ : World).ahead = conn.buf := List.append_nil _
        simp only [goal, pc, whole, reference_ok parsed, if_neg (Nat.not_lt.mpr bounded),
          if_pos short]
        exact (Session.append_empty _).symm
      · simp [pc, Pc.rank]
  | cons chunk input =>
      have taken : (⟨conn, chunk :: input⟩ : World).advance maxBodyBytes route =
          some ⟨{ conn with
            buf := conn.buf ++ chunk
            pc := .body head (headLen + head.contentLength) }, input⟩ := by
        simp only [World.advance, World.next, pc, Option.bind_some, step, State.bytes,
          if_neg (bytes_taken readable), Option.map_some]
      have still : parseHead (conn.buf ++ chunk) = .ok (head, headLen) := by
        rw [parseHead_append (by rw [parsed]; nofun), parsed]
      apply Progress.read taken ⟨live, headLen, still, rfl, bounded⟩ readable
      · simp only [goal, pc, ahead_read]
        rfl
      · simp [pc, Pc.rank]

/-- The request is all there: it is routed, as in the reference. -/
theorem progress_complete {head : RequestHead} {total : Nat}
    (coherent : Coherent maxBodyBytes conn) (readable : Readable input)
    (pc : conn.pc = .complete head total) :
    ∃ after, Progress maxBodyBytes route ⟨conn, input⟩ after := by
  have live := coherent.1
  simp only [Coherent, pc] at coherent
  obtain ⟨-, ⟨headLen, parsed, rfl, bounded⟩, full⟩ := coherent
  have taken : (⟨conn, input⟩ : World).advance maxBodyBytes route = some ⟨{ conn with
      pc := .route head (headLen + head.contentLength) head.keepAlive
      routed := conn.routed ++ [head] }, input⟩ := by
    simp [World.advance, World.next, pc, step, State.turn, live]
  have start := (parseHead_bound parsed).1
  refine ⟨_, taken, ⟨live, rfl, by omega, full⟩, readable, ?_, ?_⟩
  · have ahead := (ahead_decided input (by rw [parsed]; nofun)).trans parsed
    have long : ¬ (⟨conn, input⟩ : World).ahead.length < headLen + head.contentLength := by
      rw [World.ahead, List.length_append]
      dsimp only
      omega
    simp only [goal, pc]
    rw [reference_ok ahead, if_neg (Nat.not_lt.mpr bounded), if_neg long]
    simp only [Session.append, Session.serve, Session.refused, World.done, World.ahead,
      List.length_append, List.length_singleton, Nat.add_sub_cancel, List.append_assoc,
      List.singleton_append, List.nil_append]
  · simp [World.measure, World.ahead, pc, Pc.rank]

theorem progress_route {head : RequestHead} {total : Nat} {keepAlive : Bool}
    (coherent : Coherent maxBodyBytes conn) (readable : Readable input)
    (pc : conn.pc = .route head total keepAlive) :
    ∃ after, Progress maxBodyBytes route ⟨conn, input⟩ after := by
  have taken : (⟨conn, input⟩ : World).advance maxBodyBytes route = some ⟨{ conn with
      pc := .reply ((route (conn.routed.length - 1) head).response head keepAlive) total },
      input⟩ := by
    simp only [World.advance, World.next, pc, Option.bind_some, step, State.replied,
      Option.map_some]
  have live := coherent.1
  simp only [Coherent, pc] at coherent
  apply Progress.place taken ⟨live, coherent.2.2⟩ readable
  · simp only [goal, pc]
    rfl
  · simp [pc, Pc.rank]

/-- The request is skipped, and the next one begins where it ended. -/
theorem progress_reply {response : Response} {total : Nat}
    (coherent : Coherent maxBodyBytes conn) (readable : Readable input)
    (pc : conn.pc = .reply response total) :
    ∃ after, Progress maxBodyBytes route ⟨conn, input⟩ after := by
  have taken : (⟨conn, input⟩ : World).advance maxBodyBytes route = some ⟨{ conn with
      buf := conn.buf.drop total
      pc := if response.keepAlive then .parse else .closed
      written := conn.written ++ [response] }, input⟩ := by
    simp only [World.advance, World.next, pc, Option.bind_some, step, State.wrote,
      Option.map_some]
  have live := coherent.1
  simp only [Coherent, pc] at coherent
  have skipped : conn.buf.drop total ++ input.flatten =
      (⟨conn, input⟩ : World).ahead.drop total :=
    (List.drop_append_of_le_length coherent.2.2).symm
  have less : (conn.buf.drop total).length < conn.buf.length := by
    rw [List.length_drop]
    omega
  by_cases keep : response.keepAlive = true
  · rw [if_pos keep] at taken
    refine ⟨_, taken, ⟨live, trivial⟩, readable, ?_, ?_⟩
    · simp only [goal, pc, keep, ↓reduceIte, World.ahead, skipped, Session.append,
        Session.refused, World.done, List.append_assoc, List.nil_append, List.singleton_append]
    · simp only [World.measure, World.ahead, List.length_append, pc, Pc.rank]
      omega
  · rw [if_neg keep] at taken
    refine ⟨_, taken, ⟨live, trivial⟩, readable, ?_, ?_⟩
    · simp [goal, pc, keep, Session.append, Session.refused, World.done, Session.empty]
    · simp only [World.measure, World.ahead, List.length_append, pc, Pc.rank]
      omega

theorem progress_refuse {response : Response} (coherent : Coherent maxBodyBytes conn)
    (readable : Readable input) (pc : conn.pc = .refuse response) :
    ∃ after, Progress maxBodyBytes route ⟨conn, input⟩ after := by
  have taken : (⟨conn, input⟩ : World).advance maxBodyBytes route = some ⟨{ conn with
      pc := .closed
      written := conn.written ++ [response] }, input⟩ := by
    simp only [World.advance, World.next, pc, Option.bind_some, step, State.wrote,
      Option.map_some]
  refine ⟨_, taken, ⟨coherent.1, trivial⟩, readable, ?_, ?_⟩
  · simp [goal, pc, Session.append, Session.refused, World.done]
  · simp [World.measure, World.ahead, pc, Pc.rank]

/-- While it is not closed, a connection goes on towards its goal. -/
theorem progress (coherent : Coherent maxBodyBytes conn) (readable : Readable input)
    (opened : conn.pc ≠ .closed) : ∃ after, Progress maxBodyBytes route ⟨conn, input⟩ after := by
  cases pc : conn.pc with
  | parse => exact progress_parse coherent readable pc
  | idle => exact progress_idle coherent readable pc
  | readIdle => exact progress_readIdle coherent readable pc
  | readHead => exact progress_readHead coherent readable pc
  | body head total => exact progress_body coherent readable pc
  | readBody head total => exact progress_readBody coherent readable pc
  | complete head total => exact progress_complete coherent readable pc
  | route head total keepAlive => exact progress_route coherent readable pc
  | reply response total => exact progress_reply coherent readable pc
  | refuse response => exact progress_refuse coherent readable pc
  | closed => exact absurd pc opened

end Progress

section Run

variable {maxBodyBytes : Nat} {route : Nat → RequestHead → Reply}

end Run

/-- The connection closes in the end, and by then it has done just that. -/
def Serves (maxBodyBytes : Nat) (route : Nat → RequestHead → Reply)
    (chunks : List (List UInt8)) (session : Session) : Prop :=
  (∃ steps, ((World.start chunks).run maxBodyBytes route steps).conn.pc = .closed) ∧
  ∀ steps, ((World.start chunks).run maxBodyBytes route steps).conn.pc = .closed →
    ((World.start chunks).run maxBodyBytes route steps).done = session ∧
      ((World.start chunks).run maxBodyBytes route steps).conn.wire = session.wire

/-- Two pipelined requests. -/
def pipelined : List UInt8 :=
  "GET / HTTP/1.1\r\nHost: x\r\n\r\nGET /healthz HTTP/1.1\r\nConnection: close\r\n\r\n".toUTF8.toList

end ActorServices.Connection
