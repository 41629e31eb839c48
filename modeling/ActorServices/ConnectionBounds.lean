import ActorServices.ConnectionSteps
import ActorServices.HttpStreaming

set_option autoImplicit false

namespace ActorServices.Connection

open Http

/-- The reads that were started for the current request: a turn that leads to a read
starts one, and a response that is written ends the request. -/
def countReads (reads : Nat) (conn : State) (event : Event) (next : State) : Nat :=
  match event, conn.pc with
  | .written, .reply _ _ => 0
  | .turn, _ => if next.pc.reads then reads + 1 else reads
  | _, _ => reads

def readsStarted (maxBodyBytes : Nat) (events : List Event) : Nat :=
  Trace.account (step maxBodyBytes) countReads .start 0 events

/-- What bounds the buffer and the reads, by where the connection is. Each read but one
that is still awaited has added a byte. -/
def Bounded (maxBodyBytes : Nat) (conn : State) (reads : Nat) : Prop :=
  conn.buf.length ≤ 2 * readSize + maxBodyBytes ∧ reads ≤ readSize + 1 + maxBodyBytes ∧
  match conn.pc with
  | .parse => reads ≤ conn.buf.length ∧ reads ≤ readSize + 1
  | .idle => conn.buf = [] ∧ reads = 0
  | .readIdle => conn.buf = [] ∧ reads ≤ 1
  | .readHead => conn.buf.length ≤ maxHeadBytes ∧ reads ≤ conn.buf.length + 1
  | .body _ total => total ≤ maxHeadBytes + maxBodyBytes ∧ reads ≤ conn.buf.length
  | .readBody _ total => conn.buf.length < total ∧ total ≤ maxHeadBytes + maxBodyBytes ∧
      reads ≤ conn.buf.length + 1
  | .complete _ total => total ≤ conn.buf.length
  | .route _ total _ => total ≤ conn.buf.length
  | .reply _ total => total ≤ conn.buf.length
  | _ => True

section Step

variable {maxBodyBytes : Nat} {conn next : State} {event : Event} {reads : Nat}

theorem bounded_start (maxBodyBytes : Nat) : Bounded maxBodyBytes .start 0 := by
  refine ⟨?_, ?_, ?_⟩
  · exact Nat.zero_le _
  · exact Nat.zero_le _
  · exact ⟨Nat.le_refl _, Nat.zero_le _⟩

theorem bounded_await (held : Bounded maxBodyBytes conn reads) (place : conn.pc = .parse)
    (parsed : parseHead conn.buf = .error .incomplete) :
    let next := { conn with pc := if conn.buf.isEmpty then .idle else .readHead }
    Bounded maxBodyBytes next (countReads reads conn .turn next) := by
  have bound := incomplete_bound parsed
  have sizes : readSize = 8192 ∧ maxHeadBytes = 8192 := ⟨rfl, rfl⟩
  obtain ⟨length, started, place_⟩ := held
  rw [place] at place_
  have few := place_.1
  by_cases empty : conn.buf.isEmpty = true
  · have none : conn.buf = [] := List.isEmpty_iff.mp empty
    rw [none, List.length_nil] at few
    rw [if_pos empty]
    exact ⟨length, started, none, Nat.le_zero.mp few⟩
  · rw [if_neg empty]
    refine ⟨length, ?_, bound, ?_⟩
    · show reads + 1 ≤ _
      omega
    · show reads + 1 ≤ conn.buf.length + 1
      omega

theorem bounded_readHead {chunk : List UInt8} (held : Bounded maxBodyBytes conn reads)
    (place : conn.pc = .readIdle ∨ conn.pc = .readHead) (nonempty : chunk ≠ [])
    (fits : chunk.length ≤ readSize) :
    Bounded maxBodyBytes { conn with buf := conn.buf ++ chunk, pc := .parse } reads := by
  have sizes : readSize = 8192 ∧ maxHeadBytes = 8192 := ⟨rfl, rfl⟩
  have positive := List.length_pos_iff.mpr nonempty
  obtain ⟨length, started, place_⟩ := held
  have short : conn.buf.length ≤ maxHeadBytes ∧ reads ≤ conn.buf.length + 1 := by
    cases place with
    | inl idle =>
        rw [idle] at place_
        rw [place_.1]
        exact ⟨Nat.zero_le _, place_.2⟩
    | inr inHead =>
        rw [inHead] at place_
        exact place_
  refine ⟨?_, started, ?_, ?_⟩
  · rw [List.length_append]
    omega
  · show reads ≤ (conn.buf ++ chunk).length
    rw [List.length_append]
    omega
  · show reads ≤ readSize + 1
    omega

/-- A response ends the request, and with it the count of its reads. -/
theorem bounded_served {response : Response} {total : Nat}
    (held : Bounded maxBodyBytes conn reads) (place : conn.pc = .reply response total) :
    let next := { conn with
      buf := conn.buf.drop total, pc := if response.keepAlive then .parse else .closed,
      written := conn.written ++ [response] }
    Bounded maxBodyBytes next (countReads reads conn .written next) := by
  intro next
  have kept : (conn.buf.drop total).length ≤ conn.buf.length := by
    rw [List.length_drop]
    omega
  have none : countReads reads conn .written next = 0 := by
    simp only [countReads, place]
  rw [none]
  refine ⟨Nat.le_trans kept held.1, Nat.zero_le _, ?_⟩
  dsimp only [next]
  cases response.keepAlive with
  | true => exact ⟨Nat.zero_le _, Nat.zero_le _⟩
  | false => trivial

theorem bounded_step (held : Bounded maxBodyBytes conn reads)
    (taken : step maxBodyBytes conn event = some next) :
    Bounded maxBodyBytes next (countReads reads conn event next) := by
  have sizes : readSize = 8192 ∧ maxHeadBytes = 8192 := ⟨rfl, rfl⟩
  obtain ⟨length, started, place_⟩ := held
  cases step_passage taken with
  | shutdown => exact ⟨length, started, place_⟩
  | closeFlag => exact ⟨length, started, place_⟩
  | await place parsed => exact bounded_await ⟨length, started, place_⟩ place parsed
  | malformed err place parsed final => exact ⟨length, started, trivial⟩
  | large head headLen place parsed excess => exact ⟨length, started, trivial⟩
  | accept head headLen place parsed fits =>
      rw [place] at place_
      have bound := parseHead_bound parsed
      refine ⟨length, started, ?_, place_.1⟩
      omega
  | rest place =>
      rw [place] at place_
      cases raised : conn.flag with
      | true => exact ⟨length, started, trivial⟩
      | false =>
          have zero := place_.2
          refine ⟨length, ?_, place_.1, ?_⟩
          · show reads + 1 ≤ _
            omega
          · show reads + 1 ≤ 1
            omega
  | short head total place less =>
      rw [place] at place_
      have few := place_.2
      have most := place_.1
      refine ⟨length, ?_, less, most, ?_⟩
      · show reads + 1 ≤ _
        omega
      · show reads + 1 ≤ conn.buf.length + 1
        omega
  | whole head total place enough => exact ⟨length, started, enough⟩
  | route head total place =>
      rw [place] at place_
      exact ⟨length, started, place_⟩
  | readHead chunk place nonempty fits =>
      exact bounded_readHead ⟨length, started, place_⟩ place nonempty fits
  | readBody chunk head total place nonempty fits =>
      rw [place] at place_
      obtain ⟨less, most, few⟩ := place_
      have positive := List.length_pos_iff.mpr nonempty
      refine ⟨?_, started, most, ?_⟩
      · rw [List.length_append]
        omega
      · show reads ≤ (conn.buf ++ chunk).length
        rw [List.length_append]
        omega
  | truncated place => exact ⟨length, started, trivial⟩
  | late place => exact ⟨length, started, trivial⟩
  | lateBody head total place => exact ⟨length, started, trivial⟩
  | close event read unwritten other =>
      refine ⟨length, ?_, trivial⟩
      cases event with
      | turn => exact absurd rfl other
      | written => exact absurd rfl unwritten
      | _ => exact started
  | reply head total keepAlive reply place =>
      rw [place] at place_
      exact ⟨length, started, place_⟩
  | served response total place => exact bounded_served ⟨length, started, place_⟩ place
  | refused response place =>
      have same : countReads reads conn .written
          { conn with pc := .closed, written := conn.written ++ [response] } = reads := by
        simp only [countReads, place]
      rw [same]
      exact ⟨length, started, trivial⟩
  | unserved response total place => exact ⟨length, started, trivial⟩
  | unrefused response place => exact ⟨length, started, trivial⟩

end Step

/-- Whatever the peer sends, and however it comes in: the buffer holds at most two reads
and a body, what a served request takes from it is there, and one request takes no more
reads than its longest head and body have bytes, and one. -/
theorem connection_bounded {maxBodyBytes : Nat} {events : List Event} {conn : State}
    (ran : Trace.run (step maxBodyBytes) .start events = some conn) :
    conn.buf.length ≤ 2 * 8192 + maxBodyBytes ∧
      (∀ response total, conn.pc = .reply response total → total ≤ conn.buf.length) ∧
      readsStarted maxBodyBytes events ≤ 8193 + maxBodyBytes := by
  have any : Trace.Throughout (step maxBodyBytes) (fun _ _ => True) .start events :=
    fun _ _ _ _ _ _ => trivial
  have held : Bounded maxBodyBytes conn (readsStarted maxBodyBytes events) := by
    apply Trace.account_invariant (Bounded maxBodyBytes) _ (bounded_start maxBodyBytes) any ran
    intro middle so_far event next held _ taken
    exact bounded_step held taken
  have sizes : readSize = 8192 := rfl
  obtain ⟨length, started, place⟩ := held
  refine ⟨by omega, ?_, by omega⟩
  intro response total replying
  rw [replying] at place
  exact place

/-- A request in two reads, and the next one behind it. -/
def upload : List Event :=
  [.turn, .turn, .bytes "POST / HTTP/1.1\r\nContent-Length: 5\r\n\r\nhe".toUTF8.toList, .turn,
    .turn, .bytes "lloGET / HT".toUTF8.toList, .turn, .turn,
    .routed ⟨405, "Method Not Allowed", "method not allowed\n"⟩]

def uploading : State where
  buf := "POST / HTTP/1.1\r\nContent-Length: 5\r\n\r\nhelloGET / HT".toUTF8.toList
  pc := .reply ⟨405, "Method Not Allowed", "method not allowed\n", true, true⟩ 43
  flag := false
  flagClosed := false
  routed := [⟨"POST", "/", true, 5⟩]
  written := []

theorem connection_bounded_upload :
    readsStarted 64 upload = 2 ∧ uploading.buf.length ≤ 2 * 8192 + 64 ∧
      (∀ response total, uploading.pc = .reply response total → total ≤ uploading.buf.length) ∧
      readsStarted 64 upload ≤ 8193 + 64 := by
  have ran : Trace.run (step 64) .start upload = some uploading := by decide +kernel
  exact ⟨by decide +kernel, connection_bounded ran⟩

end ActorServices.Connection
