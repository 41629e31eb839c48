import ActorServices.ConnectionSteps
import ActorServices.HttpResponse

set_option autoImplicit false

namespace ActorServices.Connection

open Http

/-- `route`, with what the registry and the metrics say. -/
def route (head : RequestHead) (active connectionsTotal requestsTotal : Nat) : Reply :=
  if head.method = "GET" ∨ head.method = "HEAD" then
    if head.path = "/" then ⟨200, "OK", "Hello from tcp-actor-server\n"⟩
    else if head.path = "/healthz" then ⟨200, "OK", "ok\n"⟩
    else if head.path = "/status" then
      ⟨200, "OK", "\x7b\"connections_active\":" ++ toString active ++ ",\"connections_total\":" ++
        toString connectionsTotal ++ ",\"requests_total\":" ++ toString requestsTotal ++ "\x7d\n"⟩
    else ⟨404, "Not Found", "not found\n"⟩
  else ⟨405, "Method Not Allowed", "method not allowed\n"⟩

theorem route_oneLine (head : RequestHead) (active connectionsTotal requestsTotal : Nat) :
    OneLine (route head active connectionsTotal requestsTotal).reason := by
  have reasons : OneLine "OK" ∧ OneLine "Not Found" ∧ OneLine "Method Not Allowed" := by
    unfold OneLine
    decide +kernel
  simp only [route]
  repeat' split
  · exact reasons.1
  · exact reasons.1
  · exact reasons.1
  · exact reasons.2.1
  · exact reasons.2.2

/-- The response ends at its first blank line, and says how long its body would be. -/
def Bodiless (response : Response) : Prop :=
  findSubsequence response.bytes headEnd = some (response.bytes.length - 4) ∧
    ∃ reading, readResponse false response.bytes = some (reading, []) ∧
      reading.length = response.body.utf8ByteSize

section Response

variable {response : Response}

theorem bodiless_unwritten (oneLine : OneLine response.reason)
    (unwritten : response.writeBody = false) : Bodiless response := by
  obtain ⟨index, found, _, behind⟩ := find_response oneLine []
  have bound := ((findSubsequence_some headEnd_nonempty).mp found).1.bound headEnd_nonempty
  rw [List.append_nil] at found behind bound
  have read := readResponse_bytes oneLine []
  rw [List.append_nil, unwritten] at read
  constructor
  · have ends : response.bytes.length ≤ index + 4 := by
      apply List.drop_eq_nil_iff.mp
      rw [behind, unwritten]
      rfl
    have four : headEnd.length = 4 := rfl
    have last : index = response.bytes.length - 4 := by omega
    rw [found, last]
  · exact ⟨response.reading, read, rfl⟩

theorem bodied_written (oneLine : OneLine response.reason) (written : response.writeBody = true)
    (nonempty : response.body ≠ "") : ¬ Bodiless response := by
  intro bodiless
  obtain ⟨index, found, _, behind⟩ := find_response oneLine []
  rw [List.append_nil] at found behind
  have last : index = response.bytes.length - 4 :=
    Option.some.inj (found.symm.trans bodiless.1)
  have bound := ((findSubsequence_some headEnd_nonempty).mp found).1.bound headEnd_nonempty
  have four : headEnd.length = 4 := rfl
  have none : response.bytes.drop (index + 4) = [] := by
    apply List.drop_eq_nil_iff.mpr
    omega
  rw [none, written, if_pos rfl, List.append_nil] at behind
  apply Utf8.encode_nonempty _ behind.symm
  intro empty
  exact nonempty (String.toList_eq_nil_iff.mp empty)

end Response

/-- The head that was accepted last, and the responses with the heads that they answer. -/
structure Answers where
  current : Option RequestHead
  written : List (Option RequestHead × Response)

/-- A look at the buffer that finds a head makes it the current one; a response that is
written answers the current one. -/
def noteAnswer (noted : Answers) (conn : State) (event : Event) (_next : State) : Answers :=
  match event, conn.pc with
  | .turn, .parse =>
      match parseHead conn.buf with
      | .ok (head, _) => { noted with current := some head }
      | .error _ => { noted with current := none }
  | .written, .reply response _ =>
      { noted with written := noted.written ++ [(noted.current, response)] }
  | .written, .refuse response =>
      { noted with written := noted.written ++ [(noted.current, response)] }
  | _, _ => noted

/-- The responses that these events have written, each with the head that it answers. -/
def answers (maxBodyBytes : Nat) (events : List Event) : List (Option RequestHead × Response) :=
  (Trace.account (step maxBodyBytes) noteAnswer .start ⟨none, []⟩ events).written

def HeadsBodiless (written : List (Option RequestHead × Response)) : Prop :=
  ∀ answer ∈ written, ∀ head, answer.1 = some head → head.method = "HEAD" → Bodiless answer.2

def RoutedByRoute (conn : State) (event : Event) : Prop :=
  ∀ reply head total keepAlive, event = .routed reply → conn.pc = .route head total keepAlive →
    ∃ active connections requests, reply = route head active connections requests

/-- No `HEAD` request declares a body above the limit, and no deadline passes while the
body of one is awaited. -/
def HeadServed (maxBodyBytes : Nat) (conn : State) (event : Event) : Prop :=
  (∀ head headLen, event = .turn → conn.pc = .parse → parseHead conn.buf = .ok (head, headLen) →
    head.method = "HEAD" → head.contentLength ≤ maxBodyBytes) ∧
  (∀ head total, event = .timeout → conn.pc = .readBody head total → head.method ≠ "HEAD")

/-- What is known of the current head, by where the connection is. -/
def Answering (conn : State) (noted : Answers) : Prop :=
  HeadsBodiless noted.written ∧
  match conn.pc with
  | .idle | .readIdle | .readHead => noted.current = none
  | .body head _ | .readBody head _ | .complete head _ | .route head _ _ =>
      noted.current = some head
  | .reply response _ =>
      ∀ head, noted.current = some head → head.method = "HEAD" → Bodiless response
  | .refuse response =>
      ∀ head, noted.current = some head → head.method = "HEAD" → Bodiless response
  | _ => True

section Step

variable {maxBodyBytes : Nat} {conn next : State} {event : Event} {noted : Answers}

theorem headsBodiless_snoc {response : Response} (held : HeadsBodiless noted.written)
    (last : ∀ head, noted.current = some head → head.method = "HEAD" → Bodiless response) :
    HeadsBodiless (noted.written ++ [(noted.current, response)]) := by
  intro answer among
  cases List.mem_append.mp among with
  | inl earlier => exact held answer earlier
  | inr final =>
      rw [List.mem_singleton.mp final]
      exact last

theorem reply_bodiless {head : RequestHead} (active connections requests : Nat) (keepAlive : Bool)
    (isHead : head.method = "HEAD") :
    Bodiless ((route head active connections requests).response head keepAlive) := by
  apply bodiless_unwritten
  · exact route_oneLine head active connections requests
  · show (head.method != "HEAD") = false
    rw [isHead]
    rfl

theorem answering_step (held : Answering conn noted) (routed : RoutedByRoute conn event)
    (served : HeadServed maxBodyBytes conn event)
    (taken : step maxBodyBytes conn event = some next) :
    Answering next (noteAnswer noted conn event next) := by
  obtain ⟨past, place_⟩ := held
  cases step_passage taken with
  | shutdown => exact ⟨past, place_⟩
  | closeFlag => exact ⟨past, place_⟩
  | await place parsed =>
      simp only [noteAnswer, place, parsed]
      refine ⟨past, ?_⟩
      cases conn.buf.isEmpty <;> rfl
  | malformed err place parsed final =>
      simp only [noteAnswer, place, parsed]
      exact ⟨past, nofun⟩
  | large head headLen place parsed excess =>
      simp only [noteAnswer, place, parsed]
      refine ⟨past, ?_⟩
      intro current same isHead
      cases same
      have fits := served.1 head headLen rfl place parsed isHead
      omega
  | accept head headLen place parsed fits =>
      simp only [noteAnswer, place, parsed]
      exact ⟨past, rfl⟩
  | rest place =>
      rw [place] at place_
      simp only [noteAnswer, place]
      refine ⟨past, ?_⟩
      cases conn.flag with
      | true => trivial
      | false => exact place_
  | short head total place less =>
      rw [place] at place_
      simp only [noteAnswer, place]
      exact ⟨past, place_⟩
  | whole head total place enough =>
      rw [place] at place_
      simp only [noteAnswer, place]
      exact ⟨past, place_⟩
  | route head total place =>
      rw [place] at place_
      simp only [noteAnswer, place]
      exact ⟨past, place_⟩
  | readHead chunk place nonempty fits => exact ⟨past, trivial⟩
  | readBody chunk head total place nonempty fits =>
      rw [place] at place_
      exact ⟨past, place_⟩
  | truncated place =>
      rw [place] at place_
      refine ⟨past, ?_⟩
      intro current same
      cases place_.symm.trans same
  | late place =>
      rw [place] at place_
      refine ⟨past, ?_⟩
      intro current same
      cases place_.symm.trans same
  | lateBody head total place =>
      rw [place] at place_
      refine ⟨past, ?_⟩
      intro current same isHead
      cases place_.symm.trans same
      exact absurd isHead (served.2 head total rfl place)
  | close event read unwritten other =>
      cases event with
      | turn => exact absurd rfl other
      | written => exact absurd rfl unwritten
      | _ => exact ⟨past, trivial⟩
  | reply head total keepAlive reply place =>
      rw [place] at place_
      refine ⟨past, ?_⟩
      intro current same isHead
      cases place_.symm.trans same
      obtain ⟨active, connections, requests, from_⟩ := routed reply head total keepAlive rfl place
      rw [from_]
      exact reply_bodiless active connections requests keepAlive isHead
  | served response total place =>
      rw [place] at place_
      simp only [noteAnswer, place]
      refine ⟨headsBodiless_snoc past place_, ?_⟩
      cases response.keepAlive <;> trivial
  | refused response place =>
      rw [place] at place_
      simp only [noteAnswer, place]
      exact ⟨headsBodiless_snoc past place_, trivial⟩
  | unserved response total place => exact ⟨past, trivial⟩
  | unrefused response place => exact ⟨past, trivial⟩

end Step

/-- Where no `HEAD` request is too large or late with its body, no answer to one has body
bytes. -/
theorem answers_bodiless {maxBodyBytes : Nat} {events : List Event} {conn : State}
    (routed : Trace.Throughout (step maxBodyBytes) RoutedByRoute .start events)
    (served : Trace.Throughout (step maxBodyBytes) (HeadServed maxBodyBytes) .start events)
    (ran : Trace.run (step maxBodyBytes) .start events = some conn) :
    HeadsBodiless (answers maxBodyBytes events) := by
  have held : Answering conn
      (Trace.account (step maxBodyBytes) noteAnswer .start ⟨none, []⟩ events) := by
    have both : Trace.Throughout (step maxBodyBytes)
        (fun conn event => RoutedByRoute conn event ∧ HeadServed maxBodyBytes conn event)
        .start events := by
      intro history event rest middle split reached
      exact ⟨routed history event rest middle split reached,
        served history event rest middle split reached⟩
    apply Trace.account_invariant Answering _ _ both ran
    · intro middle so_far event next held both taken
      exact answering_step held both.1 both.2 taken
    · exact ⟨nofun, trivial⟩
  exact held.1

/-- A run without a reply is routed by `route`, and so is one with these replies of it. -/
theorem routedByRoute_check {maxBodyBytes : Nat} {events : List Event}
    (checked : Trace.check (step maxBodyBytes) (fun conn event =>
      match event, conn.pc with
      | .routed reply, .route head _ _ => reply == route head 0 0 0
      | _, _ => true) .start events = true) :
    Trace.Throughout (step maxBodyBytes) RoutedByRoute .start events := by
  intro history event rest middle split reached reply head total keepAlive routed place
  have test := Trace.throughout_of_check checked history event rest middle split reached
  rw [routed, place] at test
  exact ⟨0, 0, 0, eq_of_beq test⟩

def servesHead (maxBodyBytes : Nat) (conn : State) (event : Event) : Bool :=
  match event, conn.pc, parseHead conn.buf with
  | .turn, .parse, .ok (head, _) => decide (head.contentLength ≤ maxBodyBytes)
  | .timeout, _, _ => false
  | _, _, _ => true

theorem headServed_check {maxBodyBytes : Nat} {events : List Event}
    (checked : Trace.check (step maxBodyBytes) (servesHead maxBodyBytes) .start events = true) :
    Trace.Throughout (step maxBodyBytes) (HeadServed maxBodyBytes) .start events := by
  intro history event rest middle split reached
  have test := Trace.throughout_of_check checked history event rest middle split reached
  unfold servesHead at test
  constructor
  · intro head headLen turn place parsed isHead
    rw [turn, place, parsed] at test
    exact of_decide_eq_true test
  · intro head total timeout place
    rw [timeout] at test
    cases test

def headHealthz : List Event :=
  [.turn, .turn, .bytes "HEAD /healthz HTTP/1.1\r\n\r\n".toUTF8.toList, .turn, .turn, .turn,
    .routed (route ⟨"HEAD", "/healthz", true, 0⟩ 0 0 0), .written]

theorem answers_bodiless_healthz :
    answers 64 headHealthz =
        [(some ⟨"HEAD", "/healthz", true, 0⟩, ⟨200, "OK", "ok\n", true, false⟩)] ∧
      HeadsBodiless (answers 64 headHealthz) := by
  have short : ∀ conn, Trace.run (step 64) .start headHealthz = some conn →
      HeadsBodiless (answers 64 headHealthz) := by
    intro conn ran
    exact answers_bodiless (routedByRoute_check (by decide +kernel))
      (headServed_check (by decide +kernel)) ran
  have some_ : (Trace.run (step 64) .start headHealthz).isSome = true := by decide +kernel
  obtain ⟨conn, ran⟩ := Option.isSome_iff_exists.mp some_
  exact ⟨by decide +kernel, short conn ran⟩

def headUpload : List Event :=
  [.turn, .turn, .bytes "HEAD / HTTP/1.1\r\nContent-Length: 5\r\n\r\n".toUTF8.toList, .turn]

/-- Above the limit, and late below it, the request is answered with a body. -/
theorem headUpload_bodied :
    (Trace.run (step 4) .start (headUpload ++ [.written])).isSome = true ∧
      answers 4 (headUpload ++ [.written]) = [(some ⟨"HEAD", "/", true, 5⟩, payloadTooLarge)] ∧
      ¬ HeadsBodiless (answers 4 (headUpload ++ [.written])) ∧
      (Trace.run (step 64) .start (headUpload ++ [.turn, .timeout, .written])).isSome = true ∧
      answers 64 (headUpload ++ [.turn, .timeout, .written]) =
        [(some ⟨"HEAD", "/", true, 5⟩, requestTimeout)] ∧
      ¬ HeadsBodiless (answers 64 (headUpload ++ [.turn, .timeout, .written])) := by
  have large : answers 4 (headUpload ++ [.written]) =
      [(some ⟨"HEAD", "/", true, 5⟩, payloadTooLarge)] := by decide +kernel
  have late : answers 64 (headUpload ++ [.turn, .timeout, .written]) =
      [(some ⟨"HEAD", "/", true, 5⟩, requestTimeout)] := by decide +kernel
  have oneLine : OneLine payloadTooLarge.reason ∧ OneLine requestTimeout.reason := by
    unfold OneLine
    decide +kernel
  refine ⟨by decide +kernel, large, ?_, by decide +kernel, late, ?_⟩
  · intro bodiless
    rw [large] at bodiless
    have ends := bodiless _ List.mem_cons_self _ rfl rfl
    exact bodied_written oneLine.1 rfl (by decide) ends
  · intro bodiless
    rw [late] at bodiless
    have ends := bodiless _ List.mem_cons_self _ rfl rfl
    exact bodied_written oneLine.2 rfl (by decide) ends

end ActorServices.Connection
