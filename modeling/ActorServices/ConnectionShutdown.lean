import ActorServices.ConnectionSteps

set_option autoImplicit false

namespace ActorServices.Connection

open Http

/-- No response is being made: the connection is between requests or reads one. -/
def Pc.quiet : Pc → Bool
  | .route _ _ _ | .reply _ _ | .refuse _ | .closed => false
  | _ => true

/-- The connection reads, or is about to. -/
def Pc.waits : Pc → Bool
  | .idle | .readIdle | .readHead | .body _ _ | .readBody _ _ => true
  | _ => false

theorem Pc.reads_waits {pc : Pc} (reads : pc.reads = true) : pc.waits = true := by
  cases pc <;> first | rfl | cases reads

/-- What a step does. -/
inductive Move (maxBodyBytes : Nat) (conn : State) (event : Event) (next : State) : Prop
  | signal (flag flagClosed : Bool) (other : event ≠ .turn)
      (raised : conn.flag = true → flag = true)
      (same : next = { conn with flag := flag, flagClosed := flagClosed })
  | parse (turn : event = .turn) (place : conn.pc = .parse)
      (same : next = conn.parse maxBodyBytes)
  | go (buf : List UInt8) (pc : Pc) (waits : conn.pc.waits = true) (still : pc.quiet = true)
      (same : next = { conn with buf := buf, pc := pc })
  | refuse (response : Response) (waits : conn.pc.waits = true)
      (closes : response.keepAlive = false) (same : next = { conn with pc := .refuse response })
  | close (waits : conn.pc.waits = true) (same : next = { conn with pc := .closed })
  | fail (other : event ≠ .turn) (pending : conn.pc.quiet = false)
      (same : next = { conn with pc := .closed })
  | route (head : RequestHead) (total : Nat) (turn : event = .turn)
      (place : conn.pc = .complete head total)
      (same : next = { conn with
        pc := .route head total (head.keepAlive && !conn.flag), routed := conn.routed ++ [head] })
  | reply (head : RequestHead) (total : Nat) (keepAlive : Bool) (reply : Reply)
      (other : event ≠ .turn) (place : conn.pc = .route head total keepAlive)
      (same : next = { conn with pc := .reply (reply.response head keepAlive) total })
  | wrote (response : Response) (total : Nat) (other : event ≠ .turn)
      (place : conn.pc = .reply response total)
      (same : next = { conn with
        buf := conn.buf.drop total, pc := if response.keepAlive then .parse else .closed,
        written := conn.written ++ [response] })
  | refused (response : Response) (other : event ≠ .turn) (place : conn.pc = .refuse response)
      (same : next = { conn with pc := .closed, written := conn.written ++ [response] })

section Moves

variable {maxBodyBytes : Nat} {conn next : State}

theorem Passage.move {event : Event} (passage : Passage maxBodyBytes conn event next) :
    Move maxBodyBytes conn event next := by
  cases passage with
  | shutdown => exact .signal true conn.flagClosed (by simp) (fun _ => rfl) rfl
  | closeFlag => exact .signal conn.flag true (by simp) id rfl
  | await place parsed => exact .parse rfl place (by simp only [State.parse, parsed])
  | malformed err place parsed final =>
      refine .parse rfl place ?_
      simp only [State.parse, parsed]
      cases err with
      | incomplete => exact absurd rfl final
      | _ => rfl
  | large head headLen place parsed excess =>
      exact .parse rfl place (by simp only [State.parse, parsed, if_pos excess])
  | accept head headLen place parsed fits =>
      exact .parse rfl place (by simp only [State.parse, parsed, if_neg (Nat.not_lt.mpr fits)])
  | rest place =>
      have waits : conn.pc.waits = true := by rw [place]; rfl
      by_cases raised : conn.flag = true
      · rw [if_pos raised]
        exact .close waits rfl
      · rw [if_neg raised]
        exact .go conn.buf .readIdle waits rfl rfl
  | short head total place less => exact .go conn.buf _ (by rw [place]; rfl) rfl rfl
  | whole head total place enough => exact .go conn.buf _ (by rw [place]; rfl) rfl rfl
  | route head total place => exact .route head total rfl place rfl
  | readHead chunk place nonempty fits =>
      have waits : conn.pc.waits = true := by
        cases place with
        | inl idle => rw [idle]; rfl
        | inr reading => rw [reading]; rfl
      exact .go _ .parse waits rfl rfl
  | readBody chunk head total place nonempty fits =>
      exact .go _ (.body head total) (by rw [place]; rfl) rfl rfl
  | truncated place => exact .refuse incompleteRequest (by rw [place]; rfl) rfl rfl
  | late place => exact .refuse requestTimeout (by rw [place]; rfl) rfl rfl
  | lateBody head total place => exact .refuse requestTimeout (by rw [place]; rfl) rfl rfl
  | close event read unwritten other => exact .close (Pc.reads_waits read) rfl
  | reply head total keepAlive reply place =>
      exact .reply head total keepAlive reply (by simp) place rfl
  | served response total place => exact .wrote response total (by simp) place rfl
  | refused response place => exact .refused response (by simp) place rfl
  | unserved response total place => exact .fail (by simp) (by rw [place]; rfl) rfl
  | unrefused response place => exact .fail (by simp) (by rw [place]; rfl) rfl

theorem step_move {event : Event} (taken : step maxBodyBytes conn event = some next) :
    Move maxBodyBytes conn event next :=
  (step_passage taken).move

end Moves

/-- A connection beside what an observer notes: whether the flag was set when the
current head was parsed, and the heads routed of which it was. -/
structure Watch where
  conn : State
  late : Bool
  lateRouted : List RequestHead

def Watch.start : Watch := ⟨.start, false, []⟩

/-- The connection takes the step; the observer notes each look at a head and each
routing. -/
def Watch.step (maxBodyBytes : Nat) (watch : Watch) (event : Event) : Option Watch :=
  (Connection.step maxBodyBytes watch.conn event).map fun conn =>
    match event, watch.conn.pc with
    | .turn, .parse => ⟨conn, watch.conn.flag, watch.lateRouted⟩
    | .turn, .complete head _ =>
        ⟨conn, watch.late, watch.lateRouted ++ if watch.late then [head] else []⟩
    | _, _ => { watch with conn }

/-- All the responses keep the connection open. -/
def KeepOpen (written : List Response) : Prop := ∀ response ∈ written, response.keepAlive = true

/-- What holds of the responses and of the late requests, by where the connection is. -/
def Closing (watch : Watch) : Prop :=
  match watch.conn.pc with
  | .route head _ keepAlive =>
      KeepOpen watch.conn.written ∧ watch.lateRouted = (if watch.late then [head] else []) ∧
        (watch.late = true → keepAlive = false)
  | .reply response _ =>
      KeepOpen watch.conn.written ∧
        ((watch.late = false ∧ watch.lateRouted = []) ∨
          ∃ head reply, watch.lateRouted = [head] ∧ response = Reply.response reply head false)
  | .refuse response =>
      KeepOpen watch.conn.written ∧ watch.lateRouted = [] ∧ response.keepAlive = false
  | .closed => KeepOpen watch.conn.written.dropLast ∧ watch.lateRouted.length ≤ 1
  | _ => KeepOpen watch.conn.written ∧ watch.lateRouted = []

/-- A head noted as late was, and the flag stays set. -/
def Flagged (watch : Watch) : Prop := watch.late = true → watch.conn.flag = true

section Watch

variable {maxBodyBytes : Nat} {watch after : Watch} {event : Event}

/-- The observer changes nothing. -/
theorem watch_run (maxBodyBytes : Nat) (events : List Event) (watch : Watch) :
    (Trace.run (Watch.step maxBodyBytes) watch events).map Watch.conn =
      Trace.run (step maxBodyBytes) watch.conn events := by
  induction events generalizing watch with
  | nil => rfl
  | cons event events ih =>
      cases taken : step maxBodyBytes watch.conn event with
      | none =>
          simp only [Trace.run, Watch.step, taken, Option.map_none, Option.bind_none]
      | some conn =>
          simp only [Trace.run, Watch.step, taken, Option.map_some, Option.bind_some]
          rw [ih]
          congr 1
          split <;> rfl

theorem watch_step (taken : watch.step maxBodyBytes event = some after) :
    step maxBodyBytes watch.conn event = some after.conn := by
  obtain ⟨conn, moved, same⟩ := Option.map_eq_some_iff.mp taken
  rw [moved, ← same]
  split <;> rfl

/-- Without a look at a head or a routing there is nothing to note. -/
theorem watch_unnoted (taken : watch.step maxBodyBytes event = some after)
    (unnoted : event ≠ .turn ∨ watch.conn.pc ≠ .parse ∧
      ∀ head total, watch.conn.pc ≠ .complete head total) :
    after = { watch with conn := after.conn } := by
  obtain ⟨conn, moved, same⟩ := Option.map_eq_some_iff.mp taken
  rw [← same]
  split
  · rename_i place
    cases unnoted with
    | inl other => exact absurd rfl other
    | inr elsewhere => exact absurd place elsewhere.1
  · rename_i head total place
    cases unnoted with
    | inl other => exact absurd rfl other
    | inr elsewhere => exact absurd place (elsewhere.2 head total)
  · rfl

theorem waits_unnoted {pc : Pc} (waits : pc.waits = true) :
    pc ≠ .parse ∧ ∀ head total, pc ≠ .complete head total := by
  constructor
  · intro same
    rw [same] at waits
    cases waits
  · intro head total same
    rw [same] at waits
    cases waits

theorem watch_parse (taken : watch.step maxBodyBytes .turn = some after)
    (place : watch.conn.pc = .parse) :
    after = ⟨after.conn, watch.conn.flag, watch.lateRouted⟩ := by
  obtain ⟨conn, moved, same⟩ := Option.map_eq_some_iff.mp taken
  rw [← same, place]

theorem watch_route (taken : watch.step maxBodyBytes .turn = some after) {head : RequestHead}
    {total : Nat} (place : watch.conn.pc = .complete head total) :
    after = ⟨after.conn, watch.late, watch.lateRouted ++ if watch.late then [head] else []⟩ := by
  obtain ⟨conn, moved, same⟩ := Option.map_eq_some_iff.mp taken
  rw [← same, place]

theorem closing_quiet (quiet : watch.conn.pc.quiet = true) :
    Closing watch ↔ KeepOpen watch.conn.written ∧ watch.lateRouted = [] := by
  unfold Closing
  cases place : watch.conn.pc <;> rw [place] at quiet <;> first | rfl | cases quiet

theorem Pc.waits_quiet {pc : Pc} (waits : pc.waits = true) : pc.quiet = true := by
  cases pc <;> first | rfl | cases waits

/-- A look at a head leaves all but the place. -/
theorem parse_place (maxBodyBytes : Nat) (conn : State) :
    ∃ pc, conn.parse maxBodyBytes = { conn with pc := pc } ∧
      (pc.quiet = true ∨ ∃ response, pc = .refuse response ∧ response.keepAlive = false) := by
  unfold State.parse
  cases parseHead conn.buf with
  | ok parsed =>
      obtain ⟨head, headLen⟩ := parsed
      dsimp only
      by_cases large : maxBodyBytes < head.contentLength
      · rw [if_pos large]
        exact ⟨_, rfl, .inr ⟨_, rfl, rfl⟩⟩
      · rw [if_neg large]
        exact ⟨_, rfl, .inl rfl⟩
  | error err =>
      cases err with
      | incomplete =>
          refine ⟨_, rfl, .inl ?_⟩
          by_cases empty : conn.buf.isEmpty = true
          · rw [if_pos empty]
            rfl
          · rw [if_neg empty]
            rfl
      | malformed => exact ⟨_, rfl, .inr ⟨_, rfl, rfl⟩⟩
      | headTooLarge => exact ⟨_, rfl, .inr ⟨_, rfl, rfl⟩⟩
      | unsupported => exact ⟨_, rfl, .inr ⟨_, rfl, rfl⟩⟩

theorem KeepOpen.append {written : List Response} {response : Response}
    (keep : KeepOpen written) (open_ : response.keepAlive = true) :
    KeepOpen (written ++ [response]) :=
  List.forall_mem_append.mpr ⟨keep, List.forall_mem_singleton.mpr open_⟩

theorem KeepOpen.dropLast {written : List Response} (keep : KeepOpen written) :
    KeepOpen written.dropLast :=
  fun response among => keep response (List.dropLast_subset written among)

/-- At most one late request, and no response but the last closes, wherever the
connection is. -/
theorem Closing.always (closing : Closing watch) :
    KeepOpen watch.conn.written.dropLast ∧ watch.lateRouted.length ≤ 1 := by
  unfold Closing at closing
  cases place : watch.conn.pc with
  | route head total keepAlive =>
      rw [place] at closing
      obtain ⟨keep, noted, _⟩ := closing
      refine ⟨keep.dropLast, ?_⟩
      rw [noted]
      split <;> simp
  | reply response total =>
      rw [place] at closing
      obtain ⟨keep, noted⟩ := closing
      refine ⟨keep.dropLast, ?_⟩
      cases noted with
      | inl early => simp [early.2]
      | inr late =>
          obtain ⟨head, reply, noted, _⟩ := late
          simp [noted]
  | closed =>
      rw [place] at closing
      exact closing
  | _ =>
      rw [place] at closing
      refine ⟨closing.1.dropLast, ?_⟩
      simp [closing.2]

theorem closing_step (closing : Closing watch) (flagged : Flagged watch)
    (taken : watch.step maxBodyBytes event = some after) : Closing after := by
  cases step_move (watch_step taken) with
  | signal flag flagClosed other raised same =>
      rw [watch_unnoted taken (.inl other), same]
      exact closing
  | parse turn place same =>
      subst turn
      rw [watch_parse taken place]
      have quiet : watch.conn.pc.quiet = true := by rw [place]; rfl
      obtain ⟨keep, none⟩ := (closing_quiet quiet).mp closing
      obtain ⟨pc, moved, kind⟩ := parse_place maxBodyBytes watch.conn
      rw [same, moved]
      cases kind with
      | inl quiet => exact (closing_quiet quiet).mpr ⟨keep, none⟩
      | inr refuse =>
          obtain ⟨response, rfl, closes⟩ := refuse
          exact ⟨keep, none, closes⟩
  | go buf pc waits still same =>
      rw [watch_unnoted taken (.inr (waits_unnoted waits)), same]
      exact (closing_quiet still).mpr ((closing_quiet (Pc.waits_quiet waits)).mp closing)
  | refuse response waits closes same =>
      obtain ⟨keep, none⟩ := (closing_quiet (Pc.waits_quiet waits)).mp closing
      rw [watch_unnoted taken (.inr (waits_unnoted waits)), same]
      exact ⟨keep, none, closes⟩
  | close waits same =>
      rw [watch_unnoted taken (.inr (waits_unnoted waits)), same]
      exact closing.always
  | fail other pending same =>
      rw [watch_unnoted taken (.inl other), same]
      exact closing.always
  | route head total turn place same =>
      subst turn
      have quiet : watch.conn.pc.quiet = true := by rw [place]; rfl
      obtain ⟨keep, none⟩ := (closing_quiet quiet).mp closing
      rw [watch_route taken place, same, none]
      refine ⟨keep, rfl, ?_⟩
      intro late
      rw [flagged late]
      exact Bool.and_false _
  | reply head total keepAlive reply other place same =>
      simp only [Closing, place] at closing
      obtain ⟨keep, noted, closes⟩ := closing
      rw [watch_unnoted taken (.inl other), same]
      refine ⟨keep, ?_⟩
      cases late : watch.late with
      | false =>
          rw [late] at noted
          exact .inl ⟨rfl, noted⟩
      | true =>
          rw [late] at noted
          exact .inr ⟨head, reply, noted, by rw [closes late]⟩
  | wrote response total other place same =>
      have one := closing.always.2
      simp only [Closing, place] at closing
      obtain ⟨keep, noted⟩ := closing
      rw [watch_unnoted taken (.inl other), same]
      cases open_ : response.keepAlive with
      | true =>
          have none : watch.lateRouted = [] := by
            cases noted with
            | inl early => exact early.2
            | inr late =>
                obtain ⟨head, reply, _, closes⟩ := late
                rw [closes] at open_
                cases open_
          exact ⟨keep.append open_, none⟩
      | false =>
          refine ⟨?_, one⟩
          rw [List.dropLast_concat]
          exact keep
  | refused response other place same =>
      have one := closing.always.2
      simp only [Closing, place] at closing
      rw [watch_unnoted taken (.inl other), same]
      refine ⟨?_, one⟩
      rw [List.dropLast_concat]
      exact closing.1

/-- The flag stays set. -/
theorem step_flag {conn next : State} (taken : step maxBodyBytes conn event = some next)
    (set_ : conn.flag = true) : next.flag = true := by
  cases step_move taken with
  | signal flag flagClosed other raised same =>
      rw [same]
      exact raised set_
  | parse turn place same =>
      obtain ⟨pc, moved, _⟩ := parse_place maxBodyBytes conn
      rw [same, moved]
      exact set_
  | _ =>
      rename_i same
      rw [same]
      exact set_

/-- The observer's note is the old one or the flag at a look at a head. -/
theorem watch_late (taken : watch.step maxBodyBytes event = some after) :
    after.late = watch.late ∨ after.late = watch.conn.flag := by
  obtain ⟨conn, moved, same⟩ := Option.map_eq_some_iff.mp taken
  rw [← same]
  split
  · exact .inr rfl
  · exact .inl rfl
  · exact .inl rfl

theorem flagged_step (flagged : Flagged watch)
    (taken : watch.step maxBodyBytes event = some after) : Flagged after := by
  intro late
  apply step_flag (watch_step taken)
  cases watch_late taken with
  | inl kept => exact flagged (kept.symm.trans late)
  | inr noted => exact noted.symm.trans late

/-- The connection is about to write the response to a late request, or has tried. -/
def Finishing (head : RequestHead) (written : List Response) (conn : State) : Prop :=
  match conn.pc with
  | .route routed _ keepAlive => conn.written = written ∧ routed = head ∧ keepAlive = false
  | .reply response _ =>
      conn.written = written ∧ ∃ reply, response = Reply.response reply head false
  | .closed =>
      conn.written = written ∨
        ∃ reply, conn.written = written ++ [Reply.response reply head false]
  | _ => False

theorem finishing_written {head : RequestHead} {written : List Response} {conn : State}
    (finishing : Finishing head written conn) :
    conn.written = written ∨
      ∃ reply, conn.written = written ++ [Reply.response reply head false] := by
  unfold Finishing at finishing
  cases place : conn.pc with
  | route routed total keepAlive =>
      rw [place] at finishing
      exact .inl finishing.1
  | reply response total =>
      rw [place] at finishing
      exact .inl finishing.1
  | closed =>
      rw [place] at finishing
      exact finishing
  | _ =>
      rw [place] at finishing
      exact absurd finishing id

theorem not_finishing {head : RequestHead} {written : List Response} {conn : State}
    (quiet : conn.pc.quiet = true) : ¬ Finishing head written conn := by
  intro finishing
  unfold Finishing at finishing
  cases place : conn.pc <;> rw [place] at quiet finishing <;> first
    | exact finishing
    | exact Bool.false_ne_true quiet

theorem finishing_step {head : RequestHead} {written : List Response} {conn next : State}
    (finishing : Finishing head written conn) (taken : step maxBodyBytes conn event = some next) :
    Finishing head written next := by
  cases step_move taken with
  | signal flag flagClosed other raised same =>
      rw [same]
      exact finishing
  | parse turn place same =>
      simp only [Finishing, place] at finishing
  | route routed total turn place same =>
      simp only [Finishing, place] at finishing
  | refused response other place same =>
      simp only [Finishing, place] at finishing
  | go buf pc waits still same => exact absurd finishing (not_finishing (Pc.waits_quiet waits))
  | refuse response waits closes same =>
      exact absurd finishing (not_finishing (Pc.waits_quiet waits))
  | close waits same => exact absurd finishing (not_finishing (Pc.waits_quiet waits))
  | fail other pending same =>
      have ended := finishing_written finishing
      rw [same]
      exact ended
  | reply routed total keepAlive reply other place same =>
      simp only [Finishing, place] at finishing
      obtain ⟨still, rfl, rfl⟩ := finishing
      rw [same]
      exact ⟨still, reply, rfl⟩
  | wrote response total other place same =>
      simp only [Finishing, place] at finishing
      obtain ⟨still, reply, rfl⟩ := finishing
      rw [same]
      exact .inr ⟨reply, congrArg (· ++ _) still⟩

/-- Once a late request is routed, only its response is still to come. -/
theorem Closing.finishing (closing : Closing watch) {head : RequestHead}
    (late : head ∈ watch.lateRouted) : Finishing head watch.conn.written watch.conn := by
  by_cases quiet : watch.conn.pc.quiet = true
  · have none := ((closing_quiet quiet).mp closing).2
    rw [none] at late
    exact absurd late List.not_mem_nil
  · unfold Closing at closing
    unfold Finishing
    cases place : watch.conn.pc with
    | route routed total keepAlive =>
        rw [place] at closing
        obtain ⟨_, noted, closes⟩ := closing
        rw [noted] at late
        by_cases set_ : watch.late = true
        · rw [if_pos set_, List.mem_singleton] at late
          exact ⟨rfl, late.symm, closes set_⟩
        · rw [if_neg set_] at late
          exact absurd late List.not_mem_nil
    | reply response total =>
        rw [place] at closing
        cases closing.2 with
        | inl early =>
            rw [early.2] at late
            exact absurd late List.not_mem_nil
        | inr noted =>
            obtain ⟨routed, reply, only, same⟩ := noted
            rw [only, List.mem_singleton] at late
            subst late
            exact ⟨rfl, reply, same⟩
    | refuse response =>
        rw [place] at closing
        rw [closing.2.1] at late
        exact absurd late List.not_mem_nil
    | closed => exact .inl rfl
    | _ =>
        rw [place] at quiet
        exact absurd rfl quiet

end Watch

section Runs

variable {maxBodyBytes : Nat} {events : List Event} {watch : Watch}

theorem run_closing (ran : Trace.run (Watch.step maxBodyBytes) Watch.start events = some watch) :
    Closing watch ∧ Flagged watch := by
  apply Trace.run_preserves (fun watch => Closing watch ∧ Flagged watch) _ _ ran
  · intro middle event next held taken
    exact ⟨closing_step held.1 held.2 taken, flagged_step held.2 taken⟩
  · exact ⟨⟨List.forall_mem_nil _, rfl⟩, nofun⟩

/-- Of the requests whose heads were parsed with the flag set at most one is routed; after
that nothing is written but its response, which closes. A response that closes is the last
one written, and every error response is one. -/
theorem shutdown_last {conn : State}
    (ran : Trace.run (step maxBodyBytes) State.start events = some conn) :
    (∃ watch, Trace.run (Watch.step maxBodyBytes) Watch.start events = some watch ∧
      watch.conn = conn ∧ watch.lateRouted.length ≤ 1 ∧
      ∀ head ∈ watch.lateRouted, ∀ later after,
        Trace.run (step maxBodyBytes) conn later = some after →
          after.written = conn.written ∨
            ∃ reply, after.written = conn.written ++ [Reply.response reply head false]) ∧
      (∀ front response back, conn.written = front ++ response :: back →
        response.keepAlive = false → back = []) ∧
      ∀ response, conn.pc = .refuse response → response.keepAlive = false := by
  have observed := watch_run maxBodyBytes events Watch.start
  obtain ⟨watch, noted, same⟩ := Option.map_eq_some_iff.mp (observed.trans ran)
  obtain ⟨closing, _⟩ := run_closing noted
  subst same
  refine ⟨⟨watch, noted, rfl, closing.always.2, ?_⟩, ?_, ?_⟩
  · intro head late later after continued
    apply finishing_written
    apply Trace.run_preserves (Finishing head watch.conn.written) _ (closing.finishing late)
      continued
    intro middle event next finishing taken
    exact finishing_step finishing taken
  · intro front response back split closes
    by_contra more
    have among : response ∈ watch.conn.written.dropLast := by
      rw [split, List.dropLast_append_of_ne_nil (List.cons_ne_nil _ _),
        List.dropLast_cons_of_ne_nil more]
      exact List.mem_append_right _ List.mem_cons_self
    have open_ := closing.always.1 response among
    rw [closes] at open_
    cases open_
  · intro response place
    simp only [Closing, place] at closing
    exact closing.2.2

/-- Two requests in one read, with the flag set before the second is parsed. -/
def shutdownRun : List Event :=
  [.turn, .turn, .bytes "GET / HTTP/1.1\r\n\r\nGET /healthz HTTP/1.1\r\n\r\n".toUTF8.toList,
    .turn, .turn, .turn, .routed ⟨200, "OK", "hello\n"⟩, .written, .shutdown,
    .turn, .turn, .turn, .routed ⟨200, "OK", "ok\n"⟩, .written]

def shutdownEnd : State where
  buf := []
  pc := .closed
  flag := true
  flagClosed := false
  routed := [⟨"GET", "/", true, 0⟩, ⟨"GET", "/healthz", true, 0⟩]
  written := [⟨200, "OK", "hello\n", true, true⟩, ⟨200, "OK", "ok\n", false, true⟩]

theorem shutdownRun_ends : ∃ watch,
    Trace.run (Watch.step 65536) Watch.start shutdownRun = some watch ∧
      watch.conn = shutdownEnd ∧ watch.lateRouted = [⟨"GET", "/healthz", true, 0⟩] ∧
      (∀ later after, Trace.run (step 65536) shutdownEnd later = some after →
        after.written = shutdownEnd.written ∨ ∃ reply, after.written = shutdownEnd.written ++
          [Reply.response reply ⟨"GET", "/healthz", true, 0⟩ false]) ∧
      (∀ front response back, shutdownEnd.written = front ++ response :: back →
        response.keepAlive = false → back = []) ∧
      ∀ response, shutdownEnd.pc = .refuse response → response.keepAlive = false := by
  have ended : (Trace.run (Watch.step 65536) Watch.start shutdownRun).map
      (fun watch => (watch.conn, watch.lateRouted)) =
        some (shutdownEnd, [⟨"GET", "/healthz", true, 0⟩]) := by
    decide +kernel
  obtain ⟨watch, noted, same⟩ := Option.map_eq_some_iff.mp ended
  obtain ⟨conn, late⟩ := Prod.mk.inj same
  have ran : Trace.run (step 65536) State.start shutdownRun = some shutdownEnd := by
    rw [← conn]
    exact (watch_run 65536 shutdownRun Watch.start).symm.trans (congrArg _ noted)
  obtain ⟨⟨watch', noted', -, -, finishes⟩, last, refuses⟩ := shutdown_last ran
  cases noted.symm.trans noted'
  refine ⟨watch, noted, conn, late, fun later after continued => ?_, last, refuses⟩
  exact finishes _ (by rw [late]; exact List.mem_singleton_self _) later after continued

end Runs

end ActorServices.Connection
