import ActorServices.ConnectionReference
import ActorServices.HttpStreaming

set_option autoImplicit false

namespace ActorServices.Connection

open Http

/-- The comma-separated list of codings contains `chunked`. -/
def listsChunked (codings : List Char) : Bool :=
  (codings.splitOn ',').any fun coding => eqIgnoreAsciiCase (trim coding) "chunked".toList

def headValues (name : String) (buf : List UInt8) : List (List Char) :=
  match headLines buf with
  | some lines => values name lines.tail
  | none => []

/-- The head announces a chunked body. -/
def DeclaresChunked (buf : List UInt8) : Prop :=
  ∃ codings ∈ headValues "transfer-encoding" buf, listsChunked codings = true

/-- The head is in order, and none of its codings is a single `chunked`. -/
def InOrderHead (buf : List UInt8) : Prop :=
  ∃ lines, headLines buf = some lines ∧ Acceptable lines ∧ NotChunked lines.tail

/-- `parse_head` accepts exactly the heads that are in order. -/
theorem parseHead_accepts (buf : List UInt8) :
    (∃ parsed, parseHead buf = .ok parsed) ↔ InOrderHead buf := by
  cases found : headLines buf with
  | none =>
      obtain ⟨err, refused⟩ := parseHead_lineless found
      constructor
      · intro accepted
        obtain ⟨parsed, parse⟩ := accepted
        cases refused.symm.trans parse
      · intro inOrder
        obtain ⟨lines, present, _⟩ := inOrder
        cases found.symm.trans present
  | some lines =>
      obtain ⟨headLen, parse⟩ := parseHead_lines found
      cases parseLines_spec lines with
      | accepted head parsed acceptable plain length =>
          rw [parsed] at parse
          exact ⟨fun _ => ⟨lines, found, acceptable, plain⟩, fun _ => ⟨_, parse⟩⟩
      | refused err parsed decided bad =>
          rw [parsed] at parse
          constructor
          · intro accepted
            obtain ⟨_, other⟩ := accepted
            cases parse.symm.trans other
          · intro inOrder
            obtain ⟨_, present, fine⟩ := inOrder
            cases found.symm.trans present
            exact absurd fine bad

theorem parseHead_length {buf : List UInt8} {head : RequestHead} {headLen : Nat}
    (parse : parseHead buf = .ok (head, headLen)) :
    head.contentLength = ((headValues "content-length" buf).filterMap parseUsize).getLast?.getD 0 ∧
      ∀ value ∈ headValues "content-length" buf, (parseUsize value).isSome := by
  obtain ⟨lines, found, acceptable, plain⟩ := (parseHead_accepts buf).mp ⟨_, parse⟩
  have all : headValues "content-length" buf = values "content-length" lines.tail := by
    simp only [headValues, found]
  obtain ⟨_, same⟩ := parseHead_lines found
  rw [all]
  cases parseLines_spec lines with
  | accepted other parsed _ _ length =>
      rw [parsed, parse] at same
      cases same
      exact ⟨length, acceptable.2.lengths⟩
  | refused err parsed decided bad => exact absurd ⟨acceptable, plain⟩ bad

theorem parse_refuses {state : State} (decided : parseHead state.buf ≠ .error .incomplete)
    (refused : ∀ parsed, parseHead state.buf ≠ .ok parsed) (maxBodyBytes : Nat) :
    ∃ response, (state.parse maxBodyBytes).pc = .refuse response := by
  cases parse : parseHead state.buf with
  | ok parsed => exact absurd parse (refused parsed)
  | error err =>
      simp only [State.parse, parse]
      cases err with
      | incomplete => exact absurd parse decided
      | headTooLarge => exact ⟨_, rfl⟩
      | unsupported => exact ⟨_, rfl⟩
      | malformed => exact ⟨_, rfl⟩

section Chunked

/-- In a head that is otherwise in order, `chunked` within a list of codings comes with a
header whose value is `chunked` alone. -/
def ChunkedAlone (buf : List UInt8) : Prop :=
  ∀ lines, headLines buf = some lines → Acceptable lines →
    (∃ codings ∈ values "transfer-encoding" lines.tail, listsChunked codings = true) →
    ∃ codings ∈ values "transfer-encoding" lines.tail,
      eqIgnoreAsciiCase codings "chunked".toList = true

variable {buf : List UInt8}

theorem chunkedAlone_refused (alone : ChunkedAlone buf) (declared : DeclaresChunked buf) :
    ∀ parsed, parseHead buf ≠ .ok parsed := by
  intro parsed parse
  obtain ⟨lines, found, acceptable, plain⟩ := (parseHead_accepts buf).mp ⟨parsed, parse⟩
  obtain ⟨codings, among, lists⟩ := declared
  simp only [headValues, found] at among
  obtain ⟨exact_, inside, chunked⟩ := alone lines found acceptable ⟨codings, among, lists⟩
  have other := plain exact_ inside
  rw [chunked] at other
  cases other

theorem chunkedAlone_of_refused
    (refused : DeclaresChunked buf → ∀ parsed, parseHead buf ≠ .ok parsed) : ChunkedAlone buf := by
  intro lines found acceptable listed
  by_contra none
  have plain : NotChunked lines.tail := by
    intro codings among
    apply Bool.eq_false_iff.mpr
    intro chunked
    exact none ⟨codings, among, chunked⟩
  have declared : DeclaresChunked buf := by
    obtain ⟨codings, among, lists⟩ := listed
    refine ⟨codings, ?_, lists⟩
    simp only [headValues, found]
    exact among
  obtain ⟨parsed, parse⟩ := (parseHead_accepts buf).mpr ⟨lines, found, acceptable, plain⟩
  exact refused declared parsed parse

/-- What a head that announces a chunked body is to meet: no acceptance, and from the
connection an answer and the end. -/
def ChunkedRefused (buf : List UInt8) : Prop :=
  DeclaresChunked buf → (∀ parsed, parseHead buf ≠ .ok parsed) ∧
    ∀ (maxBodyBytes : Nat) (state : State), state.buf = buf →
      ∃ response, (state.parse maxBodyBytes).pc = .refuse response

/-- A head that announces a chunked body is refused, exactly when it does not hide the
coding among others. -/
theorem chunkedRefused_iff (buf : List UInt8) : ChunkedRefused buf ↔ ChunkedAlone buf := by
  constructor
  · intro refused
    exact chunkedAlone_of_refused fun declared => (refused declared).1
  · intro alone declared
    have refused := chunkedAlone_refused alone declared
    refine ⟨refused, ?_⟩
    intro maxBodyBytes state same
    obtain ⟨codings, among, _⟩ := declared
    cases found : headLines buf with
    | none => simp only [headValues, found, List.not_mem_nil] at among
    | some lines =>
        have decided := parseHead_decided found
        subst same
        exact parse_refuses decided refused maxBodyBytes

def gzipChunked : List UInt8 :=
  "POST / HTTP/1.1\r\nTransfer-Encoding: gzip, chunked\r\n\r\n".toUTF8.toList

/-- The head is accepted, and the last chunk is taken for a request. What `route` answers to a
`POST` is that the method is not allowed. -/
theorem gzipChunked_slips :
    ¬ ChunkedRefused gzipChunked ∧
      (World.run 65536 (fun _ _ => ⟨405, "Method Not Allowed", "method not allowed\n"⟩) 20
        (World.start [gzipChunked ++ "0\r\n\r\n".toUTF8.toList])).conn.written =
        [⟨405, "Method Not Allowed", "method not allowed\n", true, true⟩, badRequest] := by
  constructor
  · intro refused
    have declared : DeclaresChunked gzipChunked :=
      ⟨"gzip, chunked".toList, by decide +kernel, by decide +kernel⟩
    have accepted : parseHead gzipChunked = .ok (⟨"POST", "/", true, 0⟩, 53) := by decide +kernel
    exact (refused declared).1 _ accepted
  · decide +kernel

end Chunked

section ContentLength

def decimal (digits : List Char) : Option Nat :=
  if digits ≠ [] ∧ digits.all Char.isDigit then
    some (digits.foldl (fun number c => 10 * number + (c.toNat - 48)) 0)
  else none

theorem pushDigit_some {start next : Nat} {c : Char} (pushed : pushDigit start c = some next) :
    c.isDigit = true ∧ 10 * start + (c.toNat - 48) = next := by
  by_cases digit : c.isDigit = true
  · simp only [pushDigit, digit, ↓reduceIte, Option.ite_none_right_eq_some, Option.some.injEq]
      at pushed
    exact ⟨digit, pushed.2⟩
  · simp only [pushDigit, digit, Bool.false_eq_true, ↓reduceIte, reduceCtorEq] at pushed

theorem foldlM_pushDigit {digits : List Char} {start number : Nat}
    (read : digits.foldlM pushDigit start = some number) :
    digits.all Char.isDigit = true ∧
      digits.foldl (fun number c => 10 * number + (c.toNat - 48)) start = number := by
  induction digits generalizing start with
  | nil =>
      cases read
      exact ⟨rfl, rfl⟩
  | cons c digits ih =>
      rw [List.foldlM_cons] at read
      cases pushed : pushDigit start c with
      | none =>
          rw [pushed] at read
          cases read
      | some next =>
          rw [pushed] at read
          obtain ⟨digit, value⟩ := pushDigit_some pushed
          subst value
          have rest := ih read
          refine ⟨?_, rest.2⟩
          rw [List.all_cons, digit, rest.1]
          rfl

def Signed (value : List Char) : Prop := value.head? = some '+'

theorem parseUsize_unsigned {value : List Char} {number : Nat}
    (read : parseUsize value = some number) (unsigned : ¬ Signed value) :
    decimal value = some number := by
  cases value with
  | nil => cases read
  | cons c digits =>
      have other : c ≠ '+' := by
        intro plus
        exact unsigned (congrArg some plus)
      have fold : (c :: digits).foldlM pushDigit 0 = some number := by
        unfold parseUsize at read
        split at read
        · cases read
        · cases read
        · rename_i same
          cases same
          exact absurd rfl other
        · exact read
      obtain ⟨all, value⟩ := foldlM_pushDigit fold
      rw [decimal, if_pos ⟨List.cons_ne_nil c digits, all⟩, value]

theorem decimal_unsigned {value : List Char} {number : Nat} (read : decimal value = some number) :
    ¬ Signed value := by
  intro signed
  cases value with
  | nil => cases signed
  | cons c digits =>
      cases signed
      rw [decimal, if_neg] at read
      · cases read
      · intro digit
        rw [List.all_cons] at digit
        exact absurd (Bool.and_eq_true_iff.mp digit.2).1 (by decide)

/-- Every declared length of an accepted head is a number in digits, and the length of
the body; without one there is no body. -/
def Unambiguous (buf : List UInt8) : Prop :=
  ∀ head headLen, parseHead buf = .ok (head, headLen) →
    (∀ value ∈ headValues "content-length" buf, decimal value = some head.contentLength) ∧
      (headValues "content-length" buf = [] → head.contentLength = 0)

/-- In a head that is otherwise in order, no length has a sign and no two differ. -/
def OneLength (buf : List UInt8) : Prop :=
  InOrderHead buf →
    (∀ value ∈ headValues "content-length" buf, ¬ Signed value) ∧
      ∀ value ∈ headValues "content-length" buf, ∀ other ∈ headValues "content-length" buf,
        parseUsize value = parseUsize other

/-- The declared length is unambiguous in what is accepted, exactly when no otherwise
acceptable head has a signed length or two that differ. -/
theorem unambiguous_iff (buf : List UInt8) : Unambiguous buf ↔ OneLength buf := by
  constructor
  · intro clear inOrder
    obtain ⟨⟨head, headLen⟩, parse⟩ := (parseHead_accepts buf).mpr inOrder
    have lengths := (clear head headLen parse).1
    have numbers := (parseHead_length parse).2
    constructor
    · intro value among
      exact decimal_unsigned (lengths value among)
    · have same : ∀ value ∈ headValues "content-length" buf,
          parseUsize value = some head.contentLength := by
        intro value among
        obtain ⟨number, read⟩ := Option.isSome_iff_exists.mp (numbers value among)
        have digits := parseUsize_unsigned read (decimal_unsigned (lengths value among))
        rw [lengths value among] at digits
        cases digits
        exact read
      intro value among other inside
      rw [same value among, same other inside]
  · intro one head headLen parse
    obtain ⟨unsigned, same⟩ := one ((parseHead_accepts buf).mp ⟨_, parse⟩)
    obtain ⟨last, numbers⟩ := parseHead_length parse
    constructor
    · intro value among
      obtain ⟨number, read⟩ := Option.isSome_iff_exists.mp (numbers value among)
      have all : ∀ length ∈ (headValues "content-length" buf).filterMap parseUsize,
          length = number := by
        intro length inside
        obtain ⟨other, present, found⟩ := List.mem_filterMap.mp inside
        have equal := same other present value among
        rw [found, read] at equal
        exact Option.some.inj equal
      have nonempty : (headValues "content-length" buf).filterMap parseUsize ≠ [] :=
        List.ne_nil_of_mem (List.mem_filterMap.mpr ⟨value, among, read⟩)
      have counted : head.contentLength = number := by
        rw [last, List.getLast?_eq_some_getLast nonempty]
        exact all _ (List.getLast_mem nonempty)
      rw [counted]
      exact parseUsize_unsigned read (unsigned value among)
    · intro none
      rw [last, none]
      rfl

def twoLengths : List UInt8 :=
  "POST / HTTP/1.1\r\nContent-Length: 5\r\nContent-Length: +7\r\n\r\n".toUTF8.toList

theorem twoLengths_ambiguous : ¬ Unambiguous twoLengths := by
  intro clear
  have accepted : parseHead twoLengths = .ok (⟨"POST", "/", true, 7⟩, 58) := by decide +kernel
  have lengths := (clear _ _ accepted).1 "5".toList (by decide +kernel)
  exact absurd lengths (by decide +kernel)

end ContentLength

end ActorServices.Connection
