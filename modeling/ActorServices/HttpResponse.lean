import ActorServices.HttpLines
import ActorServices.HttpSmuggling

set_option autoImplicit false

namespace ActorServices.Connection

open Http

/-- What a reader takes from one response; a body only where one is written. -/
structure Reading where
  status : Nat
  reason : String
  connection : String
  length : Nat
  body : Option String
  deriving DecidableEq, Repr

/-- `HTTP/1.1`, a status in digits and the reason behind it. -/
def readStatusLine (line : List Char) : Option (Nat × List Char) :=
  if "HTTP/1.1 ".toList.isPrefixOf line then
    let rest := line.drop 9
    (decimal (rest.takeWhile (· ≠ ' '))).map fun status =>
      (status, (rest.dropWhile (· ≠ ' ')).tail)
  else none

/-- The response at the front of the stream, and what is left of the stream. -/
def readResponse (writeBody : Bool) (stream : List UInt8) : Option (Reading × List UInt8) := do
  let index ← findSubsequence stream headEnd
  let text ← Utf8.decode (stream.take index)
  let lines := splitCrlf text
  let (status, reason) ← readStatusLine (lines.headD [])
  let length ← (values "content-length" lines.tail).head? >>= decimal
  let connection ← (values "connection" lines.tail).head?
  let rest := stream.drop (index + 4)
  if writeBody then
    if rest.length < length then none
    else
      let body ← Utf8.decode (rest.take length)
      return (⟨status, .ofList reason, .ofList connection, length, some (.ofList body)⟩,
        rest.drop length)
  else return (⟨status, .ofList reason, .ofList connection, length, none⟩, rest)

/-- One response for each flag. -/
def readResponses : List Bool → List UInt8 → Option (List Reading × List UInt8)
  | [], stream => some ([], stream)
  | writeBody :: flags, stream => do
      let (reading, rest) ← readResponse writeBody stream
      let (readings, left) ← readResponses flags rest
      return (reading :: readings, left)

def connectionValue (keepAlive : Bool) : String := if keepAlive then "keep-alive" else "close"

/-- What is to be read from a response. -/
def Response.reading (response : Response) : Reading where
  status := response.status.toNat
  reason := response.reason
  connection := connectionValue response.keepAlive
  length := response.body.utf8ByteSize
  body := if response.writeBody then some response.body else none

/-- A reason without a line break. -/
def OneLine (reason : String) : Prop := '\r' ∉ reason.toList ∧ '\n' ∉ reason.toList

section Decimal

theorem decimal_toDigits (number : Nat) : decimal (Nat.toDigits 10 number) = some number := by
  have digits : (Nat.toDigits 10 number).all Char.isDigit = true := by
    rw [List.all_eq_true]
    intro c among
    exact Nat.isDigit_of_mem_toDigits (by decide) (by decide) among
  have value := Nat.ofDigitChars_ten_toDigits (n := number)
  rw [Nat.ofDigitChars_eq_foldl] at value
  rw [decimal, if_pos ⟨Nat.toDigits_ne_nil, digits⟩]
  exact congrArg some value

theorem isWhitespace_digit {c : Char} (digit : c.isDigit = true) : isWhitespace c = false := by
  simp only [Char.isDigit, Bool.and_eq_true, decide_eq_true_eq, ge_iff_le, UInt32.le_iff_toNat_le]
    at digit
  have low : 48 ≤ c.toNat := digit.1
  have high : c.toNat ≤ 57 := digit.2
  simp only [isWhitespace, Bool.or_eq_false_iff, Bool.and_eq_false_imp, decide_eq_true_eq,
    decide_eq_false_iff_not, beq_eq_false_iff_ne]
  omega

theorem toDigits_plain {number : Nat} {c : Char} (among : c ∈ Nat.toDigits 10 number) :
    isWhitespace c = false :=
  isWhitespace_digit (Nat.isDigit_of_mem_toDigits (by decide) (by decide) among)

end Decimal

section Lines

theorem splitOnceColon_line {name : List Char} (colonless : ':' ∉ name) (value : List Char) :
    splitOnceColon (name ++ ':' :: value) = some (name, value) := by
  have apart : ∀ c ∈ name, decide (c ≠ ':') = true := by
    intro c among
    exact decide_eq_true fun same => colonless (same ▸ among)
  rw [splitOnceColon, List.dropWhile_append_of_pos apart, List.takeWhile_append_of_pos apart]
  simp

theorem trim_spaced {value : List Char} (plain : ∀ c ∈ value, isWhitespace c = false) :
    trim (' ' :: value) = value := by
  have drop : trim (' ' :: value) = trim value := by
    rw [trim, List.dropWhile_cons_of_pos (by decide)]
    rfl
  rw [drop, trim_plain plain]

theorem header_line {name value : List Char} (colonless : ':' ∉ name)
    (lower : toAsciiLowercase (trim name) = name)
    (plain : ∀ c ∈ value, isWhitespace c = false) :
    header (name ++ ':' :: ' ' :: value) = some (name, value) := by
  have value_ := trim_spaced plain
  simp only [header, splitOnceColon_line colonless, Option.map_some, lower, value_]

end Lines

section Bytes

variable (response : Response)

def Response.statusLine : List Char :=
  "HTTP/1.1 ".toList ++ (Nat.toDigits 10 response.status.toNat ++ ' ' :: response.reason.toList)

def Response.headerLines : List (List Char) :=
  ["content-type: text/plain; charset=utf-8".toList,
    "content-length".toList ++ ':' :: ' ' :: Nat.toDigits 10 response.body.utf8ByteSize,
    "connection".toList ++ ':' :: ' ' :: (connectionValue response.keepAlive).toList]

/-- The text of a response is its lines, from what its parts are as characters. -/
theorem text_parts {version status space reason lineBreak typeLine lengthName length name
    connection body : String} {statusText typeText lengthNameText lengthText nameText
    bodyText : List Char} (number : status.toList = statusText) (blank : space.toList = [' '])
    (ends : lineBreak.toList = crlfText) (contentType : typeLine.toList = typeText ++ crlfText)
    (contentLength : lengthName.toList = lengthNameText ++ [':', ' '])
    (counted : length.toList = lengthText) (named : name.toList = nameText ++ [':', ' '])
    (written : body.toList = bodyText) :
    (version ++ status ++ space ++ reason ++ lineBreak ++ typeLine ++ lengthName ++ length ++
      lineBreak ++ name ++ connection ++ lineBreak ++ lineBreak ++ body).toList =
      crlfText.intercalate [version.toList ++ (statusText ++ ' ' :: reason.toList), typeText,
        lengthNameText ++ ':' :: ' ' :: lengthText, nameText ++ ':' :: ' ' :: connection.toList] ++
        (crlfText ++ crlfText) ++ bodyText := by
  simp only [String.toList_append, number, blank, ends, contentType, contentLength, counted, named,
    written, List.intercalate_cons_cons, List.intercalate_singleton, List.append_assoc,
    List.cons_append, List.nil_append]

/-- A response is its lines, the blank line, and the body where one is written. -/
theorem Response.bytes_lines :
    response.bytes = joinLines ((response.statusLine :: response.headerLines).map Utf8.encode) ++
      headEnd ++ Utf8.encode (if response.writeBody then response.body.toList else []) := by
  have blank : Utf8.encode (crlfText ++ crlfText) = headEnd := by decide
  have contentType : "content-type: text/plain; charset=utf-8\r\n".toList =
      "content-type: text/plain; charset=utf-8".toList ++ crlfText := by decide
  have contentLength : "content-length: ".toList = "content-length".toList ++ [':', ' '] := by
    decide
  have connection : "connection: ".toList = "connection".toList ++ [':', ' '] := by
    decide
  have body : (if response.writeBody then response.body else "").toList =
      if response.writeBody then response.body.toList else [] := by
    cases response.writeBody <;> rfl
  rw [Response.bytes, buildResponse, Utf8.toUTF8_toList, ← encode_joined, ← blank,
    ← Utf8.encode_append, ← Utf8.encode_append]
  exact congrArg Utf8.encode
    (text_parts Nat.toList_repr rfl rfl contentType contentLength Nat.toList_repr connection body)

end Bytes

section Reader

variable {response : Response}

theorem digits_plain {number : Nat} : '\r' ∉ Nat.toDigits 10 number := by
  intro among
  have plain := toDigits_plain among
  exact absurd plain (by decide)

theorem connectionValue_plain (keepAlive : Bool) :
    ∀ c ∈ (connectionValue keepAlive).toList, isWhitespace c = false := by
  have plain : ((connectionValue keepAlive).toList.all fun c => !isWhitespace c) = true := by
    cases keepAlive <;> decide
  intro c among
  have this_ := List.all_eq_true.mp plain c among
  rwa [Bool.not_eq_true'] at this_

theorem statusLine_plain (oneLine : OneLine response.reason) : '\r' ∉ response.statusLine := by
  have version : '\r' ∉ "HTTP/1.1 ".toList := by decide
  intro among
  cases List.mem_append.mp among with
  | inl inside => exact version inside
  | inr rest =>
      cases List.mem_append.mp rest with
      | inl digit => exact digits_plain digit
      | inr behind =>
          cases List.mem_cons.mp behind with
          | inl space => exact absurd space (by decide)
          | inr reason => exact oneLine.1 reason

theorem header_plain {name value : List Char} (named : '\r' ∉ name) (valued : '\r' ∉ value) :
    '\r' ∉ name ++ ':' :: ' ' :: value ∧ name ++ ':' :: ' ' :: value ≠ [] := by
  constructor
  · simp only [List.mem_append, List.mem_cons]
    intro among
    obtain inside | colon | space | behind := among
    · exact named inside
    · exact absurd colon (by decide)
    · exact absurd space (by decide)
    · exact valued behind
  · exact List.append_ne_nil_of_right_ne_nil _ (List.cons_ne_nil _ _)

theorem headerLines_plain : ∀ line ∈ response.headerLines, '\r' ∉ line ∧ line ≠ [] := by
  have connection : '\r' ∉ (connectionValue response.keepAlive).toList := by
    intro among
    have plain := connectionValue_plain _ _ among
    exact absurd plain (by decide)
  rw [Response.headerLines, List.forall_mem_cons, List.forall_mem_cons, List.forall_mem_singleton]
  refine ⟨⟨by decide, by decide⟩, ?_, ?_⟩
  · exact header_plain (by decide) digits_plain
  · exact header_plain (by decide) connection

theorem readStatusLine_statusLine :
    readStatusLine response.statusLine =
      some (response.status.toNat, response.reason.toList) := by
  have digits : ∀ c ∈ Nat.toDigits 10 response.status.toNat, decide (c ≠ ' ') = true := by
    intro c among
    apply decide_eq_true
    intro space
    have plain := toDigits_plain among
    rw [space] at plain
    exact absurd plain (by decide)
  have version : "HTTP/1.1 ".toList.isPrefixOf response.statusLine = true :=
    List.isPrefixOf_iff_prefix.mpr (List.prefix_append _ _)
  have rest : response.statusLine.drop 9 =
      Nat.toDigits 10 response.status.toNat ++ ' ' :: response.reason.toList :=
    List.drop_left' rfl
  rw [readStatusLine, if_pos version, rest]
  simp only [List.takeWhile_append_of_pos digits, List.dropWhile_append_of_pos digits]
  simp [decimal_toDigits]

theorem headerLines_headers :
    response.headerLines.filterMap header =
      [("content-type".toList, "text/plain; charset=utf-8".toList),
        ("content-length".toList, Nat.toDigits 10 response.body.utf8ByteSize),
        ("connection".toList, (connectionValue response.keepAlive).toList)] := by
  have contentType : header "content-type: text/plain; charset=utf-8".toList =
      some ("content-type".toList, "text/plain; charset=utf-8".toList) := by decide
  have length : header ("content-length".toList ++
      ':' :: ' ' :: Nat.toDigits 10 response.body.utf8ByteSize) =
      some ("content-length".toList, Nat.toDigits 10 response.body.utf8ByteSize) :=
    header_line (by decide) (by decide) fun c among => toDigits_plain among
  have connection : header ("connection".toList ++
      ':' :: ' ' :: (connectionValue response.keepAlive).toList) =
      some ("connection".toList, (connectionValue response.keepAlive).toList) :=
    header_line (by decide) (by decide) (connectionValue_plain response.keepAlive)
  simp only [Response.headerLines, List.filterMap_cons, contentType, length, connection,
    List.filterMap_nil]

theorem headerLines_values (response : Response) :
    values "content-length" response.headerLines =
        [Nat.toDigits 10 response.body.utf8ByteSize] ∧
      values "connection" response.headerLines = [(connectionValue response.keepAlive).toList] := by
  have apart : "content-type".toList ≠ "content-length".toList := by decide
  have other : "content-type".toList ≠ "connection".toList := by decide
  have between : "content-length".toList ≠ "connection".toList := by decide
  constructor
  · rw [values, headerLines_headers]
    simp only [List.filterMap_cons, List.filterMap_nil, apart, between.symm, ↓reduceIte]
  · rw [values, headerLines_headers]
    simp only [List.filterMap_cons, List.filterMap_nil, other, between, ↓reduceIte]

/-- The head that the reader finds at the front of a stream. -/
theorem find_response (oneLine : OneLine response.reason) (suffix : List UInt8) :
    ∃ index, findSubsequence (response.bytes ++ suffix) headEnd = some index ∧
      Utf8.decode ((response.bytes ++ suffix).take index) =
        some (crlfText.intercalate (response.statusLine :: response.headerLines)) ∧
      (response.bytes ++ suffix).drop (index + 4) =
        Utf8.encode (if response.writeBody then response.body.toList else []) ++ suffix := by
  have plain : ∀ line ∈ response.statusLine :: response.headerLines, '\r' ∉ line := by
    rw [List.forall_mem_cons]
    exact ⟨statusLine_plain oneLine, fun line inside => (headerLines_plain line inside).1⟩
  have free : ∀ line ∈ (response.statusLine :: response.headerLines).map Utf8.encode,
      FreeOf crlf line := by
    intro line inside
    obtain ⟨text, among, same⟩ := List.mem_map.mp inside
    exact same ▸ freeOf_plain (plain text among)
  have nonempty : ∀ line ∈ response.headerLines.map Utf8.encode, line ≠ [] := by
    intro line inside
    obtain ⟨text, among, same⟩ := List.mem_map.mp inside
    exact same ▸ Utf8.encode_nonempty (headerLines_plain text among).2
  have split := response.bytes_lines
  rw [List.map_cons] at split free
  have whole : response.bytes ++ suffix =
      joinLines (Utf8.encode response.statusLine :: response.headerLines.map Utf8.encode) ++
        headEnd ++ (Utf8.encode (if response.writeBody then response.body.toList else []) ++
          suffix) := by
    rw [split, List.append_assoc]
  have found := find_joined _ _ free nonempty
    (Utf8.encode (if response.writeBody then response.body.toList else []) ++ suffix)
  refine ⟨_, whole ▸ found, ?_, ?_⟩
  · rw [whole, List.append_assoc, List.take_left, ← List.map_cons, ← encode_joined]
    exact Utf8.decode_encode _
  · rw [whole]
    exact List.drop_left' List.length_append

/-- One response is read back, and what is behind it is left. -/
theorem readResponse_bytes (oneLine : OneLine response.reason) (suffix : List UInt8) :
    readResponse response.writeBody (response.bytes ++ suffix) =
      some (response.reading, suffix) := by
  obtain ⟨index, found, decoded, behind⟩ := find_response oneLine suffix
  have lines : splitCrlf (crlfText.intercalate (response.statusLine :: response.headerLines)) =
      response.statusLine :: response.headerLines := by
    apply splitCrlf_joined
    rw [List.forall_mem_cons]
    constructor
    · exact (freeOf_plain (statusLine_plain oneLine)).decoded
    · intro line inside
      exact (freeOf_plain (headerLines_plain line inside).1).decoded
  obtain ⟨length, connection⟩ := headerLines_values response
  have size := Utf8.utf8ByteSize_eq response.body
  simp only [readResponse, found, decoded, lines, behind, readStatusLine_statusLine, length,
    connection, decimal_toDigits, Option.bind_eq_bind, Option.bind_some, List.headD_cons,
    List.tail_cons, List.head?_cons]
  cases written : response.writeBody with
  | false =>
      simp [Response.reading, written]
  | true =>
      simp [Response.reading, written, size]

/-- The bytes of responses, one behind the other, are read as these responses, and
nothing is left. -/
theorem readResponses_bytes (responses : List Response)
    (oneLine : ∀ response ∈ responses, OneLine response.reason) :
    readResponses (responses.map Response.writeBody) (responses.flatMap Response.bytes) =
      some (responses.map Response.reading, []) := by
  induction responses with
  | nil => rfl
  | cons response responses ih =>
      have first := readResponse_bytes (oneLine response List.mem_cons_self)
        (responses.flatMap Response.bytes)
      have rest := ih fun other among => oneLine other (List.mem_cons_of_mem _ among)
      rw [List.map_cons, List.flatMap_cons, readResponses, first]
      simp only [Option.bind_eq_bind, Option.bind_some, rest, List.map_cons]
      rfl

/-- A body that mimics a head, and an answer to `HEAD`. -/
def mimicry : List Response :=
  [⟨200, "OK", "HTTP/1.1 500 \r\ncontent-length: 9\r\n\r\né", true, true⟩,
    ⟨404, "Not Found", "not found\n", false, false⟩]

theorem readResponses_mimicry :
    readResponses [true, false] (mimicry.flatMap Response.bytes) =
      some ([⟨200, "OK", "keep-alive", 38,
          some "HTTP/1.1 500 \r\ncontent-length: 9\r\n\r\né"⟩,
        ⟨404, "Not Found", "close", 10, none⟩], []) := by
  have oneLine : ∀ response ∈ mimicry, OneLine response.reason := by
    simp only [mimicry, List.forall_mem_cons, OneLine]
    decide
  have read := readResponses_bytes mimicry oneLine
  have readings : mimicry.map Response.reading =
      [⟨200, "OK", "keep-alive", 38,
          some "HTTP/1.1 500 \r\ncontent-length: 9\r\n\r\né"⟩,
        ⟨404, "Not Found", "close", 10, none⟩] := by decide
  rw [readings] at read
  exact read

end Reader

end ActorServices.Connection
