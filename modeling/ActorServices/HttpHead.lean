import ActorServices.HttpText

set_option autoImplicit false

namespace ActorServices.Http

/-- Largest request head that is buffered before giving up. -/
def maxHeadBytes : Nat := 8 * 1024

structure RequestHead where
  method : String
  path : String
  keepAlive : Bool
  contentLength : Nat
  deriving DecidableEq, Repr

inductive ParseError
  | incomplete
  | malformed
  | headTooLarge
  | unsupported
  deriving DecidableEq, Repr

def headEnd : List UInt8 := [13, 10, 13, 10]

/-- What the header lines decide: `keep_alive` and `content_length`. -/
structure Fields where
  keepAlive : Bool
  contentLength : Nat
  deriving DecidableEq, Repr

def headerLine (fields : Fields) (line : List Char) : Except ParseError Fields :=
  if line.isEmpty then .ok fields
  else
    match splitOnceColon line with
    | none => .error .malformed
    | some (name, value) =>
        let name := toAsciiLowercase (trim name)
        let value := trim value
        if name = "content-length".toList then
          match parseUsize value with
          | some contentLength => .ok { fields with contentLength }
          | none => .error .malformed
        else if name = "transfer-encoding".toList ∧
            eqIgnoreAsciiCase value "chunked".toList then
          .error .unsupported
        else if name = "connection".toList then
          if eqIgnoreAsciiCase value "close".toList then .ok { fields with keepAlive := false }
          else if eqIgnoreAsciiCase value "keep-alive".toList then
            .ok { fields with keepAlive := true }
          else .ok fields
        else .ok fields

/-- The head without its blank line: `METHOD SP PATH SP HTTP/1.x`, then headers. -/
def parseLines (lines : List (List Char)) : Except ParseError RequestHead :=
  match lines with
  | [] => .error .malformed
  | requestLine :: headers =>
      match requestLine.splitOn ' ' with
      | [method, path, version] =>
          if method.isEmpty || path.isEmpty || !("HTTP/1.".toList.isPrefixOf version) then
            .error .malformed
          else do
            let fields ← headers.foldlM headerLine ⟨version == "HTTP/1.1".toList, 0⟩
            return ⟨.ofList method, .ofList path, fields.keepAlive, fields.contentLength⟩
      | _ => .error .malformed

/-- The head and the number of bytes it occupies, through the blank line. -/
def parseHead (buf : List UInt8) : Except ParseError (RequestHead × Nat) :=
  match findSubsequence buf headEnd with
  | none => if maxHeadBytes < buf.length then .error .headTooLarge else .error .incomplete
  | some index =>
      if maxHeadBytes < index + 4 then .error .headTooLarge
      else
        match String.fromUTF8? (buf.take index).toByteArray with
        | none => .error .malformed
        | some text => do
            let head ← parseLines (splitCrlf text.toList)
            return (head, index + 4)

/-- A response with a `text/plain` body. -/
def buildResponse (status : UInt16) (reason body : String) (keepAlive writeBody : Bool) :
    List UInt8 :=
  let conn := if keepAlive then "keep-alive" else "close"
  let text := "HTTP/1.1 " ++ toString status ++ " " ++ reason ++ "\r\n" ++
    "content-type: text/plain; charset=utf-8\r\n" ++
    "content-length: " ++ toString body.utf8ByteSize ++ "\r\n" ++
    "connection: " ++ conn ++ "\r\n" ++
    "\r\n" ++ if writeBody then body else ""
  text.toUTF8.toList

theorem headEnd_nonempty : headEnd ≠ [] := by decide

@[simp] theorem parseHead_nil : parseHead [] = .error .incomplete := rfl

/-- Anything but `incomplete` is decided by the bytes that are there. -/
theorem parseHead_append {buf : List UInt8} (decided : parseHead buf ≠ .error .incomplete)
    (suffix : List UInt8) : parseHead (buf ++ suffix) = parseHead buf := by
  cases found : findSubsequence buf headEnd with
  | some index =>
      have still := findSubsequence_append headEnd_nonempty found suffix
      have bound := ((findSubsequence_some headEnd_nonempty).mp found).1.bound headEnd_nonempty
      have front : (buf ++ suffix).take index = buf.take index :=
        List.take_append_of_le_length (by omega)
      simp only [parseHead, found, still, front]
  | none =>
      by_cases long : maxHeadBytes < buf.length
      · have before : parseHead buf = .error .headTooLarge := by
          simp only [parseHead, found, long, ↓reduceIte]
        rw [before]
        cases later : findSubsequence (buf ++ suffix) headEnd with
        | none =>
            have longer : maxHeadBytes < (buf ++ suffix).length := by
              rw [List.length_append]
              omega
            simp only [parseHead, later, longer, ↓reduceIte]
        | some index =>
            -- the blank line ends behind the bytes that are there, so too late
            have late := findSubsequence_late headEnd_nonempty found later
            have excess : maxHeadBytes < index + 4 := by
              simp only [headEnd, List.length_cons, List.length_nil] at late
              omega
            simp only [parseHead, later, excess, ↓reduceIte]
      · have short : parseHead buf = .error .incomplete := by
          simp only [parseHead, found, long, ↓reduceIte]
        exact absurd short decided

/-- A head that was parsed ends with the first blank line. -/
theorem parseHead_found {buf : List UInt8} {head : RequestHead} {headLen : Nat}
    (parsed : parseHead buf = .ok (head, headLen)) :
    ∃ index, findSubsequence buf headEnd = some index ∧ headLen = index + 4 ∧
      headLen ≤ maxHeadBytes := by
  cases found : findSubsequence buf headEnd with
  | none =>
      simp only [parseHead, found] at parsed
      split at parsed <;> cases parsed
  | some index =>
      refine ⟨index, rfl, ?_⟩
      simp only [parseHead, found] at parsed
      split at parsed
      · cases parsed
      · split at parsed
        · cases parsed
        · rename_i text _
          cases lines : parseLines (splitCrlf text.toList) with
          | error err =>
              rw [lines] at parsed
              cases parsed
          | ok found =>
              rw [lines] at parsed
              cases parsed
              omega

theorem parseHead_bound {buf : List UInt8} {head : RequestHead} {headLen : Nat}
    (parsed : parseHead buf = .ok (head, headLen)) :
    4 ≤ headLen ∧ headLen ≤ buf.length ∧ headLen ≤ maxHeadBytes := by
  obtain ⟨index, found, length, limit⟩ := parseHead_found parsed
  have bound := ((findSubsequence_some headEnd_nonempty).mp found).1.bound headEnd_nonempty
  simp only [headEnd, List.length_cons, List.length_nil] at bound
  omega

end ActorServices.Http
