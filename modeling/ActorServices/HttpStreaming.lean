import ActorServices.HttpHeaders

set_option autoImplicit false

namespace ActorServices.Http

section Find

variable {needle haystack : List UInt8}

theorem infix_stands : needle <:+: haystack ↔ ∃ index, StandsAt needle haystack index := by
  constructor
  · intro occurs
    obtain ⟨front, back, whole⟩ := occurs
    refine ⟨front.length, back, ?_⟩
    rw [← whole, List.append_assoc, List.drop_left]
  · intro stands
    obtain ⟨index, stands⟩ := stands
    exact List.IsInfix.trans (List.IsPrefix.isInfix stands) (List.drop_suffix _ _).isInfix

theorem findSubsequence_absent (nonempty : needle ≠ []) :
    findSubsequence haystack needle = none ↔ ¬ needle <:+: haystack := by
  rw [findSubsequence_none nonempty, infix_stands, not_exists]

end Find

/-- `buf[headLen - 4..headLen]` is the first blank line of the buffer. -/
structure EndsHead (buf : List UInt8) (headLen : Nat) : Prop where
  within : 4 ≤ headLen ∧ headLen ≤ buf.length
  blank : (buf.take headLen).drop (headLen - 4) = headEnd
  first : ∀ index < headLen - 4, (buf.drop index).take 4 ≠ headEnd

variable {buf other : List UInt8} {head : RequestHead} {headLen : Nat}

theorem parseHead_decided {lines : List (List Char)} (found : headLines buf = some lines) :
    parseHead buf ≠ .error .incomplete := by
  obtain ⟨headLen, parse⟩ := parseHead_lines found
  rw [parse]
  cases parseLines_spec lines with
  | accepted head parsed _ _ _ =>
      rw [parsed]
      nofun
  | refused err parsed decided bad =>
      rw [parsed]
      intro same
      cases same
      exact decided rfl

/-- Where the blank line is there, no more bytes are asked for. -/
theorem incomplete_unfound (parsed : parseHead buf = .error .incomplete) :
    findSubsequence buf headEnd = none := by
  cases found : findSubsequence buf headEnd with
  | none => rfl
  | some index =>
      exfalso
      by_cases long : maxHeadBytes < index + 4
      · simp only [parseHead, found, long, ↓reduceIte] at parsed
        cases parsed
      · cases decoded : String.fromUTF8? (buf.take index).toByteArray with
        | none =>
            simp only [parseHead, found, long, decoded, ↓reduceIte] at parsed
            cases parsed
        | some text =>
            have lines : headLines buf = some (splitCrlf text.toList) := by
              simp only [headLines, found, long, decoded, ↓reduceIte, Option.map_some]
            exact parseHead_decided lines parsed

theorem incomplete_bound (parsed : parseHead buf = .error .incomplete) :
    buf.length ≤ maxHeadBytes := by
  have unfound := incomplete_unfound parsed
  apply Nat.le_of_not_lt
  intro long
  simp only [parseHead, unfound, long, ↓reduceIte] at parsed
  cases parsed

/-- More bytes are asked for exactly while there is no blank line and room for one. -/
theorem parseHead_incomplete : parseHead buf = .error .incomplete ↔
    ¬ headEnd <:+: buf ∧ buf.length ≤ maxHeadBytes := by
  constructor
  · intro parsed
    exact ⟨(findSubsequence_absent headEnd_nonempty).mp (incomplete_unfound parsed),
      incomplete_bound parsed⟩
  · intro waits
    have absent := (findSubsequence_absent headEnd_nonempty).mpr waits.1
    simp only [parseHead, absent, if_neg (Nat.not_lt.mpr waits.2)]

theorem parseHead_ends (parsed : parseHead buf = .ok (head, headLen)) : EndsHead buf headLen := by
  obtain ⟨index, found, length, _⟩ := parseHead_found parsed
  obtain ⟨stands, first⟩ := (findSubsequence_some headEnd_nonempty).mp found
  have bound := parseHead_bound parsed
  have start : headLen - 4 = index := by omega
  refine ⟨⟨bound.1, bound.2.1⟩, ?_, ?_⟩
  · have size : headLen - index = headEnd.length := by
      show headLen - index = 4
      omega
    rw [start, List.drop_take, size]
    exact window_iff.mpr stands
  · rw [start]
    intro earlier before early
    exact first earlier before (window_iff.mp early)

/-- The bytes of the head have the blank line, so they decide the result. -/
theorem parseHead_take (ends : EndsHead buf headLen) :
    parseHead buf = parseHead (buf.take headLen) := by
  have decided : parseHead (buf.take headLen) ≠ .error .incomplete := by
    intro waits
    apply (parseHead_incomplete.mp waits).1
    rw [← ends.blank]
    exact (List.drop_suffix _ _).isInfix
  have whole := parseHead_append decided (buf.drop headLen)
  rwa [List.take_append_drop] at whole

/-- A head that was parsed is the same in front of any other bytes. -/
theorem parseHead_prefix (parsed : parseHead buf = .ok (head, headLen))
    (same : other.take headLen = buf.take headLen) : parseHead other = parseHead buf := by
  have ends := parseHead_ends parsed
  have decided : parseHead (buf.take headLen) ≠ .error .incomplete := by
    rw [← parseHead_take ends, parsed]
    nofun
  have whole := parseHead_append decided (other.drop headLen)
  rw [← same, List.take_append_drop] at whole
  rw [whole, same, ← parseHead_take ends]

/-- However the bytes come in: no verdict but the request for more changes as they do, and a
head is the bytes through the first blank line. -/
theorem parseHead_streams (buf : List UInt8) :
    (parseHead buf = .error .incomplete ↔ ¬ headEnd <:+: buf ∧ buf.length ≤ 8192) ∧
      (parseHead buf ≠ .error .incomplete →
        ∀ suffix, parseHead (buf ++ suffix) = parseHead buf) ∧
      ∀ head headLen, parseHead buf = .ok (head, headLen) →
        headLen ≤ 8192 ∧ EndsHead buf headLen ∧
          ∀ other, other.take headLen = buf.take headLen → parseHead other = parseHead buf := by
  refine ⟨parseHead_incomplete, parseHead_append, ?_⟩
  intro head headLen parsed
  refine ⟨(parseHead_bound parsed).2.2, parseHead_ends parsed, ?_⟩
  intro other same
  exact parseHead_prefix parsed same

def pipelined : List UInt8 := "GET / HTTP/1.1\r\n\r\nGET".toUTF8.toList

theorem parseHead_streams_pipelined :
    parseHead pipelined = .ok (⟨"GET", "/", true, 0⟩, 18) ∧ EndsHead pipelined 18 ∧
      (∀ suffix, parseHead (pipelined ++ suffix) = parseHead pipelined) ∧
      ∀ other, other.take 18 = pipelined.take 18 → parseHead other = parseHead pipelined := by
  have parsed : parseHead pipelined = .ok (⟨"GET", "/", true, 0⟩, 18) := by decide +kernel
  obtain ⟨_, stable, whole⟩ := parseHead_streams pipelined
  obtain ⟨_, ends, front⟩ := whole _ _ parsed
  refine ⟨parsed, ends, stable ?_, front⟩
  rw [parsed]
  nofun

end ActorServices.Http
