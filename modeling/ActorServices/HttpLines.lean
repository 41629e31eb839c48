import ActorServices.HttpHeaders
import ActorServices.Utf8

set_option autoImplicit false

namespace ActorServices.Http

/-- `\r\n`. -/
def crlf : List UInt8 := [13, 10]

/-- A line, as text or as bytes, that does not contain this line break. -/
def FreeOf {α : Type} (lineBreak line : List α) : Prop := ¬ lineBreak <:+: line

/-- The lines with a CRLF between each two of them. -/
def joinLines (lines : List (List UInt8)) : List UInt8 := crlf.intercalate lines

section Find

variable {line text suffix : List UInt8} {index : Nat}

theorem standsAt_headEnd : StandsAt headEnd text index ↔
    StandsAt crlf text index ∧ StandsAt crlf text (index + 2) := by
  have rest : text.drop (index + 2) = (text.drop index).drop 2 := by
    rw [List.drop_drop]
  simp only [StandsAt, rest]
  constructor
  · intro stands
    obtain ⟨tail, same⟩ := stands
    have second : (text.drop index).drop 2 = 13 :: 10 :: tail := by rw [← same]; rfl
    exact ⟨⟨13 :: 10 :: tail, same⟩, ⟨tail, second.symm⟩⟩
  · intro both
    obtain ⟨⟨front, first⟩, ⟨tail, second⟩⟩ := both
    have behind : front = 13 :: 10 :: tail := by
      rw [← first] at second
      exact second.symm
    exact ⟨tail, by rw [← first, behind]; rfl⟩

/-- The first CRLF behind a line without one is its end. -/
theorem standsAt_lineEnd (free : FreeOf crlf line)
    (stands : StandsAt crlf (line ++ crlf ++ suffix) index) (early : index < line.length + 2) :
    index = line.length := by
  by_contra other
  obtain ⟨tail, same⟩ := stands
  have first : (line ++ crlf ++ suffix)[index]? = some 13 := by
    have read := congrArg (fun bytes : List UInt8 => bytes[0]?) same
    simpa [crlf] using read.symm
  have second : (line ++ crlf ++ suffix)[index + 1]? = some 10 := by
    have read := congrArg (fun bytes : List UInt8 => bytes[1]?) same
    simpa [crlf] using read.symm
  have cases_ : index + 1 < line.length ∨ index + 1 = line.length ∨ index = line.length + 1 := by
    omega
  cases cases_ with
  | inl inside =>
      apply free
      have here : StandsAt crlf line index := by
        have whole : StandsAt crlf (line ++ (crlf ++ suffix)) index := by
          rw [← List.append_assoc]
          exact ⟨tail, same⟩
        apply whole.front
        simp only [crlf, List.length_cons, List.length_nil]
        omega
      exact here.isInfix.trans (List.drop_suffix index line).isInfix
  | inr border =>
      cases border with
      | inl last =>
          rw [last, List.append_assoc, List.getElem?_append_right (Nat.le_refl _)] at second
          simp [crlf] at second
      | inr behind =>
          rw [behind, List.append_assoc, List.getElem?_append_right (by omega)] at first
          simp [crlf] at first

theorem joinLines_first (first : List UInt8) (rest : List (List UInt8)) (suffix : List UInt8) :
    ∃ tail, joinLines (first :: rest) ++ headEnd ++ suffix = first ++ crlf ++ tail := by
  cases rest with
  | nil =>
      refine ⟨crlf ++ suffix, ?_⟩
      simp [joinLines, headEnd, crlf]
  | cons second rest =>
      refine ⟨joinLines (second :: rest) ++ headEnd ++ suffix, ?_⟩
      simp only [joinLines, List.intercalate_cons_cons, List.append_assoc]

/-- Behind lines of which only the first may be empty, no blank line comes earlier. -/
theorem standsAt_joined (first : List UInt8) (rest : List (List UInt8))
    (free : ∀ line ∈ first :: rest, FreeOf crlf line) (nonempty : ∀ line ∈ rest, line ≠ [])
    (stands : StandsAt headEnd (joinLines (first :: rest) ++ headEnd ++ suffix) index) :
    (joinLines (first :: rest)).length ≤ index := by
  induction rest generalizing first index with
  | nil =>
      by_contra early
      simp only [joinLines, List.intercalate_singleton] at stands early
      have lineEnd := (standsAt_headEnd.mp stands).1
      have split : first ++ headEnd ++ suffix = first ++ crlf ++ (crlf ++ suffix) := by
        simp [headEnd, crlf]
      rw [split] at lineEnd
      have here := standsAt_lineEnd (free first List.mem_cons_self) lineEnd (by omega)
      omega
  | cons second rest ih =>
      have split : joinLines (first :: second :: rest) ++ headEnd ++ suffix =
          first ++ crlf ++ (joinLines (second :: rest) ++ headEnd ++ suffix) := by
        simp only [joinLines, List.intercalate_cons_cons, List.append_assoc]
      have length : (joinLines (first :: second :: rest)).length =
          first.length + 2 + (joinLines (second :: rest)).length := by
        simp only [joinLines, List.intercalate_cons_cons, List.length_append, crlf,
          List.length_cons, List.length_nil]
      rw [split] at stands
      by_cases early : index < first.length + 2
      · -- then the second line would be empty
        exfalso
        obtain ⟨lineEnd, next⟩ := standsAt_headEnd.mp stands
        have here := standsAt_lineEnd (free first List.mem_cons_self) lineEnd early
        have behind : StandsAt crlf (joinLines (second :: rest) ++ headEnd ++ suffix) 0 := by
          have skip : (first ++ crlf).length = index + 2 := by
            rw [List.length_append, here]
            rfl
          rw [StandsAt, ← skip, List.drop_left] at next
          exact next
        obtain ⟨tail, same⟩ := joinLines_first second rest suffix
        rw [same] at behind
        have empty := standsAt_lineEnd
          (free second (List.mem_cons_of_mem _ List.mem_cons_self)) behind (by omega)
        exact nonempty second List.mem_cons_self (List.length_eq_zero_iff.mp empty.symm)
      · have skip : (first ++ crlf).length = first.length + 2 := List.length_append
        have later : StandsAt headEnd (joinLines (second :: rest) ++ headEnd ++ suffix)
            (index - (first.length + 2)) := by
          have sum : index = (first ++ crlf).length + (index - (first.length + 2)) := by omega
          rw [StandsAt, sum, List.drop_length_add_append] at stands
          exact stands
        have bound := ih second (fun line inside => free line (List.mem_cons_of_mem _ inside))
          (fun line inside => nonempty line (List.mem_cons_of_mem _ inside)) later
        omega

theorem find_joined (first : List UInt8) (rest : List (List UInt8))
    (free : ∀ line ∈ first :: rest, FreeOf crlf line) (nonempty : ∀ line ∈ rest, line ≠ [])
    (suffix : List UInt8) :
    findSubsequence (joinLines (first :: rest) ++ headEnd ++ suffix) headEnd =
      some (joinLines (first :: rest)).length := by
  rw [findSubsequence_some headEnd_nonempty]
  constructor
  · rw [StandsAt, List.append_assoc, List.drop_left]
    exact List.prefix_append _ _
  · intro earlier before stands
    have bound := standsAt_joined first rest free nonempty stands
    omega

end Find

section Split

/-- `\r\n` in text. -/
def crlfText : List Char := ['\r', '\n']

variable {line : List Char}

theorem FreeOf.tail {α : Type} {lineBreak line : List α} {c : α}
    (free : FreeOf lineBreak (c :: line)) : FreeOf lineBreak line := by
  intro inside
  exact free (inside.trans (List.suffix_cons c line).isInfix)

theorem splitCrlf_cons {c : Char} {text first : List Char} {rest : List (List Char)}
    (split : splitCrlf text = first :: rest)
    (apart : ¬ (c = '\r' ∧ ∃ tail, text = '\n' :: tail)) :
    splitCrlf (c :: text) = (c :: first) :: rest := by
  rw [splitCrlf.eq_3]
  · rw [split]
  · intro tail same next
    exact apart ⟨same, tail, next⟩

theorem splitCrlf_line (free : FreeOf crlfText line) : splitCrlf line = [line] := by
  induction line with
  | nil => rfl
  | cons c line ih =>
      apply splitCrlf_cons (ih free.tail)
      intro lineBreak
      obtain ⟨same, tail, next⟩ := lineBreak
      apply free
      rw [same, next]
      exact (List.prefix_append crlfText tail).isInfix

theorem splitCrlf_append (free : FreeOf crlfText line) (text : List Char) :
    splitCrlf (line ++ crlfText ++ text) = line :: splitCrlf text := by
  induction line with
  | nil => rfl
  | cons c line ih =>
      rw [List.cons_append, List.cons_append]
      apply splitCrlf_cons (ih free.tail)
      intro lineBreak
      obtain ⟨same, tail, next⟩ := lineBreak
      cases line with
      | nil => cases next
      | cons second line =>
          injection next with newline _
          apply free
          rw [same, newline]
          exact (List.prefix_append crlfText line).isInfix

theorem splitCrlf_joined (first : List Char) (rest : List (List Char))
    (free : ∀ line ∈ first :: rest, FreeOf crlfText line) :
    splitCrlf (crlfText.intercalate (first :: rest)) = first :: rest := by
  induction rest generalizing first with
  | nil =>
      rw [List.intercalate_singleton]
      exact splitCrlf_line (free first List.mem_cons_self)
  | cons second rest ih =>
      rw [List.intercalate_cons_cons, splitCrlf_append (free first List.mem_cons_self), ih second]
      intro line inside
      exact free line (List.mem_cons_of_mem _ inside)

end Split

section Encoding

theorem crlf_encode : Utf8.encode crlfText = crlf := by decide

theorem FreeOf.decoded {line : List Char} (free : FreeOf crlf (Utf8.encode line)) :
    FreeOf crlfText line := by
  intro inside
  obtain ⟨front, back, same⟩ := inside
  apply free
  refine ⟨Utf8.encode front, Utf8.encode back, ?_⟩
  rw [← same, Utf8.encode_append, Utf8.encode_append, crlf_encode]

/-- A line without a carriage return has no line break in it. -/
theorem freeOf_plain {line : List Char} (plain : '\r' ∉ line) :
    FreeOf crlf (Utf8.encode line) := by
  intro inside
  obtain ⟨front, back, same⟩ := inside
  have split : Utf8.encode line = front ++ 13 :: (10 :: back) := by
    rw [← same]
    simp [crlf]
  obtain ⟨before, c, after, whole, code, _⟩ := Utf8.encode_split (by decide) split
  have found : c = '\r' := Char.toNat_inj.mp code
  apply plain
  rw [whole, found]
  exact List.mem_append_right _ List.mem_cons_self

theorem encode_joined (first : List Char) (rest : List (List Char)) :
    Utf8.encode (crlfText.intercalate (first :: rest)) =
      joinLines ((first :: rest).map Utf8.encode) := by
  induction rest generalizing first with
  | nil => rw [List.map_singleton, joinLines, List.intercalate_singleton,
      List.intercalate_singleton]
  | cons second rest ih =>
      rw [List.intercalate_cons_cons, Utf8.encode_append, Utf8.encode_append, ih second,
        crlf_encode]
      simp only [joinLines, List.map_cons, List.intercalate_cons_cons]

/-- Joined lines that are text are lines of text. -/
theorem decode_joined {first : List UInt8} {rest : List (List UInt8)} {text : List Char}
    (decoded : Utf8.decode (joinLines (first :: rest)) = some text) :
    ∃ (firstText : List Char) (texts : List (List Char)), first = Utf8.encode firstText ∧
      rest = texts.map Utf8.encode := by
  induction rest generalizing first text with
  | nil =>
      rw [joinLines, List.intercalate_singleton] at decoded
      exact ⟨text, [], (Utf8.decode_eq_some.mp decoded).symm, rfl⟩
  | cons second rest ih =>
      have encoded := Utf8.decode_eq_some.mp decoded
      have parts : joinLines (first :: second :: rest) =
          first ++ 13 :: (10 :: joinLines (second :: rest)) := by
        simp [joinLines, List.intercalate_cons_cons, crlf]
      rw [parts] at encoded
      obtain ⟨before, _, after, _, _, front, back⟩ := Utf8.encode_split (by decide) encoded
      have next : Utf8.encode after = [] ++ 10 :: joinLines (second :: rest) := back
      obtain ⟨_, _, behind, _, _, _, tail⟩ := Utf8.encode_split (by decide) next
      obtain ⟨secondText, texts, same, others⟩ := ih (Utf8.decode_eq_some.mpr tail)
      refine ⟨before, secondText :: texts, front.symm, ?_⟩
      rw [List.map_cons, same, others]

end Encoding

end ActorServices.Http
