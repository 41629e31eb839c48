import ActorServices.HttpHead

set_option autoImplicit false

namespace ActorServices.Http

/-- A header: its name in lower case and its value, both without surrounding space. -/
def header (line : List Char) : Option (List Char × List Char) :=
  (splitOnceColon line).map fun (name, value) => (toAsciiLowercase (trim name), trim value)

/-- The values of the headers of this name. -/
def values (name : String) (lines : List (List Char)) : List (List Char) :=
  (lines.filterMap header).filterMap fun (named, value) =>
    if named = name.toList then some value else none

/-- Header lines that all have a colon and a number where a length is declared. -/
structure Readable (lines : List (List Char)) : Prop where
  colons : ∀ line ∈ lines, line ≠ [] → (header line).isSome
  lengths : ∀ value ∈ values "content-length" lines, (parseUsize value).isSome

/-- No header declares the single coding `chunked`. -/
def NotChunked (lines : List (List Char)) : Prop :=
  ∀ value ∈ values "transfer-encoding" lines, eqIgnoreAsciiCase value "chunked".toList = false

/-- The last of the declared lengths. -/
def declaredLength (lines : List (List Char)) : Option Nat :=
  ((values "content-length" lines).filterMap parseUsize).getLast?

section Values

variable {line named value : List Char}

@[simp] theorem header_nil : header [] = none := rfl

@[simp] theorem values_nil (name : String) : values name [] = [] := rfl

theorem values_single_none (absent : header line = none) (name : String) :
    values name [line] = [] := by
  simp only [values, List.filterMap_cons, absent, List.filterMap_nil]

theorem values_single_named {name : String} (found : header line = some (name.toList, value)) :
    values name [line] = [value] := by
  simp only [values, List.filterMap_cons, found, List.filterMap_nil, ↓reduceIte]

theorem values_single_other (found : header line = some (named, value)) {name : String}
    (differs : named ≠ name.toList) : values name [line] = [] := by
  simp only [values, List.filterMap_cons, found, List.filterMap_nil, differs, ↓reduceIte]

end Values

section HeaderLine

variable {line named value : List Char}

theorem headerLine_colonless (fields : Fields) (nonempty : line ≠ [])
    (absent : header line = none) :
    headerLine fields line = .error .malformed := by
  have colonless : splitOnceColon line = none := by
    simpa only [header, Option.map_eq_none_iff] using absent
  simp only [headerLine, List.isEmpty_eq_false_iff.mpr nonempty, colonless, Bool.false_eq_true,
    ↓reduceIte]

/-- The loop's turn on a line that is a header. -/
theorem headerLine_header (fields : Fields) (found : header line = some (named, value)) :
    headerLine fields line =
      if named = "content-length".toList then
        match parseUsize value with
        | some contentLength => .ok { fields with contentLength }
        | none => .error .malformed
      else if named = "transfer-encoding".toList ∧
          eqIgnoreAsciiCase value "chunked".toList then
        .error .unsupported
      else if named = "connection".toList then
        if eqIgnoreAsciiCase value "close".toList then .ok { fields with keepAlive := false }
        else if eqIgnoreAsciiCase value "keep-alive".toList then
          .ok { fields with keepAlive := true }
        else .ok fields
      else .ok fields := by
  have nonempty : line.isEmpty = false := by
    cases line with
    | nil => cases found
    | cons c rest => rfl
  cases split : splitOnceColon line with
  | none =>
      simp only [header, split, Option.map_none] at found
      cases found
  | some parts =>
      simp only [header, split, Option.map_some, Option.some.injEq] at found
      have name : toAsciiLowercase (trim parts.1) = named := congrArg Prod.fst found
      have rest : trim parts.2 = value := congrArg Prod.snd found
      cases number : parseUsize value with
      | none =>
          simp only [headerLine, nonempty, split, name, rest, number, Bool.false_eq_true,
            ↓reduceIte]
      | some contentLength =>
          simp only [headerLine, nonempty, split, name, rest, number, Bool.false_eq_true,
            ↓reduceIte]

/-- A header that declares neither a length nor a coding leaves the length. -/
theorem headerLine_other (fields : Fields) (found : header line = some (named, value))
    (noLength : named ≠ "content-length".toList)
    (noCoding : ¬ (named = "transfer-encoding".toList ∧
      eqIgnoreAsciiCase value "chunked".toList = true)) :
    ∃ keepAlive, headerLine fields line = .ok { fields with keepAlive } := by
  rw [headerLine_header fields found]
  simp only [noLength, noCoding, ↓reduceIte]
  by_cases connection : named = "connection".toList
  · simp only [connection, ↓reduceIte]
    by_cases close : eqIgnoreAsciiCase value "close".toList
    · exact ⟨false, by simp only [close, ↓reduceIte]⟩
    · by_cases keep : eqIgnoreAsciiCase value "keep-alive".toList
      · exact ⟨true, by simp only [close, keep, ↓reduceIte, Bool.false_eq_true]⟩
      · exact ⟨fields.keepAlive, by simp only [close, keep, ↓reduceIte, Bool.false_eq_true]⟩
  · exact ⟨fields.keepAlive, by simp only [connection, ↓reduceIte]⟩

end HeaderLine

section Append

variable (front back : List (List Char))

theorem values_append (name : String) :
    values name (front ++ back) = values name front ++ values name back := by
  simp only [values, List.filterMap_append]

theorem readable_append : Readable (front ++ back) ↔ Readable front ∧ Readable back := by
  constructor
  · intro readable
    have colons := List.forall_mem_append.mp readable.colons
    have lengths := readable.lengths
    rw [values_append, List.forall_mem_append] at lengths
    exact ⟨⟨colons.1, lengths.1⟩, ⟨colons.2, lengths.2⟩⟩
  · intro parts
    obtain ⟨first, second⟩ := parts
    constructor
    · exact List.forall_mem_append.mpr ⟨first.colons, second.colons⟩
    · rw [values_append, List.forall_mem_append]
      exact ⟨first.lengths, second.lengths⟩

theorem notChunked_append : NotChunked (front ++ back) ↔ NotChunked front ∧ NotChunked back := by
  rw [NotChunked, values_append, List.forall_mem_append]
  rfl

theorem declaredLength_append :
    declaredLength (front ++ back) = (declaredLength back).or (declaredLength front) := by
  simp only [declaredLength, values_append, List.filterMap_append, List.getLast?_append]

end Append

section Loop

/-- A line that is in order. -/
def InOrder (line : List Char) : Prop := Readable [line] ∧ NotChunked [line]

variable {line named value : List Char}

theorem inOrder_nil : InOrder [] := by
  have none (name : String) : values name [[]] = [] := values_single_none header_nil name
  constructor
  · constructor
    · intro line inside nonempty
      exact absurd (List.mem_singleton.mp inside) nonempty
    · rw [none]
      exact List.forall_mem_nil _
  · rw [NotChunked, none]
    exact List.forall_mem_nil _

theorem readable_header (found : header line = some (named, value)) :
    Readable [line] ↔ (named = "content-length".toList → (parseUsize value).isSome) := by
  constructor
  · intro readable same
    subst same
    apply readable.lengths value
    rw [values_single_named found]
    exact List.mem_singleton_self value
  · intro number
    constructor
    · intro other inside _
      rw [List.mem_singleton.mp inside, found]
      rfl
    · intro other among
      by_cases same : named = "content-length".toList
      · subst same
        rw [values_single_named found, List.mem_singleton] at among
        rw [among]
        exact number rfl
      · rw [values_single_other found same] at among
        exact absurd among List.not_mem_nil

theorem notChunked_header (found : header line = some (named, value)) :
    NotChunked [line] ↔
      (named = "transfer-encoding".toList → eqIgnoreAsciiCase value "chunked".toList = false) := by
  constructor
  · intro plain same
    subst same
    apply plain value
    rw [values_single_named found]
    exact List.mem_singleton_self value
  · intro plain other among
    by_cases same : named = "transfer-encoding".toList
    · subst same
      rw [values_single_named found, List.mem_singleton] at among
      rw [among]
      exact plain rfl
    · rw [values_single_other found same] at among
      exact absurd among List.not_mem_nil

theorem declaredLength_other (found : header line = some (named, value))
    (differs : named ≠ "content-length".toList) : declaredLength [line] = none := by
  rw [declaredLength, values_single_other found differs]
  rfl

theorem declaredLength_named (found : header line = some ("content-length".toList, value))
    {number : Nat} (read : parseUsize value = some number) :
    declaredLength [line] = some number := by
  rw [declaredLength, values_single_named found, List.filterMap_cons, read]
  rfl

/-- One turn of the loop: it goes on exactly with a line that is in order. -/
inductive LineTurn (fields : Fields) (line : List Char) : Prop
  | accepted (next : Fields) (turn : headerLine fields line = .ok next) (inOrder : InOrder line)
      (length : next.contentLength = (declaredLength [line]).getD fields.contentLength)
  | refused (err : ParseError) (turn : headerLine fields line = .error err)
      (decided : err ≠ .incomplete) (bad : ¬ InOrder line)

theorem headerLine_none (fields : Fields) (absent : header line = none) :
    LineTurn fields line := by
  by_cases empty : line = []
  · subst empty
    apply LineTurn.accepted fields rfl inOrder_nil
    rw [declaredLength, values_single_none header_nil]
    rfl
  · apply LineTurn.refused .malformed (headerLine_colonless fields empty absent) nofun
    intro inOrder
    have colon := inOrder.1.colons line (List.mem_singleton_self line) empty
    rw [absent] at colon
    cases colon

theorem headerLine_length (fields : Fields)
    (found : header line = some ("content-length".toList, value)) : LineTurn fields line := by
  have noCoding : "content-length".toList ≠ "transfer-encoding".toList := by decide
  have turn := headerLine_header fields found
  rw [if_pos rfl] at turn
  cases number : parseUsize value with
  | some contentLength =>
      rw [number] at turn
      apply LineTurn.accepted _ turn
      · constructor
        · exact (readable_header found).mpr fun _ => by rw [number]; rfl
        · exact (notChunked_header found).mpr fun same => absurd same noCoding
      · rw [declaredLength_named found number]
        rfl
  | none =>
      rw [number] at turn
      apply LineTurn.refused _ turn nofun
      intro inOrder
      have some := (readable_header found).mp inOrder.1 rfl
      rw [number] at some
      cases some

theorem headerLine_named (fields : Fields) (found : header line = some (named, value))
    (noLength : named ≠ "content-length".toList) : LineTurn fields line := by
  have readable : Readable [line] :=
    (readable_header found).mpr fun same => absurd same noLength
  by_cases coding : named = "transfer-encoding".toList ∧
      eqIgnoreAsciiCase value "chunked".toList = true
  · have turn := headerLine_header fields found
    rw [if_neg noLength, if_pos coding] at turn
    apply LineTurn.refused _ turn nofun
    intro inOrder
    have plain := (notChunked_header found).mp inOrder.2 coding.1
    rw [coding.2] at plain
    cases plain
  · obtain ⟨keepAlive, turn⟩ := headerLine_other fields found noLength coding
    apply LineTurn.accepted _ turn
    · refine ⟨readable, (notChunked_header found).mpr ?_⟩
      intro same
      exact Bool.eq_false_iff.mpr fun chunked => coding ⟨same, chunked⟩
    · rw [declaredLength_other found noLength]
      rfl

theorem headerLine_spec (fields : Fields) (line : List Char) : LineTurn fields line := by
  cases found : header line with
  | none => exact headerLine_none fields found
  | some parts =>
      by_cases length : parts.1 = "content-length".toList
      · have declared : header line = some ("content-length".toList, parts.2) := by
          rw [found, ← length]
        exact headerLine_length fields declared
      · exact headerLine_named fields found length

/-- The whole loop goes through exactly when every line is in order; the last declared
length counts. -/
inductive LoopRun (fields : Fields) (lines : List (List Char)) : Prop
  | accepted (result : Fields) (run : lines.foldlM headerLine fields = .ok result)
      (readable : Readable lines) (plain : NotChunked lines)
      (length : result.contentLength = (declaredLength lines).getD fields.contentLength)
  | refused (err : ParseError) (run : lines.foldlM headerLine fields = .error err)
      (decided : err ≠ .incomplete) (bad : ¬ (Readable lines ∧ NotChunked lines))

theorem foldlM_headerLine (fields : Fields) (lines : List (List Char)) :
    LoopRun fields lines := by
  induction lines generalizing fields with
  | nil =>
      apply LoopRun.accepted fields rfl _ _ rfl
      · exact ⟨List.forall_mem_nil _, List.forall_mem_nil _⟩
      · exact List.forall_mem_nil _
  | cons line lines ih =>
      have readable := readable_append [line] lines
      have plain := notChunked_append [line] lines
      have length := declaredLength_append [line] lines
      rw [List.singleton_append] at readable plain length
      have first := List.foldlM_cons (m := Except ParseError) (f := headerLine) (b := fields)
        (a := line) (l := lines)
      cases headerLine_spec fields line with
      | refused err turn decided bad =>
          rw [turn] at first
          apply LoopRun.refused err first decided
          intro fine
          exact bad ⟨(readable.mp fine.1).1, (plain.mp fine.2).1⟩
      | accepted next turn inOrder after =>
          rw [turn] at first
          cases ih next with
          | refused err run decided bad =>
              apply LoopRun.refused err (first.trans run) decided
              intro fine
              exact bad ⟨(readable.mp fine.1).2, (plain.mp fine.2).2⟩
          | accepted result run fine unchunked count =>
              apply LoopRun.accepted result (first.trans run) (readable.mpr ⟨inOrder.1, fine⟩)
                (plain.mpr ⟨inOrder.2, unchunked⟩)
              rw [count, after, length]
              cases declaredLength lines with
              | none => rfl
              | some last => rfl

end Loop

/-- A request line that is accepted: three parts, the first two of them not empty. -/
def RequestLine (line : List Char) : Prop :=
  ∃ method path version, line.splitOn ' ' = [method, path, version] ∧ method ≠ [] ∧ path ≠ [] ∧
    "HTTP/1.".toList.isPrefixOf version = true

/-- The lines of the first head, when it ends within the limit and is text. -/
def headLines (buf : List UInt8) : Option (List (List Char)) :=
  match findSubsequence buf headEnd with
  | none => none
  | some index =>
      if maxHeadBytes < index + 4 then none
      else (String.fromUTF8? (buf.take index).toByteArray).map fun text => splitCrlf text.toList

/-- A head that is accepted but for a coding `chunked`. -/
def Acceptable (lines : List (List Char)) : Prop :=
  RequestLine (lines.headD []) ∧ Readable lines.tail

/-- The head is accepted exactly when it is in order. -/
inductive HeadParse (lines : List (List Char)) : Prop
  | accepted (head : RequestHead) (parsed : parseLines lines = .ok head)
      (acceptable : Acceptable lines) (plain : NotChunked lines.tail)
      (length : head.contentLength = (declaredLength lines.tail).getD 0)
  | refused (err : ParseError) (parsed : parseLines lines = .error err)
      (decided : err ≠ .incomplete) (bad : ¬ (Acceptable lines ∧ NotChunked lines.tail))

section Parse

variable {requestLine : List Char}

theorem parseLines_badLine (headers : List (List Char)) (bad : ¬ RequestLine requestLine) :
    parseLines (requestLine :: headers) = .error .malformed := by
  simp only [parseLines]
  split
  · rename_i method path version parts
    split
    · rfl
    · rename_i fine
      simp only [Bool.or_eq_true, List.isEmpty_iff, Bool.not_eq_true', not_or,
        Bool.not_eq_false] at fine
      exact absurd ⟨method, path, version, parts, fine.1.1, fine.1.2, fine.2⟩ bad
  · rfl

theorem parseLines_fineLine (headers : List (List Char)) {method path version : List Char}
    (parts : requestLine.splitOn ' ' = [method, path, version]) (named : method ≠ [])
    (located : path ≠ []) (versioned : "HTTP/1.".toList.isPrefixOf version = true) :
    parseLines (requestLine :: headers) =
      (headers.foldlM headerLine ⟨version == "HTTP/1.1".toList, 0⟩).map fun fields =>
        ⟨.ofList method, .ofList path, fields.keepAlive, fields.contentLength⟩ := by
  have fine : (method.isEmpty || path.isEmpty || !("HTTP/1.".toList.isPrefixOf version)) = false :=
    by simp only [List.isEmpty_eq_false_iff.mpr named, List.isEmpty_eq_false_iff.mpr located,
      versioned, Bool.or_false, Bool.not_true]
  simp only [parseLines, parts, fine]
  rfl

theorem parseLines_spec (lines : List (List Char)) : HeadParse lines := by
  cases lines with
  | nil =>
      apply HeadParse.refused .malformed rfl nofun
      intro fine
      obtain ⟨method, path, version, parts, _⟩ := fine.1.1
      cases parts
  | cons requestLine headers =>
      by_cases line : RequestLine requestLine
      · have fineLine := line
        obtain ⟨method, path, version, parts, named, located, versioned⟩ := line
        have parse := parseLines_fineLine headers parts named located versioned
        cases foldlM_headerLine ⟨version == "HTTP/1.1".toList, 0⟩ headers with
        | accepted result run readable plain length =>
            rw [run] at parse
            exact .accepted _ parse ⟨fineLine, readable⟩ plain length
        | refused err run decided bad =>
            rw [run] at parse
            apply HeadParse.refused err parse decided
            intro fine
            exact bad ⟨fine.1.2, fine.2⟩
      · apply HeadParse.refused .malformed (parseLines_badLine headers line) nofun
        intro fine
        exact line fine.1.1

/-- With its lines there, a head is what they say. -/
theorem parseHead_lines {buf : List UInt8} {lines : List (List Char)}
    (found : headLines buf = some lines) :
    ∃ headLen, parseHead buf = (parseLines lines).map fun head => (head, headLen) := by
  unfold headLines at found
  unfold parseHead
  cases blank : findSubsequence buf headEnd with
  | none =>
      rw [blank] at found
      cases found
  | some index =>
      rw [blank] at found
      refine ⟨index + 4, ?_⟩
      by_cases long : maxHeadBytes < index + 4
      · simp only [long, ↓reduceIte, reduceCtorEq] at found
      · simp only [long, ↓reduceIte] at found ⊢
        cases decoded : String.fromUTF8? (buf.take index).toByteArray with
        | none =>
            rw [decoded] at found
            cases found
        | some text =>
            rw [decoded] at found
            cases found
            cases parse : parseLines (splitCrlf text.toList) with
            | error err =>
                simp only [parse]
                rfl
            | ok head =>
                simp only [parse]
                rfl

theorem parseHead_lineless {buf : List UInt8} (absent : headLines buf = none) :
    ∃ err, parseHead buf = .error err := by
  unfold headLines at absent
  unfold parseHead
  cases blank : findSubsequence buf headEnd with
  | none =>
      by_cases long : maxHeadBytes < buf.length
      · exact ⟨.headTooLarge, if_pos long⟩
      · exact ⟨.incomplete, if_neg long⟩
  | some index =>
      rw [blank] at absent
      by_cases long : maxHeadBytes < index + 4
      · exact ⟨.headTooLarge, if_pos long⟩
      · simp only [long, ↓reduceIte, Option.map_eq_none_iff] at absent
        exact ⟨.malformed, by simp only [long, ↓reduceIte, absent]⟩

end Parse

end ActorServices.Http
