import ActorServices.HttpLines
import Mathlib.Algebra.GroupWithZero.Nat
import Mathlib.Data.List.Perm.Basic

set_option autoImplicit false

namespace ActorServices.Http

/-- The name of a line of text, without surrounding space and in lower case. -/
def textName (line : List Char) : Option (List Char) := (header line).map Prod.fst

/-- The name of a line of bytes. -/
def lineName (line : List UInt8) : Option (List Char) := (Utf8.decode line).bind textName

/-- The names that the parser acts on. -/
def framingNames : List (List Char) :=
  ["content-length".toList, "transfer-encoding".toList, "connection".toList]

/-- The head of these lines, with its blank line. -/
def assemble (requestLine : List UInt8) (headers : List (List UInt8)) : List UInt8 :=
  joinLines (requestLine :: headers) ++ headEnd

/-- The same lines, where two with the same name stand in the same order. -/
structure Reordered {α : Type} (name : α → Option (List Char)) (first second : List α) : Prop where
  perm : first.Perm second
  order : ∀ named, first.filter (fun line => name line == some named) =
    second.filter (fun line => name line == some named)

/-- Two lines of different names may be exchanged. -/
theorem Reordered.swap {α : Type} {name : α → Option (List Char)} {left right : α}
    (apart : name left ≠ name right) (front back : List α) :
    Reordered name (front ++ left :: right :: back) (front ++ right :: left :: back) := by
  constructor
  · exact (List.Perm.swap right left back).append_left front
  · intro named
    rw [List.filter_append, List.filter_append]
    congr 1
    by_cases first : name left = some named
    · have second : (name right == some named) = false :=
        beq_eq_false_iff_ne.mpr fun same => apart (first.trans same.symm)
      simp only [List.filter_cons, second, Bool.false_eq_true, ↓reduceIte]
    · have none : (name left == some named) = false := beq_eq_false_iff_ne.mpr first
      simp only [List.filter_cons, none, Bool.false_eq_true, ↓reduceIte]

/-- The same result, or an error on both sides. -/
inductive SameOutcome {ε α : Type} : Except ε α → Except ε α → Prop
  | ok (value : α) : SameOutcome (.ok value) (.ok value)
  | error (left right : ε) : SameOutcome (.error left) (.error right)

theorem SameOutcome.map {ε α β : Type} {left right : Except ε α} (same : SameOutcome left right)
    (f : α → β) : SameOutcome (left.map f) (right.map f) := by
  cases same with
  | ok value => exact .ok (f value)
  | error left right => exact .error left right

section KeepAlive

/-- What a value of `connection` says. -/
def keepAliveOf (value : List Char) : Option Bool :=
  if eqIgnoreAsciiCase value "close".toList then some false
  else if eqIgnoreAsciiCase value "keep-alive".toList then some true
  else none

/-- What the last of the `connection` headers that say something says. -/
def declaredKeepAlive (lines : List (List Char)) : Option Bool :=
  ((values "connection" lines).filterMap keepAliveOf).getLast?

variable {line named value : List Char} {fields next : Fields}

theorem declaredKeepAlive_append (front back : List (List Char)) :
    declaredKeepAlive (front ++ back) =
      (declaredKeepAlive back).or (declaredKeepAlive front) := by
  simp only [declaredKeepAlive, values_append, List.filterMap_append, List.getLast?_append]

theorem declaredKeepAlive_other (found : header line = some (named, value))
    (differs : named ≠ "connection".toList) : declaredKeepAlive [line] = none := by
  rw [declaredKeepAlive, values_single_other found differs]
  rfl

theorem declaredKeepAlive_named (found : header line = some ("connection".toList, value)) :
    declaredKeepAlive [line] = keepAliveOf value := by
  rw [declaredKeepAlive, values_single_named found, List.filterMap_cons]
  cases keepAliveOf value <;> rfl

/-- A line that is neither of the three names is skipped. -/
theorem headerLine_ignored (fields : Fields) (found : header line = some (named, value))
    (other : named ∉ framingNames) : headerLine fields line = .ok fields := by
  simp only [framingNames, List.mem_cons, List.not_mem_nil, or_false, not_or] at other
  have noCoding : ¬ (named = "transfer-encoding".toList ∧
      eqIgnoreAsciiCase value "chunked".toList = true) := fun coding => other.2.1 coding.1
  rw [headerLine_header fields found, if_neg other.1, if_neg noCoding, if_neg other.2.2]

theorem headerLine_keepAlive (turn : headerLine fields line = .ok next) :
    next.keepAlive = (declaredKeepAlive [line]).getD fields.keepAlive := by
  cases found : header line with
  | none =>
      by_cases empty : line = []
      · rw [empty] at turn
        cases turn
        rw [declaredKeepAlive, values_single_none found]
        rfl
      · rw [headerLine_colonless fields empty found] at turn
        cases turn
  | some parts =>
      obtain ⟨named, value⟩ := parts
      rw [headerLine_header fields found] at turn
      by_cases length : named = "content-length".toList
      · have differs : named ≠ "connection".toList := by
          rw [length]
          decide
        rw [if_pos length] at turn
        rw [declaredKeepAlive_other found differs]
        cases number : parseUsize value with
        | none =>
            rw [number] at turn
            cases turn
        | some contentLength =>
            rw [number] at turn
            cases turn
            rfl
      · rw [if_neg length] at turn
        by_cases coding : named = "transfer-encoding".toList ∧
            eqIgnoreAsciiCase value "chunked".toList = true
        · rw [if_pos coding] at turn
          cases turn
        · rw [if_neg coding] at turn
          by_cases connection : named = "connection".toList
          · rw [if_pos connection] at turn
            subst connection
            rw [declaredKeepAlive_named found, keepAliveOf]
            by_cases close : eqIgnoreAsciiCase value "close".toList = true
            · rw [if_pos close] at turn ⊢
              cases turn
              rfl
            · rw [if_neg close] at turn ⊢
              by_cases keep : eqIgnoreAsciiCase value "keep-alive".toList = true
              · rw [if_pos keep] at turn ⊢
                cases turn
                rfl
              · rw [if_neg keep] at turn ⊢
                cases turn
                rfl
          · rw [if_neg connection] at turn
            cases turn
            rw [declaredKeepAlive_other found connection]
            rfl

theorem foldlM_keepAlive {lines : List (List Char)} {result : Fields}
    (run : lines.foldlM headerLine fields = .ok result) :
    result.keepAlive = (declaredKeepAlive lines).getD fields.keepAlive := by
  induction lines generalizing fields with
  | nil =>
      cases run
      rfl
  | cons line lines ih =>
      rw [List.foldlM_cons] at run
      cases turn : headerLine fields line with
      | error err =>
          rw [turn] at run
          cases run
      | ok next =>
          rw [turn] at run
          have first := headerLine_keepAlive turn
          have rest := ih run
          have both := declaredKeepAlive_append [line] lines
          rw [List.singleton_append] at both
          rw [rest, first, both]
          cases declaredKeepAlive lines <;> rfl

end KeepAlive

section Lines

variable {first second : List (List Char)}

/-- The headers of a name are all that their values depend on. -/
theorem values_filter (name : String) (lines : List (List Char)) :
    values name lines =
      values name (lines.filter fun line => textName line == some name.toList) := by
  induction lines with
  | nil => rfl
  | cons line lines ih =>
      have split := values_append [line] lines name
      rw [List.singleton_append] at split
      cases found : header line with
      | none =>
          have other : (textName line == some name.toList) = false := by
            rw [textName, found]
            rfl
          rw [List.filter_cons_of_neg (by rw [other]; decide), split,
            values_single_none found, List.nil_append, ih]
      | some parts =>
          by_cases same : parts.1 = name.toList
          · have named : (textName line == some name.toList) = true := by
              rw [textName, found, Option.map_some, same]
              exact beq_self_eq_true _
            have again := values_append [line]
              (lines.filter fun line => textName line == some name.toList) name
            rw [List.singleton_append] at again
            have kept := List.filter_cons_of_pos (l := lines)
              (p := fun line => textName line == some name.toList) named
            rw [kept, split, again, ih]
          · have other : (textName line == some name.toList) = false := by
              rw [textName, found, Option.map_some]
              exact beq_eq_false_iff_ne.mpr fun equal => same (Option.some.inj equal)
            rw [List.filter_cons_of_neg (by rw [other]; decide), split,
              values_single_other found same, List.nil_append, ih]

theorem Reordered.values (reordered : Reordered textName first second) (name : String) :
    values name first = values name second := by
  rw [values_filter name first, reordered.order, ← values_filter]

theorem Reordered.readable (reordered : Reordered textName first second) :
    Readable first ↔ Readable second := by
  constructor
  · intro readable
    constructor
    · intro line inside
      exact readable.colons line (reordered.perm.mem_iff.mpr inside)
    · rw [← reordered.values]
      exact readable.lengths
  · intro readable
    constructor
    · intro line inside
      exact readable.colons line (reordered.perm.mem_iff.mp inside)
    · rw [reordered.values]
      exact readable.lengths

/-- The header loop ends the same way. -/
theorem Reordered.foldlM (reordered : Reordered textName first second) (fields : Fields) :
    SameOutcome (first.foldlM headerLine fields) (second.foldlM headerLine fields) := by
  have plain : NotChunked first ↔ NotChunked second := by
    rw [NotChunked, NotChunked, reordered.values]
  cases foldlM_headerLine fields first with
  | accepted result run readable unchunked length =>
      cases foldlM_headerLine fields second with
      | accepted other again _ _ count =>
          have keepAlive : result.keepAlive = other.keepAlive := by
            rw [foldlM_keepAlive run, foldlM_keepAlive again, declaredKeepAlive,
              declaredKeepAlive, reordered.values]
          have contentLength : result.contentLength = other.contentLength := by
            rw [length, count, declaredLength, declaredLength, reordered.values]
          have same : result = other := by
            cases result
            cases other
            congr
          rw [run, again, same]
          exact .ok other
      | refused err again decided bad =>
          exact absurd ⟨reordered.readable.mp readable, plain.mp unchunked⟩ bad
  | refused err run decided bad =>
      cases foldlM_headerLine fields second with
      | accepted other again readable unchunked count =>
          exact absurd ⟨reordered.readable.mpr readable, plain.mpr unchunked⟩ bad
      | refused other again _ _ =>
          rw [run, again]
          exact .error err other

theorem Reordered.parseLines (reordered : Reordered textName first second)
    (requestLine : List Char) :
    SameOutcome (parseLines (requestLine :: first)) (parseLines (requestLine :: second)) := by
  by_cases line : RequestLine requestLine
  · obtain ⟨method, path, version, parts, named, located, versioned⟩ := line
    rw [parseLines_fineLine first parts named located versioned,
      parseLines_fineLine second parts named located versioned]
    exact (reordered.foldlM _).map _
  · rw [parseLines_badLine first line, parseLines_badLine second line]
    exact .error _ _

end Lines

section Bytes

/-- Header lines: not empty, and without a line break. -/
def HeaderLines (headers : List (List UInt8)) : Prop :=
  ∀ line ∈ headers, line ≠ [] ∧ FreeOf crlf line

variable {requestLine : List UInt8} {headers first second : List (List UInt8)}

@[simp] theorem lineName_encode (text : List Char) :
    lineName (Utf8.encode text) = textName text := by
  rw [lineName, Utf8.decode_encode, Option.bind_some]

theorem parseHead_assembled (free : FreeOf crlf requestLine) (lines : HeaderLines headers) :
    parseHead (assemble requestLine headers) =
      if maxHeadBytes < (assemble requestLine headers).length then .error .headTooLarge
      else
        match Utf8.decode (joinLines (requestLine :: headers)) with
        | none => .error .malformed
        | some text => (parseLines (splitCrlf text)).map fun head =>
            (head, (assemble requestLine headers).length) := by
  have allFree : ∀ line ∈ requestLine :: headers, FreeOf crlf line := by
    rw [List.forall_mem_cons]
    exact ⟨free, fun line inside => (lines line inside).2⟩
  have found :=
    find_joined requestLine headers allFree (fun line inside => (lines line inside).1) []
  rw [List.append_nil] at found
  have length : (assemble requestLine headers).length =
      (joinLines (requestLine :: headers)).length + 4 := by
    rw [assemble, List.length_append]
    rfl
  have front : (assemble requestLine headers).take (joinLines (requestLine :: headers)).length =
      joinLines (requestLine :: headers) := List.take_left
  rw [← assemble] at found
  rw [parseHead, found]
  simp only [length, front, Utf8.decode]
  by_cases long : maxHeadBytes < (joinLines (requestLine :: headers)).length + 4
  · rw [if_pos long, if_pos long]
  · rw [if_neg long, if_neg long]
    cases decoded : String.fromUTF8? (joinLines (requestLine :: headers)).toByteArray with
    | none => rfl
    | some text =>
        simp only [Option.map_some]
        cases parseLines (splitCrlf text.toList) <;> rfl

/-- A head of text is what its lines are parsed to. -/
theorem parseHead_text {requestText : List Char} {texts : List (List Char)}
    (free : FreeOf crlf (Utf8.encode requestText)) (lines : HeaderLines (texts.map Utf8.encode))
    (fits : ¬ maxHeadBytes <
      (assemble (Utf8.encode requestText) (texts.map Utf8.encode)).length) :
    parseHead (assemble (Utf8.encode requestText) (texts.map Utf8.encode)) =
      (parseLines (requestText :: texts)).map fun head =>
        (head, (assemble (Utf8.encode requestText) (texts.map Utf8.encode)).length) := by
  have split : splitCrlf (crlfText.intercalate (requestText :: texts)) = requestText :: texts := by
    apply splitCrlf_joined
    rw [List.forall_mem_cons]
    constructor
    · exact free.decoded
    · intro text inside
      exact (lines _ (List.mem_map_of_mem inside)).2.decoded
  rw [parseHead_assembled free lines, if_neg fits, ← List.map_cons, ← encode_joined,
    Utf8.decode_encode]
  simp only [split]

theorem length_joinLines (first : List UInt8) (rest : List (List UInt8)) :
    (joinLines (first :: rest)).length =
      first.length + (rest.map fun line => line.length + 2).sum := by
  induction rest generalizing first with
  | nil => simp [joinLines]
  | cons second rest ih =>
      have tail := ih second
      simp only [joinLines, List.intercalate_cons_cons, List.length_append, crlf,
        List.length_cons, List.length_nil, List.map_cons, List.sum_cons] at tail ⊢
      omega

theorem Reordered.length (reordered : Reordered lineName first second)
    (requestLine : List UInt8) :
    (assemble requestLine first).length = (assemble requestLine second).length := by
  have sums := (reordered.perm.map fun line : List UInt8 => line.length + 2).sum_nat
  simp only [assemble, List.length_append, length_joinLines, sums]

theorem filter_encoded (texts : List (List Char)) (named : List Char) :
    (texts.map Utf8.encode).filter (fun line => lineName line == some named) =
      (texts.filter fun line => textName line == some named).map Utf8.encode := by
  rw [List.filter_map]
  congr 2
  funext line
  simp

/-- Lines of text that are reordered as bytes are reordered as text. -/
theorem Reordered.text {firsts seconds : List (List Char)}
    (reordered : Reordered lineName (firsts.map Utf8.encode) (seconds.map Utf8.encode)) :
    Reordered textName firsts seconds := by
  have injective := Utf8.encode_injective
  constructor
  · exact (List.map_perm_map_iff injective).mp reordered.perm
  · intro named
    have same := reordered.order named
    rw [filter_encoded, filter_encoded] at same
    exact List.map_injective_iff.mpr injective same

/-- What is reordered from text is text. -/
theorem Perm.encoded {texts : List (List Char)} (perm : (texts.map Utf8.encode).Perm second) :
    ∃ others : List (List Char), second = others.map Utf8.encode := by
  have each : ∀ line ∈ second, ∃ text, Utf8.encode text = line := by
    intro line inside
    obtain ⟨text, _, same⟩ := List.mem_map.mp (perm.mem_iff.mpr inside)
    exact ⟨text, same⟩
  clear perm
  induction second with
  | nil => exact ⟨[], rfl⟩
  | cons line rest ih =>
      obtain ⟨text, same⟩ := each line List.mem_cons_self
      obtain ⟨others, tail⟩ := ih fun other inside => each other (List.mem_cons_of_mem _ inside)
      exact ⟨text :: others, by rw [List.map_cons, same, tail]⟩

/-- Both heads come out the same. -/
theorem parseHead_reordered (free : FreeOf crlf requestLine) (lines : HeaderLines first)
    (reordered : Reordered lineName first second) :
    SameOutcome (parseHead (assemble requestLine first))
      (parseHead (assemble requestLine second)) := by
  have others : HeaderLines second := by
    intro line inside
    exact lines line (reordered.perm.mem_iff.mpr inside)
  have length := reordered.length requestLine
  by_cases long : maxHeadBytes < (assemble requestLine first).length
  · rw [parseHead_assembled free lines, if_pos long, parseHead_assembled free others,
      if_pos (length ▸ long)]
    exact .error _ _
  · by_cases decoded : ∃ (requestText : List Char) (texts : List (List Char)),
        requestLine = Utf8.encode requestText ∧ first = texts.map Utf8.encode
    · obtain ⟨requestText, texts, request, encoded⟩ := decoded
      subst request encoded
      obtain ⟨seconds, same⟩ := Perm.encoded reordered.perm
      subst same
      rw [parseHead_text free lines long, parseHead_text free others (length ▸ long), length]
      exact (reordered.text.parseLines requestText).map _
    · have undecoded : ∀ headers, first.Perm headers →
          Utf8.decode (joinLines (requestLine :: headers)) = none := by
        intro headers perm
        cases whole : Utf8.decode (joinLines (requestLine :: headers)) with
        | none => rfl
        | some text =>
            obtain ⟨requestText, texts, request, encoded⟩ := decode_joined whole
            subst encoded
            obtain ⟨firsts, same⟩ := Perm.encoded perm.symm
            exact absurd ⟨requestText, firsts, request, same⟩ decoded
      rw [parseHead_assembled free lines, if_neg long, undecoded first (List.Perm.refl _),
        parseHead_assembled free others, if_neg (length ▸ long), undecoded second reordered.perm]
      exact .error _ _

/-- A line that the header loop skips changes nothing. -/
theorem parseLines_inserted {line : List Char} {name : List Char}
    (named : textName line = some name) (other : name ∉ framingNames) (requestLine : List Char)
    (front back : List (List Char)) :
    parseLines (requestLine :: (front ++ line :: back)) =
      parseLines (requestLine :: (front ++ back)) := by
  obtain ⟨parts, found, same⟩ := Option.map_eq_some_iff.mp named
  have skipped (fields : Fields) : headerLine fields line = .ok fields :=
    headerLine_ignored fields found (same ▸ other)
  by_cases fine : RequestLine requestLine
  · obtain ⟨method, path, version, split, notEmpty, located, versioned⟩ := fine
    rw [parseLines_fineLine _ split notEmpty located versioned,
      parseLines_fineLine _ split notEmpty located versioned]
    apply congrArg
    rw [List.foldlM_append, List.foldlM_append]
    cases front.foldlM headerLine ⟨version == "HTTP/1.1".toList, 0⟩ with
    | error err => rfl
    | ok fields =>
        show (line :: back).foldlM headerLine fields = back.foldlM headerLine fields
        rw [List.foldlM_cons, skipped]
        rfl
  · rw [parseLines_badLine _ fine, parseLines_badLine _ fine]

theorem lineName_text {line : List UInt8} {name : List Char} (named : lineName line = some name) :
    ∃ text, line = Utf8.encode text ∧ textName text = some name := by
  obtain ⟨text, decoded, found⟩ := Option.bind_eq_some_iff.mp named
  exact ⟨text, (Utf8.decode_eq_some.mp decoded).symm, found⟩

theorem length_inserted (requestLine line : List UInt8) (front back : List (List UInt8)) :
    (assemble requestLine (front ++ line :: back)).length =
      (assemble requestLine (front ++ back)).length + (line.length + 2) := by
  simp only [assemble, List.length_append, length_joinLines, List.map_append, List.map_cons,
    List.sum_append, List.sum_cons]
  omega

theorem parseHead_inserted {line : List UInt8} {name : List Char} {front back : List (List UInt8)}
    {head : RequestHead} {headLen : Nat} (free : FreeOf crlf requestLine)
    (lines : HeaderLines (front ++ back)) (lineFree : FreeOf crlf line)
    (named : lineName line = some name) (other : name ∉ framingNames)
    (fits : (assemble requestLine (front ++ line :: back)).length ≤ maxHeadBytes)
    (parsed : parseHead (assemble requestLine (front ++ back)) = .ok (head, headLen)) :
    parseHead (assemble requestLine (front ++ line :: back)) =
      .ok (head, headLen + (line.length + 2)) := by
  have length := length_inserted requestLine line front back
  have short : ¬ maxHeadBytes < (assemble requestLine (front ++ back)).length := by omega
  obtain ⟨text, encoded, textNamed⟩ := lineName_text named
  have whole := parseHead_assembled free lines
  rw [if_neg short, parsed] at whole
  cases decoded : Utf8.decode (joinLines (requestLine :: (front ++ back))) with
  | none =>
      rw [decoded] at whole
      cases whole
  | some all =>
      obtain ⟨requestText, texts, request, headers⟩ := decode_joined decoded
      obtain ⟨fronts, backs, split, frontSame, backSame⟩ := List.map_eq_append_iff.mp headers.symm
      subst request encoded split frontSame backSame
      have inserted : fronts.map Utf8.encode ++ Utf8.encode text :: backs.map Utf8.encode =
          (fronts ++ text :: backs).map Utf8.encode := by
        rw [List.map_append, List.map_cons]
      have nonempty : Utf8.encode text ≠ [] := by
        apply Utf8.encode_nonempty
        intro empty
        rw [empty] at textNamed
        cases textNamed
      have moreLines : HeaderLines ((fronts ++ text :: backs).map Utf8.encode) := by
        rw [← inserted]
        intro line inside
        cases List.mem_append.mp inside with
        | inl early => exact lines line (List.mem_append_left _ early)
        | inr rest =>
            cases List.mem_cons.mp rest with
            | inl same => exact same ▸ ⟨nonempty, lineFree⟩
            | inr late => exact lines line (List.mem_append_right _ late)
      rw [← List.map_append] at lines short parsed length
      rw [inserted] at fits length ⊢
      have before := parseHead_text free lines short
      have after := parseHead_text free moreLines (by omega)
      rw [parseLines_inserted textNamed other] at after
      rw [parsed] at before
      cases read : parseLines (requestText :: (fronts ++ backs)) with
      | error err =>
          rw [read] at before
          cases before
      | ok same =>
          rw [read] at before after
          cases before
          rw [after, length]
          rfl

/-- Header lines of different names may stand in any order, and a line that is none of
the framing headers may stand anywhere. -/
theorem parseHead_order (free : FreeOf crlf requestLine) (lines : HeaderLines first) :
    (∀ second, Reordered lineName first second →
      SameOutcome (parseHead (assemble requestLine first))
        (parseHead (assemble requestLine second))) ∧
    ∀ front back line name head headLen, first = front ++ back → FreeOf crlf line →
      lineName line = some name → name ∉ framingNames →
      (assemble requestLine (front ++ line :: back)).length ≤ maxHeadBytes →
      parseHead (assemble requestLine first) = .ok (head, headLen) →
      parseHead (assemble requestLine (front ++ line :: back)) =
        .ok (head, headLen + (line.length + 2)) := by
  constructor
  · intro second reordered
    exact parseHead_reordered free lines reordered
  · intro front back line name head headLen split lineFree named other fits parsed
    subst split
    exact parseHead_inserted free lines lineFree named other fits parsed

end Bytes

def postLine : List UInt8 := "POST / HTTP/1.1".toUTF8.toList
def hostLine : List UInt8 := "Host: x".toUTF8.toList
def lengthLine : List UInt8 := "Content-Length : 5".toUTF8.toList
def noteLine : List UInt8 := "X-Note:connection: close\n".toUTF8.toList

theorem parseHead_order_post :
    SameOutcome (parseHead (assemble postLine [hostLine, lengthLine]))
        (parseHead (assemble postLine [lengthLine, hostLine])) ∧
      parseHead (assemble postLine [hostLine, noteLine, lengthLine]) =
        .ok (⟨"POST", "/", true, 5⟩, 75) := by
  have free : FreeOf crlf postLine ∧ FreeOf crlf noteLine := by
    unfold FreeOf
    decide +kernel
  have lines : HeaderLines [hostLine, lengthLine] := by
    simp only [HeaderLines, List.forall_mem_cons, FreeOf]
    decide +kernel
  have order := parseHead_order free.1 lines
  have parsed : parseHead (assemble postLine [hostLine, lengthLine]) =
      .ok (⟨"POST", "/", true, 5⟩, 48) := by decide +kernel
  have length : 48 + (noteLine.length + 2) = 75 := by decide +kernel
  constructor
  · exact order.1 _ (Reordered.swap (by decide +kernel) [] [])
  · have inserted := order.2 [hostLine] [lengthLine] noteLine "x-note".toList
      ⟨"POST", "/", true, 5⟩ 48 rfl free.2 (by decide +kernel) (by decide +kernel)
      (by decide +kernel) parsed
    rw [length] at inserted
    exact inserted

end ActorServices.Http
