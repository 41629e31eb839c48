import ActorServices.HighlightSafe
import ActorServices.HtmlText

set_option autoImplicit false

namespace ActorServices.Pastebin.App

open Js
open Html (Parser carriageReturn null normalizeFrom normalizeNewlines normalized)

/-- What `renderPayload` sets on the output element. -/
inductive Output
  | textContent (text : JsString)
  | innerHTML (html : JsString)
  deriving DecidableEq

def renderPayload (payload : Payload) : Output :=
  match highlight payload.t payload.s with
  | none => .textContent payload.t
  | some html => .innerHTML html

/-- The text that the element then has. -/
def Output.shown (parser : Parser) : Output → JsString
  | .textContent text => text
  | .innerHTML html => parser.textContent html

/-- The element shows the text, but that markup normalises the newlines of each of its parts and
leaves U+0000 out. -/
structure Output.Shows (parser : Parser) (output : Output) (text : JsString) : Prop where
  parts : output.shown parser = text ∨ ∃ parts : List JsString, parts.flatten = text ∧
    output.shown parser = parts.flatMap normalized
  exact : carriageReturn ∉ text → null ∉ text → output.shown parser = text

variable {parser : Parser} {text rest : JsString}

theorem escapeUnit_normal {u : UInt16} (plain : u ≠ carriageReturn) (other : u ≠ Html.lineFeed)
    (afterReturn : Bool) (rest : JsString) :
    normalizeFrom afterReturn (escapeUnit u ++ rest) =
      escapeUnit u ++ normalizeFrom false rest := by
  have entity : ∀ entity ∈ entities, ∀ v ∈ entity, v ≠ carriageReturn ∧ v ≠ Html.lineFeed := by
    intro entity known v among
    have printed := entities_units entity known v among
    constructor
    · rintro rfl
      exact absurd printed (by decide)
    · rintro rfl
      exact absurd printed (by decide)
  have passes : ∀ units : JsString, units ≠ [] →
      (∀ v ∈ units, v ≠ carriageReturn ∧ v ≠ Html.lineFeed) →
      normalizeFrom afterReturn (units ++ rest) = units ++ normalizeFrom false rest := by
    intro units
    induction units generalizing afterReturn with
    | nil => exact fun nonempty _ => absurd rfl nonempty
    | cons v units ih =>
        intro _ clean
        obtain ⟨first, later⟩ := List.forall_mem_cons.mp clean
        rw [List.cons_append, Html.normalizeFrom_unit first.1 first.2]
        cases units with
        | nil => rfl
        | cons w units =>
            rw [ih false nofun later]
            rfl
  apply passes _ (escapeUnit_ne_nil u)
  rcases escapeUnit_cases u with among | ⟨same, _⟩
  · exact entity _ among
  · rw [same]
    exact fun v among => List.mem_singleton.mp among ▸ ⟨plain, other⟩

/-- Newlines may as well be normalised before the text is escaped. -/
theorem normalizeFrom_escapeHtml (afterReturn : Bool) (text : JsString) :
    normalizeFrom afterReturn (escapeHtml text) = escapeHtml (normalizeFrom afterReturn text) := by
  induction text generalizing afterReturn with
  | nil => rfl
  | cons u text ih =>
      by_cases isReturn : u = carriageReturn
      · subst isReturn
        have turned : escapeHtml (Html.lineFeed :: normalizeFrom true text) =
            Html.lineFeed :: escapeHtml (normalizeFrom true text) := escapeHtml_cons _ _
        exact (congrArg _ (ih true)).trans turned.symm
      · by_cases isFeed : u = Html.lineFeed
        · subst isFeed
          cases afterReturn with
          | true => exact ih false
          | false => exact congrArg _ (ih false)
        · rw [escapeHtml_cons, escapeUnit_normal isReturn isFeed,
            Html.normalizeFrom_unit isReturn isFeed, escapeHtml_cons, ih]

/-- The parser takes escaped text back, without its U+0000. -/
theorem textContent_escaped (standard : parser.Standard) (clean : carriageReturn ∉ text)
    (rest : JsString) :
    parser.textContent (escapeHtml text ++ rest) =
      text.filter (· != null) ++ parser.textContent rest := by
  induction text with
  | nil => rfl
  | cons u text ih =>
      rw [List.mem_cons, not_or] at clean
      have later := ih clean.2
      rw [escapeHtml_cons, List.append_assoc, escapeUnit]
      split
      · rename_i same
        subst same
        rw [standard.ampersand, later]
        rfl
      · rename_i noAmpersand
        split
        · rename_i same
          subst same
          rw [standard.less, later]
          rfl
        · rename_i noLess
          split
          · rename_i same
            subst same
            rw [standard.greater, later]
            rfl
          · rw [List.singleton_append]
            by_cases isNull : u = null
            · subst isNull
              rw [standard.dropped, later]
              rfl
            · have plain : u ∉ [unit '<', unit '&', null, carriageReturn] := by
                simp only [List.mem_cons, List.not_mem_nil, or_false, not_or]
                exact ⟨noLess, noAmpersand, isNull, Ne.symm clean.1⟩
              have kept := List.filter_cons_of_pos (p := (· != null)) (l := text)
                (bne_iff_ne.mpr isNull)
              rw [standard.character u _ plain, later, kept]
              rfl

theorem textContent_segment (standard : parser.Standard) {segment : Segment}
    (clean : carriageReturn ∉ segment.text) (rest : JsString) :
    parser.textContent (segment.html ++ rest) =
      segment.text.filter (· != null) ++ parser.textContent rest := by
  have inner := textContent_escaped standard clean []
  rw [List.append_nil, standard.nothing, List.append_nil] at inner
  obtain ⟨kind, text⟩ := segment
  cases kind with
  | none => exact textContent_escaped standard clean rest
  | some kind =>
      have named : unit '"' ∉ ascii kind.className ∧ unit '>' ∉ ascii kind.className := by
        cases kind <;> decide
      have element := standard.element (ascii kind.className) (escapeHtml text) rest named.1
        named.2 (escapeHtml_clean text).1
      exact element.trans (congrArg (· ++ _) inner)

/-- A piece as the parser takes it, with its newlines normalised. -/
def Segment.normal (segment : Segment) : Segment :=
  { segment with text := normalizeNewlines segment.text }

theorem openTag_normal (kind : TokenKind) : normalizeNewlines (openTag kind) = openTag kind := by
  cases kind <;> decide

theorem openTag_begins (kind : TokenKind) : (openTag kind).head? = some (unit '<') := by
  cases kind <;> rfl

theorem openTag_ends (kind : TokenKind) : (openTag kind).getLast? = some (unit '>') := by
  cases kind <;> decide

/-- Behind a piece that is no token comes the end, or a tag. -/
theorem segments_begin {text : JsString} {segments : List Segment}
    (apart : (⟨none, text⟩ :: segments).IsChain Apart) :
    (segments.flatMap Segment.html).head? ≠ some Html.lineFeed := by
  cases segments with
  | nil => nofun
  | cons next rest =>
      have token := (List.isChain_cons.mp apart).1 next rfl
      obtain ⟨kind, inner⟩ := next
      cases kind with
      | none => exact token.elim nofun nofun
      | some kind =>
          have begins : (Segment.html ⟨some kind, inner⟩).head? = some (unit '<') := by
            simp only [Segment.html, span]
            rw [List.head?_append, List.head?_append, openTag_begins]
            rfl
          rw [List.flatMap_cons, List.head?_append, begins, Option.some_or]
          decide

theorem segments_normal {segments : List Segment} (apart : segments.IsChain Apart) :
    normalizeNewlines (segments.flatMap Segment.html) =
      (segments.map Segment.normal).flatMap Segment.html := by
  induction segments with
  | nil => rfl
  | cons segment rest ih =>
      have later := ih apart.tail
      rw [List.flatMap_cons, List.map_cons, List.flatMap_cons, ← later]
      obtain ⟨kind, text⟩ := segment
      have escaped : normalizeNewlines (escapeHtml text) = escapeHtml (normalizeNewlines text) :=
        normalizeFrom_escapeHtml false text
      cases kind with
      | some kind =>
          have closed : normalizeNewlines closeTag = closeTag := by decide
          have opens : (openTag kind).getLast? ≠ some carriageReturn := by
            rw [openTag_ends]
            decide
          have ends := Html.getLast_closed (openTag kind ++ escapeHtml text)
            (show closeTag.getLast? = _ by decide)
          simp only [Segment.html, Segment.normal, span]
          rw [Html.normalizeNewlines_append (.inl ends),
            Html.normalizeNewlines_around opens (by decide), openTag_normal, escaped, closed]
      | none =>
          simp only [Segment.html, Segment.normal]
          rw [Html.normalizeNewlines_append (.inr (segments_begin apart)), escaped]

theorem segments_textContent (standard : parser.Standard) {segments : List Segment}
    (apart : segments.IsChain Apart) :
    parser.textContent (segments.flatMap Segment.html) =
      segments.flatMap fun segment => normalized segment.text := by
  rw [standard.newlines, segments_normal apart]
  clear apart
  induction segments with
  | nil => exact standard.nothing
  | cons segment rest ih =>
      rw [List.map_cons, List.flatMap_cons, List.flatMap_cons, ← ih]
      exact textContent_segment standard (Html.normalizeFrom_noReturn false segment.text) _

/-- Nothing is changed in a text without CR and U+0000, and what is read has neither. -/
theorem normalized_parts (parts : List JsString) :
    parts.flatMap normalized = parts.flatten ↔
      carriageReturn ∉ parts.flatten ∧ null ∉ parts.flatten := by
  constructor
  · intro same
    constructor
    · intro among
      rw [← same] at among
      obtain ⟨part, -, inside⟩ := List.mem_flatMap.mp among
      exact (Html.normalized_clean part).1 inside
    · intro among
      rw [← same] at among
      obtain ⟨part, -, inside⟩ := List.mem_flatMap.mp among
      exact (Html.normalized_clean part).2 inside
  · intro clean
    have kept : ∀ part ∈ parts, normalized part = part := by
      intro part among
      have inside : ∀ u ∈ part, u ∈ parts.flatten :=
        fun u here => List.mem_flatten_of_mem among here
      exact Html.normalized_self (fun here => clean.1 (inside _ here))
        fun here => clean.2 (inside _ here)
    rw [List.flatMap_def, List.map_congr_left kept, List.map_id']

/-- Whatever is decrypted, the element shows its text. -/
theorem renderPayload_shows (standard : parser.Standard) (payload : Payload) :
    (renderPayload payload).Shows parser payload.t := by
  unfold renderPayload
  cases shown : highlight payload.t payload.s with
  | none => exact ⟨.inl rfl, fun _ _ => rfl⟩
  | some html =>
      obtain ⟨segments, apart, texts, htmls⟩ := highlight_segments shown
      have read := segments_textContent standard apart
      rw [← htmls] at read
      have whole : (segments.map Segment.text).flatten = payload.t := by
        rw [← List.flatMap_def, texts]
      have parted : parser.textContent html = (segments.map Segment.text).flatMap normalized := by
        rw [read, List.flatMap_map]
      refine ⟨.inr ⟨segments.map Segment.text, whole, parted⟩, fun noReturn noNull => ?_⟩
      have kept := (normalized_parts (segments.map Segment.text)).mpr
      rw [whole] at kept
      exact parted.trans (kept ⟨noReturn, noNull⟩)

/-- The markup is the escaped text with spans of the four classes around parts of it. The parser
shows these parts with their newlines normalised and without U+0000. -/
structure Highlighted (parser : Parser) (text html : JsString) : Prop where
  tagged : Tagged html
  lossless : deleteTags html = escapeHtml text
  parts : ∃ segments : List Segment, segments.IsChain Apart ∧
    segments.flatMap Segment.text = text ∧ html = segments.flatMap Segment.html ∧
    parser.textContent html = segments.flatMap fun segment => normalized segment.text
  shown : parser.textContent html = text ↔ carriageReturn ∉ text ∧ null ∉ text

theorem highlight_safe (standard : parser.Standard) {text html : JsString} {syntaxHint : Value}
    (shown : highlight text syntaxHint = some html) : Highlighted parser text html := by
  obtain ⟨segments, apart, texts, htmls⟩ := highlight_segments shown
  have read := segments_textContent standard apart
  rw [← htmls] at read
  constructor
  · exact htmls ▸ segments_tagged segments
  · rw [htmls, segments_deleted, texts]
  · exact ⟨segments, apart, texts, htmls, read⟩
  · have exact := normalized_parts (segments.map Segment.text)
    rw [List.flatMap_map, ← List.flatMap_def, texts] at exact
    rw [read]
    exact exact

theorem highlight_safe_comment :
    ∃ html, highlight (ascii "if<1//&\r\n") (.string (ascii "c")) = some html ∧
      deleteTags html = ascii "if&lt;1//&amp;\r\n" ∧
      Html.spanParser.textContent html = ascii "if<1//&\n\n" ∧
      Highlighted Html.spanParser (ascii "if<1//&\r\n") html := by
  have shown : highlight (ascii "if<1//&\r\n") (.string (ascii "c")) =
      some (span .keyword (ascii "if") ++ ascii "&lt;" ++ span .number (ascii "1") ++
        span .comment (ascii "//&amp;\r") ++ ascii "\n") := by
    decide
  have safe := highlight_safe Html.spanParser_standard shown
  have escaped : escapeHtml (ascii "if<1//&\r\n") = ascii "if&lt;1//&amp;\r\n" := by decide
  exact ⟨_, shown, safe.lossless.trans escaped, by decide, safe⟩

/-- A browser makes one character of CR LF, also in what is set as `innerHTML`. -/
theorem highlight_newline :
    Html.spanParser.Standard ∧
      ∃ html, highlight (ascii "a\r\nb") (.string (ascii "c")) = some html ∧
        ∀ parser : Parser, parser.Standard → parser.textContent html = ascii "a\nb" ∧
          parser.textContent html ≠ ascii "a\r\nb" := by
  refine ⟨Html.spanParser_standard, ascii "a\r\nb", by decide, ?_⟩
  intro parser standard
  have input : normalizeNewlines (ascii "a\r\nb") = escapeHtml (ascii "a\nb") ++ [] := by decide
  have read : parser.textContent (ascii "a\r\nb") = ascii "a\nb" := by
    rw [standard.newlines, input, textContent_escaped standard (by decide), standard.nothing]
    decide
  refine ⟨read, ?_⟩
  rw [read]
  decide

end ActorServices.Pastebin.App
