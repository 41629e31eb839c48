import ActorServices.JsText

set_option autoImplicit false

/- The text that a browser makes of markup: what is read of an element whose `innerHTML` is set.
The parser itself is a parameter. -/
namespace ActorServices.Html

open Js

def lineFeed : UInt16 := 10

def carriageReturn : UInt16 := 13

def null : UInt16 := 0

/-- Makes CR LF and CR a line feed; the flag says that a CR stands right in front. -/
def normalizeFrom : (afterReturn : Bool) → JsString → JsString
  | _, [] => []
  | afterReturn, u :: rest =>
      if u = carriageReturn then lineFeed :: normalizeFrom true rest
      else if afterReturn && u == lineFeed then normalizeFrom false rest
      else u :: normalizeFrom false rest

/-- What is done to the input of the parser before it is read. -/
def normalizeNewlines (text : JsString) : JsString := normalizeFrom false text

/-- What an element shows of a text that went through the parser. -/
def normalized (text : JsString) : JsString := (normalizeNewlines text).filter (· != null)

structure Parser where
  /-- The text of the element once `innerHTML` is set to this. -/
  textContent : JsString → JsString

/-- What the parser does with text, the three references and one element, when it reads the
contents of an element: newlines are normalised in the input, and U+0000 is left out. -/
structure Parser.Standard (parser : Parser) : Prop where
  newlines : ∀ html, parser.textContent html = parser.textContent (normalizeNewlines html)
  nothing : parser.textContent [] = []
  character : ∀ u rest, u ∉ [unit '<', unit '&', null, carriageReturn] →
    parser.textContent (u :: rest) = u :: parser.textContent rest
  dropped : ∀ rest, parser.textContent (null :: rest) = parser.textContent rest
  ampersand : ∀ rest,
    parser.textContent (ascii "&amp;" ++ rest) = unit '&' :: parser.textContent rest
  less : ∀ rest, parser.textContent (ascii "&lt;" ++ rest) = unit '<' :: parser.textContent rest
  greater : ∀ rest,
    parser.textContent (ascii "&gt;" ++ rest) = unit '>' :: parser.textContent rest
  element : ∀ name chunk rest, unit '"' ∉ name → unit '>' ∉ name → unit '<' ∉ chunk →
    parser.textContent
        (ascii "<span class=\"" ++ name ++ ascii "\">" ++ chunk ++ ascii "</span>" ++ rest) =
      parser.textContent chunk ++ parser.textContent rest

section Newlines

variable {front back : JsString}

theorem normalizeFrom_unit {u : UInt16} (plain : u ≠ carriageReturn) (other : u ≠ lineFeed)
    (afterReturn : Bool) (rest : JsString) :
    normalizeFrom afterReturn (u :: rest) = u :: normalizeFrom false rest := by
  have kept : (afterReturn && u == lineFeed) = false := by
    rw [beq_eq_false_iff_ne.mpr other, Bool.and_false]
  rw [normalizeFrom, if_neg plain, kept]
  rfl

theorem normalizeFrom_noReturn (afterReturn : Bool) (text : JsString) :
    carriageReturn ∉ normalizeFrom afterReturn text := by
  induction text generalizing afterReturn with
  | nil => exact List.not_mem_nil
  | cons u rest ih =>
      rw [normalizeFrom]
      split
      · exact List.not_mem_cons_of_ne_of_not_mem (by decide) (ih true)
      · rename_i plain
        split
        · exact ih false
        · exact List.not_mem_cons_of_ne_of_not_mem (Ne.symm plain) (ih false)

theorem normalizeNewlines_self {text : JsString} (clean : carriageReturn ∉ text) :
    normalizeNewlines text = text := by
  unfold normalizeNewlines
  induction text with
  | nil => rfl
  | cons u rest ih =>
      rw [List.mem_cons, not_or] at clean
      rw [normalizeFrom, if_neg (Ne.symm clean.1), Bool.false_and, ih clean.2]
      rfl

theorem normalizeNewlines_twice (text : JsString) :
    normalizeNewlines (normalizeNewlines text) = normalizeNewlines text :=
  normalizeNewlines_self (normalizeFrom_noReturn false text)

/-- The flag is of no consequence in front of anything but a line feed. -/
theorem normalizeFrom_flag (apart : back.head? ≠ some lineFeed) (afterReturn : Bool) :
    normalizeFrom afterReturn back = normalizeNewlines back := by
  cases back with
  | nil => rfl
  | cons u rest =>
      have other : (u == lineFeed) = false :=
        beq_eq_false_iff_ne.mpr fun same => apart (congrArg some same)
      rw [normalizeNewlines, normalizeFrom, normalizeFrom, other, Bool.and_false, Bool.false_and]

/-- A text may be normalised in parts that do not cut a CR LF. -/
theorem normalizeFrom_append (afterReturn : Bool)
    (apart : front.getLast? ≠ some carriageReturn ∨ back.head? ≠ some lineFeed)
    (some_front : front ≠ []) :
    normalizeFrom afterReturn (front ++ back) =
      normalizeFrom afterReturn front ++ normalizeNewlines back := by
  induction front generalizing afterReturn with
  | nil => exact absurd rfl some_front
  | cons u rest ih =>
      rw [List.cons_append, normalizeFrom, normalizeFrom]
      cases rest with
      | nil =>
          rw [List.nil_append]
          split
          · rename_i same
            subst same
            have next : back.head? ≠ some lineFeed := apart.resolve_left (· rfl)
            rw [normalizeFrom_flag next]
            rfl
          · split
            · rfl
            · rfl
      | cons v more =>
          have later := fun flag => ih flag (by rwa [List.getLast?_cons_cons] at apart) nofun
          rw [later, later]
          split
          · rfl
          · split
            · rfl
            · rfl

theorem normalizeNewlines_append
    (apart : front.getLast? ≠ some carriageReturn ∨ back.head? ≠ some lineFeed) :
    normalizeNewlines (front ++ back) = normalizeNewlines front ++ normalizeNewlines back := by
  cases front with
  | nil => rfl
  | cons u rest => exact normalizeFrom_append false apart nofun

/-- A text passes as it is if it has neither a CR nor a U+0000. -/
theorem normalized_self {text : JsString} (clean : carriageReturn ∉ text) (noNull : null ∉ text) :
    normalized text = text := by
  rw [normalized, normalizeNewlines_self clean, List.filter_eq_self]
  intro u among
  exact bne_iff_ne.mpr fun same => noNull (same ▸ among)

theorem normalized_clean (text : JsString) :
    carriageReturn ∉ normalized text ∧ null ∉ normalized text := by
  constructor
  · intro among
    exact normalizeFrom_noReturn false text (List.mem_of_mem_filter among)
  · intro among
    exact bne_iff_ne.mp (List.mem_filter.mp among).2 rfl

end Newlines

section Example

/-- The character reference behind an ampersand, and its length. -/
def reference (rest : JsString) : Option (UInt16 × Nat) :=
  if (ascii "amp;").isPrefixOf rest then some (unit '&', 4)
  else if (ascii "lt;").isPrefixOf rest then some (unit '<', 3)
  else if (ascii "gt;").isPrefixOf rest then some (unit '>', 3)
  else none

/-- Leaves tags out. `skip` units belong to the last reference. -/
def textFrom : (tag : Bool) → (skip : Nat) → JsString → JsString
  | _, _, [] => []
  | true, _, u :: rest => textFrom (u != unit '>') 0 rest
  | false, skip + 1, _ :: rest => textFrom false skip rest
  | false, 0, u :: rest =>
      if u = unit '<' then textFrom true 0 rest
      else if u = null then textFrom false 0 rest
      else if u = unit '&' then
        match reference rest with
        | some (character, length) => character :: textFrom false length rest
        | none => u :: textFrom false 0 rest
      else u :: textFrom false 0 rest

/-- A parser of as much markup as `Parser.Standard` speaks of. -/
def spanParser : Parser where
  textContent html := textFrom false 0 (normalizeNewlines html)

theorem mem_normalizeFrom {u : UInt16} {afterReturn : Bool} {text : JsString}
    (among : u ∈ normalizeFrom afterReturn text) : u = lineFeed ∨ u ∈ text := by
  induction text generalizing afterReturn with
  | nil => exact absurd among List.not_mem_nil
  | cons v rest ih =>
      rw [normalizeFrom] at among
      split at among
      · rcases List.mem_cons.mp among with same | later
        · exact .inl same
        · exact (ih later).imp_right (List.mem_cons_of_mem v)
      · split at among
        · exact (ih among).imp_right (List.mem_cons_of_mem v)
        · rcases List.mem_cons.mp among with same | later
          · exact .inr (same ▸ List.mem_cons_self)
          · exact (ih later).imp_right (List.mem_cons_of_mem v)

theorem isPrefixOf_front {entity : JsString} (clean : unit '<' ∉ entity) (chunk rest : JsString) :
    entity.isPrefixOf (chunk ++ unit '<' :: rest) = entity.isPrefixOf chunk := by
  induction entity generalizing chunk with
  | nil => cases chunk <;> rfl
  | cons u entity ih =>
      rw [List.mem_cons, not_or] at clean
      cases chunk with
      | nil =>
          have other : (u == unit '<') = false := beq_eq_false_iff_ne.mpr (Ne.symm clean.1)
          simp only [List.nil_append, List.isPrefixOf, other, Bool.false_and]
      | cons v chunk => rw [List.cons_append, List.isPrefixOf, List.isPrefixOf, ih clean.2]

theorem reference_front (chunk rest : JsString) :
    reference (chunk ++ unit '<' :: rest) = reference chunk := by
  unfold reference
  rw [isPrefixOf_front (by decide), isPrefixOf_front (by decide), isPrefixOf_front (by decide)]

theorem reference_length {chunk : JsString} {character : UInt16} {length : Nat}
    (found : reference chunk = some (character, length)) : length ≤ chunk.length := by
  have covers : ∀ entity : JsString, entity.isPrefixOf chunk = true →
      entity.length ≤ chunk.length :=
    fun entity begins => (List.isPrefixOf_iff_prefix.mp begins).length_le
  unfold reference at found
  split at found
  · rename_i begins
    cases found
    exact covers _ begins
  · split at found
    · rename_i begins
      cases found
      exact covers _ begins
    · split at found
      · rename_i begins
        cases found
        exact covers _ begins
      · cases found

/-- Text in front of a tag is read as if nothing followed. -/
theorem textFrom_front {chunk : JsString} (clean : unit '<' ∉ chunk) (rest : JsString) {skip : Nat}
    (inside : skip ≤ chunk.length) :
    textFrom false skip (chunk ++ unit '<' :: rest) =
      textFrom false skip chunk ++ textFrom false 0 (unit '<' :: rest) := by
  induction chunk generalizing skip with
  | nil =>
      cases Nat.le_zero.mp inside
      rfl
  | cons u chunk ih =>
      rw [List.mem_cons, not_or] at clean
      cases skip with
      | succ skip =>
          rw [List.cons_append, textFrom, textFrom]
          exact ih clean.2 (Nat.le_of_succ_le_succ inside)
      | zero =>
          have later := ih clean.2 (Nat.zero_le chunk.length)
          rw [List.cons_append, textFrom, textFrom, if_neg (Ne.symm clean.1),
            if_neg (Ne.symm clean.1), reference_front, later]
          split
          · rfl
          · split
            · cases found : reference chunk with
              | none => rfl
              | some result =>
                  obtain ⟨character, length⟩ := result
                  simp only [ih clean.2 (reference_length found), List.cons_append]
            · rfl

theorem textFrom_tag {inner : JsString} (closed : unit '>' ∉ inner) (rest : JsString) :
    textFrom false 0 (unit '<' :: inner ++ unit '>' :: rest) = textFrom false 0 rest := by
  have inside : textFrom true 0 (inner ++ unit '>' :: rest) = textFrom false 0 rest := by
    induction inner with
    | nil => rfl
    | cons u inner ih =>
        rw [List.mem_cons, not_or] at closed
        have open_still : (u != unit '>') = true := bne_iff_ne.mpr (Ne.symm closed.1)
        rw [List.cons_append, textFrom, open_still]
        exact ih closed.2
  exact inside

/-- A reference at the front stands for its character. -/
theorem spanParser_reference {entity : JsString} (u : UInt16)
    (apart : entity.getLast? ≠ some carriageReturn)
    (same : normalizeNewlines entity = entity)
    (stands : ∀ rest, textFrom false 0 (entity ++ rest) = u :: textFrom false 0 rest)
    (rest : JsString) :
    spanParser.textContent (entity ++ rest) = u :: spanParser.textContent rest := by
  simp only [spanParser, normalizeNewlines_append (.inl apart), same, stands]

theorem normalizeNewlines_around {front middle back : JsString}
    (last : front.getLast? ≠ some carriageReturn) (first : back.head? ≠ some lineFeed) :
    normalizeNewlines (front ++ middle ++ back) =
      normalizeNewlines front ++ normalizeNewlines middle ++ normalizeNewlines back := by
  rw [normalizeNewlines_append (.inr first), normalizeNewlines_append (.inl last)]

theorem getLast_closed (front : JsString) {closing : JsString}
    (last : closing.getLast? = some (unit '>')) :
    (front ++ closing).getLast? ≠ some carriageReturn := by
  rw [List.getLast?_append, last, Option.some_or]
  decide

theorem spanParser_element {name chunk : JsString} (rest : JsString) (named : unit '>' ∉ name)
    (clean : unit '<' ∉ chunk) :
    spanParser.textContent
        (ascii "<span class=\"" ++ name ++ ascii "\">" ++ chunk ++ ascii "</span>" ++ rest) =
      spanParser.textContent chunk ++ spanParser.textContent rest := by
  have opening : unit '>' ∉ ascii "span class=\"" ++ normalizeNewlines name ++ [unit '"'] := by
    simp only [List.mem_append, not_or]
    refine ⟨⟨by decide, fun among => ?_⟩, by decide⟩
    exact (mem_normalizeFrom among).elim (by decide) named
  have inner : unit '<' ∉ normalizeNewlines chunk := by
    intro among
    exact (mem_normalizeFrom among).elim (by decide) clean
  have markup : normalizeNewlines
        (ascii "<span class=\"" ++ name ++ ascii "\">" ++ chunk ++ ascii "</span>" ++ rest) =
      unit '<' :: (ascii "span class=\"" ++ normalizeNewlines name ++ [unit '"']) ++ unit '>' ::
        (normalizeNewlines chunk ++ unit '<' :: (ascii "/span" ++ unit '>' ::
          normalizeNewlines rest)) := by
    rw [normalizeNewlines_append (.inl ?last), normalizeNewlines_append (.inr (by decide)),
      normalizeNewlines_append (.inl ?bracket), normalizeNewlines_around (by decide) (by decide)]
    case last => exact getLast_closed _ (show (ascii "</span>").getLast? = _ by decide)
    case bracket => exact getLast_closed _ (show (ascii "\">").getLast? = _ by decide)
    have spans : normalizeNewlines (ascii "<span class=\"") =
      unit '<' :: ascii "span class=\"" := by decide
    have quote : normalizeNewlines (ascii "\">") = [unit '"', unit '>'] := by decide
    have close : normalizeNewlines (ascii "</span>") =
      unit '<' :: ascii "/span" ++ [unit '>'] := by decide
    simp only [spans, quote, close, List.append_assoc, List.cons_append, List.nil_append]
  simp only [spanParser, markup]
  rw [textFrom_tag opening, textFrom_front inner _ (Nat.zero_le _)]
  exact congrArg _ (textFrom_tag (show unit '>' ∉ ascii "/span" by decide) _)

theorem spanParser_standard : spanParser.Standard where
  newlines html := by simp only [spanParser, normalizeNewlines_twice]
  nothing := rfl
  character u rest plain := by
    simp only [List.mem_cons, List.not_mem_nil, or_false, not_or] at plain
    obtain ⟨noLess, noAmpersand, noNull, noReturn⟩ := plain
    have front : normalizeNewlines (u :: rest) = u :: normalizeNewlines rest := by
      rw [normalizeNewlines, normalizeFrom, if_neg noReturn, Bool.false_and]
      rfl
    simp only [spanParser, front, textFrom, if_neg noLess, if_neg noNull, if_neg noAmpersand]
  dropped rest := rfl
  ampersand := spanParser_reference _ (by decide) (by decide) fun _ => rfl
  less := spanParser_reference _ (by decide) (by decide) fun _ => rfl
  greater := spanParser_reference _ (by decide) (by decide) fun _ => rfl
  element name chunk rest _ named clean := spanParser_element rest named clean

end Example

end ActorServices.Html
