import Mathlib.Data.List.Chain
import ActorServices.Highlight

set_option autoImplicit false

namespace ActorServices.Pastebin.App

open Js Regex

section Entities

/-- A unit of one of the three entities. -/
def isEntityUnit (u : UInt16) : Bool := (ascii "&ampltg;").contains u

def entities : List JsString := [ascii "&amp;", ascii "&lt;", ascii "&gt;"]

/-- What is left of an entity behind its first units. -/
def entityTails : List JsString :=
  [ascii "amp;", ascii "mp;", ascii "p;", ascii ";", ascii "lt;", ascii "t;", ascii "gt;"]

theorem entities_units : ∀ entity ∈ entities, ∀ u ∈ entity, isEntityUnit u = true := by
  have checked : (entities.all fun entity => entity.all isEntityUnit) = true := by
    decide
  intro entity among
  exact List.all_eq_true.mp (List.all_eq_true.mp checked entity among)

theorem quotes_plain {quote : UInt16} (listed : quote ∈ quotes) : isEntityUnit quote = false := by
  have checked : (quotes.all fun quote => !isEntityUnit quote) = true := by decide
  simpa using List.all_eq_true.mp checked quote listed

theorem digit_plain {u : UInt16} (digit : isDigit u = true) : isEntityUnit u = false := by
  have checked : ((ascii "&ampltg;").all fun u => !isDigit u) = true := by decide
  cases entity : isEntityUnit u with
  | false => rfl
  | true =>
      have letter := List.all_eq_true.mp checked u (List.contains_iff_mem.mp entity)
      rw [digit] at letter
      cases letter

theorem entities_inits : ∀ entity ∈ entities, ∀ inner ∈ entity.inits, inner ≠ [] →
    unit '&' ∈ inner := by
  decide

theorem entities_tails : ∀ entity ∈ entities, ∀ outer ∈ entity.tails, outer ≠ [] →
    outer ≠ entity → outer ∈ entityTails := by
  decide

/-- A unit stays as it is, or an entity stands for it. -/
theorem escapeUnit_cases (u : UInt16) :
    escapeUnit u ∈ entities ∨ escapeUnit u = [u] ∧ u ≠ unit '<' ∧ u ≠ unit '>' := by
  unfold escapeUnit
  split
  · exact .inl (by decide)
  · split
    · exact .inl (by decide)
    · rename_i noLess
      split
      · exact .inl (by decide)
      · rename_i noGreater
        exact .inr ⟨rfl, noLess, noGreater⟩

variable {u : UInt16} {inner outer : JsString}

/-- A division inside the units that stand for one is a division of an entity. -/
theorem escapeUnit_inside (split : escapeUnit u = inner ++ outer) (some_inner : inner ≠ [])
    (some_outer : outer ≠ []) : escapeUnit u ∈ entities := by
  cases escapeUnit_cases u with
  | inl entity => exact entity
  | inr single =>
      have lengths := congrArg List.length (single.1.symm.trans split)
      have inside := List.length_pos_iff.mpr some_inner
      have outside := List.length_pos_iff.mpr some_outer
      simp only [List.length_singleton, List.length_append] at lengths
      omega

/-- The parts of an entity that is torn. -/
structure Torn (inner outer : JsString) : Prop where
  begins : unit '&' ∈ inner
  last : ∃ u, inner.getLast? = some u ∧ isEntityUnit u = true
  next : ∃ u, outer.head? = some u ∧ isEntityUnit u = true
  tail : outer ∈ entityTails

theorem torn_inside (split : escapeUnit u = inner ++ outer) (some_inner : inner ≠ [])
    (some_outer : outer ≠ []) : Torn inner outer := by
  have entity := escapeUnit_inside split some_inner some_outer
  have units := entities_units _ entity
  rw [split] at units
  constructor
  · apply entities_inits _ entity _ _ some_inner
    rw [List.mem_inits, split]
    exact List.prefix_append _ _
  · refine ⟨inner.getLast some_inner, List.getLast?_eq_some_getLast some_inner, units _ ?_⟩
    exact List.mem_append_left _ (List.getLast_mem some_inner)
  · refine ⟨outer.head some_outer, List.head?_eq_some_head some_outer, units _ ?_⟩
    exact List.mem_append_right _ (List.head_mem some_outer)
  · apply entities_tails _ entity _ _ some_outer
    · intro whole
      rw [split, List.self_eq_append_left] at whole
      exact some_inner whole
    · rw [List.mem_tails, split]
      exact List.suffix_append _ _

/-- A division of an escaped text divides the text, or an entity in it. -/
theorem escapeHtml_split {text front back : JsString} (split : escapeHtml text = front ++ back) :
    (∃ left right, text = left ++ right ∧ front = escapeHtml left ∧ back = escapeHtml right) ∨
      ∃ left u right inner outer, text = left ++ u :: right ∧ front = escapeHtml left ++ inner ∧
        back = outer ++ escapeHtml right ∧ escapeUnit u = inner ++ outer ∧ inner ≠ [] ∧
          outer ≠ [] := by
  rw [escapeHtml, List.flatMap_def, List.flatten_eq_append_iff] at split
  cases split with
  | inl clean =>
      obtain ⟨lefts, rights, units, same, same'⟩ := clean
      obtain ⟨left, right, whole, mapped, mapped'⟩ := List.map_eq_append_iff.mp units
      subst mapped mapped'
      exact .inl ⟨left, right, whole, same, same'⟩
  | inr torn =>
      obtain ⟨lefts, inner, c, outer, rights, units, same, same'⟩ := torn
      obtain ⟨left, others, whole, mapped, mapped'⟩ := List.map_eq_append_iff.mp units
      obtain ⟨u, right, parts, here, mapped''⟩ := List.map_eq_cons_iff.mp mapped'
      subst mapped mapped'' parts
      cases inner with
      | nil =>
          refine .inl ⟨left, u :: right, whole, ?_, ?_⟩
          · rw [same, List.append_nil]
            rfl
          · rw [same', escapeHtml, List.flatMap_cons, here]
            rfl
      | cons d inner =>
          exact .inr ⟨left, u, right, d :: inner, c :: outer, whole, same, same', here, nofun,
            nofun⟩

end Entities

section Tokens

variable {text : JsString}

/-- What a match must not do: end inside an entity. -/
def Whole (text rest : JsString) : Prop :=
  text ≠ [] ∧ ∀ front inner outer back, text = front ++ inner → rest = outer ++ back →
    ¬ Torn inner outer

theorem whole_last {u : UInt16} (plain : isEntityUnit u = false) (front rest : JsString) :
    Whole (front ++ [u]) rest := by
  refine ⟨List.append_ne_nil_of_right_ne_nil _ nofun, ?_⟩
  intro other inner outer back split _ torn
  obtain ⟨last, found, entity⟩ := torn.last
  have ends_in := congrArg List.getLast? split
  rw [List.getLast?_concat, List.getLast?_append, found, Option.some_or] at ends_in
  have same : u = last := Option.some.inj ends_in
  rw [← same, plain] at entity
  cases entity

theorem whole_next {text rest : JsString} (nonempty : text ≠ [])
    (plain : ∀ u, rest.head? = some u → isEntityUnit u = false) : Whole text rest := by
  refine ⟨nonempty, ?_⟩
  intro front inner outer back _ split torn
  obtain ⟨first, found, entity⟩ := torn.next
  have head : rest.head? = some first := by
    rw [split, List.head?_append, found, Option.some_or]
  rw [plain first head] at entity
  cases entity

theorem whole_clean {text : JsString} (nonempty : text ≠ []) (clean : unit '&' ∉ text)
    (rest : JsString) : Whole text rest := by
  refine ⟨nonempty, ?_⟩
  intro front inner outer back split _ torn
  apply clean
  rw [split]
  exact List.mem_append_right _ torn.begins

theorem blockComment_matches (matched : blockComment.Matches text) :
    ∃ inner, text = ascii "/*" ++ inner ++ [unit '*', unit '/'] := by
  obtain ⟨start, others, split, opening, more⟩ := matches_seq matched
  obtain ⟨inner, ending, split', _, closing⟩ := matches_seq more
  refine ⟨inner, ?_⟩
  rw [split, split', matches_literal opening, matches_literal closing, List.append_assoc]
  rfl

theorem restOfLine_matches {opening : String} (matched : (restOfLine opening).Matches text) :
    ∃ others, text = ascii opening ++ others := by
  obtain ⟨start, others, split, literal, _⟩ := matches_seq matched
  exact ⟨others, by rw [split, matches_literal literal]⟩

theorem quoted_matches {quote : UInt16} (matched : (quoted quote).Matches text) :
    ∃ inner, text = quote :: inner ++ [quote] := by
  obtain ⟨start, others, split, opening, more⟩ := matches_seq matched
  obtain ⟨inner, ending, split', _, closing⟩ := matches_seq more
  obtain ⟨first, single, same⟩ := matches_symbol opening
  obtain ⟨last, single', same'⟩ := matches_symbol closing
  have left : first = quote := by simpa using same
  have right : last = quote := by simpa using same'
  refine ⟨inner, ?_⟩
  rw [split, split', single, single', left, right]
  rfl

theorem number_matches (matched : number.Matches text) :
    ∃ u others, text = u :: others ∧ isDigit u = true ∧
      ∀ u ∈ text, isNumberUnit u = true := by
  obtain ⟨none, digits, split, start, more⟩ := matches_seq matched
  obtain ⟨first, others, split', digit, rest⟩ := matches_seq more
  obtain ⟨run, last, split'', units, ending⟩ := matches_seq rest
  obtain ⟨u, single, passed⟩ := matches_symbol digit
  have spelt : text = u :: run := by
    rw [split, split', split'', matches_boundary start, matches_boundary ending, single,
      List.nil_append, List.append_nil, List.singleton_append]
  refine ⟨u, run, spelt, passed, ?_⟩
  intro v among
  rw [spelt, List.mem_cons] at among
  cases among with
  | inl first =>
      rw [first, isNumberUnit, isWordUnit, isIdUnit]
      unfold isDigit at passed
      rw [passed]
      rfl
  | inr later => exact matches_star_symbol units v later

theorem keyword_matches (matched : keyword.Matches text) :
    ∃ word ∈ keywords, text = ascii word := by
  obtain ⟨none, others, split, start, more⟩ := matches_seq matched
  obtain ⟨spelt, last, split', found, ending⟩ := matches_seq more
  obtain ⟨regex, among, one⟩ := matches_oneOf found
  obtain ⟨word, listed, same⟩ := List.mem_map.mp among
  subst same
  refine ⟨word, listed, ?_⟩
  rw [split, split', matches_boundary start, matches_boundary ending, matches_literal one,
    List.nil_append, List.append_nil]

/-- What a search finds from a position: a text that stands there, and is whole. -/
def Finds (start next : Position UInt16) : Prop :=
  ∃ text, start.rest = text ++ next.rest ∧ next = start.advance text next.rest ∧
    Whole text next.rest

variable {start next : Position UInt16}

theorem finds_matched {regex : Regex UInt16}
    (head : (regex.ends isWordUnit start).head? = some next)
    (whole : ∀ text, regex.Matches text → Whole text next.rest) : Finds start next := by
  obtain ⟨text, matched, split, moved⟩ := ends_reaches (List.mem_of_head? head)
  exact ⟨text, split, moved, whole text matched⟩

theorem finds_restOfLine {opening : String} (nonempty : ascii opening ≠ [])
    (head : ((restOfLine opening).ends isWordUnit start).head? = some next) :
    Finds start next := by
  obtain ⟨rest, split, found⟩ := literal_seq_head head
  rw [star_symbol_head] at found
  have moved := (Option.some.inj found).symm
  have left : next.rest = rest.dropWhile (· != 10) := by
    rw [moved]
    rfl
  obtain ⟨text, matched, split', moved'⟩ := ends_reaches (List.mem_of_head? head)
  refine ⟨text, split', moved', ?_⟩
  apply whole_next
  · obtain ⟨others, spelt⟩ := restOfLine_matches matched
    rw [spelt]
    exact List.append_ne_nil_of_left_ne_nil nonempty _
  · intro u first
    -- the line stops in front of a line feed only
    have stop := List.head?_dropWhile_not (· != (10 : UInt16)) rest
    rw [← left, first] at stop
    have feed : u = 10 := by simpa using stop
    subst feed
    decide

theorem finds_comment (head : (comment.ends isWordUnit start).head? = some next) :
    Finds start next := by
  obtain ⟨regex, among, found⟩ := oneOf_head head
  simp only [List.mem_cons, List.not_mem_nil, or_false] at among
  rcases among with block | slashes | hash
  · subst block
    apply finds_matched found
    intro text matched
    obtain ⟨inner, spelt⟩ := blockComment_matches matched
    have last : text = (ascii "/*" ++ inner ++ [unit '*']) ++ [unit '/'] := by
      rw [spelt]
      simp
    rw [last]
    exact whole_last (by decide) _ _
  · subst slashes
    exact finds_restOfLine (by decide) found
  · subst hash
    exact finds_restOfLine (by decide) found

theorem finds_string (head : (string.ends isWordUnit start).head? = some next) :
    Finds start next := by
  obtain ⟨regex, among, found⟩ := oneOf_head head
  obtain ⟨quote, listed, same⟩ := List.mem_map.mp among
  subst same
  apply finds_matched found
  intro text matched
  obtain ⟨inner, spelt⟩ := quoted_matches matched
  rw [spelt]
  exact whole_last (quotes_plain listed) _ _

theorem finds_number (head : (number.ends isWordUnit start).head? = some next) :
    Finds start next := by
  apply finds_matched head
  intro text matched
  obtain ⟨u, others, spelt, _, units⟩ := number_matches matched
  apply whole_clean
  · rw [spelt]
    nofun
  · intro among
    exact absurd (units _ among) (by decide)

theorem finds_keyword (head : (keyword.ends isWordUnit start).head? = some next) :
    Finds start next := by
  apply finds_matched head
  intro text matched
  obtain ⟨word, listed, spelt⟩ := keyword_matches matched
  have plain : ∀ word ∈ keywords, ascii word ≠ [] ∧ unit '&' ∉ ascii word := by decide
  rw [spelt]
  exact whole_clean (plain word listed).1 (plain word listed).2 _

theorem exec_finds {kind : TokenKind}
    (found : exec isWordUnit HL start = some (kind, next)) : Finds start next := by
  obtain ⟨regex, among, head⟩ := exec_some found
  simp only [HL, List.mem_cons, List.not_mem_nil, or_false, Prod.mk.injEq] at among
  rcases among with ⟨_, rfl⟩ | ⟨_, rfl⟩ | ⟨_, rfl⟩ | ⟨_, rfl⟩
  · exact finds_comment head
  · exact finds_string head
  · exact finds_number head
  · exact finds_keyword head

theorem comment_begins (matched : comment.Matches text) :
    ∃ u others, text = u :: others ∧ isEntityUnit u = false := by
  obtain ⟨regex, among, one⟩ := matches_oneOf matched
  simp only [List.mem_cons, List.not_mem_nil, or_false] at among
  rcases among with block | slashes | hash
  · subst block
    obtain ⟨inner, spelt⟩ := blockComment_matches one
    exact ⟨unit '/', _, spelt, by decide⟩
  · subst slashes
    obtain ⟨others, spelt⟩ := restOfLine_matches one
    exact ⟨unit '/', _, spelt, by decide⟩
  · subst hash
    obtain ⟨others, spelt⟩ := restOfLine_matches one
    exact ⟨unit '#', _, spelt, by decide⟩

theorem string_begins (matched : string.Matches text) :
    ∃ u others, text = u :: others ∧ isEntityUnit u = false := by
  obtain ⟨regex, among, one⟩ := matches_oneOf matched
  obtain ⟨quote, listed, same⟩ := List.mem_map.mp among
  subst same
  obtain ⟨inner, spelt⟩ := quoted_matches one
  exact ⟨quote, _, spelt, quotes_plain listed⟩

theorem number_begins (matched : number.Matches text) :
    ∃ u others, text = u :: others ∧ isEntityUnit u = false := by
  obtain ⟨u, others, spelt, digit, _⟩ := number_matches matched
  exact ⟨u, others, spelt, digit_plain digit⟩

/-- No keyword agrees with the rest of an entity. -/
theorem keywords_apart : ∀ word ∈ keywords, ∀ tail ∈ entityTails,
    ¬ ascii word <+: tail ∧ ¬ tail <+: ascii word := by
  have checked : (keywords.all fun word => entityTails.all fun tail =>
      !(ascii word).isPrefixOf tail && !tail.isPrefixOf (ascii word)) = true := by
    decide
  intro word listed tail among
  have entry := List.all_eq_true.mp (List.all_eq_true.mp checked word listed) tail among
  simpa only [Bool.and_eq_true, Bool.not_eq_true', ← Bool.not_eq_true,
    List.isPrefixOf_iff_prefix] using entry

theorem tails_begin (tail : JsString) (inside : tail ∈ entityTails) :
    ∃ u others, tail = u :: others ∧ isEntityUnit u = true := by
  have heads : ∀ tail ∈ entityTails, tail.head?.any isEntityUnit = true := by decide
  have head := heads tail inside
  cases tail with
  | nil => cases head
  | cons u others => exact ⟨u, others, rfl, head⟩

/-- Nothing is found inside an entity. -/
theorem exec_inside {before tail rest : JsString} (inside : tail ∈ entityTails) :
    exec isWordUnit HL ⟨before, tail ++ rest⟩ = none := by
  obtain ⟨v, more, here, entity⟩ := tails_begin tail inside
  apply exec_none
  intro entry among next reached
  obtain ⟨text, matched, split, _⟩ := reached
  have apart : ¬ ∃ u others, text = u :: others ∧ isEntityUnit u = false := by
    intro begins
    obtain ⟨u, others, spelt, plain⟩ := begins
    rw [here, spelt] at split
    have same : v = u := (List.cons.inj split).1
    rw [← same, entity] at plain
    cases plain
  simp only [HL, List.mem_cons, List.not_mem_nil, or_false] at among
  rcases among with rfl | rfl | rfl | rfl
  · exact apart (comment_begins matched)
  · exact apart (string_begins matched)
  · exact apart (number_begins matched)
  · obtain ⟨word, listed, spelt⟩ := keyword_matches matched
    have prefixes := keywords_apart word listed tail inside
    rw [spelt] at split
    cases List.append_eq_append_iff.mp split with
    | inl longer =>
        obtain ⟨others, same, _⟩ := longer
        exact prefixes.2 ⟨others, same.symm⟩
    | inr shorter =>
        obtain ⟨others, same, _⟩ := shorter
        exact prefixes.1 ⟨others, same.symm⟩

end Tokens

/-- A piece of the original text, and the kind of the token that it is, if it is one. -/
structure Segment where
  kind : Option TokenKind
  text : JsString
  deriving DecidableEq

def Segment.html (segment : Segment) : JsString :=
  match segment.kind with
  | some kind => span kind (escapeHtml segment.text)
  | none => escapeHtml segment.text

section Segments

variable {text before : JsString}

theorem escapeHtml_cons (u : UInt16) (text : JsString) :
    escapeHtml (u :: text) = escapeUnit u ++ escapeHtml text := List.flatMap_cons

theorem escapeUnit_ne_nil (u : UInt16) : escapeUnit u ≠ [] := by
  cases escapeUnit_cases u with
  | inl entity =>
      have long : ∀ entity ∈ entities, entity ≠ [] := by decide
      exact long _ entity
  | inr single =>
      rw [single.1]
      nofun

theorem escapeHtml_append (front back : JsString) :
    escapeHtml (front ++ back) = escapeHtml front ++ escapeHtml back :=
  List.flatMap_append

/-- A match is a part of the original text, escaped. -/
theorem exec_part {kind : TokenKind} {next : Position UInt16}
    (found : exec isWordUnit HL ⟨before, escapeHtml text⟩ = some (kind, next)) :
    ∃ front back, front ≠ [] ∧ text = front ++ back ∧
      next = Position.advance ⟨before, escapeHtml text⟩ (escapeHtml front) (escapeHtml back) := by
  obtain ⟨matched, split, moved, nonempty, whole⟩ := exec_finds found
  cases escapeHtml_split split with
  | inl clean =>
      obtain ⟨front, back, parts, same, same'⟩ := clean
      refine ⟨front, back, ?_, parts, ?_⟩
      · intro none
        rw [same, none] at nonempty
        exact nonempty rfl
      · rw [moved, same, same']
  | inr torn =>
      obtain ⟨front, u, back, inner, outer, _, same, same', unit_split, inside, outside⟩ := torn
      exact absurd (torn_inside unit_split inside outside) (whole _ _ _ _ same same')

/-- A unit at which no match begins is passed over whole. -/
theorem pieces_unit {u : UInt16} {rounds : Nat} {rest : JsString}
    (absent : exec isWordUnit HL ⟨before, escapeUnit u ++ rest⟩ = none) :
    pieces (exec isWordUnit HL) (rounds + (escapeUnit u).length) ⟨before, escapeUnit u ++ rest⟩ =
      (escapeUnit u).map .plain ++
        pieces (exec isWordUnit HL) rounds ⟨(escapeUnit u).reverse ++ before, rest⟩ := by
  apply pieces_plain
  intro front c back split
  cases front with
  | nil =>
      rw [split] at absent
      exact absent
  | cons d front =>
      have torn := torn_inside split nofun nofun
      exact exec_inside torn.tail

theorem render_plain (units : JsString) :
    ((units.map Piece.plain).flatMap render) = units := by
  induction units with
  | nil => rfl
  | cons u units ih =>
      rw [List.map_cons, List.flatMap_cons, ih]
      rfl

/-- The token of a part of the text is marked as what it is. -/
theorem render_token (kind : TokenKind) {units : JsString} (nonempty : units ≠ []) :
    render (.token kind units) = span kind units := by
  cases units with
  | nil => exact absurd rfl nonempty
  | cons u units => cases kind <;> rfl

theorem escapeHtml_ne_nil (nonempty : text ≠ []) : escapeHtml text ≠ [] := by
  cases text with
  | nil => exact absurd rfl nonempty
  | cons u text =>
      rw [escapeHtml_cons]
      exact List.append_ne_nil_of_left_ne_nil (escapeUnit_ne_nil u) _

/-- What is made of the escaped text from a position on are segments of the text. -/
def Segmented (rounds : Nat) (before text : JsString) : Prop :=
  ∃ segments : List Segment, segments.flatMap Segment.text = text ∧
    (pieces (exec isWordUnit HL) rounds ⟨before, escapeHtml text⟩).flatMap render =
      segments.flatMap Segment.html

theorem segmented_token {rounds : Nat} {kind : TokenKind} {front back : JsString}
    (nonempty : front ≠ [])
    (found : exec isWordUnit HL ⟨before, escapeHtml (front ++ back)⟩ = some (kind,
      Position.advance ⟨before, escapeHtml (front ++ back)⟩ (escapeHtml front) (escapeHtml back)))
    (later : Segmented rounds ((escapeHtml front).reverse ++ before) back) :
    Segmented (rounds + 1) before (front ++ back) := by
  obtain ⟨segments, texts, htmls⟩ := later
  obtain ⟨c, more, spelt⟩ := List.exists_cons_of_ne_nil (escapeHtml_ne_nil nonempty)
  have left : escapeHtml (front ++ back) = c :: more ++ escapeHtml back := by
    rw [escapeHtml_append, spelt]
  rw [spelt] at found htmls
  refine ⟨⟨some kind, front⟩ :: segments, ?_, ?_⟩
  · rw [List.flatMap_cons, texts]
  · rw [pieces_token left found, List.flatMap_cons, List.flatMap_cons,
      render_token kind (List.cons_ne_nil c more), ← spelt, Position.advance, spelt, htmls,
      Segment.html, spelt]

theorem segmented_unit {rounds : Nat} {u : UInt16}
    (absent : exec isWordUnit HL ⟨before, escapeHtml (u :: text)⟩ = none)
    (later : Segmented rounds ((escapeUnit u).reverse ++ before) text) :
    Segmented (rounds + (escapeUnit u).length) before (u :: text) := by
  obtain ⟨segments, texts, htmls⟩ := later
  have split := escapeHtml_cons u text
  have single : escapeHtml [u] = escapeUnit u := List.flatMap_singleton ..
  rw [split] at absent
  refine ⟨⟨none, [u]⟩ :: segments, ?_, ?_⟩
  · rw [List.flatMap_cons, texts]
    rfl
  · rw [split, pieces_unit absent, List.flatMap_append, render_plain, htmls, List.flatMap_cons,
      Segment.html, single]

/-- Induction on the text: a match takes a part of it, and passing over takes a unit. -/
theorem pieces_segmented {rounds : Nat} (enough : (escapeHtml text).length < rounds) :
    Segmented rounds before text := by
  induction size : text.length using Nat.strongRecOn generalizing text before rounds with
  | ind n ih =>
      cases found : exec isWordUnit HL ⟨before, escapeHtml text⟩ with
      | some result =>
          obtain ⟨kind, next⟩ := result
          obtain ⟨front, back, nonempty, parts, moved⟩ := exec_part found
          subst parts moved
          obtain ⟨rounds, rfl⟩ : ∃ fewer, rounds = fewer + 1 := ⟨rounds - 1, by omega⟩
          have some_front := List.length_pos_iff.mpr nonempty
          have some_units := List.length_pos_iff.mpr (escapeHtml_ne_nil nonempty)
          rw [escapeHtml_append, List.length_append] at enough
          rw [List.length_append] at size
          have shorter : back.length < n := by omega
          have room : (escapeHtml back).length < rounds := by omega
          exact segmented_token nonempty found (ih back.length shorter room rfl)
      | none =>
          cases text with
          | nil =>
              obtain ⟨rounds, rfl⟩ : ∃ fewer, rounds = fewer + 1 := ⟨rounds - 1, by omega⟩
              refine ⟨[], rfl, ?_⟩
              simp only [pieces, found]
              rfl
          | cons u text =>
              rw [escapeHtml_cons, List.length_append] at enough
              obtain ⟨rounds, rfl⟩ : ∃ fewer, rounds = fewer + (escapeUnit u).length :=
                ⟨rounds - (escapeUnit u).length, by omega⟩
              have shorter : text.length < n := by
                rw [← size]
                exact Nat.lt_succ_self _
              have room : (escapeHtml text).length < rounds := by omega
              exact segmented_unit found (ih text.length shorter room rfl)

/-- Joins neighbours that are no tokens. -/
def mergePlain : List Segment → List Segment
  | [] => []
  | segment :: rest =>
      match segment.kind, mergePlain rest with
      | none, ⟨none, text⟩ :: others => ⟨none, segment.text ++ text⟩ :: others
      | _, others => segment :: others

/-- One of two neighbours is a token. -/
def Apart (left right : Segment) : Prop := left.kind.isSome ∨ right.kind.isSome

theorem mergePlain_cases (segment : Segment) (rest : List Segment) :
    mergePlain (segment :: rest) = segment :: mergePlain rest ∧
        (∀ next ∈ (mergePlain rest).head?, Apart segment next) ∨
      ∃ text others, segment.kind = none ∧ mergePlain rest = ⟨none, text⟩ :: others ∧
        mergePlain (segment :: rest) = ⟨none, segment.text ++ text⟩ :: others := by
  rw [mergePlain]
  split
  · rename_i text others plain merged
    exact .inr ⟨text, others, plain, merged, rfl⟩
  · rename_i others token
    refine .inl ⟨rfl, ?_⟩
    intro next first
    cases kind : segment.kind with
    | some kind => exact .inl (by rw [kind]; rfl)
    | none =>
        cases merged : mergePlain rest with
        | nil =>
            rw [merged] at first
            cases first
        | cons head others =>
            rw [merged] at first
            cases first
            obtain ⟨kind', text⟩ := next
            cases kind' with
            | some kind' => exact .inr rfl
            | none => exact absurd merged (token text others kind)

theorem mergePlain_apart (segments : List Segment) : (mergePlain segments).IsChain Apart := by
  induction segments with
  | nil => exact .nil
  | cons segment rest ih =>
      rcases mergePlain_cases segment rest with ⟨kept, apart⟩ | ⟨text, others, _, merged, joined⟩
      · rw [kept]
        exact List.isChain_cons.mpr ⟨apart, ih⟩
      · rw [merged] at ih
        rw [joined]
        obtain ⟨first, later⟩ := List.isChain_cons.mp ih
        exact List.isChain_cons.mpr ⟨first, later⟩

theorem mergePlain_texts (segments : List Segment) :
    (mergePlain segments).flatMap Segment.text = segments.flatMap Segment.text := by
  induction segments with
  | nil => rfl
  | cons segment rest ih =>
      rw [List.flatMap_cons, ← ih]
      rcases mergePlain_cases segment rest with ⟨kept, _⟩ | ⟨text, others, _, merged, joined⟩
      · rw [kept, List.flatMap_cons]
      · rw [joined, merged, List.flatMap_cons, List.flatMap_cons, List.append_assoc]

theorem mergePlain_htmls (segments : List Segment) :
    (mergePlain segments).flatMap Segment.html = segments.flatMap Segment.html := by
  induction segments with
  | nil => rfl
  | cons segment rest ih =>
      rw [List.flatMap_cons, ← ih]
      rcases mergePlain_cases segment rest with ⟨kept, _⟩ | ⟨text, others, plain, merged, joined⟩
      · rw [kept, List.flatMap_cons]
      · simp only [joined, merged, List.flatMap_cons, Segment.html, plain, escapeHtml_append,
          List.append_assoc]

theorem highlight_segments {syntaxHint : Value} {html : JsString}
    (shown : highlight text syntaxHint = some html) :
    ∃ segments : List Segment, segments.IsChain Apart ∧ segments.flatMap Segment.text = text ∧
      html = segments.flatMap Segment.html := by
  unfold highlight at shown
  dsimp only at shown
  split at shown
  · cases shown
  · have whole : Segmented ((escapeHtml text).length + 1) [] text :=
      pieces_segmented (Nat.lt_succ_self _)
    obtain ⟨segments, texts, htmls⟩ := whole
    refine ⟨mergePlain segments, mergePlain_apart segments, ?_, ?_⟩
    · rw [mergePlain_texts, texts]
    · rw [← Option.some.inj shown, tokenize, htmls, mergePlain_htmls]

end Segments

section Markup

/-- Neither angle bracket occurs. -/
def Clean (text : JsString) : Prop := unit '<' ∉ text ∧ unit '>' ∉ text

/-- Spans of the four classes side by side, with no other angle bracket inside or between. -/
inductive Tagged : JsString → Prop
  | done : Tagged []
  | plain {chunk rest : JsString} (clean : Clean chunk) (more : Tagged rest) :
      Tagged (chunk ++ rest)
  | span {kind : TokenKind} {chunk rest : JsString} (clean : Clean chunk) (more : Tagged rest) :
      Tagged (openTag kind ++ chunk ++ closeTag ++ rest)

/-- Deletes every tag: from an opening angle bracket to the next closing one. -/
def deleteTagsFrom : (tag : Bool) → JsString → JsString
  | _, [] => []
  | true, u :: rest => deleteTagsFrom (u != unit '>') rest
  | false, u :: rest =>
      if u = unit '<' then deleteTagsFrom true rest else u :: deleteTagsFrom false rest

def deleteTags (html : JsString) : JsString := deleteTagsFrom false html

variable {text chunk rest : JsString}

theorem escapeHtml_clean (text : JsString) : Clean (escapeHtml text) := by
  have entity : ∀ entity ∈ entities, unit '<' ∉ entity ∧ unit '>' ∉ entity := by decide
  have units : ∀ u, Clean (escapeUnit u) := by
    intro u
    cases escapeUnit_cases u with
    | inl among => exact entity _ among
    | inr single =>
        rw [single.1]
        exact ⟨fun same => single.2.1 (List.mem_singleton.mp same).symm,
          fun same => single.2.2 (List.mem_singleton.mp same).symm⟩
  constructor
  · intro among
    obtain ⟨u, _, inside⟩ := List.mem_flatMap.mp among
    exact (units u).1 inside
  · intro among
    obtain ⟨u, _, inside⟩ := List.mem_flatMap.mp among
    exact (units u).2 inside

/-- The tags are tags. -/
theorem openTag_tag (kind : TokenKind) :
    ∃ inner, openTag kind = unit '<' :: inner ++ [unit '>'] ∧ unit '>' ∉ inner := by
  cases kind with
  | comment => exact ⟨ascii "span class=\"tok-comment\"", by decide, by decide⟩
  | string => exact ⟨ascii "span class=\"tok-string\"", by decide, by decide⟩
  | number => exact ⟨ascii "span class=\"tok-number\"", by decide, by decide⟩
  | keyword => exact ⟨ascii "span class=\"tok-keyword\"", by decide, by decide⟩

theorem closeTag_tag : ∃ inner, closeTag = unit '<' :: inner ++ [unit '>'] ∧ unit '>' ∉ inner :=
  ⟨ascii "/span", by decide, by decide⟩

theorem deleteTags_tag {inner : JsString} (closed : unit '>' ∉ inner) (rest : JsString) :
    deleteTags (unit '<' :: inner ++ [unit '>'] ++ rest) = deleteTags rest := by
  have inside : deleteTagsFrom true (inner ++ unit '>' :: rest) = deleteTagsFrom false rest := by
    induction inner with
    | nil => rfl
    | cons u inner ih =>
        rw [List.mem_cons, not_or] at closed
        have open_still : (u != unit '>') = true := bne_iff_ne.mpr (Ne.symm closed.1)
        rw [List.cons_append, deleteTagsFrom, open_still]
        exact ih closed.2
  rw [List.append_assoc]
  exact inside

theorem deleteTags_clean (clean : unit '<' ∉ chunk) (rest : JsString) :
    deleteTags (chunk ++ rest) = chunk ++ deleteTags rest := by
  induction chunk with
  | nil => rfl
  | cons u chunk ih =>
      rw [List.mem_cons, not_or] at clean
      have kept := ih clean.2
      unfold deleteTags at kept ⊢
      rw [List.cons_append, deleteTagsFrom, if_neg (Ne.symm clean.1), kept]
      rfl

theorem deleteTags_segment (segment : Segment) (rest : JsString) :
    deleteTags (segment.html ++ rest) = escapeHtml segment.text ++ deleteTags rest := by
  have clean := (escapeHtml_clean segment.text).1
  obtain ⟨kind, text⟩ := segment
  cases kind with
  | none => exact deleteTags_clean clean rest
  | some kind =>
      obtain ⟨opening, opens, shut⟩ := openTag_tag kind
      obtain ⟨closing, closes, shut'⟩ := closeTag_tag
      simp only [Segment.html, span]
      rw [List.append_assoc, List.append_assoc, opens, deleteTags_tag shut,
        deleteTags_clean clean, closes, deleteTags_tag shut']

theorem tagged_segment (segment : Segment) {rest : JsString} (more : Tagged rest) :
    Tagged (segment.html ++ rest) := by
  have clean := escapeHtml_clean segment.text
  obtain ⟨kind, text⟩ := segment
  cases kind with
  | none => exact .plain clean more
  | some kind => exact .span clean more

variable (segments : List Segment)

theorem segments_tagged : Tagged (segments.flatMap Segment.html) := by
  induction segments with
  | nil => exact .done
  | cons segment segments ih => exact tagged_segment segment ih

theorem segments_deleted :
    deleteTags (segments.flatMap Segment.html) = escapeHtml (segments.flatMap Segment.text) := by
  induction segments with
  | nil => rfl
  | cons segment segments ih =>
      rw [List.flatMap_cons, deleteTags_segment, ih, List.flatMap_cons, escapeHtml_append]

end Markup

end ActorServices.Pastebin.App
