import Mathlib.Data.List.Basic

set_option autoImplicit false

/- Backtracking regular expressions: the ways to match at a position, in the order in which a
matcher tries them, and the division of a text into matches and the symbols between them. -/
namespace ActorServices

inductive Regex (α : Type)
  | empty
  | symbol (test : α → Bool)
  | boundary
  | seq (first second : Regex α)
  | alt (first second : Regex α)
  | star (greedy : Bool) (body : Regex α)

namespace Regex

variable {α : Type}

/-- A place in a text: what stands before it, last symbol first, and what is left. -/
structure Position (α : Type) where
  before : List α
  rest : List α
  deriving DecidableEq, Repr

def Position.advance (position : Position α) (text rest : List α) : Position α :=
  ⟨text.reverse ++ position.before, rest⟩

@[simp] theorem Position.advance_rest (position : Position α) (text rest : List α) :
    (position.advance text rest).rest = rest := rfl

/-- One of the two symbols beside the place is a word symbol, the other is not. -/
def Position.isBoundary (word : α → Bool) (position : Position α) : Bool :=
  position.before.head?.any word != position.rest.head?.any word

/-- The repetitions of `body`, of which each gets on. The number of rounds is a bound only. -/
def iterate (body : Position α → List (Position α)) (greedy : Bool) :
    Nat → Position α → List (Position α)
  | 0, position => [position]
  | rounds + 1, position =>
      let more := ((body position).filter fun next =>
        next.rest.length < position.rest.length).flatMap (iterate body greedy rounds)
      if greedy then more ++ [position] else position :: more

/-- Where the matches end that begin here, the preferred ones first. -/
def ends (word : α → Bool) : Regex α → Position α → List (Position α)
  | .empty, position => [position]
  | .symbol test, ⟨before, c :: rest⟩ => if test c then [⟨c :: before, rest⟩] else []
  | .symbol _, ⟨_, []⟩ => []
  | .boundary, position => if position.isBoundary word then [position] else []
  | .seq first second, position => (first.ends word position).flatMap (second.ends word)
  | .alt first second, position => first.ends word position ++ second.ends word position
  | .star greedy body, position =>
      iterate (body.ends word) greedy position.rest.length position

/-- The texts that an expression can match, wherever the word boundaries are. -/
inductive Matches : Regex α → List α → Prop
  | empty : Matches .empty []
  | symbol {test : α → Bool} {c : α} (passed : test c = true) : Matches (.symbol test) [c]
  | boundary : Matches .boundary []
  | seq {first second : Regex α} {front back : List α} (left : Matches first front)
      (right : Matches second back) : Matches (.seq first second) (front ++ back)
  | altLeft {first second : Regex α} {text : List α} (left : Matches first text) :
      Matches (.alt first second) text
  | altRight {first second : Regex α} {text : List α} (right : Matches second text) :
      Matches (.alt first second) text
  | starDone {greedy : Bool} {body : Regex α} : Matches (.star greedy body) []
  | starMore {greedy : Bool} {body : Regex α} {front back : List α} (one : Matches body front)
      (more : Matches (.star greedy body) back) : Matches (.star greedy body) (front ++ back)

def literal [DecidableEq α] : List α → Regex α
  | [] => .empty
  | c :: text => .seq (.symbol (· == c)) (literal text)

/-- One of several expressions, an earlier one if possible. -/
def oneOf : List (Regex α) → Regex α
  | [] => .symbol fun _ => false
  | [last] => last
  | first :: others => .alt first (oneOf others)

section Matches

theorem matches_seq {first second : Regex α} {text : List α}
    (matched : (Regex.seq first second).Matches text) :
    ∃ front back, text = front ++ back ∧ first.Matches front ∧ second.Matches back := by
  cases matched with
  | seq left right => exact ⟨_, _, rfl, left, right⟩

theorem matches_symbol {test : α → Bool} {text : List α}
    (matched : (Regex.symbol test).Matches text) : ∃ c, text = [c] ∧ test c = true := by
  cases matched with
  | symbol passed => exact ⟨_, rfl, passed⟩

theorem matches_boundary {text : List α} (matched : (Regex.boundary : Regex α).Matches text) :
    text = [] := by
  cases matched with
  | boundary => rfl

theorem matches_literal [DecidableEq α] {word text : List α}
    (matched : (literal word).Matches text) : text = word := by
  induction word generalizing text with
  | nil =>
      cases matched with
      | empty => rfl
  | cons c word ih =>
      obtain ⟨front, back, split, first, others⟩ := matches_seq matched
      obtain ⟨d, one, same⟩ := matches_symbol first
      have equal : d = c := by simpa using same
      rw [split, one, ih others, equal, List.singleton_append]

theorem matches_oneOf {regexes : List (Regex α)} {text : List α}
    (matched : (oneOf regexes).Matches text) : ∃ regex ∈ regexes, regex.Matches text := by
  induction regexes with
  | nil =>
      obtain ⟨c, _, passed⟩ := matches_symbol matched
      cases passed
  | cons first others ih =>
      cases others with
      | nil => exact ⟨first, List.mem_singleton_self _, matched⟩
      | cons second others =>
          cases matched with
          | altLeft left => exact ⟨first, List.mem_cons_self, left⟩
          | altRight right =>
              obtain ⟨regex, among, one⟩ := ih right
              exact ⟨regex, List.mem_cons_of_mem _ among, one⟩

/-- A repetition of one symbol matches only texts of such symbols. -/
theorem matches_star_symbol {greedy : Bool} {test : α → Bool} {text : List α}
    (matched : (Regex.star greedy (.symbol test)).Matches text) : ∀ c ∈ text, test c = true := by
  generalize same : Regex.star greedy (.symbol test) = regex at matched
  induction matched with
  | starDone => exact nofun
  | starMore one more _ ih =>
      cases same
      obtain ⟨d, single, passed⟩ := matches_symbol one
      intro c among
      rw [single, List.singleton_append, List.mem_cons] at among
      cases among with
      | inl first => exact first ▸ passed
      | inr later => exact ih rfl c later
  | _ => cases same

end Matches

section Ends

variable {word : α → Bool}

/-- The position is reached over a text that the expression matches. -/
def Reaches (regex : Regex α) (start next : Position α) : Prop :=
  ∃ text, regex.Matches text ∧ start.rest = text ++ next.rest ∧
    next = start.advance text next.rest

theorem Reaches.seq {first second : Regex α} {start middle next : Position α}
    (one : first.Reaches start middle) (two : second.Reaches middle next) :
    (Regex.seq first second).Reaches start next := by
  obtain ⟨front, matched, left, moved⟩ := one
  obtain ⟨back, matched', left', moved'⟩ := two
  refine ⟨front ++ back, .seq matched matched', ?_, ?_⟩
  · rw [left, left', List.append_assoc]
  · rw [moved', moved]
    simp only [Position.advance, List.reverse_append, List.append_assoc]

theorem Reaches.star {greedy : Bool} {body : Regex α} {start middle next : Position α}
    (one : body.Reaches start middle) (more : (Regex.star greedy body).Reaches middle next) :
    (Regex.star greedy body).Reaches start next := by
  obtain ⟨front, matched, left, moved⟩ := one
  obtain ⟨back, matched', left', moved'⟩ := more
  refine ⟨front ++ back, .starMore matched matched', ?_, ?_⟩
  · rw [left, left', List.append_assoc]
  · rw [moved', moved]
    simp only [Position.advance, List.reverse_append, List.append_assoc]

theorem Reaches.stay {regex : Regex α} (matched : regex.Matches []) (start : Position α) :
    regex.Reaches start start :=
  ⟨[], matched, rfl, rfl⟩

theorem iterate_reaches {body : Regex α} {greedy : Bool} {rounds : Nat}
    {start next : Position α}
    (once : ∀ start next, next ∈ body.ends word start → body.Reaches start next)
    (reached : next ∈ iterate (body.ends word) greedy rounds start) :
    (Regex.star greedy body).Reaches start next := by
  induction rounds generalizing start with
  | zero =>
      rw [iterate, List.mem_singleton] at reached
      exact reached ▸ .stay .starDone _
  | succ rounds ih =>
      have cases_of : next = start ∨ ∃ middle ∈ body.ends word start,
          next ∈ iterate (body.ends word) greedy rounds middle := by
        have split : next ∈ ((body.ends word start).filter fun next =>
            next.rest.length < start.rest.length).flatMap
              (iterate (body.ends word) greedy rounds) ∨ next = start := by
          cases greedy <;> simpa [iterate, or_comm] using reached
        cases split with
        | inl more =>
            obtain ⟨middle, among, later⟩ := List.mem_flatMap.mp more
            exact .inr ⟨middle, List.mem_of_mem_filter among, later⟩
        | inr here => exact .inl here
      cases cases_of with
      | inl here => exact here ▸ .stay .starDone _
      | inr onwards =>
          obtain ⟨middle, first, later⟩ := onwards
          exact (once start middle first).star (ih later)

/-- Every match is over a text that the expression matches. -/
theorem ends_reaches {regex : Regex α} {start next : Position α}
    (reached : next ∈ regex.ends word start) : regex.Reaches start next := by
  induction regex generalizing start next with
  | empty =>
      rw [ends, List.mem_singleton] at reached
      exact reached ▸ .stay .empty _
  | symbol test =>
      obtain ⟨before, rest⟩ := start
      cases rest with
      | nil => cases reached
      | cons c rest =>
          rw [ends] at reached
          split at reached
          · rename_i passed
            rw [List.mem_singleton] at reached
            exact ⟨[c], .symbol passed, by rw [reached]; rfl, by rw [reached]; rfl⟩
          · cases reached
  | boundary =>
      rw [ends] at reached
      split at reached
      · rw [List.mem_singleton] at reached
        exact reached ▸ .stay .boundary _
      · cases reached
  | seq first second ih ih' =>
      rw [ends, List.mem_flatMap] at reached
      obtain ⟨middle, one, two⟩ := reached
      exact (ih one).seq (ih' two)
  | alt first second ih ih' =>
      rw [ends, List.mem_append] at reached
      cases reached with
      | inl left =>
          obtain ⟨text, matched, moved⟩ := ih left
          exact ⟨text, .altLeft matched, moved⟩
      | inr right =>
          obtain ⟨text, matched, moved⟩ := ih' right
          exact ⟨text, .altRight matched, moved⟩
  | star greedy body ih =>
      exact iterate_reaches (fun start next among => ih among) reached

/-- One more round than symbols are left changes nothing. -/
theorem iterate_enough (body : Position α → List (Position α)) (greedy : Bool) {rounds : Nat}
    {position : Position α} (enough : position.rest.length ≤ rounds) :
    iterate body greedy (rounds + 1) position = iterate body greedy rounds position := by
  induction rounds generalizing position with
  | zero =>
      have none : (body position).filter (fun next =>
          decide (next.rest.length < position.rest.length)) = [] := by
        rw [List.filter_eq_nil_iff]
        intro next _ shorter
        have less : next.rest.length < position.rest.length := by simpa using shorter
        omega
      simp only [iterate, none, List.flatMap_nil]
      cases greedy <;> rfl
  | succ rounds ih =>
      have same : ((body position).filter fun next =>
            decide (next.rest.length < position.rest.length)).flatMap
              (iterate body greedy (rounds + 1)) =
          ((body position).filter fun next =>
            decide (next.rest.length < position.rest.length)).flatMap
              (iterate body greedy rounds) := by
        apply List.flatMap_congr
        intro next among
        have less : next.rest.length < position.rest.length := by
          simpa using (List.mem_filter.mp among).2
        exact ih (by omega)
      rw [iterate, same]
      rfl

theorem iterate_stable (body : Position α → List (Position α)) (greedy : Bool) {rounds : Nat}
    {position : Position α} (enough : position.rest.length ≤ rounds) :
    iterate body greedy rounds position = iterate body greedy position.rest.length position := by
  induction enough with
  | refl => rfl
  | step enough ih => rw [iterate_enough body greedy enough, ih]

/-- A repetition does one round, and then repeats, without a bound. -/
theorem ends_star (greedy : Bool) (body : Regex α) (position : Position α) :
    (Regex.star greedy body).ends word position =
      let more := ((body.ends word position).filter fun next =>
        decide (next.rest.length < position.rest.length)).flatMap
          ((Regex.star greedy body).ends word)
      if greedy then more ++ [position] else position :: more := by
  have rest : ∀ next, next.rest.length < position.rest.length →
      iterate (body.ends word) greedy position.rest.length next =
        (Regex.star greedy body).ends word next := by
    intro next shorter
    exact iterate_stable (body.ends word) greedy (Nat.le_of_lt shorter)
  have same : ((body.ends word position).filter fun next =>
        decide (next.rest.length < position.rest.length)).flatMap
          (iterate (body.ends word) greedy position.rest.length) =
      ((body.ends word position).filter fun next =>
        decide (next.rest.length < position.rest.length)).flatMap
          ((Regex.star greedy body).ends word) := by
    apply List.flatMap_congr
    intro next among
    exact rest next (by simpa using (List.mem_filter.mp among).2)
  have unfolded : (Regex.star greedy body).ends word position =
      iterate (body.ends word) greedy (position.rest.length + 1) position :=
    (iterate_enough (body.ends word) greedy (Nat.le_refl _)).symm
  rw [unfolded, iterate, same]

/-- A greedy repetition of one symbol prefers to take all of them. -/
theorem star_symbol_head (test : α → Bool) (start : Position α) :
    ((Regex.star true (.symbol test)).ends word start).head? =
      some (start.advance (start.rest.takeWhile test) (start.rest.dropWhile test)) := by
  obtain ⟨before, rest⟩ := start
  induction rest generalizing before with
  | nil => rfl
  | cons c rest ih =>
      rw [ends_star]
      cases passed : test c with
      | true =>
          have one : ((Regex.symbol test).ends word ⟨before, c :: rest⟩).filter (fun next =>
              decide (next.rest.length < (c :: rest).length)) = [⟨c :: before, rest⟩] := by
            simp [ends, passed]
          simp only [one, List.flatMap_cons, List.flatMap_nil, List.append_nil, ↓reduceIte,
            List.head?_append, ih]
          simp [Position.advance, passed]
      | false =>
          have none : (Regex.symbol test).ends word ⟨before, c :: rest⟩ = [] := by
            simp [ends, passed]
          simp only [none, List.filter_nil, List.flatMap_nil]
          simp [Position.advance, passed]

/-- A literal is there or it is not. -/
theorem literal_ends [DecidableEq α] (text : List α) (start : Position α) :
    (literal text).ends word start = [] ∨ ∃ rest, start.rest = text ++ rest ∧
      (literal text).ends word start = [start.advance text rest] := by
  induction text generalizing start with
  | nil => exact .inr ⟨start.rest, rfl, rfl⟩
  | cons c text ih =>
      obtain ⟨before, rest⟩ := start
      cases rest with
      | nil => exact .inl rfl
      | cons d rest =>
          by_cases same : d = c
          · subst same
            have first : (literal (d :: text)).ends word ⟨before, d :: rest⟩ =
                (literal text).ends word ⟨d :: before, rest⟩ := by
              simp [literal, ends]
            rw [first]
            cases ih ⟨d :: before, rest⟩ with
            | inl none => exact .inl none
            | inr found =>
                obtain ⟨left, split, one⟩ := found
                refine .inr ⟨left, ?_, ?_⟩
                · exact congrArg (d :: ·) split
                · rw [one]
                  simp [Position.advance]
          · left
            simp [literal, ends, same]

/-- The preferred match of what begins with a literal. -/
theorem literal_seq_head [DecidableEq α] {text : List α} {regex : Regex α}
    {start next : Position α}
    (found : ((Regex.seq (literal text) regex).ends word start).head? = some next) :
    ∃ rest, start.rest = text ++ rest ∧
      (regex.ends word (start.advance text rest)).head? = some next := by
  rw [ends] at found
  cases literal_ends text start with
  | inl none =>
      rw [none] at found
      cases found
  | inr one =>
      obtain ⟨rest, split, single⟩ := one
      rw [single, List.flatMap_cons, List.flatMap_nil, List.append_nil] at found
      exact ⟨rest, split, found⟩

/-- The preferred match of several expressions is the one of the first that matches. -/
theorem oneOf_head {regexes : List (Regex α)} {start next : Position α}
    (found : ((oneOf regexes).ends word start).head? = some next) :
    ∃ regex ∈ regexes, (regex.ends word start).head? = some next := by
  induction regexes with
  | nil =>
      obtain ⟨before, rest⟩ := start
      cases rest <;> cases found
  | cons first others ih =>
      cases others with
      | nil => exact ⟨first, List.mem_singleton_self _, found⟩
      | cons second others =>
          have choice : oneOf (first :: second :: others) =
            .alt first (oneOf (second :: others)) := rfl
          rw [choice, ends, List.head?_append] at found
          cases one : (first.ends word start).head? with
          | some other =>
              rw [one] at found
              exact ⟨first, List.mem_cons_self, one.trans found⟩
          | none =>
              rw [one, Option.none_or] at found
              obtain ⟨regex, among, head⟩ := ih found
              exact ⟨regex, List.mem_cons_of_mem _ among, head⟩

end Ends

section Scan

variable {κ : Type}

/-- A symbol that no match covers, or a match by the alternative with the label. -/
inductive Piece (κ α : Type)
  | plain (c : α)
  | token (label : κ) (text : List α)
  deriving DecidableEq, Repr

def Piece.text : Piece κ α → List α
  | .plain c => [c]
  | .token _ text => text

/-- The preferred match at a position, among alternatives of which an earlier one wins. -/
def exec (word : α → Bool) (alternatives : List (κ × Regex α)) (position : Position α) :
    Option (κ × Position α) :=
  alternatives.findSome? fun entry =>
    (entry.2.ends word position).head?.map fun next => (entry.1, next)

theorem exec_some {word : α → Bool} {alternatives : List (κ × Regex α)} {label : κ}
    {position next : Position α}
    (found : exec word alternatives position = some (label, next)) :
    ∃ regex, (label, regex) ∈ alternatives ∧ (regex.ends word position).head? = some next := by
  obtain ⟨entry, among, one⟩ := List.exists_of_findSome?_eq_some found
  obtain ⟨end_, head, same⟩ := Option.map_eq_some_iff.mp one
  cases same
  exact ⟨entry.2, among, head⟩

theorem exec_none {word : α → Bool} {alternatives : List (κ × Regex α)} {position : Position α}
    (absent : ∀ entry ∈ alternatives, ∀ next, ¬ entry.2.Reaches position next) :
    exec word alternatives position = none := by
  rw [exec, List.findSome?_eq_none_iff]
  intro entry among
  cases head : (entry.2.ends word position).head? with
  | none => rfl
  | some next =>
      have reached := ends_reaches (List.mem_of_head? head)
      exact absurd reached (absent entry among next)

/-- The matches of a global search, from left to right, and what is between them. Behind an
empty match the search goes on one symbol later. The number of rounds is a bound only. -/
def pieces (search : Position α → Option (κ × Position α)) :
    Nat → Position α → List (Piece κ α)
  | 0, _ => []
  | rounds + 1, position =>
      let skip : List (Piece κ α) := match position.rest with
        | [] => []
        | c :: rest => .plain c :: pieces search rounds (position.advance [c] rest)
      match search position with
      | none => skip
      | some (label, next) =>
          if next.rest.length < position.rest.length then
            .token label (position.rest.take (position.rest.length - next.rest.length)) ::
              pieces search rounds next
          else .token label [] :: skip

variable {search : Position α → Option (κ × Position α)}

/-- One round at a match that is not empty. -/
theorem pieces_token {rounds : Nat} {start : Position α} {label : κ} {c : α} {text rest : List α}
    (left : start.rest = c :: text ++ rest)
    (found : search start = some (label, start.advance (c :: text) rest)) :
    pieces search (rounds + 1) start =
      .token label (c :: text) :: pieces search rounds (start.advance (c :: text) rest) := by
  have shorter : rest.length < start.rest.length := by
    rw [left, List.length_append, List.length_cons]
    omega
  have taken : start.rest.take (start.rest.length - rest.length) = c :: text := by
    have size : start.rest.length - rest.length = (c :: text).length := by
      rw [left, List.length_append]
      omega
    rw [size, left, List.take_left]
  simp only [pieces, found, Position.advance_rest, shorter, ↓reduceIte, taken]

/-- Where the search finds nothing, the symbols are passed over. -/
theorem pieces_plain {rounds : Nat} {before passed rest : List α}
    (none : ∀ front c back, passed = front ++ c :: back →
      search ⟨front.reverse ++ before, c :: back ++ rest⟩ = none) :
    pieces search (rounds + passed.length) ⟨before, passed ++ rest⟩ =
      passed.map .plain ++ pieces search rounds ⟨passed.reverse ++ before, rest⟩ := by
  induction passed generalizing before with
  | nil => rfl
  | cons c passed ih =>
      have first := none [] c passed rfl
      have later := ih fun front d back split => by
        have at_d := none (c :: front) d back (by rw [split]; rfl)
        simpa using at_d
      rw [List.length_cons, ← Nat.add_assoc, pieces]
      simp only [List.reverse_nil, List.nil_append, List.cons_append] at first
      rw [List.cons_append, first]
      simp only [Position.advance, List.reverse_singleton, List.singleton_append, later]
      simp

end Scan

end Regex

end ActorServices
