import ActorServices.LinkAdapters
import ActorServices.PasteService

set_option autoImplicit false

namespace ActorServices

open Sql

namespace Pastebin

/-- The columns of `pastes`; the flag is a number. -/
def pastesColumns : List Column :=
  [⟨"id", .text, true, .null⟩, ⟨"content", .text, true, .null⟩, ⟨"syntax", .text, false, .null⟩,
    ⟨"created_at", .integer, true, .null⟩, ⟨"expires_at", .integer, false, .null⟩,
    ⟨"one_shot", .integer, true, .integer 0⟩, ⟨"views", .integer, true, .integer 0⟩]

/-- The table that the migration leaves. -/
def pastesTable : Table where
  name := "pastes"
  columns := pastesColumns
  primaryKey := "id"
  rows := []

def insertPaste : Statement :=
  .insert "pastes" ["id", "content", "syntax", "created_at", "expires_at", "one_shot", "views"]

def selectPaste : Statement :=
  .select ["id", "content", "syntax", "created_at", "expires_at", "one_shot", "views"] "pastes" "id"

def takePaste : Statement :=
  .delete "pastes" "id" ["id", "content", "syntax", "created_at", "expires_at", "one_shot", "views"]

def updateViews : Statement := .update "pastes" "views" "id"

def deletePaste : Statement := .delete "pastes" "id" []

/-- The statements, letter for letter. -/
example :
    insertPaste.text = "INSERT INTO pastes (id, content, syntax, created_at, expires_at, " ++
        "one_shot, views) VALUES (?, ?, ?, ?, ?, ?, ?)" ∧
      selectPaste.text = "SELECT id, content, syntax, created_at, expires_at, one_shot, views " ++
        "FROM pastes WHERE id = ?" ∧
      takePaste.text = "DELETE FROM pastes WHERE id = ? " ++
        "RETURNING id, content, syntax, created_at, expires_at, one_shot, views" ∧
      updateViews.text = "UPDATE pastes SET views = views + ? WHERE id = ?" ∧
      deletePaste.text = "DELETE FROM pastes WHERE id = ?" := by
  decide

/-- The values bound by `insert`, in order. -/
def bindPaste (paste : Paste) : List Value :=
  [.text paste.id.value, .text paste.content.value, encodeNullable .text paste.syntaxHint,
    .integer paste.createdAt, encodeNullable .integer paste.expiresAt, encodeBool paste.oneShot,
    .integer paste.views]

def rowToPaste (row : Row) : Except Sql.Error Paste := do
  let id ← row.tryGet "id" decodeText
  let content ← row.tryGet "content" decodeText
  let syntaxHint ← row.tryGet "syntax" (decodeNullable decodeText)
  let createdAt ← row.tryGet "created_at" decodeInteger
  let expiresAt ← row.tryGet "expires_at" (decodeNullable decodeInteger)
  let oneShot ← row.tryGet "one_shot" decodeBool
  let views ← row.tryGet "views" decodeInteger
  return {
    id := .fromTrusted id, content := .fromTrusted content
    syntaxHint, createdAt, expiresAt, oneShot, views }

def storedPaste (paste : Paste) : Row :=
  [("id", .text paste.id.value), ("content", .text paste.content.value),
    ("syntax", encodeNullable .text paste.syntaxHint), ("created_at", .integer paste.createdAt),
    ("expires_at", encodeNullable .integer paste.expiresAt),
    ("one_shot", encodeBool paste.oneShot), ("views", .integer paste.views)]

def pasteLayout : Layout Paste where
  name := "pastes"
  columns := pastesColumns
  primaryKey := "id"
  counter := "views"
  names := ["id", "content", "syntax", "created_at", "expires_at", "one_shot", "views"]
  key paste := paste.id.value
  count := Paste.views
  bump := Paste.addViews
  encode := bindPaste
  row := storedPaste
  decode := rowToPaste
  known column listed := by
    rcases listed with rfl | rfl | member
    · decide
    · decide
    · exact member
  insert_row paste := by
    cases paste with
    | mk id content syntaxHint createdAt expiresAt oneShot views =>
        cases syntaxHint <;> cases expiresAt <;> rfl
  row_key _ := rfl
  decode_row paste := by
    cases paste with
    | mk id content syntaxHint createdAt expiresAt oneShot views =>
        cases syntaxHint <;> cases expiresAt <;> cases oneShot <;> rfl
  row_bump n paste fits := by
    have sum : Value.add (.integer paste.views) (.integer n) = some (.integer (paste.views + n)) :=
      if_pos fits
    simp only [Row.addTo, storedPaste, List.mapM_cons, List.mapM_nil, sum]
    rfl
  key_bump _ _ := rfl

/-- `paste.views += n`, on a machine integer. -/
def Paste.wrappingAdd (n : Int) (paste : Paste) : Paste :=
  { paste with views := wrapI64 (paste.views + n) }

abbrev Pastes : Type := Entries Paste

/-- A call of `PasteRepository`; the count that is added is not negative. -/
inductive PasteMethod
  | insert (paste : Paste)
  | get (id : PasteId)
  | take (id : PasteId)
  | incrementViewsBy (id : PasteId) (n : Nat)
  | incrementViews (id : PasteId)
  | delete (id : PasteId)
  deriving DecidableEq, Repr

namespace InMemoryPasteRepository

variable (pastes : Pastes)

def insert (paste : Paste) : Except RepoError Unit × Pastes :=
  sendInsert (fun paste => paste.id.value) Paste.wrappingAdd pastes paste

def get (id : PasteId) : Except RepoError (Option Paste) × Pastes :=
  send (fun paste => paste.id.value) Paste.wrappingAdd pastes (.get id.value)

def take (id : PasteId) : Except RepoError (Option Paste) × Pastes :=
  send (fun paste => paste.id.value) Paste.wrappingAdd pastes (.take id.value)

def incrementViewsBy (id : PasteId) (n : Int) : Except RepoError Bool × Pastes :=
  send (fun paste => paste.id.value) Paste.wrappingAdd pastes (.incrementBy id.value n)

def delete (id : PasteId) : Except RepoError Bool × Pastes :=
  send (fun paste => paste.id.value) Paste.wrappingAdd pastes (.delete id.value)

def call : PasteMethod → RepoReply Paste × Pastes
  | .insert paste => replied .done (insert pastes paste)
  | .get id => replied .found (get pastes id)
  | .take id => replied .found (take pastes id)
  | .incrementViewsBy id n => replied .flag (incrementViewsBy pastes id n)
  | .incrementViews id => replied .flag (incrementViewsBy pastes id 1)
  | .delete id => replied .flag (delete pastes id)

end InMemoryPasteRepository

namespace SqlitePasteRepository

variable (display : Sql.Error → String) (table : Table)

def insert (paste : Paste) : Except RepoError Unit × Table :=
  executeInsert display table insertPaste (bindPaste paste)

def get (id : PasteId) : Except RepoError (Option Paste) × Table :=
  fetchOptional display table selectPaste [.text id.value] rowToPaste

def take (id : PasteId) : Except RepoError (Option Paste) × Table :=
  fetchOptional display table takePaste [.text id.value] rowToPaste

def incrementViewsBy (id : PasteId) (n : Int) : Except RepoError Bool × Table :=
  rowsAffected display table updateViews [.integer n, .text id.value]

def delete (id : PasteId) : Except RepoError Bool × Table :=
  rowsAffected display table deletePaste [.text id.value]

def call : PasteMethod → RepoReply Paste × Table
  | .insert paste => replied .done (insert display table paste)
  | .get id => replied .found (get display table id)
  | .take id => replied .found (take display table id)
  | .incrementViewsBy id n => replied .flag (incrementViewsBy display table id n)
  | .incrementViews id => replied .flag (incrementViewsBy display table id 1)
  | .delete id => replied .flag (delete display table id)

end SqlitePasteRepository

/-- The view counter stays in its type. -/
def viewsFit (pastes : Pastes) : PasteMethod → Bool
  | .incrementViewsBy id n => (pastes id.value).all fun paste => IsI64 (paste.views + n)
  | .incrementViews id => (pastes id.value).all fun paste => IsI64 (paste.views + 1)
  | _ => true

section Agree

variable (display : Sql.Error → String) {pastes : Pastes} {table : Table}

theorem wrappingAdd_exact {n : Int} {paste : Paste} (fits : IsI64 (paste.views + n)) :
    paste.wrappingAdd n = paste.addViews n := by
  rw [Paste.wrappingAdd, wrapI64_of_isI64 fits, Paste.addViews]

/-- Each method, from a table that stores what the map has. -/
theorem call_agree (holds : pasteLayout.Holds table pastes) {method : PasteMethod}
    (fits : viewsFit pastes method = true) :
    let sent := InMemoryPasteRepository.call pastes method
    let executed := SqlitePasteRepository.call display table method
    sent.1 = executed.1 ∧ pasteLayout.Holds executed.2 sent.2 := by
  cases method with
  | insert paste =>
      have same := insert_agree Paste.wrappingAdd display holds paste
      exact ⟨congrArg RepoReply.done same.1, same.2⟩
  | get id =>
      have same := get_agree Paste.wrappingAdd display holds id.value
      exact ⟨congrArg RepoReply.found same.1, same.2⟩
  | take id =>
      have same := take_agree Paste.wrappingAdd display holds id.value (List.cons_ne_nil _ _)
      exact ⟨congrArg RepoReply.found same.1, same.2⟩
  | incrementViewsBy id n =>
      have same := increment_agree Paste.wrappingAdd display holds id.value n
        (fun _ => wrappingAdd_exact) fits
      exact ⟨congrArg RepoReply.flag same.1, same.2⟩
  | incrementViews id =>
      have same := increment_agree Paste.wrappingAdd display holds id.value 1
        (fun _ => wrappingAdd_exact) fits
      exact ⟨congrArg RepoReply.flag same.1, same.2⟩
  | delete id =>
      have same := delete_agree Paste.wrappingAdd display holds id.value
      exact ⟨congrArg RepoReply.flag same.1, same.2⟩

/-- The two repositories of pastes, from empty stores. -/
theorem pasteRepositories_agree {methods : List PasteMethod}
    (fits : allAllowed InMemoryPasteRepository.call viewsFit (fun _ => none) methods = true) :
    repoReplies InMemoryPasteRepository.call (fun _ => none) methods =
      repoReplies (SqlitePasteRepository.call display) pastesTable methods := by
  have start : pasteLayout.Holds pastesTable fun _ => none := Layout.Holds.empty
  apply repoReplies_agree (fun pastes table => pasteLayout.Holds table pastes) _ start fits
  exact fun _ _ _ holds allowed => call_agree display holds allowed

end Agree

end Pastebin

/-- In both services the actor and SQLite reply alike to every sequence of calls in which the
counters stay in their type. -/
theorem repositories_interchangeable (display : Sql.Error → String) :
    (∀ methods, allAllowed UrlShortener.InMemoryLinkRepository.call UrlShortener.hitsFit
        (fun _ => none) methods = true →
      repoReplies UrlShortener.InMemoryLinkRepository.call (fun _ => none) methods =
        repoReplies (UrlShortener.SqliteLinkRepository.call display) UrlShortener.linksTable
          methods) ∧
    ∀ methods, allAllowed Pastebin.InMemoryPasteRepository.call Pastebin.viewsFit
        (fun _ => none) methods = true →
      repoReplies Pastebin.InMemoryPasteRepository.call (fun _ => none) methods =
        repoReplies (Pastebin.SqlitePasteRepository.call display) Pastebin.pastesTable methods :=
  ⟨fun _ fits => UrlShortener.linkRepositories_agree display fits,
    fun _ fits => Pastebin.pasteRepositories_agree display fits⟩

def linkMethods : List UrlShortener.LinkMethod :=
  [.incrementHitsBy ⟨"a"⟩ 2, .insert ⟨⟨"a"⟩, ⟨"https://example.com"⟩, 7, 0, some 9⟩,
    .insert ⟨⟨"a"⟩, ⟨"https://example.org"⟩, 8, 0, none⟩, .incrementHitsBy ⟨"a"⟩ 2,
    .incrementHits ⟨"a"⟩, .get ⟨"a"⟩, .delete ⟨"a"⟩, .get ⟨"a"⟩]

def pasteMethods : List Pastebin.PasteMethod :=
  [.take ⟨"a"⟩, .insert ⟨⟨"a"⟩, ⟨"text"⟩, none, 7, some 9, true, 0⟩,
    .insert ⟨⟨"b"⟩, ⟨"text"⟩, some "rust", 8, none, false, 0⟩, .incrementViewsBy ⟨"b"⟩ 2,
    .take ⟨"a"⟩, .get ⟨"a"⟩, .get ⟨"b"⟩, .delete ⟨"b"⟩, .incrementViews ⟨"b"⟩]

theorem repositories_interchangeable_run :
    repoReplies (UrlShortener.SqliteLinkRepository.call fun _ => "database error")
        UrlShortener.linksTable linkMethods =
      [.flag (.ok false), .done (.ok ()), .done (.error .conflict), .flag (.ok true),
        .flag (.ok true), .found (.ok (some ⟨⟨"a"⟩, ⟨"https://example.com"⟩, 7, 3, some 9⟩)),
        .flag (.ok true), .found (.ok none)] ∧
    repoReplies (Pastebin.SqlitePasteRepository.call fun _ => "database error")
        Pastebin.pastesTable pasteMethods =
      [.found (.ok none), .done (.ok ()), .done (.ok ()), .flag (.ok true),
        .found (.ok (some ⟨⟨"a"⟩, ⟨"text"⟩, none, 7, some 9, true, 0⟩)), .found (.ok none),
        .found (.ok (some ⟨⟨"b"⟩, ⟨"text"⟩, some "rust", 8, none, false, 2⟩)), .flag (.ok true),
        .flag (.ok false)] := by
  have main := repositories_interchangeable fun _ => "database error"
  constructor
  · rw [← main.1 linkMethods (by decide)]
    decide
  · rw [← main.2 pasteMethods (by decide)]
    decide

end ActorServices
