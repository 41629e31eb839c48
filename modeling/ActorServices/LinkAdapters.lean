import ActorServices.LinkService
import ActorServices.ServiceAdapters

set_option autoImplicit false

namespace ActorServices

open Sql

namespace UrlShortener

/-- The columns of `links` after both migrations; the second one adds `expires_at`. -/
def linksColumns : List Column :=
  [⟨"code", .text, true, .null⟩, ⟨"target", .text, true, .null⟩,
    ⟨"created_at", .integer, true, .null⟩, ⟨"hits", .integer, true, .integer 0⟩] ++
  [⟨"expires_at", .integer, false, .null⟩]

/-- The table that the migrations leave. -/
def linksTable : Table where
  name := "links"
  columns := linksColumns
  primaryKey := "code"
  rows := []

def insertLink : Statement :=
  .insert "links" ["code", "target", "created_at", "hits", "expires_at"]

def selectLink : Statement :=
  .select ["code", "target", "created_at", "hits", "expires_at"] "links" "code"

def updateHits : Statement := .update "links" "hits" "code"

def deleteLink : Statement := .delete "links" "code" []

/-- The statements, letter for letter. -/
example :
    insertLink.text =
        "INSERT INTO links (code, target, created_at, hits, expires_at) VALUES (?, ?, ?, ?, ?)" ∧
      selectLink.text =
        "SELECT code, target, created_at, hits, expires_at FROM links WHERE code = ?" ∧
      updateHits.text = "UPDATE links SET hits = hits + ? WHERE code = ?" ∧
      deleteLink.text = "DELETE FROM links WHERE code = ?" := by
  decide

/-- The values bound by `insert`, in order. -/
def bindLink (link : Link) : List Value :=
  [.text link.code.value, .text link.target.value, .integer link.createdAt, .integer link.hits,
    encodeNullable .integer link.expiresAt]

/-- The columns that `get` reads off a row, in order. -/
def rowToLink (row : Row) : Except Sql.Error Link := do
  let code ← row.tryGet "code" decodeText
  let target ← row.tryGet "target" decodeText
  let createdAt ← row.tryGet "created_at" decodeInteger
  let hits ← row.tryGet "hits" decodeInteger
  let expiresAt ← row.tryGet "expires_at" (decodeNullable decodeInteger)
  return { code := .fromTrusted code, target := .fromTrusted target, createdAt, hits, expiresAt }

def storedLink (link : Link) : Row :=
  [("code", .text link.code.value), ("target", .text link.target.value),
    ("created_at", .integer link.createdAt), ("hits", .integer link.hits),
    ("expires_at", encodeNullable .integer link.expiresAt)]

def linkLayout : Layout Link where
  name := "links"
  columns := linksColumns
  primaryKey := "code"
  counter := "hits"
  names := ["code", "target", "created_at", "hits", "expires_at"]
  key link := link.code.value
  count := Link.hits
  bump := Link.addHits
  encode := bindLink
  row := storedLink
  decode := rowToLink
  known column listed := by
    rcases listed with rfl | rfl | member
    · decide
    · decide
    · exact member
  insert_row link := by
    cases link with
    | mk code target createdAt hits expiresAt => cases expiresAt <;> rfl
  row_key _ := rfl
  decode_row link := by
    cases link with
    | mk code target createdAt hits expiresAt => cases expiresAt <;> rfl
  row_bump n link fits := by
    have sum : Value.add (.integer link.hits) (.integer n) = some (.integer (link.hits + n)) :=
      if_pos fits
    simp only [Row.addTo, storedLink, List.mapM_cons, List.mapM_nil, sum]
    rfl
  key_bump _ _ := rfl

/-- `link.hits += n`, on a machine integer. -/
def Link.wrappingAdd (n : Int) (link : Link) : Link := { link with hits := wrapI64 (link.hits + n) }

abbrev Links : Type := Entries Link

/-- A call of `LinkRepository`; the count that is added is not negative. -/
inductive LinkMethod
  | insert (link : Link)
  | get (code : ShortCode)
  | incrementHitsBy (code : ShortCode) (n : Nat)
  | incrementHits (code : ShortCode)
  | delete (code : ShortCode)
  deriving DecidableEq, Repr

namespace InMemoryLinkRepository

variable (links : Links)

def insert (link : Link) : Except RepoError Unit × Links :=
  sendInsert (fun link => link.code.value) Link.wrappingAdd links link

def get (code : ShortCode) : Except RepoError (Option Link) × Links :=
  send (fun link => link.code.value) Link.wrappingAdd links (.get code.value)

def incrementHitsBy (code : ShortCode) (n : Int) : Except RepoError Bool × Links :=
  send (fun link => link.code.value) Link.wrappingAdd links (.incrementBy code.value n)

def delete (code : ShortCode) : Except RepoError Bool × Links :=
  send (fun link => link.code.value) Link.wrappingAdd links (.delete code.value)

def call : LinkMethod → RepoReply Link × Links
  | .insert link => replied .done (insert links link)
  | .get code => replied .found (get links code)
  | .incrementHitsBy code n => replied .flag (incrementHitsBy links code n)
  | .incrementHits code => replied .flag (incrementHitsBy links code 1)
  | .delete code => replied .flag (delete links code)

end InMemoryLinkRepository

namespace SqliteLinkRepository

variable (display : Sql.Error → String) (table : Table)

def insert (link : Link) : Except RepoError Unit × Table :=
  executeInsert display table insertLink (bindLink link)

def get (code : ShortCode) : Except RepoError (Option Link) × Table :=
  fetchOptional display table selectLink [.text code.value] rowToLink

def incrementHitsBy (code : ShortCode) (n : Int) : Except RepoError Bool × Table :=
  rowsAffected display table updateHits [.integer n, .text code.value]

def delete (code : ShortCode) : Except RepoError Bool × Table :=
  rowsAffected display table deleteLink [.text code.value]

def call : LinkMethod → RepoReply Link × Table
  | .insert link => replied .done (insert display table link)
  | .get code => replied .found (get display table code)
  | .incrementHitsBy code n => replied .flag (incrementHitsBy display table code n)
  | .incrementHits code => replied .flag (incrementHitsBy display table code 1)
  | .delete code => replied .flag (delete display table code)

end SqliteLinkRepository

/-- The hit counter stays in its type. -/
def hitsFit (links : Links) : LinkMethod → Bool
  | .incrementHitsBy code n => (links code.value).all fun link => IsI64 (link.hits + n)
  | .incrementHits code => (links code.value).all fun link => IsI64 (link.hits + 1)
  | _ => true

section Agree

variable (display : Sql.Error → String) {links : Links} {table : Table}

theorem wrappingAdd_exact {n : Int} {link : Link} (fits : IsI64 (link.hits + n)) :
    link.wrappingAdd n = link.addHits n := by
  rw [Link.wrappingAdd, wrapI64_of_isI64 fits, Link.addHits]

/-- Each method, from a table that stores what the map has. -/
theorem call_agree (holds : linkLayout.Holds table links) {method : LinkMethod}
    (fits : hitsFit links method = true) :
    let sent := InMemoryLinkRepository.call links method
    let executed := SqliteLinkRepository.call display table method
    sent.1 = executed.1 ∧ linkLayout.Holds executed.2 sent.2 := by
  cases method with
  | insert link =>
      have same := insert_agree Link.wrappingAdd display holds link
      exact ⟨congrArg RepoReply.done same.1, same.2⟩
  | get code =>
      have same := get_agree Link.wrappingAdd display holds code.value
      exact ⟨congrArg RepoReply.found same.1, same.2⟩
  | incrementHitsBy code n =>
      have same := increment_agree Link.wrappingAdd display holds code.value n
        (fun _ => wrappingAdd_exact) fits
      exact ⟨congrArg RepoReply.flag same.1, same.2⟩
  | incrementHits code =>
      have same := increment_agree Link.wrappingAdd display holds code.value 1
        (fun _ => wrappingAdd_exact) fits
      exact ⟨congrArg RepoReply.flag same.1, same.2⟩
  | delete code =>
      have same := delete_agree Link.wrappingAdd display holds code.value
      exact ⟨congrArg RepoReply.flag same.1, same.2⟩

/-- The two repositories of links, from empty stores. -/
theorem linkRepositories_agree {methods : List LinkMethod}
    (fits : allAllowed InMemoryLinkRepository.call hitsFit (fun _ => none) methods = true) :
    repoReplies InMemoryLinkRepository.call (fun _ => none) methods =
      repoReplies (SqliteLinkRepository.call display) linksTable methods := by
  have start : linkLayout.Holds linksTable fun _ => none := Layout.Holds.empty
  apply repoReplies_agree (fun links table => linkLayout.Holds table links) _ start fits
  exact fun _ _ _ holds allowed => call_agree display holds allowed

end Agree

end UrlShortener

end ActorServices
