import ActorServices.ServiceCommon
import ActorServices.SqlLayout

set_option autoImplicit false

namespace ActorServices

open Sql

inductive RepoReply (V : Type)
  | done (result : Except RepoError Unit)
  | found (result : Except RepoError (Option V))
  | flag (result : Except RepoError Bool)
  deriving DecidableEq

def replied {σ V α : Type} (reply : α → RepoReply V) (ended : α × σ) : RepoReply V × σ :=
  (reply ended.1, ended.2)

def repoReplies {σ C V : Type} (call : σ → C → RepoReply V × σ) : σ → List C → List (RepoReply V)
  | _, [] => []
  | state, method :: methods =>
      (call state method).1 :: repoReplies call (call state method).2 methods

def allAllowed {σ C V : Type} (call : σ → C → RepoReply V × σ) (allowed : σ → C → Bool) :
    σ → List C → Bool
  | _, [] => true
  | state, method :: methods =>
      allowed state method && allAllowed call allowed (call state method).2 methods

/-- Repositories that answer every allowed call alike from related states answer every sequence
of allowed calls alike. -/
theorem repoReplies_agree {σ τ C V : Type} {left : σ → C → RepoReply V × σ}
    {right : τ → C → RepoReply V × τ} (related : σ → τ → Prop) {allowed : σ → C → Bool}
    (answers : ∀ state state' method, related state state' → allowed state method = true →
      (left state method).1 = (right state' method).1 ∧
        related (left state method).2 (right state' method).2)
    {methods : List C} {state : σ} {state' : τ} (start : related state state')
    (all : allAllowed left allowed state methods = true) :
    repoReplies left state methods = repoReplies right state' methods := by
  induction methods generalizing state state' with
  | nil => rfl
  | cons method methods ih =>
      rw [allAllowed, Bool.and_eq_true] at all
      have first := answers state state' method start all.1
      rw [repoReplies, repoReplies, first.1, ih first.2 all.2]

/-- The map that an actor owns. -/
abbrev Entries (V : Type) : Type := String → Option V

/-- What an actor is sent; `Ping` is left out. -/
inductive Cmd (V : Type)
  | insert (entity : V)
  | get (key : String)
  | take (key : String)
  | incrementBy (key : String) (n : Int)
  | delete (key : String)
  deriving DecidableEq, Repr

@[reducible] def Cmd.Reply {V : Type} : Cmd V → Type
  | .insert _ => Bool
  | .get _ => Option V
  | .take _ => Option V
  | .incrementBy _ _ => Bool
  | .delete _ => Bool

/-- One turn of an actor's loop. `key` is what an entity is stored under, and `add` what
`IncrementBy` does to it. -/
def process {V : Type} (key : V → String) (add : Int → V → V) (entries : Entries V) :
    (cmd : Cmd V) → cmd.Reply × Entries V
  | .insert entity =>
      match entries (key entity) with
      | some _ => (false, entries)
      | none => (true, Function.update entries (key entity) (some entity))
  | .get name => (entries name, entries)
  | .take name => (entries name, Function.update entries name none)
  | .incrementBy name n =>
      match entries name with
      | some entity => (true, Function.update entries name (some (add n entity)))
      | none => (false, entries)
  | .delete name => ((entries name).isSome, Function.update entries name none)

def sendInsert {V : Type} (key : V → String) (add : Int → V → V) (entries : Entries V)
    (entity : V) : Except RepoError Unit × Entries V :=
  match process key add entries (.insert entity) with
  | (true, after) => (.ok (), after)
  | (false, after) => (.error .conflict, after)

def send {V : Type} (key : V → String) (add : Int → V → V) (entries : Entries V) (cmd : Cmd V) :
    Except RepoError cmd.Reply × Entries V :=
  let (answer, after) := process key add entries cmd
  (.ok answer, after)

/-- `execute` of an INSERT: a violation of the unique key is a conflict. `display` is the text
of a database error. -/
def executeInsert (display : Sql.Error → String) (table : Table) (statement : Statement)
    (binds : List Value) : Except RepoError Unit × Table :=
  match execute table statement binds with
  | .ok outcome => (.ok (), outcome.table)
  | .error .unique => (.error .conflict, table)
  | .error err => (.error (.backend (display err)), table)

/-- `fetch_optional`, and the decoding of the row it returns. -/
def fetchOptional {V : Type} (display : Sql.Error → String) (table : Table)
    (statement : Statement) (binds : List Value) (decode : Row → Except Sql.Error V) :
    Except RepoError (Option V) × Table :=
  match execute table statement binds with
  | .error err => (.error (.backend (display err)), table)
  | .ok outcome =>
      match outcome.rows.head? with
      | none => (.ok none, outcome.table)
      | some row =>
          match decode row with
          | .ok value => (.ok (some value), outcome.table)
          | .error err => (.error (.backend (display err)), outcome.table)

/-- `execute`, and whether `rows_affected` is positive. -/
def rowsAffected (display : Sql.Error → String) (table : Table) (statement : Statement)
    (binds : List Value) : Except RepoError Bool × Table :=
  match execute table statement binds with
  | .error err => (.error (.backend (display err)), table)
  | .ok outcome => (.ok (0 < outcome.affected), outcome.table)

section Agree

variable {V : Type} {layout : Layout V} (add : Int → V → V) (display : Sql.Error → String)
  {table : Table} {entries : Entries V}

theorem insert_agree (holds : layout.Holds table entries) (entity : V) :
    let sent := sendInsert layout.key add entries entity
    let executed := executeInsert display table (.insert layout.name layout.names)
      (layout.encode entity)
    sent.1 = executed.1 ∧ layout.Holds executed.2 sent.2 := by
  cases present : entries (layout.key entity) with
  | some other =>
      simp only [sendInsert, process, present, executeInsert, holds.insert_taken present]
      exact ⟨trivial, holds⟩
  | none =>
      obtain ⟨after, executed, kept⟩ := holds.insert_free present
      simp only [sendInsert, process, present, executeInsert, executed]
      exact ⟨trivial, kept⟩

theorem get_agree (holds : layout.Holds table entries) (key : String) :
    let sent := send layout.key add entries (.get key)
    let executed := fetchOptional display table
      (.select layout.names layout.name layout.primaryKey) [.text key] layout.decode
    sent.1 = executed.1 ∧ layout.Holds executed.2 sent.2 := by
  simp only [send, process, fetchOptional, holds.select key]
  cases entries key with
  | none => exact ⟨rfl, holds⟩
  | some entity =>
      simp only [Option.toList_some, List.map_cons, List.head?_cons, layout.decode_row]
      exact ⟨trivial, holds⟩

theorem take_agree (holds : layout.Holds table entries) (key : String)
    (listed : layout.names ≠ []) :
    let sent := send layout.key add entries (.take key)
    let executed := fetchOptional display table
      (.delete layout.name layout.primaryKey layout.names) [.text key] layout.decode
    sent.1 = executed.1 ∧ layout.Holds executed.2 sent.2 := by
  obtain ⟨after, executed, kept⟩ := holds.delete key layout.names fun _ member => member
  have returning : layout.names.isEmpty = false := by simpa using listed
  simp only [send, process, fetchOptional, executed, returning]
  cases entries key with
  | none => exact ⟨rfl, kept⟩
  | some entity =>
      simp only [Bool.false_eq_true, ↓reduceIte, Option.toList_some, List.map_cons,
        List.head?_cons, layout.decode_row]
      exact ⟨trivial, kept⟩

theorem delete_agree (holds : layout.Holds table entries) (key : String) :
    let sent := send layout.key add entries (.delete key)
    let executed := rowsAffected display table (.delete layout.name layout.primaryKey [])
      [.text key]
    sent.1 = executed.1 ∧ layout.Holds executed.2 sent.2 := by
  obtain ⟨after, executed, kept⟩ := holds.delete key [] nofun
  simp only [send, process, rowsAffected, executed]
  refine ⟨?_, kept⟩
  cases entries key <;> rfl

/-- As long as the counter stays in its type. -/
theorem increment_agree (holds : layout.Holds table entries) (key : String) (n : Int)
    (exact_add : ∀ entity, IsI64 (layout.count entity + n) → add n entity = layout.bump n entity)
    (fits : (entries key).all fun entity => IsI64 (layout.count entity + n)) :
    let sent := send layout.key add entries (.incrementBy key n)
    let executed := rowsAffected display table
      (.update layout.name layout.counter layout.primaryKey) [.integer n, .text key]
    sent.1 = executed.1 ∧ layout.Holds executed.2 sent.2 := by
  have within : ∀ entity, entries key = some entity → IsI64 (layout.count entity + n) := by
    intro entity found
    rw [found] at fits
    exact of_decide_eq_true fits
  obtain ⟨after, executed, kept⟩ := holds.update key n within
  simp only [send, process, rowsAffected, executed]
  cases present : entries key with
  | none =>
      rw [present, Option.map_none, ← present, Function.update_eq_self] at kept
      exact ⟨rfl, kept⟩
  | some entity =>
      rw [present, Option.map_some, ← exact_add entity (within entity present)] at kept
      exact ⟨rfl, kept⟩

end Agree

end ActorServices
