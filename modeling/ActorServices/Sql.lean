import ActorServices.MachineInt
import Mathlib.Data.List.Nodup

set_option autoImplicit false

namespace ActorServices.Sql

/-- What a cell holds. An integer sum out of range is a REAL, whose own value nothing here
looks at. -/
inductive Value
  | null
  | integer (value : Int)
  | real
  | text (value : String)
  deriving DecidableEq, Repr

inductive ColumnType
  | text
  | integer
  deriving DecidableEq, Repr

structure Column where
  name : String
  type : ColumnType
  notNull : Bool
  default : Value
  deriving DecidableEq, Repr

abbrev Row : Type := List (String × Value)

structure Table where
  name : String
  columns : List Column
  primaryKey : String
  rows : List Row
  deriving DecidableEq, Repr

inductive Error
  | noSuchTable (table : String)
  | noSuchColumn (column : String)
  | notNull (column : String)
  | conversion (column : String)
  | unique
  | columnNotFound (column : String)
  | columnDecode (column : String)
  deriving DecidableEq, Repr

/-- Each `?` is a parameter of its own, bound in the order in which they stand. -/
inductive Statement
  | insert (table : String) (columns : List String)
  | select (columns : List String) (table key : String)
  | update (table column key : String)
  | delete (table key : String) (returning : List String)
  deriving DecidableEq, Repr

def commas (names : List String) : String := ", ".intercalate names

def Statement.text : Statement → String
  | .insert table columns =>
      "INSERT INTO " ++ table ++ " (" ++ commas columns ++ ") VALUES (" ++
        commas (columns.map fun _ => "?") ++ ")"
  | .select columns table key =>
      "SELECT " ++ commas columns ++ " FROM " ++ table ++ " WHERE " ++ key ++ " = ?"
  | .update table column key =>
      "UPDATE " ++ table ++ " SET " ++ column ++ " = " ++ column ++ " + ? WHERE " ++ key ++ " = ?"
  | .delete table key [] => "DELETE FROM " ++ table ++ " WHERE " ++ key ++ " = ?"
  | .delete table key returning =>
      "DELETE FROM " ++ table ++ " WHERE " ++ key ++ " = ? RETURNING " ++ commas returning

def Statement.table : Statement → String
  | .insert table _ => table
  | .select _ table _ => table
  | .update table _ _ => table
  | .delete table _ _ => table

/-- The columns that a statement names. -/
def Statement.names : Statement → List String
  | .insert _ columns => columns
  | .select columns _ key => columns ++ [key]
  | .update _ column key => [column, key]
  | .delete _ key returning => key :: returning

/-- A statement's table after it, the number of rows it changed, and the rows it returns. -/
structure Outcome where
  table : Table
  affected : Nat
  rows : List Row
  deriving DecidableEq, Repr

def Row.get (row : Row) (name : String) : Value := (row.lookup name).getD .null

def Row.project (names : List String) (row : Row) : Row :=
  names.map fun name => (name, row.get name)

/-- `=` on cells: NULL equals nothing. -/
def Value.equals : Value → Value → Bool
  | .text left, .text right => left == right
  | .integer left, .integer right => left == right
  | _, _ => false

/-- `+` on cells. -/
def Value.add : Value → Value → Option Value
  | .integer left, .integer right =>
      if IsI64 (left + right) then some (.integer (left + right)) else some .real
  | .null, _ => some .null
  | _, .null => some .null
  | .real, .integer _ => some .real
  | _, _ => none

/-- What a column stores of a value. Text in an INTEGER column and a number in a TEXT one would
be converted: that is an error here, so nothing can rest on it. -/
def Column.accept (column : Column) (value : Value) : Except Error Value :=
  match column.type, value with
  | _, .null => if column.notNull then .error (.notNull column.name) else .ok .null
  | .text, .text text => .ok (.text text)
  | .integer, .integer number => .ok (.integer number)
  | .integer, .real => .ok .real
  | _, _ => .error (.conversion column.name)

/-- The row that an INSERT of these columns makes; a column left out gets its default. -/
def insertRow (columns : List Column) (names : List String) (binds : List Value) :
    Except Error Row :=
  columns.mapM fun column => do
    let value ← column.accept (((names.zip binds).lookup column.name).getD column.default)
    return (column.name, value)

/-- `column = column + bound` on one row. -/
def Row.addTo (columns : List Column) (name : String) (bound : Value) (row : Row) :
    Except Error Row :=
  row.mapM fun cell =>
    if cell.1 = name then
      match columns.find? (fun column => column.name = name), cell.2.add bound with
      | some column, some sum => do
          let value ← column.accept sum
          return (name, value)
      | _, _ => .error (.conversion name)
    else return cell

def Row.hasKey (key : String) (bound : Value) (row : Row) : Bool := (row.get key).equals bound

def run (table : Table) (binds : List Value) : Statement → Except Error Outcome
  | .insert _ columns => do
      let row ← insertRow table.columns columns binds
      if table.rows.any (Row.hasKey table.primaryKey (row.get table.primaryKey)) then
        .error .unique
      else return ⟨{ table with rows := table.rows ++ [row] }, 1, []⟩
  | .select columns _ key =>
      return ⟨table, 0,
        (table.rows.filter (Row.hasKey key (binds.getD 0 .null))).map (Row.project columns)⟩
  | .update _ column key => do
      let chosen := Row.hasKey key (binds.getD 1 .null)
      let rows ← table.rows.mapM fun row =>
        if chosen row then row.addTo table.columns column (binds.getD 0 .null) else return row
      return ⟨{ table with rows }, (table.rows.filter chosen).length, []⟩
  | .delete _ key returning =>
      let chosen := Row.hasKey key (binds.getD 0 .null)
      return ⟨{ table with rows := table.rows.filter fun row => !chosen row },
        (table.rows.filter chosen).length,
        if returning.isEmpty then [] else (table.rows.filter chosen).map (Row.project returning)⟩

/-- One statement as one atomic step: it takes effect, or fails without any. -/
def execute (table : Table) (statement : Statement) (binds : List Value) : Except Error Outcome :=
  if statement.table = table.name then
    match statement.names.find? fun name => name ∉ table.columns.map Column.name with
    | some name => .error (.noSuchColumn name)
    | none => run table binds statement
  else .error (.noSuchTable statement.table)

/-- A result cell by the name of its column. -/
def Row.tryGet {α : Type} (row : Row) (name : String) (decode : Value → Option α) :
    Except Error α :=
  match row.lookup name with
  | none => .error (.columnNotFound name)
  | some value =>
      match decode value with
      | some decoded => .ok decoded
      | none => .error (.columnDecode name)

def decodeText : Value → Option String
  | .text text => some text
  | _ => none

def decodeInteger : Value → Option Int
  | .integer number => some number
  | _ => none

/-- A flag is stored as a number. -/
def decodeBool : Value → Option Bool
  | .integer number => some (number != 0)
  | _ => none

def decodeNullable {α : Type} (decode : Value → Option α) : Value → Option (Option α)
  | .null => some none
  | value => (decode value).map some

def encodeBool (flag : Bool) : Value := .integer (if flag then 1 else 0)

def encodeNullable {α : Type} (encode : α → Value) : Option α → Value
  | none => .null
  | some value => encode value

end ActorServices.Sql
