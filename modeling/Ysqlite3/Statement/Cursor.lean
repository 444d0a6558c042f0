import Ysqlite3.Action
import Ysqlite3.Statement.ColumnIndex
import Ysqlite3.Statement.Vdbe
import Ysqlite3.Misc.Component

/-!
# Statements that run

One `Statement` object from its preparation on, with the statement behind it and the `Results` the program
got from its last step. A program binds values, steps and reads columns in any order.
-/

namespace Ysqlite3

/-- The member `_statement` and what it points to, the member `_database`, which is not null, and the
results of the last step. -/
structure Cursor where
  statement : Option StatementHandle
  database : Handle
  sqlite : Prepared
  vdbe : Vdbe
  results : Results

/-- The overloads of `bind` and `bind_reference`, and `bind_zeros`. A `const char*` and the pointer of a
`Span` can be null. -/
inductive Argument where
  | cString (transient : Bool) (value : Option Bytes)
  | string (transient : Bool) (value : Bytes)
  | span (blob : Option Bytes)
  | nullptr
  | double (bits : UInt64)
  | int64 (value : Int64)
  | zeros (size : UInt64)
  deriving DecidableEq, Repr

/-- `Results::type` -/
inductive ColumnType where
  | integer
  | real
  | text
  | blob
  | null
  deriving DecidableEq, Repr

namespace Cursor

variable (compiled : Compiled)

/-- The object. -/
def object (self : Cursor) : Statement where
  statement := self.statement
  database := some self.database

/-- A statement that was just prepared. -/
def prepared (statement : StatementHandle) (database : Handle) (sqlite : Prepared) : Cursor where
  statement := some statement
  database := database
  sqlite := sqlite
  vdbe := .prepared
  results := .empty

/-! ## Binding -/

/-- `_bind` -/
def bindWith (binder : Int → Vdbe → SQLite3Code × Vdbe) (index : Index) (self : Cursor) :
    Except Exception Unit × Cursor :=
  (self.object.bind compiled.parameters index (fun i => (binder i self.vdbe).1),
    match self.statement, Statement.toParameterIndex compiled.parameters index with
    | some _, .ok i => { self with vdbe := (binder i self.vdbe).2 }
    | _, _ => self)

/-- `bind` and `bind_reference` with a `const char*`. -/
def bindCString (memory transient : Bool) (value : Option Bytes) (index : Index) :
    Cursor → Except Exception Unit × Cursor :=
  bindWith compiled (Vdbe.bindText compiled transient memory value (-1)) index

/-- `bind` and `bind_reference` with a `std::string`. -/
def bindString (memory transient : Bool) (value : Bytes) (index : Index) :
    Cursor → Except Exception Unit × Cursor :=
  bindWith compiled (Vdbe.bindText compiled transient memory (some value) (castInt value.length)) index

/-- `bind_reference` with a `Span`. -/
def bindSpan (memory : Bool) (blob : Option Bytes) (index : Index) :
    Cursor → Except Exception Unit × Cursor :=
  bindWith compiled (Vdbe.bindBlob64 compiled false memory blob) index

/-- `bind` with a `nullptr`. -/
def bindNullptr (index : Index) : Cursor → Except Exception Unit × Cursor :=
  bindWith compiled (Vdbe.bindNull compiled) index

/-- `bind` with a `double`. -/
def bindDouble (bits : UInt64) (index : Index) : Cursor → Except Exception Unit × Cursor :=
  bindWith compiled (Vdbe.bindDouble compiled bits) index

/-- `bind` with a `sqlite3_int64`. -/
def bindInt64 (value : Int64) (index : Index) : Cursor → Except Exception Unit × Cursor :=
  if Int32.minValue.toInt64 ≤ value ∧ value ≤ Int32.maxValue.toInt64 then
    bindWith compiled (Vdbe.bindInt compiled value.toInt32) index
  else bindWith compiled (Vdbe.bindInt64 compiled value) index

/-- `bind_zeros` -/
def bindZeros (size : UInt64) (index : Index) : Cursor → Except Exception Unit × Cursor :=
  if size ≤ 2147483647 then
    bindWith compiled (Vdbe.bindZeroblob compiled (castInt size.toNat)) index
  else bindWith compiled (Vdbe.bindZeroblob64 compiled size) index

def bind (memory : Bool) (index : Index) : Argument → Cursor → Except Exception Unit × Cursor
  | .cString transient value => bindCString compiled memory transient value index
  | .string transient value => bindString compiled memory transient value index
  | .span blob => bindSpan compiled memory blob index
  | .nullptr => bindNullptr compiled index
  | .double bits => bindDouble compiled bits index
  | .int64 value => bindInt64 compiled value index
  | .zeros size => bindZeros compiled size index

/-- `clear_bindings` -/
def clearBindings (self : Cursor) : Cursor :=
  match self.statement with
  | none => self
  | some _ => { self with vdbe := self.vdbe.clearBindings }

/-! ## Stepping -/

/-- How many rows a program can still come to. -/
def rowsLeft (vdbe : Vdbe) : Nat :=
  match vdbe.stage with
  | .onRow _ left => left.rows.length
  | _ => (compiled.program vdbe.starts vdbe.aVar).rows.length + 1

theorem exec_onRow {left : Execution} {vdbe : Vdbe} (h : (vdbe.exec left).1 = SQLite3Code.row) :
    ∃ row rows, left.rows = row :: rows ∧ (vdbe.exec left).2 =
      { vdbe with stage := .onRow row { left with rows }, errCode := SQLite3Code.row } := by
  unfold Vdbe.exec at h ⊢
  cases hrows : left.rows with
  | nil =>
    rw [hrows] at h
    exact absurd h left.ends_ne
  | cons row rows => exact ⟨row, rows, rfl, rfl⟩

theorem rowsLeft_step {vdbe : Vdbe} (h : (vdbe.step compiled).1 = SQLite3Code.row) :
    rowsLeft compiled (vdbe.step compiled).2 < rowsLeft compiled vdbe := by
  have hnomem : SQLite3Code.nomem ≠ SQLite3Code.row := by decide
  unfold Vdbe.step at h ⊢
  cases hstage : vdbe.stage with
  | onRow row left =>
    simp only [hstage] at h ⊢
    by_cases hrc : vdbe.rc = SQLite3Code.nomem
    · rw [if_pos hrc] at h
      exact absurd h hnomem
    · rw [if_neg hrc] at h ⊢
      obtain ⟨row', rows, hrows, hexec⟩ := exec_onRow h
      rw [hexec]
      simp [rowsLeft, hstage, hrows]
  | ready =>
    simp only [hstage] at h ⊢
    obtain ⟨row', rows, hrows, hexec⟩ := exec_onRow h
    rw [hexec]
    simp only [rowsLeft, hstage, hrows, List.length_cons]
    omega
  | halted =>
    simp only [hstage] at h ⊢
    obtain ⟨row', rows, hrows, hexec⟩ := exec_onRow h
    rw [hexec]
    simp only [rowsLeft, hstage, hrows, List.length_cons]
    omega

/-- The loop of `finish`. -/
def stepToEnd (vdbe : Vdbe) : SQLite3Code × Vdbe :=
  if _h : (vdbe.step compiled).1 = SQLite3Code.row then stepToEnd (vdbe.step compiled).2
  else vdbe.step compiled
termination_by rowsLeft compiled vdbe
decreasing_by exact rowsLeft_step compiled _h

/-- `Statement::step`. The error is thrown with its message before the statement is reset. -/
def step (self : Cursor) : Except Exception Results × Cursor :=
  match self.statement with
  | none => ((self.object.step 0 "" self.sqlite).1, self)
  | some _ =>
    let (ec, vdbe) := self.vdbe.step compiled
    let (result, sqlite) := self.object.step ec vdbe.errMsg self.sqlite
    let vdbe := if ec = SQLite3Code.row then vdbe else (vdbe.reset 0).2
    (result, { self with sqlite, vdbe, results := result.toOption.getD self.results })

/-- `Statement::finish` -/
def finish (self : Cursor) : Except Exception Unit × Cursor :=
  match self.statement with
  | none => (self.object.finish 0, self)
  | some _ =>
    let (ec, vdbe) := stepToEnd compiled self.vdbe
    (self.object.finish ec, { self with vdbe := (vdbe.reset 0).2 })

/-- `Statement::reset` -/
def reset (halts : SQLite3Code) (self : Cursor) : Except Exception Unit × Cursor :=
  match self.statement with
  | none => (self.object.reset 0, self)
  | some _ =>
    let (ec, vdbe) := self.vdbe.reset halts
    (self.object.reset ec, { self with vdbe })

/-- `Statement::close`; `ec` is the result of `sqlite3_finalize`. -/
def close (ec : SQLite3Code) (self : Cursor) : Except Exception Unit × Cursor :=
  let (result, object) := self.object.close ec
  (result, { self with statement := object.statement })

/-! ## Reading -/

/-- What the accessors of `Results` share: there must be a row, and the index must be one of a column. A
statement that was closed must not be asked. -/
def atColumn {α : Type} (index : Index) (locale : UInt8 → UInt8) (current : UInt8 → UInt8)
    (read : Int → Action Cursor α) : Action Cursor α := fun self =>
  match self.results.statement with
  | none => .throws (.ysqlite3 .badResult) self
  | some _ =>
    if self.statement.isNone then .undefined
    else match Results.toColumnIndex current locale compiled.columns index with
      | none => .undefined
      | some (.error e) => .throws e self
      | some (.ok i) => read i self

/-- A column function of SQLite. -/
def ofVdbe {α : Type} (read : Vdbe → α × Vdbe) : Action Cursor α := fun self =>
  .returns (read self.vdbe).1 { self with vdbe := (read self.vdbe).2 }

/-- `sqlite3_errcode` -/
def errcode : Action Cursor SQLite3Code := Action.get (fun self => self.vdbe.errCode)

/-- The check of `blob`, `text` and `size_of`: nothing was read, and the error code is another one than
before. -/
def check (missing : Bool) (old : SQLite3Code) (what : Cursor → String) : Action Cursor Unit := do
  let ec ← errcode
  if missing ∧ ec ≠ SQLite3Code.success ∧ ec ≠ old then
    let what ← Action.get what
    Action.raise (.sqlite3 ec what)

section Accessors

variable (index : Index) (locale current : UInt8 → UInt8)

/-- `Results::integer` -/
def integer : Action Cursor Int64 :=
  atColumn compiled index locale current (fun i => ofVdbe (Vdbe.columnInt64 compiled i))

/-- `Results::real` -/
def real : Action Cursor UInt64 :=
  atColumn compiled index locale current (fun i => ofVdbe (Vdbe.columnDouble compiled i))

/-- `Results::blob`: the pointer and the size of the span. -/
def blob (memory : Bool) : Action Cursor (Option Bytes × Nat) :=
  atColumn compiled index locale current (fun i => do
    let old ← errcode
    let blob ← ofVdbe (Vdbe.columnBlob compiled memory i)
    check blob.isNone old (fun _ => "")
    let size ← ofVdbe (Vdbe.columnBytes compiled memory i)
    return (blob, size))

/-- `Results::text` -/
def text (memory : Bool) : Action Cursor (Option Bytes) :=
  atColumn compiled index locale current (fun i => do
    let old ← errcode
    let str ← ofVdbe (Vdbe.columnText compiled memory i)
    check str.isNone old (fun self => self.vdbe.errMsg)
    return str.map Ysqlite3.cString)

/-- `Results::size_of` -/
def sizeOf (memory : Bool) : Action Cursor Nat :=
  atColumn compiled index locale current (fun i => do
    let old ← errcode
    let size ← ofVdbe (Vdbe.columnBytes compiled memory i)
    check (size = 0) old (fun _ => "")
    return size)

/-- `Results::type_of` -/
def typeOf : Action Cursor ColumnType :=
  atColumn compiled index locale current (fun i => do
    match ← ofVdbe (Vdbe.columnType i) with
    | .int _ => return .integer
    | .real _ => return .real
    | .str _ => return .text
    | .blob _ | .zeroblob _ => return .blob
    | .null => return .null)

/-- `Results::is_null` -/
def isNull : Action Cursor Bool := do
  let type ← typeOf compiled index locale current
  return type = .null

end Accessors

end Cursor

/-! ## Programs -/

/-- The accessors of `Results`. -/
inductive Access where
  | integer
  | real
  | blob
  | text
  | sizeOf
  | typeOf
  | isNull
  deriving DecidableEq, Repr

/-- A call on the object or on its results, or another call on the connection, which leaves an error
code. -/
inductive CursorCall where
  | bind (memory : Bool) (index : Index) (argument : Argument)
  | clearBindings
  | step
  | finish
  | reset (halts : SQLite3Code)
  | close (ec : SQLite3Code)
  | access (access : Access) (index : Index) (locale current : UInt8 → UInt8) (memory : Bool)
  | elsewhere (errCode : SQLite3Code) (errMsg : String)

/-- What the caller gets. -/
inductive CursorReply where
  | done
  | row
  | noRow
  | integer (value : Int64)
  | real (bits : UInt64)
  | blob (pointer : Option Bytes) (size : Nat)
  | text (pointer : Option Bytes)
  | size (n : Nat)
  | type (type : ColumnType)
  | isNull (isNull : Bool)
  | throws (exception : Exception)
  | undefined
  deriving DecidableEq, Repr

namespace CursorReply

def ofUnit : Except Exception Unit → CursorReply
  | .ok () => .done
  | .error e => .throws e

def ofStep : Except Exception Results → CursorReply
  | .ok results => if results.statement.isSome then .row else .noRow
  | .error e => .throws e

def ofAccess {α : Type} (f : α → CursorReply) (self : Cursor) :
    Ysqlite3.Outcome Cursor α → CursorReply × Cursor
  | .returns a self => (f a, self)
  | .throws e self => (.throws e, self)
  | .undefined => (.undefined, self)

end CursorReply

namespace Cursor

variable (compiled : Compiled)

def access (access : Access) (index : Index) (locale current : UInt8 → UInt8) (memory : Bool)
    (self : Cursor) : CursorReply × Cursor :=
  match access with
  | .integer => CursorReply.ofAccess .integer self (integer compiled index locale current self)
  | .real => CursorReply.ofAccess .real self (real compiled index locale current self)
  | .blob => CursorReply.ofAccess (fun span => .blob span.1 span.2) self
      (blob compiled index locale current memory self)
  | .text => CursorReply.ofAccess .text self (text compiled index locale current memory self)
  | .sizeOf => CursorReply.ofAccess .size self (sizeOf compiled index locale current memory self)
  | .typeOf => CursorReply.ofAccess .type self (typeOf compiled index locale current self)
  | .isNull => CursorReply.ofAccess .isNull self (isNull compiled index locale current self)

end Cursor

/-- Programs over a `Statement` object. -/
def cursor (compiled : Compiled) : Component Cursor CursorCall CursorReply where
  step self
    | .bind memory index argument =>
      let (result, self) := self.bind compiled memory index argument
      (.ofUnit result, self)
    | .clearBindings => (.done, self.clearBindings)
    | .step =>
      let (result, self) := self.step compiled
      (.ofStep result, self)
    | .finish =>
      let (result, self) := self.finish compiled
      (.ofUnit result, self)
    | .reset halts =>
      let (result, self) := self.reset halts
      (.ofUnit result, self)
    | .close ec =>
      let (result, self) := self.close ec
      (.ofUnit result, self)
    | .access access index locale current memory => self.access compiled access index locale current memory
    | .elsewhere errCode errMsg => (.done, { self with vdbe := { self.vdbe with errCode, errMsg } })

end Ysqlite3
