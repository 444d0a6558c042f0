import Ysqlite3.Statement.BindText
import Mathlib.Logic.Function.Basic

/-!
# Virtual machines

What SQLite keeps for a prepared statement, as far as the functions of its interface that `Statement` and
`Results` call can tell: the values bound to its parameters, whether it stands on a row, and the error codes
of the statement and of its connection. What running the program yields is a parameter, and so is whether
there is memory.

Three things are assumed. The database is in UTF-8, so that no text is translated when it is bound or read.
Every run of the program comes to its end; one that yields rows for ever has no `Execution`. And what is read
of a row does not change the rows after it, although SQLite may keep the register of a constant.
-/

namespace Ysqlite3

namespace SQLite3Code

def nomem : SQLite3Code := 7
def range : SQLite3Code := 25

theorem done_ne_row : done ≠ row := by decide

end SQLite3Code

/-- `Mem`: a value of SQLite. A real is given by its bits, a text by its bytes in UTF-8; a `zeroblob` has
bytes that are not written out. -/
inductive Mem where
  | null
  | int (value : Int64)
  | real (bits : UInt64)
  | str (bytes : Bytes)
  | blob (bytes : Bytes)
  | zeroblob (n : Nat)
  deriving DecidableEq, Repr

/-- `sqlite3IsNaN` -/
def isNaN (bits : UInt64) : Bool :=
  bits &&& 0x7ff0000000000000 = 0x7ff0000000000000 && bits &&& 0x000fffffffffffff ≠ 0

abbrev Row := List Mem

/-- What is left of a run that comes to its end: its rows, then the result code with its message. -/
structure Execution where
  rows : List Row
  ends : SQLite3Code
  message : String
  ends_ne : ends ≠ SQLite3Code.row
  deriving DecidableEq

/-- How SQLite reads a value as one of another type: `memIntValue` and `memRealValue` read bytes as a number,
whether they are a text or a blob; `text` is for numbers. -/
structure Conversions where
  intOfBytes : Bytes → Int64
  intOfReal : UInt64 → Int64
  realOfBytes : Bytes → UInt64
  realOfInt : Int64 → UInt64
  text : Mem → Bytes

/-- How the integer 0 is read, and bytes that are no number. -/
def zeroConversions : Conversions where
  intOfBytes _ := 0
  intOfReal _ := 0
  realOfBytes _ := 0
  realOfInt _ := 0
  text _ := [48]

/-- What a statement comes with when it is prepared. `program` tells what its `n`th run yields for the
values that are bound. -/
structure Compiled where
  parameters : Parameters
  columns : List Bytes
  program : Nat → (Nat → Mem) → Execution
  conversions : Conversions
  /-- `SQLITE_LIMIT_LENGTH` -/
  limit : Nat
  count_ge : 0 ≤ parameters.count
  length_row : ∀ n aVar, ∀ row ∈ (program n aVar).rows, row.length = columns.length
  indexOf_mem : ∀ name, 0 ≤ parameters.indexOf name ∧ parameters.indexOf name ≤ parameters.count

/-- The parameters of a statement that has none. -/
def noParameters : Parameters where
  count := 0
  indexOf _ := 0

theorem noParameters_count : 0 ≤ noParameters.count := Int.le_refl 0

theorem noParameters_indexOf (name : Bytes) :
    0 ≤ noParameters.indexOf name ∧ noParameters.indexOf name ≤ noParameters.count :=
  ⟨Int.le_refl 0, Int.le_refl 0⟩

/-- Where a program stands: before its first instruction, on a row, or behind its last instruction. -/
inductive Stage where
  | ready
  | onRow (row : Row) (left : Execution)
  | halted
  deriving DecidableEq

/-- The values bound, `iVdbeMagic` with `pc`, `rc`, and how often the program was started; and the error
code and the message of the connection. -/
structure Vdbe where
  aVar : Nat → Mem
  stage : Stage
  rc : SQLite3Code
  starts : Nat
  errCode : SQLite3Code
  errMsg : String

namespace Vdbe

/-- A statement that was just prepared. -/
def prepared : Vdbe where
  aVar _ := .null
  stage := .ready
  rc := 0
  starts := 0
  errCode := 0
  errMsg := "not an error"

/-! ## Running -/

/-- `sqlite3VdbeExec` up to the next row or to the end. -/
def exec (left : Execution) (self : Vdbe) : SQLite3Code × Vdbe :=
  match left.rows with
  | row :: rows =>
    (SQLite3Code.row,
      { self with stage := .onRow row { left with rows }, errCode := SQLite3Code.row })
  | [] =>
    (left.ends,
      { self with
        stage := .halted
        rc := if left.ends = SQLite3Code.done then 0 else left.ends
        errCode := left.ends
        errMsg := left.message })

/-- `sqlite3_step`. A program that has halted is reset first; one whose row could not be converted for
want of memory goes no further. -/
def step (statement : Compiled) (self : Vdbe) : SQLite3Code × Vdbe :=
  match self.stage with
  | .onRow _ left =>
    if self.rc = SQLite3Code.nomem then
      (SQLite3Code.nomem,
        { self with stage := .halted, errCode := SQLite3Code.nomem, errMsg := "out of memory" })
    else self.exec left
  | _ =>
    { self with starts := self.starts + 1, rc := 0 }.exec (statement.program self.starts self.aVar)

/-- `sqlite3_reset`; `halts` is what ending the program on a row comes to, a commit for one. -/
def reset (halts : SQLite3Code) (self : Vdbe) : SQLite3Code × Vdbe :=
  let ready := { self with stage := .ready, rc := 0 }
  match self.stage with
  | .ready => (self.rc, ready)
  | .onRow _ _ =>
    let rc := if self.rc ≠ 0 then self.rc else halts
    (rc, { ready with errCode := rc })
  | .halted => (self.rc, { ready with errCode := self.rc })

/-! ## Binding -/

def setVar (i : Int) (value : Mem) (self : Vdbe) : Vdbe :=
  { self with aVar := Function.update self.aVar i.toNat value }

/-- `vdbeUnbind` -/
def unbind (statement : Compiled) (i : Int) (self : Vdbe) : SQLite3Code × Vdbe :=
  if self.stage ≠ .ready then
    (SQLite3Code.misuse, { self with errCode := SQLite3Code.misuse, errMsg := "bad parameter or other API misuse" })
  else if i < 1 ∨ statement.parameters.count < i then
    (SQLite3Code.range, { self with errCode := SQLite3Code.range, errMsg := "column index out of range" })
  else (0, { self.setVar i .null with errCode := 0 })

/-- What the functions for values without memory of their own come to. -/
def bindMem (statement : Compiled) (value : Mem) (i : Int) (self : Vdbe) : SQLite3Code × Vdbe :=
  let (rc, self) := self.unbind statement i
  if rc = 0 then (rc, self.setVar i value) else (rc, self)

/-- `sqlite3_bind_null` -/
def bindNull (statement : Compiled) : Int → Vdbe → SQLite3Code × Vdbe := bindMem statement .null

/-- `sqlite3_bind_double`; `sqlite3VdbeMemSetDouble` makes NULL of a NaN. -/
def bindDouble (statement : Compiled) (bits : UInt64) : Int → Vdbe → SQLite3Code × Vdbe :=
  bindMem statement (if isNaN bits then .null else .real bits)

/-- `sqlite3_bind_int64` -/
def bindInt64 (statement : Compiled) (value : Int64) : Int → Vdbe → SQLite3Code × Vdbe :=
  bindMem statement (.int value)

/-- `sqlite3_bind_int` -/
def bindInt (statement : Compiled) (value : Int32) : Int → Vdbe → SQLite3Code × Vdbe :=
  bindInt64 statement value.toInt64

/-- `sqlite3_bind_zeroblob` -/
def bindZeroblob (statement : Compiled) (n : Int) : Int → Vdbe → SQLite3Code × Vdbe :=
  bindMem statement (.zeroblob n.toNat)

/-- `sqlite3_bind_zeroblob64`, which compares the size with the limit. -/
def bindZeroblob64 (statement : Compiled) (n : UInt64) (i : Int) (self : Vdbe) : SQLite3Code × Vdbe :=
  if statement.limit < n.toNat then (SQLite3Code.tooBig, self)
  else self.bindZeroblob statement n.toNat i

/-- `bindText` for bytes whose number is settled; `value` makes a text or a blob of them. Without a
pointer NULL is bound. Bytes that are not copied stay bound when they are refused. -/
def bindBytes (statement : Compiled) (value : Bytes → Mem) (transient memory : Bool)
    (data : Option Bytes) (i : Int) (self : Vdbe) : SQLite3Code × Vdbe :=
  let (rc, self) := self.unbind statement i
  match data with
  | none => (rc, self)
  | some z =>
    if rc ≠ 0 then (rc, self)
    else if statement.limit < z.length then
      let self := { self with errCode := SQLite3Code.tooBig, errMsg := "string or blob too big" }
      (SQLite3Code.tooBig,
        if transient then self else self.setVar i (value (z.take (z.length % 2 ^ 31))))
    else if transient && !memory then
      (SQLite3Code.nomem, { self with errCode := SQLite3Code.nomem, errMsg := "out of memory" })
    else (0, self.setVar i (value z))

/-- `sqlite3_bind_text` with the length `n`. `ENC(db)` is UTF-8, so `sqlite3VdbeChangeEncoding` leaves the text
as it is. -/
def bindText (statement : Compiled) (transient memory : Bool) (data : Option Bytes) (n : Int) :
    Int → Vdbe → SQLite3Code × Vdbe :=
  bindBytes statement .str transient memory (data.map (fun z => textOf z n))

/-- `sqlite3_bind_blob64` -/
def bindBlob64 (statement : Compiled) (transient memory : Bool) (data : Option Bytes) :
    Int → Vdbe → SQLite3Code × Vdbe :=
  bindBytes statement .blob transient memory data

/-- `sqlite3_clear_bindings` -/
def clearBindings (self : Vdbe) : Vdbe := { self with aVar := fun _ => .null }

/-! ## Columns -/

/-- The value in column `i` of the row, if there is one. -/
def columnMem (i : Int) (self : Vdbe) : Option Mem :=
  match self.stage with
  | .onRow row _ => if i < 0 then none else row[i.toNat]?
  | _ => none

/-- NULL in column `i`. -/
def loseColumn (i : Int) (self : Vdbe) : Vdbe :=
  match self.stage with
  | .onRow row left => { self with stage := .onRow (row.set i.toNat .null) left }
  | _ => self

/-- What the `sqlite3_column` functions share. Reading a value that is not NULL can take memory; where
there is none, the value becomes NULL and the statement fails at the next step. -/
def column {α : Type} (read : Mem → α) (memory : Bool) (i : Int) (self : Vdbe) : α × Vdbe :=
  match self.columnMem i with
  | none =>
    (read .null, { self with errCode := SQLite3Code.range, errMsg := "column index out of range" })
  | some value =>
    if value = .null || memory then (read value, self)
    else
      (read .null,
        { self.loseColumn i with
          rc := SQLite3Code.nomem, errCode := SQLite3Code.nomem, errMsg := "out of memory" })

end Vdbe

namespace Mem

variable (conversions : Conversions)

/-- `sqlite3_value_int64`; zeros that are not written out read like zeros that are. -/
def toInt64 : Mem → Int64
  | null => 0
  | int value => value
  | real bits => conversions.intOfReal bits
  | str bytes | blob bytes => conversions.intOfBytes bytes
  | zeroblob n => conversions.intOfBytes (List.replicate n 0)

/-- `sqlite3_value_double` -/
def toDouble : Mem → UInt64
  | null => 0
  | int value => conversions.realOfInt value
  | real bits => bits
  | str bytes | blob bytes => conversions.realOfBytes bytes
  | zeroblob n => conversions.realOfBytes (List.replicate n 0)

/-- `sqlite3_value_text` -/
def toText : Mem → Option Bytes
  | null => none
  | str bytes | blob bytes => some bytes
  | zeroblob n => some (List.replicate n 0)
  | value => some (conversions.text value)

/-- `sqlite3_value_blob`, which has no pointer for a blob without bytes. -/
def toBlob (value : Mem) : Option Bytes :=
  match value.toText conversions with
  | some (b :: bytes) => some (b :: bytes)
  | _ => none

/-- `sqlite3_value_bytes` -/
def bytes (value : Mem) : Nat := ((value.toText conversions).getD []).length

/-- What `valueToText` leaves: it sets `MEM_Str` for a blob, and a blob with this flag has the type of a
text. -/
def asText : Mem → Mem
  | blob bytes => .str bytes
  | zeroblob n => .str (List.replicate n 0)
  | value => value

/-- Whether `sqlite3VdbeMemTooBig` refuses the value. -/
def tooBig (limit : Nat) : Mem → Bool
  | str bytes | blob bytes => limit < bytes.length
  | zeroblob n => limit < n
  | _ => false

end Mem

namespace Vdbe

variable (statement : Compiled)

/-- `sqlite3_column_int64` -/
def columnInt64 : Int → Vdbe → Int64 × Vdbe := column (Mem.toInt64 statement.conversions) true

/-- `sqlite3_column_double` -/
def columnDouble : Int → Vdbe → UInt64 × Vdbe := column (Mem.toDouble statement.conversions) true

/-- The value in column `i` is a text from now on, if it was a blob. -/
def textColumn (i : Int) (self : Vdbe) : Vdbe :=
  match self.stage with
  | .onRow row left =>
    if i < 0 then self else { self with stage := .onRow (row.modify i.toNat Mem.asText) left }
  | _ => self

/-- `sqlite3_column_text` -/
def columnText (memory : Bool) (i : Int) (self : Vdbe) : Option Bytes × Vdbe :=
  let (text, self) := column (Mem.toText statement.conversions) memory i self
  (text, self.textColumn i)

/-- `sqlite3_column_blob` -/
def columnBlob (memory : Bool) : Int → Vdbe → Option Bytes × Vdbe :=
  column (Mem.toBlob statement.conversions) memory

/-- `sqlite3_column_bytes` -/
def columnBytes (memory : Bool) : Int → Vdbe → Nat × Vdbe :=
  column (Mem.bytes statement.conversions) memory

/-- `sqlite3_column_type`; the value stands for its own type. -/
def columnType : Int → Vdbe → Mem × Vdbe := column (fun value => value) true

end Vdbe

end Ysqlite3
