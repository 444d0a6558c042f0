import Ysqlite3.Span
import Ysqlite3.Misc.Component
import Ysqlite3.Misc.Ownership

/-!
# User functions

`Database::register_function`, in both overloads, over the table of functions of one connection. A
`Function` object is numbered when it is passed in; the log records when it runs and when it is
deleted. Whether SQLite refuses a registration that it could accept is a parameter.
-/

namespace Ysqlite3

/-- `enum class text_encoding` -/
inductive TextEncoding where
  | utf8
  | utf16be
  | utf16le
  deriving DecidableEq, Repr

def TextEncoding.value : TextEncoding → Nat
  | utf8 => 1
  | utf16be => 3
  | utf16le => 2

/-- The flags for `sqlite3_create_function_v2`: the encoding, `SQLITE_DETERMINISTIC` and
`SQLITE_DIRECTONLY`. -/
def functionFlags (encoding : TextEncoding) (deterministic directOnly : Bool) : Nat :=
  encoding.value ||| (if deterministic then 0x800 else 0) ||| (if directOnly then 0x80000 else 0)

/-- The members of a `Function`, as its constructor leaves them. -/
structure Function where
  argc : Int
  flags : Nat
  argc_ge : -1 ≤ argc
  flags_eq : ∃ encoding deterministic directOnly, flags = functionFlags encoding deterministic directOnly
  deriving DecidableEq

/-- The constructor of `Function`. -/
def Function.construct (argc : Int) (deterministic directOnly : Bool) (encoding : TextEncoding) :
    Function where
  argc := if argc < 0 then -1 else argc
  flags := functionFlags encoding deterministic directOnly
  argc_ge := by split <;> omega
  flags_eq := ⟨encoding, deterministic, directOnly, rfl⟩

/-- The encoding SQLite finds in the flags. -/
theorem functionFlags_encoding (encoding : TextEncoding) (deterministic directOnly : Bool) :
    functionFlags encoding deterministic directOnly &&& 7 = encoding.value := by
  cases encoding <;> cases deterministic <;> cases directOnly <;> rfl

/-! ## The table of a connection -/

/-- What a function is found by; names are compared without regard to case. -/
structure FunctionKey where
  name : Bytes
  argc : Int
  encoding : Nat
  deriving DecidableEq, Repr

/-- An entry of the table. A function given as a plain pointer has no object. -/
structure FunctionEntry where
  key : FunctionKey
  object : Option Nat
  deriving DecidableEq, Repr

abbrev FunctionLog := List (Ownership.Event Nat)

structure FunctionTable where
  entries : List FunctionEntry
  log : FunctionLog
  deriving DecidableEq, Repr

/-- `sqlite3UpperToLower` -/
def upperToLower (c : UInt8) : UInt8 := if 65 ≤ c ∧ c ≤ 90 then c + 32 else c

namespace FunctionTable

def initial : FunctionTable where
  entries := []
  log := []

/-- The destructor callback, or `delete`, on each of the objects. -/
def delete (objects : List Nat) (self : FunctionTable) : FunctionTable :=
  { self with log := self.log ++ objects.map .released }

/-- The objects in some entries. -/
def objectsOf (entries : List FunctionEntry) : List Nat := entries.filterMap FunctionEntry.object

/-- The arguments `sqlite3CreateFunc` refuses: no name or one of more than 255 bytes, whose length is
taken modulo 2^30, and argument counts outside -1 to 127. -/
def Misuse (name : Option Bytes) (argc : Int) : Prop :=
  argc < -1 ∨ 127 < argc ∨ ∀ n ∈ name, 255 < n.length % 2 ^ 30

instance (name : Option Bytes) (argc : Int) : Decidable (Misuse name argc) :=
  inferInstanceAs (Decidable (argc < -1 ∨ 127 < argc ∨ ∀ n ∈ name, 255 < n.length % 2 ^ 30))

/-- `sqlite3_create_function_v2`. `object` is what the destructor callback is for; a call that fails
has run it. An entry that is replaced has its object deleted. -/
def createFunctionV2 (name : Option Bytes) (argc : Int) (flags : Nat) (object : Option Nat)
    (refusal : Option FailureCode) (self : FunctionTable) : SQLite3Code × FunctionTable :=
  if Misuse name argc then (SQLite3Code.misuse, self.delete object.toList)
  else match refusal with
    | some code => (code, self.delete object.toList)
    | none =>
      let key := { name := (name.getD []).map upperToLower, argc, encoding := flags &&& 7 }
      let replaced := self.entries.filter (fun entry => entry.key = key)
      let kept := self.entries.filter (fun entry => ¬ entry.key = key)
      (0, { self.delete (objectsOf replaced) with entries := kept ++ [{ key, object }] })

/-- The end of the connection, which deletes the objects of all entries. -/
def clear (self : FunctionTable) : FunctionTable :=
  { self.delete (objectsOf self.entries) with entries := [] }

end FunctionTable

/-! ## Registration -/

/-- A `Database` that was opened once. `opened` tells whether `_database` is not null; the connection
can outlive that while statements need it. -/
structure DatabaseFunctions where
  opened : Bool
  passed : Nat
  table : FunctionTable
  deriving DecidableEq, Repr

namespace DatabaseFunctions

def initial : DatabaseFunctions where
  opened := true
  passed := 0
  table := .initial

/-- `register_function` for a `std::unique_ptr<Function>`. The pointer goes with the call: whatever
it has not released by then is deleted. -/
def registerFunction (name : Option Bytes) (function : Option Function)
    (refusal : Option FailureCode) (self : DatabaseFunctions) :
    Except Exception Unit × DatabaseFunctions :=
  match function with
  | none =>
    if !self.opened then (.error (.ysqlite3 .databaseIsClosed), self)
    else (.error (.ysqlite3 .nullFunction), self)
  | some f =>
    let object := self.passed
    let self := { self with passed := self.passed + 1 }
    if !self.opened then
      (.error (.ysqlite3 .databaseIsClosed), { self with table := self.table.delete [object] })
    else
      let (ec, table) := self.table.createFunctionV2 name f.argc f.flags (some object) refusal
      if ec ≠ 0 then (.error (.sqlite3 ec ""), { self with table := table.delete [object] })
      else (.ok (), { self with table })

/-- `register_function` for a plain pointer, which may be null. -/
def registerPointer (name : Option Bytes) (isNull : Bool) (encoding : TextEncoding)
    (deterministic directOnly : Bool) (refusal : Option FailureCode) (self : DatabaseFunctions) :
    Except Exception Unit × DatabaseFunctions :=
  if !self.opened then (.error (.ysqlite3 .databaseIsClosed), self)
  else if isNull then (.error (.ysqlite3 .nullFunction), self)
  else
    let (ec, table) := self.table.createFunctionV2 name (-1)
      (functionFlags encoding deterministic directOnly) none refusal
    if ec ≠ 0 then (.error (.sqlite3 ec ""), { self with table })
    else (.ok (), { self with table })

/-- SQLite runs a function of the table. -/
def invoke (entry : Nat) (self : DatabaseFunctions) : DatabaseFunctions :=
  match (self.table.entries[entry]?).bind FunctionEntry.object with
  | none => self
  | some object =>
    { self with table := { self.table with log := self.table.log ++ [.used object] } }

/-- `Database::close`; `ec` is the result of `sqlite3_close`. A connection closed by force goes when
no statement needs it any more. -/
def close (force : Bool) (ec : SQLite3Code) (needed : Bool) (self : DatabaseFunctions) :
    Except Exception Unit × DatabaseFunctions :=
  if !self.opened then (.ok (), self)
  else if force then
    let table := if needed then self.table else self.table.clear
    (.ok (), { self with opened := false, table })
  else if ec ≠ 0 then (.error (.sqlite3 ec ""), self)
  else (.ok (), { self with opened := false, table := self.table.clear })

/-- The last statement goes that needs a connection closed by force. -/
def finish (self : DatabaseFunctions) : DatabaseFunctions :=
  if self.opened then self else { self with table := self.table.clear }

end DatabaseFunctions

inductive FunctionCall where
  | register (name : Option Bytes) (function : Option Function) (refusal : Option FailureCode)
  | registerPointer (name : Option Bytes) (isNull : Bool) (encoding : TextEncoding)
      (deterministic directOnly : Bool) (refusal : Option FailureCode)
  | invoke (entry : Nat)
  | close (force : Bool) (ec : SQLite3Code) (needed : Bool)
  | finish
  deriving DecidableEq

/-- Programs that register functions with a database. -/
def databaseFunctions : Component DatabaseFunctions FunctionCall (Except Exception Unit) where
  step self
    | .register name function refusal => self.registerFunction name function refusal
    | .registerPointer name isNull encoding deterministic directOnly refusal =>
      self.registerPointer name isNull encoding deterministic directOnly refusal
    | .invoke entry => (.ok (), self.invoke entry)
    | .close force ec needed => self.close force ec needed
    | .finish => (.ok (), self.finish)

end Ysqlite3
