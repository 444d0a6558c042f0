import Ysqlite3.Span
import Ysqlite3.Misc.Component
import Mathlib.Logic.Function.Basic

/-!
# Database

The connections SQLite hands out and the `Database` objects that hold them. What a call of SQLite
comes to is a parameter. A program works on any number of objects, which it constructs, moves and
destroys in any order.
-/

namespace Ysqlite3

/-- A `sqlite3*`; connections are numbered in the order SQLite produces them. -/
abbrev Handle := Nat

/-- What a call of `sqlite3_open_v2` comes to. One that fails usually yields a connection all the
same. -/
inductive OpenCall where
  | succeeds
  | fails (code : FailureCode) (yields : Bool)
  deriving DecidableEq

/-- The connections produced so far, and those passed to a close that succeeded. -/
structure Connections where
  produced : Nat
  closed : List Handle
  deriving DecidableEq, Repr

namespace Connections

/-- No connection yet. -/
def initial : Connections where
  produced := 0
  closed := []

/-- `sqlite3_open_v2`: the result and what it stores behind `ppDb`. -/
def openV2 (call : OpenCall) (self : Connections) : SQLite3Code × Option Handle × Connections :=
  let yielding := (some self.produced, { self with produced := self.produced + 1 })
  match call with
  | .succeeds => (0, yielding)
  | .fails code true => (code, yielding)
  | .fails code false => (code, none, self)

/-- `sqlite3_close` with the result `ec`; the connection stays open unless it succeeds. -/
def close (ec : SQLite3Code) (handle : Handle) (self : Connections) : Connections :=
  if ec = 0 then { self with closed := self.closed ++ [handle] } else self

/-- `sqlite3_close_v2`, which accepts every connection. -/
def closeV2 (handle : Handle) (self : Connections) : Connections :=
  self.close 0 handle

end Connections

/-- The member `_database`. -/
structure Database where
  database : Option Handle
  deriving DecidableEq, Repr

namespace Database

/-- The default member initialiser. -/
def empty : Database where
  database := none

/-- `Database::close`; `ec` is the result of `sqlite3_close`. -/
def close (force : Bool) (ec : SQLite3Code) (self : Database) (sqlite : Connections) :
    Except Exception Unit × Database × Connections :=
  match self.database with
  | none => (.ok (), self, sqlite)
  | some handle =>
    if force then (.ok (), empty, sqlite.closeV2 handle)
    else if ec ≠ 0 then (.error (.sqlite3 ec ""), self, sqlite.close ec handle)
    else (.ok (), empty, sqlite.close ec handle)

/-- `Database::open`; `vfs` may be null or a string. -/
def «open» (vfs : Option Bytes) (closes : SQLite3Code) (opens : OpenCall) (self : Database)
    (sqlite : Connections) : Except Exception Unit × Database × Connections :=
  if vfs = some [] then (.error (.ysqlite3 .badVfsName), self, sqlite)
  else match self.close false closes sqlite with
    | (.error e, self, sqlite) => (.error e, self, sqlite)
    | (.ok (), _, sqlite) =>
      let (ec, database, sqlite) := sqlite.openV2 opens
      if ec ≠ 0 then (.error (.sqlite3 ec ""), empty, sqlite)
      else (.ok (), { database }, sqlite)

/-- `std::swap(_database, move._database)` -/
def swap (self move : Database) : Database × Database :=
  ({ database := move.database }, { database := self.database })

/-- `Database::release_handle` -/
def releaseHandle (self : Database) : Option Handle × Database := (self.database, empty)

end Database

/-- The objects of a program, by number, and what `release_handle` has handed out. -/
structure Databases where
  objects : Nat → Option Database
  sqlite : Connections
  released : List Handle

/-- A step of the program. An object is constructed in a free place; all other calls are made on
objects that exist. -/
inductive DatabaseCall where
  | construct (id : Nat)
  | constructFile (id : Nat) (opens : OpenCall)
  | moveConstruct (id source : Nat)
  | moveAssign (id source : Nat)
  | openFile (id : Nat) (vfs : Option Bytes) (closes : SQLite3Code) (opens : OpenCall)
  | close (id : Nat) (force : Bool) (closes : SQLite3Code)
  | releaseHandle (id : Nat)
  | destroy (id : Nat)
  deriving DecidableEq

namespace Databases

def initial : Databases where
  objects _ := none
  sqlite := .initial
  released := []

/-- `object` in the place `id`. -/
def put (self : Databases) (id : Nat) (object : Option Database) : Databases :=
  { self with objects := Function.update self.objects id object }

/-- The objects after a call on one of them. -/
def store (self : Databases) (id : Nat) :
    Except Exception Unit × Database × Connections → Except Exception Unit × Databases
  | (result, object, sqlite) => (result, { self with sqlite }.put id (some object))

/-- `Database{}` -/
def construct (id : Nat) (self : Databases) : Except Exception Unit × Databases :=
  match self.objects id with
  | some _ => (.ok (), self)
  | none => (.ok (), self.put id (some .empty))

/-- `Database{ file }`. An object whose constructor throws never comes into being. -/
def constructFile (id : Nat) (opens : OpenCall) (self : Databases) :
    Except Exception Unit × Databases :=
  match self.objects id with
  | some _ => (.ok (), self)
  | none =>
    match Database.empty.open none 0 opens self.sqlite with
    | (.error e, _, sqlite) => (.error e, { self with sqlite })
    | (.ok (), object, sqlite) => (.ok (), { self with sqlite }.put id (some object))

/-- `Database{ std::move(source) }` -/
def moveConstruct (id source : Nat) (self : Databases) : Except Exception Unit × Databases :=
  match self.objects id, self.objects source with
  | none, some move =>
    let (object, move) := Database.empty.swap move
    (.ok (), (self.put source (some move)).put id (some object))
  | _, _ => (.ok (), self)

/-- `operator=`. Assigned to itself, the object is closed and swaps with itself. -/
def moveAssign (id source : Nat) (self : Databases) : Except Exception Unit × Databases :=
  match self.objects id, self.objects source with
  | some object, some move =>
    let (_, object, sqlite) := object.close true 0 self.sqlite
    if id = source then (.ok (), { self with sqlite }.put id (some object))
    else
      let (object, move) := object.swap move
      (.ok (), ({ self with sqlite }.put source (some move)).put id (some object))
  | _, _ => (.ok (), self)

def openFile (id : Nat) (vfs : Option Bytes) (closes : SQLite3Code) (opens : OpenCall)
    (self : Databases) : Except Exception Unit × Databases :=
  match self.objects id with
  | none => (.ok (), self)
  | some object => self.store id (object.open vfs closes opens self.sqlite)

def close (id : Nat) (force : Bool) (closes : SQLite3Code) (self : Databases) :
    Except Exception Unit × Databases :=
  match self.objects id with
  | none => (.ok (), self)
  | some object => self.store id (object.close force closes self.sqlite)

def releaseHandle (id : Nat) (self : Databases) : Except Exception Unit × Databases :=
  match self.objects id with
  | none => (.ok (), self)
  | some object =>
    let (handle, object) := object.releaseHandle
    (.ok (), { self with released := self.released ++ handle.toList }.put id (some object))

/-- The destructor, which closes the object by force. -/
def destroy (id : Nat) (self : Databases) : Except Exception Unit × Databases :=
  match self.objects id with
  | none => (.ok (), self)
  | some object =>
    let (_, _, sqlite) := object.close true 0 self.sqlite
    (.ok (), { self with sqlite }.put id none)

def step (self : Databases) : DatabaseCall → Except Exception Unit × Databases
  | .construct id => self.construct id
  | .constructFile id opens => self.constructFile id opens
  | .moveConstruct id source => self.moveConstruct id source
  | .moveAssign id source => self.moveAssign id source
  | .openFile id vfs closes opens => self.openFile id vfs closes opens
  | .close id force closes => self.close id force closes
  | .releaseHandle id => self.releaseHandle id
  | .destroy id => self.destroy id

end Databases

/-- Programs over `Database` objects. -/
def databases : Component Databases DatabaseCall (Except Exception Unit) where
  step := Databases.step

end Ysqlite3
