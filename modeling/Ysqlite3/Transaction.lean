import Ysqlite3.Error
import Ysqlite3.Misc.Component
import Ysqlite3.Misc.Places

/-!
# Transaction

`Transaction` objects over one open connection. SQLite's side is the transaction the connection is
inside of, if it is not in autocommit mode; transactions are numbered as they begin. SQLite may refuse
each of the three commands, and may roll the transaction back on its own.
-/

namespace Ysqlite3

/-- A connection: how many transactions have begun, and the one that is open. -/
structure Autocommit where
  begun : Nat
  inside : Option Nat
  deriving DecidableEq, Repr

/-- The commands `Transaction` executes. -/
inductive TransactionSql where
  | beginTransaction
  | commit
  | rollback
  deriving DecidableEq, Repr

/-- What a command comes to when the connection is in the mode for it. One that fails can roll the
transaction back. -/
inductive SqlCall where
  | succeeds
  | fails (code : FailureCode) (message : String) (rollsBack : Bool)
  deriving DecidableEq

namespace Autocommit

/-- `Database::execute` with one of the commands. -/
def execute (sql : TransactionSql) (call : SqlCall) (self : Autocommit) :
    Except Exception Unit × Autocommit :=
  match sql, self.inside with
  | .beginTransaction, some _ =>
    (.error (.sqlite3 SQLite3Code.generic "cannot start a transaction within a transaction"), self)
  | .commit, none =>
    (.error (.sqlite3 SQLite3Code.generic "cannot commit - no transaction is active"), self)
  | .rollback, none =>
    (.error (.sqlite3 SQLite3Code.generic "cannot rollback - no transaction is active"), self)
  | sql, inside =>
    match call with
    | .fails code message rollsBack =>
      (.error (.sqlite3 code message),
        { self with inside := if rollsBack then none else inside })
    | .succeeds =>
      match sql with
      | .beginTransaction => (.ok (), { begun := self.begun + 1, inside := some self.begun })
      | _ => (.ok (), { self with inside := none })

end Autocommit

/-- The member `_db`, as the transaction begun through it; `none` is the null pointer. -/
structure Transaction where
  db : Option Nat
  deriving DecidableEq, Repr

namespace Transaction

/-- `Transaction::is_active` -/
def isActive (self : Transaction) : Bool := self.db.isSome

/-- The body of the constructor. -/
def construct (call : SqlCall) (sqlite : Autocommit) :
    Except Exception Unit × Transaction × Autocommit :=
  match sqlite.execute .beginTransaction call with
  | (result, sqlite) => (result, { db := sqlite.inside }, sqlite)

/-- Executes a command that ends the transaction, and lets go of the database if that succeeds. -/
def finish (sql : TransactionSql) (call : SqlCall) (self : Transaction) (sqlite : Autocommit) :
    Except Exception Unit × Transaction × Autocommit :=
  if self.isActive then
    match sqlite.execute sql call with
    | (.error e, sqlite) => (.error e, self, sqlite)
    | (.ok (), sqlite) => (.ok (), { db := none }, sqlite)
  else (.ok (), self, sqlite)

/-- `Transaction::rollback` -/
def rollback (call : SqlCall) (self : Transaction) (sqlite : Autocommit) :
    Except Exception Unit × Transaction × Autocommit := self.finish .rollback call sqlite

/-- `Transaction::commit` -/
def commit (call : SqlCall) (self : Transaction) (sqlite : Autocommit) :
    Except Exception Unit × Transaction × Autocommit := self.finish .commit call sqlite

end Transaction

/-! ## Programs -/

/-- The objects of a program and the connection. An exception that leaves a member declared
`noexcept` has terminated the process. -/
structure Transactions where
  objects : Nat → Option Transaction
  sqlite : Autocommit
  terminated : Bool

/-- A step of the program, or a rollback SQLite decides on after an error of some other statement. An
object is constructed in a free place; all other calls are made on objects that exist. -/
inductive TransactionCall where
  | construct (id : Nat) (call : SqlCall)
  | moveConstruct (id source : Nat)
  | moveAssign (id source : Nat) (call : SqlCall)
  | commit (id : Nat) (call : SqlCall)
  | rollback (id : Nat) (call : SqlCall)
  | destroy (id : Nat) (call : SqlCall)
  | automaticRollback
  deriving DecidableEq

namespace Transactions

def initial : Transactions where
  objects _ := none
  sqlite := { begun := 0, inside := none }
  terminated := false

def put (self : Transactions) (id : Nat) (object : Option Transaction) : Transactions :=
  { self with objects := Function.update self.objects id object }

/-- `std::terminate` -/
def terminate (self : Transactions) : Transactions := { self with terminated := true }

/-- `Transaction{ db }`, which is `noexcept`. -/
def construct (id : Nat) (call : SqlCall) (self : Transactions) :
    Except Exception Unit × Transactions :=
  match self.objects id with
  | some _ => (.ok (), self)
  | none =>
    match Transaction.construct call self.sqlite with
    | (.error e, _, sqlite) => (.error e, { self with sqlite }.terminate)
    | (.ok (), object, sqlite) => (.ok (), { self with sqlite }.put id (some object))

/-- `Transaction{ std::move(source) }` -/
def moveConstruct (id source : Nat) (self : Transactions) : Except Exception Unit × Transactions :=
  match self.objects id, self.objects source with
  | none, some move => (.ok (), (self.put source (some { db := none })).put id (some move))
  | _, _ => (.ok (), self)

/-- `operator=`, which is `noexcept`. Assigned to itself, the object swaps with itself. -/
def moveAssign (id source : Nat) (call : SqlCall) (self : Transactions) :
    Except Exception Unit × Transactions :=
  match self.objects id, self.objects source with
  | some object, some move =>
    match object.rollback call self.sqlite with
    | (.error e, _, sqlite) => (.error e, { self with sqlite }.terminate)
    | (.ok (), object, sqlite) =>
      if id = source then (.ok (), { self with sqlite }.put id (some object))
      else (.ok (), ({ self with sqlite }.put source (some object)).put id (some move))
  | _, _ => (.ok (), self)

/-- A call that may throw. -/
def onObject (id : Nat)
    (f : Transaction → Autocommit → Except Exception Unit × Transaction × Autocommit)
    (self : Transactions) : Except Exception Unit × Transactions :=
  match self.objects id with
  | none => (.ok (), self)
  | some object =>
    match f object self.sqlite with
    | (result, object, sqlite) => (result, { self with sqlite }.put id (some object))

/-- The destructor, which is `noexcept`. -/
def destroy (id : Nat) (call : SqlCall) (self : Transactions) :
    Except Exception Unit × Transactions :=
  match self.objects id with
  | none => (.ok (), self)
  | some object =>
    match object.rollback call self.sqlite with
    | (.error e, _, sqlite) => (.error e, { self with sqlite }.terminate)
    | (.ok (), _, sqlite) => (.ok (), { self with sqlite }.put id none)

def automaticRollback (self : Transactions) : Transactions :=
  { self with sqlite := { self.sqlite with inside := none } }

/-- A terminated process takes no step. -/
def step (self : Transactions) (call : TransactionCall) : Except Exception Unit × Transactions :=
  if self.terminated then (.ok (), self)
  else match call with
    | .construct id call => self.construct id call
    | .moveConstruct id source => self.moveConstruct id source
    | .moveAssign id source call => self.moveAssign id source call
    | .commit id call => self.onObject id (Transaction.commit call)
    | .rollback id call => self.onObject id (Transaction.rollback call)
    | .destroy id call => self.destroy id call
    | .automaticRollback => (.ok (), self.automaticRollback)

end Transactions

/-- Programs over `Transaction` objects. -/
def transactions : Component Transactions TransactionCall (Except Exception Unit) where
  step := Transactions.step

end Ysqlite3
