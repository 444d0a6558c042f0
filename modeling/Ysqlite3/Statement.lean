import Ysqlite3.Database
import Ysqlite3.Misc.Places

/-!
# Statement

`Statement` objects hold a prepared statement and the connection it was prepared on. They are
constructed by `Database::prepare_statement` and moved between each other; what the calls of SQLite
come to is a parameter.
-/

namespace Ysqlite3

/-- A `sqlite3_stmt*`; prepared statements are numbered in the order SQLite produces them. -/
abbrev StatementHandle := Nat

/-- The members `_statement` and `_database`. -/
structure Statement where
  statement : Option StatementHandle
  database : Option Handle
  deriving DecidableEq, Repr

/-- The members of a `Results`. -/
structure Results where
  statement : Option StatementHandle
  database : Option Handle
  deriving DecidableEq, Repr

namespace Results

/-- `Results{}` -/
def empty : Results where
  statement := none
  database := none

/-- The constructor of `Results`. -/
def construct (statement : Option StatementHandle) (database : Option Handle) :
    Except Exception Results :=
  if statement.isSome ≠ database.isSome then .error (.ysqlite3 .badArguments)
  else .ok { statement, database }

end Results

/-- What SQLite knows: the connection each statement was prepared on, and the message of the last
error of each connection. -/
structure Prepared where
  preparedOn : List Handle
  messages : Handle → String

namespace Prepared

/-- `sqlite3_errmsg`, which has a text for a null pointer too. -/
def errmsg (self : Prepared) : Option Handle → String
  | none => "out of memory"
  | some connection => self.messages connection

/-- A call on a connection leaves a message. -/
def report (connection : Handle) (message : String) (self : Prepared) : Prepared :=
  { self with messages := Function.update self.messages connection message }

/-- A call on a statement leaves its message with the connection of the statement. -/
def reportOn (statement : StatementHandle) (message : String) (self : Prepared) : Prepared :=
  match self.preparedOn[statement]? with
  | none => self
  | some connection => self.report connection message

end Prepared

/-- What a call of `sqlite3_prepare_v2` comes to. A text without SQL yields no statement. -/
inductive PrepareCall where
  | fails (code : FailureCode) (message : String)
  | succeeds (yields : Bool)
  deriving DecidableEq

/-- What SQLite knows about the parameters of a statement. -/
structure Parameters where
  count : Int
  indexOf : Bytes → Int

/-- `struct Index` -/
inductive Index where
  | value (value : Int)
  | name (name : Bytes)
  deriving DecidableEq, Repr

namespace Statement

/-- The default member initialisers. -/
def empty : Statement where
  statement := none
  database := none

/-- The constructor from a pair of pointers. -/
def construct (statement : Option StatementHandle) (database : Option Handle) :
    Except Exception Statement :=
  if statement.isSome ≠ database.isSome then .error (.ysqlite3 .badArguments)
  else .ok { statement, database }

/-- `Database::prepare_statement` on a database with the given `_database`. -/
def prepareStatement (database : Option Handle) (call : PrepareCall) (sqlite : Prepared) :
    Except Exception Statement × Prepared :=
  match database with
  | none => (.error (.ysqlite3 .databaseIsClosed), sqlite)
  | some connection =>
    match call with
    | .fails code message =>
      let sqlite := sqlite.report connection message
      (.error (.sqlite3 code (sqlite.errmsg database)), sqlite)
    | .succeeds false => (construct none database, sqlite)
    | .succeeds true =>
      (construct (some sqlite.preparedOn.length) database,
        { sqlite with preparedOn := sqlite.preparedOn ++ [connection] })

/-- `std::swap(_statement, move._statement)` -/
def swap (self move : Statement) : Statement × Statement :=
  ({ self with statement := move.statement }, { move with statement := self.statement })

/-- `Statement::step`, where `sqlite3_step` returns `ec` and leaves `message`. -/
def step (ec : SQLite3Code) (message : String) (self : Statement) (sqlite : Prepared) :
    Except Exception Results × Prepared :=
  match self.statement with
  | none => (.error (.ysqlite3 .statementIsClosed), sqlite)
  | some statement =>
    let sqlite := sqlite.reportOn statement message
    if ec = SQLite3Code.row then (Results.construct (some statement) self.database, sqlite)
    else if ec = SQLite3Code.done then (.ok .empty, sqlite)
    else (.error (.sqlite3 ec (sqlite.errmsg self.database)), sqlite)

/-- `Statement::finish`; `ec` is the first result of `sqlite3_step` that is no row. -/
def finish (ec : SQLite3Code) (self : Statement) : Except Exception Unit :=
  if self.statement.isNone then .error (.ysqlite3 .statementIsClosed)
  else if ec = SQLite3Code.done then .ok ()
  else .error (.sqlite3 ec "")

/-- `Statement::reset`; `ec` is the result of `sqlite3_reset`. -/
def reset (ec : SQLite3Code) (self : Statement) : Except Exception Unit :=
  if self.statement.isSome ∧ ec ≠ 0 then .error (.sqlite3 ec "") else .ok ()

/-- `_to_parameter_index` -/
def toParameterIndex (parameters : Parameters) : Index → Except Exception Int
  | .name name =>
    if parameters.indexOf name = 0 then .error (.ysqlite3 .unknownParameter)
    else .ok (parameters.indexOf name)
  | .value value =>
    if value < 0 ∨ value ≥ parameters.count then .error (.ysqlite3 .parameterOutOfRange)
    else .ok (value + 1)

/-- `_bind`; `ec` is the result of the binder for an index. -/
def bind (parameters : Parameters) (index : Index) (ec : Int → SQLite3Code) (self : Statement) :
    Except Exception Unit :=
  if self.statement.isNone then .error (.ysqlite3 .statementIsClosed)
  else match toParameterIndex parameters index with
    | .error e => .error e
    | .ok i => if ec i ≠ 0 then .error (.sqlite3 (ec i) "") else .ok ()

/-- `Statement::close`; `ec` is the result of `sqlite3_finalize`, which accepts a null pointer. -/
def close (ec : SQLite3Code) (self : Statement) : Except Exception Unit × Statement :=
  let closed := { self with statement := none }
  if self.statement.isSome ∧ ec ≠ 0 then (.error (.sqlite3 ec ""), closed) else (.ok (), closed)

/-- `Statement::release` -/
def release (self : Statement) : Option StatementHandle × Statement :=
  (self.statement, { self with statement := none })

end Statement

/-! ## Programs -/

/-- The objects of a program and what SQLite knows. -/
structure Statements where
  objects : Nat → Option Statement
  sqlite : Prepared

/-- A step of the program. An object is constructed in a free place; all other calls are made on
objects that exist. -/
inductive StatementCall where
  | prepare (id : Nat) (database : Option Handle) (call : PrepareCall)
  | moveConstruct (id source : Nat)
  | moveAssign (id source : Nat)
  | bind (id : Nat) (parameters : Parameters) (index : Index) (ec : Int → SQLite3Code)
  | clearBindings (id : Nat)
  | step (id : Nat) (ec : SQLite3Code) (message : String)
  | finish (id : Nat) (ec : SQLite3Code)
  | reset (id : Nat) (ec : SQLite3Code)
  | close (id : Nat) (ec : SQLite3Code)
  | release (id : Nat)
  | destroy (id : Nat) (ec : SQLite3Code)

/-- What a call comes to. -/
inductive StatementReply where
  | done
  | results (results : Results)
  | handle (statement : Option StatementHandle)
  | throws (exception : Exception)
  deriving DecidableEq, Repr

def StatementReply.ofUnit : Except Exception Unit → StatementReply
  | .ok () => .done
  | .error e => .throws e

namespace Statements

/-- The texts SQLite starts with. -/
def initial : Statements where
  objects _ := none
  sqlite := { preparedOn := [], messages := fun _ => "not an error" }

def put (self : Statements) (id : Nat) (object : Statement) : Statements :=
  { self with objects := Function.update self.objects id (some object) }

def prepare (id : Nat) (database : Option Handle) (call : PrepareCall) (self : Statements) :
    StatementReply × Statements :=
  match self.objects id with
  | some _ => (.done, self)
  | none =>
    match Statement.prepareStatement database call self.sqlite with
    | (.error e, sqlite) => (.throws e, { self with sqlite })
    | (.ok object, sqlite) => (.done, { self with sqlite }.put id object)

/-- `Statement{ std::move(source) }` -/
def moveConstruct (id source : Nat) (self : Statements) : StatementReply × Statements :=
  match self.objects id, self.objects source with
  | none, some move =>
    let (object, move) := Statement.empty.swap move
    (.done, (self.put source move).put id object)
  | _, _ => (.done, self)

/-- `operator=` -/
def moveAssign (id source : Nat) (self : Statements) : StatementReply × Statements :=
  match self.objects id, self.objects source with
  | some object, some move =>
    -- assigned to itself, the object swaps with itself
    if id = source then (.done, self)
    else
      let (object, move) := object.swap move
      (.done, (self.put source move).put id object)
  | _, _ => (.done, self)

/-- A call that leaves the members of the object as they are. -/
def onObject (id : Nat) (f : Statement → Except Exception Unit) (self : Statements) :
    StatementReply × Statements :=
  match self.objects id with
  | none => (.done, self)
  | some object => (.ofUnit (f object), self)

def step (id : Nat) (ec : SQLite3Code) (message : String) (self : Statements) :
    StatementReply × Statements :=
  match self.objects id with
  | none => (.done, self)
  | some object =>
    match object.step ec message self.sqlite with
    | (.error e, sqlite) => (.throws e, { self with sqlite })
    | (.ok results, sqlite) => (.results results, { self with sqlite })

def close (id : Nat) (ec : SQLite3Code) (self : Statements) : StatementReply × Statements :=
  match self.objects id with
  | none => (.done, self)
  | some object =>
    let (result, object) := object.close ec
    (.ofUnit result, self.put id object)

def release (id : Nat) (self : Statements) : StatementReply × Statements :=
  match self.objects id with
  | none => (.done, self)
  | some object =>
    let (statement, object) := object.release
    (.handle statement, self.put id object)

/-- The destructor, which closes the statement and swallows what that throws. -/
def destroy (id : Nat) (self : Statements) : StatementReply × Statements :=
  (.done, { self with objects := Function.update self.objects id none })

end Statements

/-- Programs over `Statement` objects. -/
def statements : Component Statements StatementCall StatementReply where
  step self
    | .prepare id database call => self.prepare id database call
    | .moveConstruct id source => self.moveConstruct id source
    | .moveAssign id source => self.moveAssign id source
    | .bind id parameters index ec => self.onObject id (Statement.bind parameters index ec)
    | .clearBindings id => self.onObject id (fun _ => .ok ())
    | .step id ec message => self.step id ec message
    | .finish id ec => self.onObject id (Statement.finish ec)
    | .reset id ec => self.onObject id (Statement.reset ec)
    | .close id ec => self.close id ec
    | .release id => self.release id
    | .destroy id _ => self.destroy id

end Ysqlite3
