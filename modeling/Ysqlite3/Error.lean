import Mathlib.Data.Int.Notation

/-!
# Errors and exceptions

The error codes of `error.hpp` and what a call of a C++ function can come to. An exception leaves
the objects the function touched in the state they had when it was thrown, so both a return and a
throw carry that state.
-/

namespace Ysqlite3

/-- The value of a `SQLite3_code`; the enumeration has the type `int`. -/
abbrev SQLite3Code := Int

namespace SQLite3Code

def success : SQLite3Code := 0
def generic : SQLite3Code := 1
def notFound : SQLite3Code := 12
def misuse : SQLite3Code := 21
def notADatabase : SQLite3Code := 26
def row : SQLite3Code := 100
def done : SQLite3Code := 101
/-- `io | (2 << 8)` -/
def shortRead : SQLite3Code := 522
/-- `io | (8 << 8)` -/
def ioErrUnlock : SQLite3Code := 2058
/-- `io | (13 << 8)` -/
def ioErrAccess : SQLite3Code := 3338
/-- `io | (14 << 8)` -/
def ioErrCheckReservedLock : SQLite3Code := 3594
/-- `io | (15 << 8)` -/
def ioErrLock : SQLite3Code := 3850

end SQLite3Code

/-- The result of a call of SQLite that failed. -/
abbrev FailureCode := { code : SQLite3Code // code ≠ 0 }

/-- `enum class Error` -/
inductive Error where
  | success
  | badVfsName
  | nullFunction
  | databaseIsClosed
  | statementIsClosed
  | unknownParameter
  | parameterOutOfRange
  | badIndexName
  | badArguments
  | badResult
  | vfsAlreadyRegistered
  | outOfBounds
  deriving DecidableEq, Repr

/-- The `int` behind an `Error`. -/
def Error.value (e : Error) : Int := e.ctorIdx

/-- The categories of `std::error_code`: `sqlite3_category()`, the one of `Error`, and any other. -/
inductive Category where
  | sqlite3
  | ysqlite3
  | foreign (name : String)
  deriving DecidableEq, Repr

/-- What can be thrown: a `std::system_error`, or anything else. -/
inductive Exception where
  | systemError (category : Category) (value : Int) (what : String)
  | other
  deriving DecidableEq, Repr

/-- `std::system_error{ code, what }` with a `SQLite3_code`. -/
def Exception.sqlite3 (code : SQLite3Code) (what : String) : Exception :=
  .systemError .sqlite3 code what

/-- `std::system_error{ code }` with an `Error`. -/
def Exception.ysqlite3 (code : Error) : Exception := .systemError .ysqlite3 code.value ""

/-- What a call comes to: a value, an exception, or undefined behaviour. -/
inductive Outcome (σ α : Type) where
  | returns (value : α) (state : σ)
  | throws (exception : Exception) (state : σ)
  | undefined
  deriving DecidableEq, Repr

namespace Outcome

variable {σ τ α : Type}

/-- The same outcome seen by an object that embeds the one called. -/
def mapState (f : σ → τ) : Outcome σ α → Outcome τ α
  | returns a s => returns a (f s)
  | throws e s => throws e (f s)
  | undefined => undefined

@[simp] theorem mapState_returns (f : σ → τ) (a : α) (s : σ) :
    (returns a s).mapState f = returns a (f s) := rfl
@[simp] theorem mapState_throws (f : σ → τ) (e : Exception) (s : σ) :
    (throws e s : Outcome σ α).mapState f = throws e (f s) := rfl
@[simp] theorem mapState_undefined (f : σ → τ) :
    (undefined : Outcome σ α).mapState f = undefined := rfl

end Outcome

end Ysqlite3
