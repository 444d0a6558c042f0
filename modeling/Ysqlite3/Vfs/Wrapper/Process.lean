import Ysqlite3.Action
import Ysqlite3.Vfs.File
import Ysqlite3.Vfs.Methods

/-!
# A process with a wrapped VFS

What the wrapper classes work on: the parent VFS, the memory they allocate, the files SQLite has open,
and a trace of everything that happens to them.
-/

namespace Ysqlite3.Vfs.Wrapper

/-- `SQLite3_file_wrapper`. The parent's file is the memory block that `_parent` points to, together
with the methods in it. -/
structure SQLite3FileWrapper where
  name : Option Bytes
  format : FileFormat
  block : Nat
  pMethods : IoTable

/-- What happens to the memory, the `File` object and the parent's file of a block, and the calls made
on the parent. -/
inductive Event where
  | allocated (block : Nat)
  | freed (block : Nat)
  | constructed (block : Nat)
  | deleted (block : Nat)
  | xOpen (name : Option Bytes) (block : Nat) (flags : Int32)
  | opened (block : Nat)
  | xClose (block : Nat)
  | vfs (m : VfsMethod) (args : m.Args)
  | file (block : Nat) (m : IoMethod) (args : m.Args)

/-- The state of the process. `files` are the `sqlite3_file`s of SQLite that have methods, with the
`File` object behind them; `memory` is what the pointers of the call in progress show. -/
structure Process (σ : Type) where
  parent : σ
  blocks : Nat
  files : Nat → Option SQLite3FileWrapper
  memory : Bytes
  outFlags : Option Int32
  trace : List Event
  crashed : Bool

namespace Process

variable {σ : Type}

/-- Nothing is open. -/
def initial (parent : σ) : Process σ where
  parent := parent
  blocks := 0
  files _ := none
  memory := []
  outFlags := none
  trace := []
  crashed := false

def record (e : Event) (s : Process σ) : Process σ := { s with trace := s.trace ++ [e] }

/-- `delete[]` on the memory of a parent's file. -/
def free (block : Nat) (s : Process σ) : Process σ := s.record (.freed block)

/-- `delete` on a `File` object. -/
def delete (block : Nat) (s : Process σ) : Process σ := s.record (.deleted block)

def place (file : Nat) (object : Option SQLite3FileWrapper) (s : Process σ) : Process σ :=
  { s with files := Function.update s.files file object }

/-- Writes through a pointer of the caller. -/
def fill (memory : Bytes) (s : Process σ) : Process σ := { s with memory }

end Process

/-- A function of the wrapper classes. -/
abbrev Run (σ : Type) := Action (Process σ)

variable {σ : Type}

/-- The memory behind the pointers of the call. -/
def memory : Run σ Bytes := Action.get Process.memory

/-- Writes to the memory behind the pointers of the call. -/
def fill (contents : Bytes) : Run σ Unit := Action.modify (Process.fill contents)

/-- `assert_error` -/
def assertError {α : Type} (ec : SQLite3Code) (value : α) : Run σ α := Vfs.assertError ec value

@[simp] theorem memory_apply (s : Process σ) : memory s = .returns s.memory s := rfl
@[simp] theorem fill_apply (contents : Bytes) (s : Process σ) :
    fill contents s = .returns () (s.fill contents) := rfl

/-! ## Numbers -/

/-- `static_cast<std::size_t>` of an `int`. -/
def castSize (n : Int32) : UInt64 := n.toInt64.toUInt64

/-- `static_cast<int>` of a `std::size_t`. -/
def castInt32 (n : UInt64) : Int32 := n.toInt64.toInt32

/-- A size keeps its value on its way through `std::size_t`. -/
@[simp] theorem castInt32_castSize (n : Int32) : castInt32 (castSize n) = n := by
  simp [castInt32, castSize]

/-- An `int` as a `bool`. -/
def castBool (n : Int32) : Bool := n ≠ 0

/-- A `bool` as an `int`. -/
def ofBool (b : Bool) : Int32 := if b then 1 else 0

end Ysqlite3.Vfs.Wrapper
