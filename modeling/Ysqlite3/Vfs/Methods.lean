import Ysqlite3.Span

/-!
# Method tables of SQLite

The interface between SQLite and a VFS: the methods of `sqlite3_vfs` and `sqlite3_io_methods` with what
they take and what they yield, and the tables, in which a method can be missing. `xOpen` and `xClose`,
which no table lacks, are apart from the others, since files begin and end with them.

Memory that a method writes through a pointer of its caller is given by its contents, before the call
and after it. A single number that it stores there is `none` as long as it stores none.
-/

namespace Ysqlite3.Vfs

/-- An address; null is 0. -/
abbrev Pointer := Nat

/-! ## Files -/

/-- The members of `sqlite3_io_methods` besides `xClose`. -/
inductive IoMethod where
  | xRead
  | xWrite
  | xTruncate
  | xSync
  | xFileSize
  | xLock
  | xUnlock
  | xCheckReservedLock
  | xFileControl
  | xSectorSize
  | xDeviceCharacteristics
  | xShmMap
  | xShmLock
  | xShmBarrier
  | xShmUnmap
  | xFetch
  | xUnfetch
  deriving DecidableEq, Repr

namespace IoMethod

/-- The version of the table in which the member appears. -/
def version : IoMethod → Nat
  | xShmMap | xShmLock | xShmBarrier | xShmUnmap => 2
  | xFetch | xUnfetch => 3
  | _ => 1

/-- Members that may be null even in a table of their version. -/
def optional : IoMethod → Bool
  | xSectorSize | xShmMap | xShmLock | xShmBarrier | xShmUnmap => true
  | _ => false

/-- The arguments, in the order of the source; a size comes with the memory it is the size of. -/
@[reducible] def Args : IoMethod → Type
  | xRead => Bytes × Int32 × Int64
  | xWrite => Bytes × Int32 × Int64
  | xTruncate => Int64
  | xSync => Int32
  | xFileSize => Unit
  | xLock => Int32
  | xUnlock => Int32
  | xCheckReservedLock => Unit
  | xFileControl => Int32 × Bytes
  | xSectorSize => Unit
  | xDeviceCharacteristics => Unit
  | xShmMap => Int32 × Int32 × Int32 × Bytes
  | xShmLock => Int32 × Int32 × Int32
  | xShmBarrier => Unit
  | xShmUnmap => Int32
  | xFetch => Int64 × Int32 × Bytes
  | xUnfetch => Int64 × Pointer

/-- The result and, behind it, what was written through pointers. -/
@[reducible] def Reply : IoMethod → Type
  | xRead => SQLite3Code × Bytes
  | xFileSize => SQLite3Code × Option Int64
  | xCheckReservedLock => SQLite3Code × Option Int32
  | xFileControl => SQLite3Code × Bytes
  | xSectorSize => Int32
  | xDeviceCharacteristics => Int32
  | xShmMap => SQLite3Code × Bytes
  | xShmBarrier => Unit
  | xFetch => SQLite3Code × Bytes
  | _ => SQLite3Code

end IoMethod

/-! ## The VFS -/

/-- The members of `sqlite3_vfs` besides `xOpen`. -/
inductive VfsMethod where
  | xDelete
  | xAccess
  | xFullPathname
  | xDlOpen
  | xDlError
  | xDlSym
  | xDlClose
  | xRandomness
  | xSleep
  | xCurrentTime
  | xGetLastError
  | xCurrentTimeInt64
  | xSetSystemCall
  | xGetSystemCall
  | xNextSystemCall
  deriving DecidableEq, Repr

namespace VfsMethod

/-- The version of the table in which the member appears. -/
def version : VfsMethod → Nat
  | xCurrentTimeInt64 => 2
  | xSetSystemCall | xGetSystemCall | xNextSystemCall => 3
  | _ => 1

/-- Members that may be null even in a table of their version. -/
def optional : VfsMethod → Bool
  | xGetLastError | xCurrentTimeInt64 | xSetSystemCall | xGetSystemCall | xNextSystemCall => true
  | _ => false

/-- The arguments, in the order of the source; a size comes with the memory it is the size of. -/
@[reducible] def Args : VfsMethod → Type
  | xDelete => Bytes × Int32
  | xAccess => Bytes × Int32
  | xFullPathname => Bytes × Int32 × Bytes
  | xDlOpen => Bytes
  | xDlError => Int32 × Bytes
  | xDlSym => Pointer × Bytes
  | xDlClose => Pointer
  | xRandomness => Int32 × Bytes
  | xSleep => Int32
  | xCurrentTime => Unit
  | xGetLastError => Int32 × Bytes
  | xCurrentTimeInt64 => Unit
  | xSetSystemCall => Option Bytes × Pointer
  | xGetSystemCall => Bytes
  | xNextSystemCall => Option Bytes

/-- The result and, behind it, what was written through pointers. The time in days is the quotient
before it is rounded to a `double`. -/
@[reducible] def Reply : VfsMethod → Type
  | xDelete => SQLite3Code
  | xAccess => SQLite3Code × Option Int32
  | xFullPathname => SQLite3Code × Bytes
  | xDlOpen => Pointer
  | xDlError => Bytes
  | xDlSym => Pointer
  | xDlClose => Unit
  | xRandomness => Int32 × Bytes
  | xSleep => Int32
  | xCurrentTime => SQLite3Code × Option Rat
  | xGetLastError => Int32 × Bytes
  | xCurrentTimeInt64 => SQLite3Code × Option Int64
  | xSetSystemCall => SQLite3Code
  | xGetSystemCall => Pointer
  | xNextSystemCall => Option Bytes

end VfsMethod

/-! ## Tables -/

/-- A table of version 1, 2 or 3. The members that its version asks for are there, other than the
optional ones. -/
structure MethodTable {μ : Type} (version : μ → Nat) (optional : μ → Bool) where
  iVersion : Nat
  has : μ → Bool
  known : 1 ≤ iVersion ∧ iVersion ≤ 3
  required : ∀ m, version m ≤ iVersion → optional m = false → has m = true

namespace MethodTable

variable {μ : Type} {version : μ → Nat} {optional : μ → Bool}

/-- Version 3 with all members. -/
def full : MethodTable version optional where
  iVersion := 3
  has _ := true
  known := ⟨by decide, Nat.le_refl 3⟩
  required _ _ _ := rfl

/-- What a version asks for, and nothing else. -/
def minimal (iVersion : Nat) (known : 1 ≤ iVersion ∧ iVersion ≤ 3) : MethodTable version optional where
  iVersion := iVersion
  has m := version m ≤ iVersion && !optional m
  known := known
  required m hversion hoptional := by simp [hversion, hoptional]

/-- What every table has. -/
theorem has_of_required (table : MethodTable version optional) {m : μ} (hversion : version m = 1)
    (hoptional : optional m = false) : table.has m = true :=
  table.required m (hversion ▸ table.known.1) hoptional

end MethodTable

abbrev IoTable := MethodTable IoMethod.version IoMethod.optional
abbrev VfsTable := MethodTable VfsMethod.version VfsMethod.optional

/-- What `xOpen` comes to: the code, with `pMethods` of the file. One that fails may set it, too. -/
inductive OpenResult where
  | opened (pMethods : IoTable)
  | refused (code : FailureCode) (pMethods : Option IoTable)

/-- A VFS below the wrapper. Files are known by the memory they are opened in; `xOpen` can store the
flags that apply. -/
structure Parent (σ : Type) where
  table : VfsTable
  xOpen : Option Bytes → Nat → Int32 → σ → (OpenResult × Option Int32) × σ
  xClose : Nat → σ → SQLite3Code × σ
  vfs : (m : VfsMethod) → m.Args → σ → m.Reply × σ
  file : Nat → (m : IoMethod) → m.Args → σ → m.Reply × σ

/-- Success without any output. -/
instance (m : IoMethod) : Inhabited m.Reply := ⟨by cases m <;> exact default⟩

instance (m : VfsMethod) : Inhabited m.Reply := ⟨by cases m <;> exact default⟩

/-- A parent with the given tables that answers every call so. -/
def Parent.quiet (table : VfsTable) (pMethods : IoTable) : Parent Unit where
  table := table
  xOpen _ _ _ s := ((.opened pMethods, none), s)
  xClose _ s := (default, s)
  vfs _ _ s := (default, s)
  file _ _ _ s := (default, s)

/-- The quiet parent whose tables have version 1, with nothing optional. -/
def Parent.bare : Parent Unit := .quiet (.minimal 1 (by decide)) (.minimal 1 (by decide))

end Ysqlite3.Vfs
