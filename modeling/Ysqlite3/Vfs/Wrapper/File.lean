import Ysqlite3.Vfs.Wrapper.Process

/-!
# Files of the wrapper

`SQLite3_file_wrapper`, which hands each virtual function on to the parent's file, and the functions in
the `sqlite3_io_methods` of every `File`.
-/

namespace Ysqlite3.Vfs.Wrapper

variable {σ : Type}

/-! ## Flags -/

/-- `enum class Sync_flag` -/
inductive SyncFlag where
  | normal
  | full
  | dataOnly
  deriving DecidableEq, Repr

def SyncFlag.value : SyncFlag → Int32
  | normal => 2
  | full => 3
  | dataOnly => 16

/-- The `switch` over `SQLITE_SYNC_NORMAL`, `SQLITE_SYNC_FULL` and `SQLITE_SYNC_DATAONLY`. -/
def SyncFlag.ofInt (flag : Int32) : Option SyncFlag :=
  if flag = 2 then some .normal
  else if flag = 3 then some .full
  else if flag = 16 then some .dataOnly
  else none

/-- `enum class Lock_flag` -/
inductive LockFlag where
  | none
  | shared
  | reserved
  | pending
  | exclusive
  deriving DecidableEq, Repr

def LockFlag.value : LockFlag → Int32
  | none => 0
  | shared => 1
  | reserved => 2
  | pending => 3
  | exclusive => 4

/-- The `switch` in `lock_flag`. -/
def LockFlag.ofInt (flag : Int32) : Option LockFlag :=
  if flag = 0 then some none
  else if flag = 1 then some shared
  else if flag = 2 then some reserved
  else if flag = 3 then some pending
  else if flag = 4 then some exclusive
  else Option.none

/-! ## The parent's file -/

namespace SQLite3FileWrapper

variable (P : Parent σ) (self : SQLite3FileWrapper)

/-- A method in `_parent->pMethods`, called on `_parent`. A null pointer that is called has no
meaning. -/
def invoke (m : IoMethod) (args : m.Args) : Run σ m.Reply := fun s =>
  if self.pMethods.has m then
    let (reply, parent) := P.file self.block m args s.parent
    .returns reply (Process.record (.file self.block m args) { s with parent })
  else .undefined

/-- `xClose` in `_parent->pMethods`. -/
def invokeClose : Run σ SQLite3Code := fun s =>
  let (ec, parent) := P.xClose self.block s.parent
  .returns ec (Process.record (.xClose self.block) { s with parent })

def close : Run σ Unit :=
  Action.withFinally (Process.free self.block) do
    let ec ← self.invokeClose P
    assertError ec ()

def read (size : UInt64) (offset : Int64) : Run σ Unit := do
  let reply ← self.invoke P .xRead (← memory, castInt32 size, offset)
  fill reply.2
  assertError reply.1 ()

def write (buffer : Bytes) (size : UInt64) (offset : Int64) : Run σ Unit := do
  let ec ← self.invoke P .xWrite (buffer, castInt32 size, offset)
  assertError ec ()

def truncate (size : Int64) : Run σ Unit := do
  let ec ← self.invoke P .xTruncate size
  assertError ec ()

def sync (flag : SyncFlag) : Run σ Unit := do
  let ec ← self.invoke P .xSync flag.value
  assertError ec ()

def fileSize : Run σ Int64 := do
  let reply ← self.invoke P .xFileSize ()
  assertError reply.1 (reply.2.getD 0)

def lock (flag : LockFlag) : Run σ Unit := do
  let ec ← self.invoke P .xLock flag.value
  assertError ec ()

def unlock (flag : LockFlag) : Run σ Unit := do
  let ec ← self.invoke P .xUnlock flag.value
  assertError ec ()

def hasReservedLock : Run σ Bool := do
  let reply ← self.invoke P .xCheckReservedLock ()
  assertError reply.1 (castBool (reply.2.getD 0))

/-- A `File_control` is an `int`. -/
def fileControl (operation : Int32) : Run σ Unit := do
  let reply ← self.invoke P .xFileControl (operation, ← memory)
  fill reply.2
  assertError reply.1 ()

def sectorSize : Run σ Int32 :=
  if self.pMethods.has .xSectorSize then self.invoke P .xSectorSize ()
  else pure 4096

def deviceCharacteristics : Run σ Int32 := self.invoke P .xDeviceCharacteristics ()

def shmMap (page pageSize : Int32) (isWrite : Bool) : Run σ Unit := do
  let reply ← self.invoke P .xShmMap (page, pageSize, ofBool isWrite, ← memory)
  fill reply.2
  assertError reply.1 ()

def shmLock (offset n flags : Int32) : Run σ Unit := do
  let ec ← self.invoke P .xShmLock (offset, n, flags)
  assertError ec ()

def shmBarrier : Run σ Unit := self.invoke P .xShmBarrier ()

def shmUnmap (deleteFlag : Int32) : Run σ Unit := do
  let ec ← self.invoke P .xShmUnmap deleteFlag
  assertError ec ()

def fetch (offset : Int64) (amount : Int32) : Run σ Unit := do
  let reply ← self.invoke P .xFetch (offset, amount, ← memory)
  fill reply.2
  assertError reply.1 ()

def unfetch (offset : Int64) (buffer : Pointer) : Run σ Unit := do
  let ec ← self.invoke P .xUnfetch (offset, buffer)
  assertError ec ()

end SQLite3FileWrapper

/-! ## The functions in `File::methods()` -/

namespace FileMethods

/-- What comes of `wrap`, with the value that the lambda stores if it gets that far. Only errors of
SQLite keep their code. -/
def caught {α : Type} (defaultError : SQLite3Code) :
    Outcome (Process σ) α → Outcome (Process σ) (SQLite3Code × Option α)
  | .returns a s => .returns (.success, some a) s
  | .throws (.systemError .sqlite3 value _) s => .returns (value, none) s
  | .throws _ s => .returns (defaultError, none) s
  | .undefined => .undefined

/-- `wrap` around a lambda that stores a value. -/
def wrapValue {α : Type} (defaultError : SQLite3Code) (action : Run σ α) :
    Run σ (SQLite3Code × Option α) := fun s => caught defaultError (action s)

/-- `wrap` -/
def wrap (defaultError : SQLite3Code) (action : Run σ Unit) : Run σ SQLite3Code := do
  let result ← wrapValue defaultError action
  return result.1

/-- `wrap` with the default of its second parameter. -/
def wrapGeneric (action : Run σ Unit) : Run σ SQLite3Code := wrap .generic action

@[simp] theorem wrapValue_apply {α : Type} (defaultError : SQLite3Code) (action : Run σ α)
    (s : Process σ) : wrapValue defaultError action s = caught defaultError (action s) := rfl
@[simp] theorem wrap_apply (defaultError : SQLite3Code) (action : Run σ Unit) (s : Process σ) :
    wrap defaultError action s =
      (caught defaultError (action s)).andThen fun result => pure result.1 := rfl
@[simp] theorem wrapGeneric_apply (action : Run σ Unit) (s : Process σ) :
    wrapGeneric action s = (caught .generic (action s)).andThen fun result => pure result.1 := rfl

/-- `lock_flag` -/
def lockFlag (flag : Int32) : Run σ LockFlag :=
  match LockFlag.ofInt flag with
  | some flag => pure flag
  | none => Action.raise (.sqlite3 .misuse "")

variable (P : Parent σ) (self : SQLite3FileWrapper)

def close : Run σ SQLite3Code :=
  wrapGeneric (Action.withFinally (Process.delete self.block) (self.close P))

def read (buffer : Bytes) (size : Int32) (offset : Int64) : Run σ (SQLite3Code × Bytes) := do
  fill buffer
  let rc ← wrapGeneric (self.read P (castSize size) offset)
  return (rc, ← memory)

def write (buffer : Bytes) (size : Int32) (offset : Int64) : Run σ SQLite3Code :=
  wrapGeneric (self.write P buffer (castSize size) offset)

def truncate (size : Int64) : Run σ SQLite3Code := wrapGeneric (self.truncate P size)

def sync (flag : Int32) : Run σ SQLite3Code :=
  wrapGeneric do
    match SyncFlag.ofInt flag with
    | some sf => self.sync P sf
    | none => Action.raise (.sqlite3 .misuse "")

def fileSize : Run σ (SQLite3Code × Option Int64) := wrapValue .generic (self.fileSize P)

def lock (flag : Int32) : Run σ SQLite3Code :=
  wrap .ioErrLock do self.lock P (← lockFlag flag)

def unlock (flag : Int32) : Run σ SQLite3Code :=
  wrap .ioErrUnlock do self.unlock P (← lockFlag flag)

/-- The result is set to 0 first. -/
def checkReservedLock : Run σ (SQLite3Code × Option Int32) := do
  let result ← wrapValue .ioErrCheckReservedLock (self.hasReservedLock P)
  return (result.1, some (ofBool (result.2.getD false)))

def fileControl (operation : Int32) (arg : Bytes) : Run σ (SQLite3Code × Bytes) := do
  fill arg
  let rc ← wrapGeneric (self.fileControl P operation)
  return (rc, ← memory)

def sectorSize : Run σ Int32 := self.sectorSize P

def deviceCharacteristics : Run σ Int32 := self.deviceCharacteristics P

def shmMap (page pageSize isWrite : Int32) (mappedMemory : Bytes) : Run σ (SQLite3Code × Bytes) := do
  fill mappedMemory
  let rc ← wrapGeneric (self.shmMap P page pageSize (castBool isWrite))
  return (rc, ← memory)

def shmLock (offset n flags : Int32) : Run σ SQLite3Code := wrapGeneric (self.shmLock P offset n flags)

def shmBarrier : Run σ Unit := self.shmBarrier P

def shmUnmap (deleteFlag : Int32) : Run σ SQLite3Code := wrapGeneric (self.shmUnmap P deleteFlag)

def fetch (offset : Int64) (amount : Int32) (buffer : Bytes) : Run σ (SQLite3Code × Bytes) := do
  fill buffer
  let rc ← wrapGeneric (self.fetch P offset amount)
  return (rc, ← memory)

def unfetch (offset : Int64) (buffer : Pointer) : Run σ SQLite3Code :=
  wrapGeneric (self.unfetch P offset buffer)

/-- The table. -/
def call : (m : IoMethod) → m.Args → Run σ m.Reply
  | .xRead, (buffer, size, offset) => read P self buffer size offset
  | .xWrite, (buffer, size, offset) => write P self buffer size offset
  | .xTruncate, size => truncate P self size
  | .xSync, flag => sync P self flag
  | .xFileSize, _ => fileSize P self
  | .xLock, flag => lock P self flag
  | .xUnlock, flag => unlock P self flag
  | .xCheckReservedLock, _ => checkReservedLock P self
  | .xFileControl, (operation, arg) => fileControl P self operation arg
  | .xSectorSize, _ => sectorSize P self
  | .xDeviceCharacteristics, _ => deviceCharacteristics P self
  | .xShmMap, (page, pageSize, isWrite, mappedMemory) => shmMap P self page pageSize isWrite mappedMemory
  | .xShmLock, (offset, n, flags) => shmLock P self offset n flags
  | .xShmBarrier, _ => shmBarrier P self
  | .xShmUnmap, deleteFlag => shmUnmap P self deleteFlag
  | .xFetch, (offset, amount, buffer) => fetch P self offset amount buffer
  | .xUnfetch, (offset, buffer) => unfetch P self offset buffer

end FileMethods

end Ysqlite3.Vfs.Wrapper
