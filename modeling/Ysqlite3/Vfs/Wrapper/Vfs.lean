import Ysqlite3.Misc.Component
import Ysqlite3.Vfs.Wrapper.File

/-!
# The wrapper VFS

`SQLite3_vfs_wrapper`, which hands each virtual function on to the parent VFS, the functions in the
`sqlite3_vfs` of every `VFS`, and the process SQLite makes its calls on.
-/

namespace Ysqlite3.Vfs.Wrapper

variable {σ : Type}

/-! ## Flags -/

/-- `enum class Access_flag` -/
inductive AccessFlag where
  | exists
  | readwrite
  | read
  deriving DecidableEq, Repr

def AccessFlag.value : AccessFlag → Int32
  | «exists» => 0
  | readwrite => 1
  | read => 2

/-- The `switch` in `access`. -/
def AccessFlag.ofInt (flags : Int32) : Option AccessFlag :=
  if flags = 0 then some «exists»
  else if flags = 1 then some readwrite
  else if flags = 2 then some read
  else none

/-- The open flags that tell the type of a file. -/
def openMask : Int32 := 0x87F00

/-- The `switch` in `open`. -/
def formatOf (flags : Int32) : Option FileFormat :=
  let type := flags &&& openMask
  if type = 0x100 then some .mainDb
  else if type = 0x200 then some .tempDb
  else if type = 0x400 then some .transientDb
  else if type = 0x800 then some .mainJournal
  else if type = 0x1000 then some .tempJournal
  else if type = 0x2000 then some .subjournal
  else if type = 0x4000 then some .superJournal
  else if type = 0x80000 then some .wal
  else none

/-! ## The parent VFS -/

/-- What `new` comes to while a file is opened: for the memory of the parent's file, and for the
`DerivedFile`, whose constructor may throw, too. -/
structure Allocations where
  memory : Bool
  file : Option Exception

namespace SQLite3VfsWrapper

variable (P : Parent σ)

/-- A method of `_parent`. A null pointer that is called has no meaning. -/
def invoke (m : VfsMethod) (args : m.Args) : Run σ m.Reply := fun s =>
  if P.table.has m then
    let (reply, parent) := P.vfs m args s.parent
    .returns reply (Process.record (.vfs m args) { s with parent })
  else .undefined

/-- `xOpen` of `_parent`, which stores the flags where SQLite wants them. -/
def invokeOpen (name : Option Bytes) (block : Nat) (flags : Int32) : Run σ OpenResult := fun s =>
  let ((result, outFlags), parent) := P.xOpen name block flags s.parent
  let s := Process.record (.xOpen name block flags) { s with parent, outFlags }
  match result with
  | .opened _ => .returns result (s.record (.opened block))
  | .refused _ _ => .returns result s

/-- `new std::uint8_t[_parent->szOsFile]` -/
def allocate (allocations : Allocations) : Run σ Nat := fun s =>
  if allocations.memory then
    .returns s.blocks (Process.record (.allocated s.blocks) { s with blocks := s.blocks + 1 })
  else .throws .other s

/-- `new DerivedFile{ name, format, std::move(tmp_file) }` -/
def construct (allocations : Allocations) (object : SQLite3FileWrapper) : Run σ SQLite3FileWrapper :=
  match allocations.file with
  | some e => Action.raise e
  | none => do
    Action.modify (Process.record (.constructed object.block))
    return object

def «open» (allocations : Allocations) (name : Option Bytes) (format : FileFormat) (flags : Int32) :
    Run σ SQLite3FileWrapper := do
  let block ← allocate allocations
  -- the deleter of the `std::shared_ptr` frees the memory and closes nothing
  Action.guarded (Process.free block) do
    match ← invokeOpen P name block flags with
    | .refused ec _ => Action.raise (.sqlite3 ec "")
    | .opened pMethods => construct allocations { name, format, block, pMethods }

def deleteFile (name : Bytes) (syncDirectory : Bool) : Run σ Unit := do
  let ec ← invoke P .xDelete (name, ofBool syncDirectory)
  assertError ec ()

def access (name : Bytes) (flag : AccessFlag) : Run σ Bool := do
  let reply ← invoke P .xAccess (name, flag.value)
  assertError reply.1 (castBool (reply.2.getD 0))

def fullPathname (input : Bytes) (size : UInt64) : Run σ Unit := do
  let reply ← invoke P .xFullPathname (input, castInt32 size, ← memory)
  fill reply.2
  assertError reply.1 ()

def dlopen (filename : Bytes) : Run σ Pointer := invoke P .xDlOpen filename

def dlerror (size : UInt64) : Run σ Unit := do
  let buffer ← invoke P .xDlError (castInt32 size, ← memory)
  fill buffer

def dlsym (handle : Pointer) (symbol : Bytes) : Run σ Pointer := invoke P .xDlSym (handle, symbol)

def dlclose (handle : Pointer) : Run σ Unit := invoke P .xDlClose handle

def random (size : UInt64) : Run σ Int32 := do
  let reply ← invoke P .xRandomness (castInt32 size, ← memory)
  fill reply.2
  return reply.1

def sleep (time : Int32) : Run σ Int32 := invoke P .xSleep time

def currentTime : Run σ Int64 := do
  let reply ← invoke P .xCurrentTimeInt64 ()
  assertError reply.1 (reply.2.getD 0)

def lastError (size : UInt64) : Run σ Int32 := do
  let reply ← invoke P .xGetLastError (castInt32 size, ← memory)
  fill reply.2
  return reply.1

def setSystemCall (name : Option Bytes) (systemCall : Pointer) : Run σ SQLite3Code :=
  invoke P .xSetSystemCall (name, systemCall)

def getSystemCall (name : Bytes) : Run σ Pointer := invoke P .xGetSystemCall name

def nextSystemCall (name : Option Bytes) : Run σ (Option Bytes) := invoke P .xNextSystemCall name

end SQLite3VfsWrapper

/-! ## The functions in `_vfs` -/

/-- What `xOpen` of the wrapper comes to: the code, the flags it stores, and `pMethods`. -/
structure OpenReply where
  code : SQLite3Code
  outFlags : Option Int32
  pMethods : Option IoTable

namespace VFSMethods

/-- What comes of `wrap` around a lambda with a code, and the value that it stores if it gets that
far. All system errors keep their code. -/
def caught {α : Type} : Outcome (Process σ) (SQLite3Code × Option α) →
    Outcome (Process σ) (SQLite3Code × Option α)
  | .throws (.systemError _ value _) s => .returns (value, none) s
  | .throws .other s => .returns (.generic, none) s
  | outcome => outcome

/-- `wrap` around a lambda that returns a code and may store a value. -/
def wrapCode {α : Type} (action : Run σ (SQLite3Code × Option α)) :
    Run σ (SQLite3Code × Option α) := fun s => caught (action s)

/-- `wrap` around a lambda that stores a value. -/
def wrapValue {α : Type} (action : Run σ α) : Run σ (SQLite3Code × Option α) :=
  wrapCode do return (.success, some (← action))

/-- `wrap` -/
def wrap (action : Run σ Unit) : Run σ SQLite3Code := do
  let result ← wrapValue action
  return result.1

@[simp] theorem wrapCode_apply {α : Type} (action : Run σ (SQLite3Code × Option α)) (s : Process σ) :
    wrapCode action s = caught (action s) := rfl
@[simp] theorem wrapValue_apply {α : Type} (action : Run σ α) (s : Process σ) :
    wrapValue action s = caught ((action s).andThen fun a => pure (.success, some a)) := rfl
@[simp] theorem wrap_apply (action : Run σ Unit) (s : Process σ) :
    wrap action s = (caught ((action s).andThen fun a => pure (.success, some a))).andThen
      fun result => pure result.1 := rfl

variable (P : Parent σ)

/-- The file has no methods until its object stands behind it. -/
def «open» (allocations : Allocations) (name : Option Bytes) (file : Nat) (flags : Int32) :
    Run σ OpenReply := do
  Action.modify fun s => { Process.place file none s with outFlags := none }
  let result ← wrapCode do
    match formatOf flags with
    | none => return (.misuse, none)
    | some format =>
      let f ← SQLite3VfsWrapper.open P allocations name format flags
      Action.modify (Process.place file (some f))
      return (.success, some ())
  let outFlags ← Action.get Process.outFlags
  let object ← Action.get fun s => s.files file
  return { code := result.1, outFlags, pMethods := object.map fun _ => .full }

def delete (name : Bytes) (syncDirectory : Int32) : Run σ SQLite3Code :=
  wrap (SQLite3VfsWrapper.deleteFile P name (castBool syncDirectory))

def access (name : Bytes) (flags : Int32) : Run σ (SQLite3Code × Option Int32) :=
  wrapCode do
    match AccessFlag.ofInt flags with
    | none => return (.ioErrAccess, none)
    | some flag =>
      return (.success, some (ofBool (← SQLite3VfsWrapper.access P name flag)))

def fullPathname (name : Bytes) (size : Int32) (buffer : Bytes) : Run σ (SQLite3Code × Bytes) := do
  fill buffer
  let rc ← wrap (SQLite3VfsWrapper.fullPathname P name (castSize size))
  return (rc, ← memory)

def dlopen (filename : Bytes) : Run σ Pointer := SQLite3VfsWrapper.dlopen P filename

def dlerror (size : Int32) (buffer : Bytes) : Run σ Bytes := do
  fill buffer
  SQLite3VfsWrapper.dlerror P (castSize size)
  memory

def dlsym (handle : Pointer) (symbol : Bytes) : Run σ Pointer :=
  if handle ≠ 0 then SQLite3VfsWrapper.dlsym P handle symbol else pure 0

def dlclose (handle : Pointer) : Run σ Unit :=
  if handle ≠ 0 then SQLite3VfsWrapper.dlclose P handle else pure ()

def randomBytes (size : Int32) (buffer : Bytes) : Run σ (Int32 × Bytes) := do
  fill buffer
  let n ← SQLite3VfsWrapper.random P (castSize size)
  return (n, ← memory)

def sleep (microseconds : Int32) : Run σ Int32 := SQLite3VfsWrapper.sleep P microseconds

def currentTime64 : Run σ (SQLite3Code × Option Int64) := wrapValue (SQLite3VfsWrapper.currentTime P)

def currentTime : Run σ (SQLite3Code × Option Rat) := do
  let result ← currentTime64 P
  return (result.1, some (mkRat (result.2.getD 0).toInt 86400000))

def lastError (size : Int32) (buffer : Bytes) : Run σ (Int32 × Bytes) := do
  fill buffer
  let n ← SQLite3VfsWrapper.lastError P (castSize size)
  return (n, ← memory)

def setSystemCall (name : Option Bytes) (systemCall : Pointer) : Run σ SQLite3Code :=
  SQLite3VfsWrapper.setSystemCall P name systemCall

def getSystemCall (name : Bytes) : Run σ Pointer := SQLite3VfsWrapper.getSystemCall P name

def nextSystemCall (name : Option Bytes) : Run σ (Option Bytes) :=
  SQLite3VfsWrapper.nextSystemCall P name

/-- The table. -/
def call : (m : VfsMethod) → m.Args → Run σ m.Reply
  | .xDelete, (name, syncDirectory) => delete P name syncDirectory
  | .xAccess, (name, flags) => access P name flags
  | .xFullPathname, (name, size, buffer) => fullPathname P name size buffer
  | .xDlOpen, filename => dlopen P filename
  | .xDlError, (size, buffer) => dlerror P size buffer
  | .xDlSym, (handle, symbol) => dlsym P handle symbol
  | .xDlClose, handle => dlclose P handle
  | .xRandomness, (size, buffer) => randomBytes P size buffer
  | .xSleep, microseconds => sleep P microseconds
  | .xCurrentTime, _ => currentTime P
  | .xGetLastError, (size, buffer) => lastError P size buffer
  | .xCurrentTimeInt64, _ => currentTime64 P
  | .xSetSystemCall, (name, systemCall) => setSystemCall P name systemCall
  | .xGetSystemCall, name => getSystemCall P name
  | .xNextSystemCall, name => nextSystemCall P name

end VFSMethods

end Ysqlite3.Vfs.Wrapper
