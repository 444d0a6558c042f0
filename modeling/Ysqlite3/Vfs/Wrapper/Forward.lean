import Ysqlite3.Vfs.Wrapper.Vfs

/-!
# What the wrapper hands on

Each function in the tables of the wrapper calls one method of the parent, or none where it rejects an
argument or has an answer of its own. `request` is that call.
-/

namespace Ysqlite3.Vfs

/-- Arguments up to their truth value where they stand for one. -/
def IoMethod.truth : (m : IoMethod) → m.Args → m.Args
  | .xShmMap, (page, pageSize, isWrite, mappedMemory) =>
    (page, pageSize, Wrapper.ofBool (Wrapper.castBool isWrite), mappedMemory)
  | _, args => args

def VfsMethod.truth : (m : VfsMethod) → m.Args → m.Args
  | .xDelete, (name, syncDirectory) => (name, Wrapper.ofBool (Wrapper.castBool syncDirectory))
  | _, args => args

/-- A number that the parent stores arrives. -/
def Arrives {α : Type} (same : α → α → Prop) (stored stored' : SQLite3Code × Option α) : Prop :=
  stored'.1 = stored.1 ∧
    (stored.1 = SQLite3Code.success → ∀ n, stored.2 = some n →
      ∃ n', stored'.2 = some n' ∧ same n n')

/-- Two numbers with the same truth value. -/
def SameTruth (n n' : Int32) : Prop := n = 0 ↔ n' = 0

/-- The second reply is as good as the first: the same result and, on success, the same outputs, up to
the truth value where they stand for one. -/
def IoMethod.Agrees : (m : IoMethod) → m.Reply → m.Reply → Prop
  | .xFileSize, reply, reply' => Arrives Eq reply reply'
  | .xCheckReservedLock, reply, reply' => Arrives SameTruth reply reply'
  | _, reply, reply' => reply' = reply

def VfsMethod.Agrees : (m : VfsMethod) → m.Reply → m.Reply → Prop
  | .xAccess, reply, reply' => Arrives SameTruth reply reply'
  | .xCurrentTimeInt64, reply, reply' => Arrives Eq reply reply'
  | _, reply, reply' => reply' = reply

/-- An error, or what SQLite takes in place of a method that is not there. -/
def IoMethod.Declined : (m : IoMethod) → m.Reply → Prop
  | .xSectorSize, n => n = 4096
  | .xDeviceCharacteristics, n => n = 0
  | .xShmBarrier, _ => True
  | .xRead, reply | .xFileControl, reply | .xShmMap, reply | .xFetch, reply => reply.1 ≠ SQLite3Code.success
  | .xFileSize, reply => reply.1 ≠ SQLite3Code.success
  | .xCheckReservedLock, reply => reply.1 ≠ SQLite3Code.success
  | .xWrite, ec | .xTruncate, ec | .xSync, ec | .xLock, ec | .xUnlock, ec | .xShmLock, ec
  | .xShmUnmap, ec | .xUnfetch, ec => ec ≠ SQLite3Code.success

def VfsMethod.Declined : (m : VfsMethod) → m.Reply → Prop
  | .xDelete, ec | .xSetSystemCall, ec => ec ≠ SQLite3Code.success
  | .xAccess, reply => reply.1 ≠ SQLite3Code.success
  | .xFullPathname, reply => reply.1 ≠ SQLite3Code.success
  | .xCurrentTime, reply => reply.1 ≠ SQLite3Code.success
  | .xCurrentTimeInt64, reply => reply.1 ≠ SQLite3Code.success
  | .xDlOpen, pointer | .xDlSym, pointer | .xGetSystemCall, pointer => pointer = 0
  | .xDlError, _ | .xDlClose, _ => True
  | .xRandomness, reply | .xGetLastError, reply => reply.1 = 0
  | .xSleep, n => n = 0
  | .xNextSystemCall, name => name = none

/-- The method of the parent that answers a call. -/
@[reducible] def VfsMethod.target : VfsMethod → VfsMethod
  | .xCurrentTime => .xCurrentTimeInt64
  | m => m

namespace Wrapper

variable {σ : Type} {P : Parent σ}

/-! ## Flags -/

theorem SyncFlag.value_of_ofInt {flag : Int32} {sf : SyncFlag} (h : SyncFlag.ofInt flag = some sf) :
    sf.value = flag := by
  unfold SyncFlag.ofInt at h
  split_ifs at h with h2 h3 h16 <;> cases h <;> simp [SyncFlag.value, *]

theorem LockFlag.value_of_ofInt {flag : Int32} {lf : LockFlag} (h : LockFlag.ofInt flag = some lf) :
    lf.value = flag := by
  unfold LockFlag.ofInt at h
  split_ifs at h with h0 h1 h2 h3 h4 <;> cases h <;> simp [LockFlag.value, *]

theorem AccessFlag.value_of_ofInt {flags : Int32} {af : AccessFlag}
    (h : AccessFlag.ofInt flags = some af) : af.value = flags := by
  unfold AccessFlag.ofInt at h
  split_ifs at h with h0 h1 h2 <;> cases h <;> simp [AccessFlag.value, *]

theorem sameTruth_castBool (n : Int32) : SameTruth n (ofBool (castBool n)) := by
  unfold SameTruth castBool ofBool
  by_cases h : n = 0 <;> simp [h]

/-! ## Errors on their way -/

theorem misuse_ne_success : SQLite3Code.misuse ≠ SQLite3Code.success := by decide

theorem ioErrAccess_ne_success : SQLite3Code.ioErrAccess ≠ SQLite3Code.success := by decide

@[simp] theorem mapState_assertError {α : Type} (f : Process σ → Process σ) (ec : SQLite3Code)
    (value : α) (s : Process σ) : (assertError ec value s).mapState f = assertError ec value (f s) := by
  unfold assertError Vfs.assertError
  by_cases h : ec ≠ 0
  · rw [if_pos h, if_pos h]
    rfl
  · rw [if_neg h, if_neg h]
    rfl

/-- `assert_error` and `wrap` undo each other. -/
@[simp] theorem FileMethods.caught_assertError {α : Type} (defaultError ec : SQLite3Code) (value : α)
    (s : Process σ) : FileMethods.caught defaultError (assertError ec value s) =
      .returns (ec, if ec = SQLite3Code.success then some value else none) s := by
  unfold assertError Vfs.assertError
  by_cases h : ec = SQLite3Code.success
  · subst h
    rfl
  · have hec : ec ≠ 0 := h
    rw [if_pos hec, if_neg h]
    rfl

@[simp] theorem FileMethods.caught_undefined {α : Type} (defaultError : SQLite3Code) :
    FileMethods.caught defaultError (.undefined : Outcome (Process σ) α) = .undefined := rfl

@[simp] theorem VFSMethods.caught_undefined {α : Type} :
    VFSMethods.caught (.undefined : Outcome (Process σ) (SQLite3Code × Option α)) = .undefined := rfl

@[simp] theorem VFSMethods.caught_assertError {α β : Type} (ec : SQLite3Code) (value : α) (f : α → β)
    (s : Process σ) :
    VFSMethods.caught ((assertError ec value s).andThen fun a => pure (SQLite3Code.success, some (f a))) =
      .returns (ec, if ec = SQLite3Code.success then some (f value) else none) s := by
  unfold assertError Vfs.assertError
  by_cases h : ec = SQLite3Code.success
  · subst h
    rfl
  · have hec : ec ≠ 0 := h
    rw [if_pos hec, if_neg h]
    rfl

/-! ## Files -/

namespace SQLite3FileWrapper

/-- The process after the parent's file has answered a call. -/
def sent (P : Parent σ) (self : SQLite3FileWrapper) (m : IoMethod) (args : m.Args) (s : Process σ) :
    Process σ :=
  Process.record (.file self.block m args)
    { s with parent := (P.file self.block m args s.parent).2 }

variable {self : SQLite3FileWrapper} {m : IoMethod}

theorem invoke_of_has (h : self.pMethods.has m = true) (args : m.Args) (s : Process σ) :
    self.invoke P m args s = .returns (P.file self.block m args s.parent).1 (self.sent P m args s) :=
  if_pos h

theorem invoke_of_absent (h : ¬ self.pMethods.has m = true) (args : m.Args) (s : Process σ) :
    self.invoke P m args s = .undefined :=
  if_neg h

end SQLite3FileWrapper

namespace FileMethods

variable {self : SQLite3FileWrapper}

/-- The arguments a call is handed on with, if it is. -/
def request (self : SQLite3FileWrapper) : (m : IoMethod) → m.Args → Option m.Args
  | .xSync, flag => (SyncFlag.ofInt flag).map SyncFlag.value
  | .xLock, flag => (LockFlag.ofInt flag).map LockFlag.value
  | .xUnlock, flag => (LockFlag.ofInt flag).map LockFlag.value
  | .xSectorSize, _ => if self.pMethods.has .xSectorSize then some () else none
  | m, args => some (m.truth args)

/-- What a function makes of the parent's answer. -/
def delivered : (m : IoMethod) → m.Reply → m.Reply
  | .xFileSize, reply =>
    (reply.1, if reply.1 = SQLite3Code.success then some (reply.2.getD 0) else none)
  | .xCheckReservedLock, reply =>
    (reply.1, some (ofBool ((if reply.1 = SQLite3Code.success then some (castBool (reply.2.getD 0))
      else none).getD false)))
  | _, reply => reply

theorem call_of_request {m : IoMethod} {args args' : m.Args} (hrequest : request self m args = some args')
    (hhas : self.pMethods.has m = true) (s : Process σ) :
    ∃ memory, call P self m args s =
      .returns (delivered m (P.file self.block m args' s.parent).1)
        ((self.sent P m args' s).fill memory) := by
  have hinvoke := fun args s => SQLite3FileWrapper.invoke_of_has (P := P) hhas args s
  cases m with
  | xRead | xFileControl | xShmMap | xFetch =>
    refine ⟨(P.file self.block _ args' s.parent).1.2, ?_⟩
    obtain rfl := Option.some.inj hrequest
    simp [call, read, fileControl, shmMap, fetch, SQLite3FileWrapper.read,
      SQLite3FileWrapper.fileControl, SQLite3FileWrapper.shmMap, SQLite3FileWrapper.fetch, hinvoke]
    exact ⟨rfl, rfl⟩
  | xSync | xLock | xUnlock =>
    obtain ⟨flag, hflag, rfl⟩ := Option.map_eq_some_iff.mp hrequest
    refine ⟨s.memory, ?_⟩
    simp [call, sync, lock, unlock, lockFlag, SQLite3FileWrapper.sync, SQLite3FileWrapper.lock,
      SQLite3FileWrapper.unlock, hflag, hinvoke]
    exact ⟨rfl, rfl⟩
  | xWrite | xTruncate | xFileSize | xCheckReservedLock | xShmLock | xShmUnmap | xUnfetch =>
    obtain rfl := Option.some.inj hrequest
    refine ⟨s.memory, ?_⟩
    simp [call, write, truncate, fileSize, checkReservedLock, shmLock, shmUnmap, unfetch,
      SQLite3FileWrapper.write, SQLite3FileWrapper.truncate, SQLite3FileWrapper.fileSize,
      SQLite3FileWrapper.hasReservedLock, SQLite3FileWrapper.shmLock, SQLite3FileWrapper.shmUnmap,
      SQLite3FileWrapper.unfetch, hinvoke]
    exact ⟨rfl, rfl⟩
  | xSectorSize | xDeviceCharacteristics =>
    refine ⟨s.memory, ?_⟩
    simp [call, sectorSize, deviceCharacteristics, SQLite3FileWrapper.sectorSize,
      SQLite3FileWrapper.deviceCharacteristics, hhas, hinvoke]
    exact ⟨rfl, rfl⟩
  | xShmBarrier => exact ⟨s.memory, hinvoke () s⟩

/-- A call that is handed on to a method which is not there. -/
theorem call_of_absent {m : IoMethod} {args args' : m.Args} (hrequest : request self m args = some args')
    (habsent : ¬ self.pMethods.has m = true) (s : Process σ) : call P self m args s = .undefined := by
  have hinvoke := fun args s => SQLite3FileWrapper.invoke_of_absent (P := P) habsent args s
  cases m with
  | xRead | xFileControl | xShmMap | xFetch =>
    simp [call, read, fileControl, shmMap, fetch, SQLite3FileWrapper.read,
      SQLite3FileWrapper.fileControl, SQLite3FileWrapper.shmMap, SQLite3FileWrapper.fetch, hinvoke]
  | xSync | xLock | xUnlock =>
    obtain ⟨flag, hflag, rfl⟩ := Option.map_eq_some_iff.mp hrequest
    simp [call, sync, lock, unlock, lockFlag, SQLite3FileWrapper.sync, SQLite3FileWrapper.lock,
      SQLite3FileWrapper.unlock, hflag, hinvoke]
  | xWrite | xTruncate | xFileSize | xCheckReservedLock | xShmLock | xShmUnmap | xUnfetch =>
    simp [call, write, truncate, fileSize, checkReservedLock, shmLock, shmUnmap, unfetch,
      SQLite3FileWrapper.write, SQLite3FileWrapper.truncate, SQLite3FileWrapper.fileSize,
      SQLite3FileWrapper.hasReservedLock, SQLite3FileWrapper.shmLock, SQLite3FileWrapper.shmUnmap,
      SQLite3FileWrapper.unfetch, hinvoke]
  | xSectorSize => exact absurd hrequest (by simp [request, habsent])
  | xDeviceCharacteristics | xShmBarrier => exact hinvoke () s

/-- A call that is not handed on is answered by an error, or by the default sector size. -/
theorem call_of_no_request {m : IoMethod} {args : m.Args} (hrequest : request self m args = none)
    (s : Process σ) : ∃ reply, call P self m args s = .returns reply s ∧ m.Declined reply := by
  cases m with
  | xSync =>
    have hflag : SyncFlag.ofInt args = none := Option.map_eq_none_iff.mp hrequest
    refine ⟨SQLite3Code.misuse, ?_, misuse_ne_success⟩
    simp [call, sync, hflag]
    rfl
  | xLock | xUnlock =>
    have hflag : LockFlag.ofInt args = none := Option.map_eq_none_iff.mp hrequest
    refine ⟨SQLite3Code.misuse, ?_, misuse_ne_success⟩
    simp [call, lock, unlock, lockFlag, hflag]
    rfl
  | xSectorSize =>
    have habsent : ¬ self.pMethods.has .xSectorSize = true := by
      intro hhas
      exact absurd hrequest (by simp [request, hhas])
    refine ⟨4096, ?_, rfl⟩
    simp [call, sectorSize, SQLite3FileWrapper.sectorSize, habsent]
  | _ => exact absurd hrequest (Option.some_ne_none _)

end FileMethods

/-! ## The VFS -/

namespace SQLite3VfsWrapper

/-- The process after the parent VFS has answered a call. -/
def sent (P : Parent σ) (m : VfsMethod) (args : m.Args) (s : Process σ) : Process σ :=
  Process.record (.vfs m args) { s with parent := (P.vfs m args s.parent).2 }

variable {m : VfsMethod}

theorem invoke_of_has (h : P.table.has m = true) (args : m.Args) (s : Process σ) :
    invoke P m args s = .returns (P.vfs m args s.parent).1 (sent P m args s) :=
  if_pos h

theorem invoke_of_absent (h : ¬ P.table.has m = true) (args : m.Args) (s : Process σ) :
    invoke P m args s = .undefined :=
  if_neg h

end SQLite3VfsWrapper

namespace VFSMethods

/-- The arguments a call is handed on with, if it is. -/
def request : (m : VfsMethod) → m.Args → Option m.target.Args
  | .xDelete, args => some (VfsMethod.truth .xDelete args)
  | .xAccess, (name, flags) => (AccessFlag.ofInt flags).map fun flag => (name, flag.value)
  | .xDlSym, (handle, symbol) => if handle ≠ 0 then some (handle, symbol) else none
  | .xDlClose, handle => if handle ≠ 0 then some handle else none
  | .xFullPathname, args => some args
  | .xDlOpen, args => some args
  | .xDlError, args => some args
  | .xRandomness, args => some args
  | .xSleep, args => some args
  | .xCurrentTime, args => some args
  | .xGetLastError, args => some args
  | .xCurrentTimeInt64, args => some args
  | .xSetSystemCall, args => some args
  | .xGetSystemCall, args => some args
  | .xNextSystemCall, args => some args

/-- What a function makes of the parent's answer. -/
def delivered : (m : VfsMethod) → m.target.Reply → m.Reply
  | .xAccess, reply =>
    (reply.1, if reply.1 = SQLite3Code.success then some (ofBool (castBool (reply.2.getD 0))) else none)
  | .xCurrentTime, reply =>
    (reply.1, some (mkRat ((if reply.1 = SQLite3Code.success then some (reply.2.getD 0)
      else none).getD 0).toInt 86400000))
  | .xCurrentTimeInt64, reply =>
    (reply.1, if reply.1 = SQLite3Code.success then some (reply.2.getD 0) else none)
  | .xDelete, reply => reply
  | .xFullPathname, reply => reply
  | .xDlOpen, reply => reply
  | .xDlError, reply => reply
  | .xDlSym, reply => reply
  | .xDlClose, reply => reply
  | .xRandomness, reply => reply
  | .xSleep, reply => reply
  | .xGetLastError, reply => reply
  | .xSetSystemCall, reply => reply
  | .xGetSystemCall, reply => reply
  | .xNextSystemCall, reply => reply

/-- A call that is handed on reaches the parent once, and the parent's answer comes back. -/
theorem call_of_request {m : VfsMethod} {args : m.Args} {args' : m.target.Args}
    (hrequest : request m args = some args') (hhas : P.table.has m.target = true)
    (s : Process σ) :
    ∃ memory, call P m args s =
      .returns (delivered m (P.vfs m.target args' s.parent).1)
        ((SQLite3VfsWrapper.sent P m.target args' s).fill memory) := by
  have hinvoke := fun args s => SQLite3VfsWrapper.invoke_of_has (P := P) hhas args s
  cases m with
  | xDelete | xCurrentTimeInt64 | xCurrentTime =>
    obtain rfl := Option.some.inj hrequest
    refine ⟨s.memory, ?_⟩
    simp [call, delete, currentTime64, currentTime, SQLite3VfsWrapper.deleteFile,
      SQLite3VfsWrapper.currentTime, hinvoke]
    exact ⟨rfl, rfl⟩
  | xFullPathname | xRandomness | xGetLastError =>
    refine ⟨(P.vfs _ args' s.parent).1.2, ?_⟩
    obtain rfl := Option.some.inj hrequest
    simp [call, fullPathname, randomBytes, lastError, SQLite3VfsWrapper.fullPathname,
      SQLite3VfsWrapper.random, SQLite3VfsWrapper.lastError, hinvoke]
    exact ⟨rfl, rfl⟩
  | xAccess =>
    obtain ⟨flag, hflag, rfl⟩ := Option.map_eq_some_iff.mp hrequest
    refine ⟨s.memory, ?_⟩
    simp [call, access, SQLite3VfsWrapper.access, hflag, hinvoke]
    exact ⟨rfl, rfl⟩
  | xDlSym =>
    obtain ⟨handle, symbol⟩ := args
    obtain ⟨hhandle, hargs⟩ := Option.ite_none_right_eq_some.mp hrequest
    obtain rfl := Option.some.inj hargs
    refine ⟨s.memory, ?_⟩
    simp [call, dlsym, SQLite3VfsWrapper.dlsym, hhandle, hinvoke]
    exact ⟨rfl, rfl⟩
  | xDlClose =>
    obtain ⟨hhandle, hargs⟩ := Option.ite_none_right_eq_some.mp hrequest
    obtain rfl := Option.some.inj hargs
    refine ⟨s.memory, ?_⟩
    simp [call, dlclose, SQLite3VfsWrapper.dlclose, hhandle, hinvoke]
    rfl
  | xDlError =>
    refine ⟨(P.vfs _ args' s.parent).1, ?_⟩
    obtain rfl := Option.some.inj hrequest
    simp [call, dlerror, SQLite3VfsWrapper.dlerror, hinvoke]
    exact ⟨rfl, rfl⟩
  | xDlOpen | xSleep | xSetSystemCall | xGetSystemCall | xNextSystemCall =>
    obtain rfl := Option.some.inj hrequest
    exact ⟨s.memory, hinvoke _ s⟩

/-- A call that is handed on to a method which is not there. -/
theorem call_of_absent {m : VfsMethod} {args : m.Args} {args' : m.target.Args}
    (hrequest : request m args = some args') (habsent : ¬ P.table.has m.target = true)
    (s : Process σ) : call P m args s = .undefined := by
  have hinvoke := fun args s => SQLite3VfsWrapper.invoke_of_absent (P := P) habsent args s
  cases m with
  | xDelete | xCurrentTimeInt64 | xCurrentTime =>
    simp [call, delete, currentTime64, currentTime, SQLite3VfsWrapper.deleteFile,
      SQLite3VfsWrapper.currentTime, hinvoke]
  | xFullPathname | xRandomness | xGetLastError | xDlError =>
    simp [call, fullPathname, randomBytes, lastError, dlerror, SQLite3VfsWrapper.fullPathname,
      SQLite3VfsWrapper.random, SQLite3VfsWrapper.lastError, SQLite3VfsWrapper.dlerror, hinvoke]
  | xAccess =>
    obtain ⟨flag, hflag, rfl⟩ := Option.map_eq_some_iff.mp hrequest
    simp [call, access, SQLite3VfsWrapper.access, hflag, hinvoke]
  | xDlSym =>
    obtain ⟨handle, symbol⟩ := args
    obtain ⟨hhandle, -⟩ := Option.ite_none_right_eq_some.mp hrequest
    simp [call, dlsym, SQLite3VfsWrapper.dlsym, hhandle, hinvoke]
  | xDlClose =>
    obtain ⟨hhandle, -⟩ := Option.ite_none_right_eq_some.mp hrequest
    simp [call, dlclose, SQLite3VfsWrapper.dlclose, hhandle, hinvoke]
  | xDlOpen | xSleep | xSetSystemCall | xGetSystemCall | xNextSystemCall => exact hinvoke _ s

/-- A call that is not handed on is answered by an error or by a null pointer. -/
theorem call_of_no_request {m : VfsMethod} {args : m.Args} (hrequest : request m args = none)
    (s : Process σ) : ∃ reply, call P m args s = .returns reply s ∧ m.Declined reply := by
  cases m with
  | xAccess =>
    have hflag : AccessFlag.ofInt args.2 = none := Option.map_eq_none_iff.mp hrequest
    refine ⟨(SQLite3Code.ioErrAccess, none), ?_, ioErrAccess_ne_success⟩
    simp [call, access, hflag]
    rfl
  | xDlSym =>
    obtain ⟨handle, symbol⟩ := args
    have hhandle : handle = 0 := by simpa [request] using hrequest
    exact ⟨0, by simp [call, dlsym, hhandle], rfl⟩
  | xDlClose =>
    have hhandle : args = 0 := by simpa [request] using hrequest
    exact ⟨(), by simp [call, dlclose, hhandle], trivial⟩
  | _ => exact absurd hrequest (Option.some_ne_none _)

end VFSMethods

end Wrapper

end Ysqlite3.Vfs
