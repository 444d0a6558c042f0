import Ysqlite3.Vfs.Wrapper.Vfs

/-!
# Exceptions on their way to SQLite

SQLite calls functions that must not throw. `wrap` in `vfs.cpp`, `wrap` in `file.cpp` and
`Function::xfunc` catch what the virtual function behind them throws and make an error of SQLite of it,
each in its own way. The one in `file.cpp` is nearly right: an error of SQLite keeps its value, everything
else becomes the generic error of the method.
-/

namespace Ysqlite3

/-- An exception as the `catch` clauses tell it apart, with the text of `what()`. -/
inductive Thrown where
  | systemError (category : Category) (value : Int) (what : Bytes)
  | stdException (what : Bytes)
  | other
  deriving DecidableEq, Repr

/-- The same without the text. -/
def Thrown.exception : Thrown → Exception
  | systemError category value _ => .systemError category value ""
  | stdException _ => .other
  | other => .other

/-! ## The translators -/

namespace Vfs

/-- The `catch` clauses of `wrap` in `file.cpp`. -/
def File.translate (defaultError : SQLite3Code) : Exception → SQLite3Code
  | .systemError .sqlite3 value _ => value
  | _ => defaultError

/-- The `catch` clauses of both `wrap` in `vfs.cpp`. -/
def VFS.translate : Exception → SQLite3Code
  | .systemError _ value _ => value
  | .other => .generic

/-- The second argument of `wrap`; a function that is not wrapped cannot throw. -/
def IoMethod.genericError : IoMethod → Option SQLite3Code
  | xLock => some .ioErrLock
  | xUnlock => some .ioErrUnlock
  | xCheckReservedLock => some .ioErrCheckReservedLock
  | xSectorSize | xDeviceCharacteristics | xShmBarrier => none
  | _ => some .generic

/-- `SQLITE_ERROR`, where `wrap` is used. -/
def VfsMethod.genericError : VfsMethod → Option SQLite3Code
  | xDelete | xAccess | xFullPathname | xCurrentTime | xCurrentTimeInt64 => some .generic
  | _ => none

namespace Wrapper

variable {σ α : Type}

/-- The methods of a wrapped file receive what its `wrap` translates. -/
theorem FileMethods.caught_throws (defaultError : SQLite3Code) (e : Exception) (s : Process σ) :
    FileMethods.caught (α := α) defaultError (.throws e s) =
      .returns (File.translate defaultError e, none) s := by
  cases e with
  | other => rfl
  | systemError category value what => cases category <;> rfl

theorem VFSMethods.caught_throws (e : Exception) (s : Process σ) :
    VFSMethods.caught (α := α) (.throws e s) = .returns (VFS.translate e, none) s := by
  cases e <;> rfl

end Wrapper

end Vfs

/-- The error of an SQL function: its code, and its message unless that is too long. -/
structure FunctionError where
  code : SQLite3Code
  message : Option Bytes
  deriving DecidableEq, Repr

/-- `sqlite3_result_error`. `text` is followed by a terminator; copying `n` characters is undefined if
that takes more. Nothing is copied above `SQLITE_LIMIT_LENGTH`. -/
def sqlite3ResultError (limit : Nat) (text : Bytes) (n : Int) : Option FunctionError :=
  let nByte := if n < 0 then text.length else n.toNat
  if limit < nByte then some ⟨.generic, none⟩
  else if nByte ≤ text.length + 1 then some ⟨.generic, some ((text ++ [0]).take nByte)⟩
  else none

/-- `Function::xfunc`, when `run` throws. -/
def Function.xfunc (limit : Nat) : Thrown → Option FunctionError
  | .systemError _ value what => sqlite3ResultError limit what value
  | .stdException what => sqlite3ResultError limit what (-1)
  | .other => sqlite3ResultError limit (cstr "function threw an exception") (-1)

/-- The functions that SQLite calls. -/
inductive EntryPoint where
  | xOpen
  | vfs (m : Vfs.VfsMethod)
  | xClose
  | file (m : Vfs.IoMethod)
  | xfunc
  deriving DecidableEq, Repr

namespace EntryPoint

/-- The generic error of those behind which something can be thrown. -/
def genericError : EntryPoint → Option SQLite3Code
  | xOpen => some .generic
  | vfs m => m.genericError
  | xClose => some .generic
  | file m => m.genericError
  | xfunc => some .generic

/-- The code SQLite receives, if it receives one. -/
def receives (limit : Nat) (thrown : Thrown) : EntryPoint → Option SQLite3Code
  | xOpen => some (Vfs.VFS.translate thrown.exception)
  | vfs m => m.genericError.map fun _ => Vfs.VFS.translate thrown.exception
  | xClose => some (Vfs.File.translate .generic thrown.exception)
  | file m => m.genericError.map fun generic => Vfs.File.translate generic thrown.exception
  | xfunc => (Function.xfunc limit thrown).map FunctionError.code

end EntryPoint

/-! ## The right code -/

/-- An error of SQLite keeps its value and everything else is the generic error, so that no exception
looks like a success. -/
structure RightCode (generic : SQLite3Code) (thrown : Thrown) (code : SQLite3Code) : Prop where
  notOk : code ≠ .success
  own : ∀ value what, thrown = .systemError .sqlite3 value what → value ≠ 0 → code = value
  generic : (∀ value what, thrown = .systemError .sqlite3 value what → value = 0) → code = generic

/-- The one code that is right. -/
def rightCode (generic : SQLite3Code) : Thrown → SQLite3Code
  | .systemError .sqlite3 value _ => if value = 0 then generic else value
  | _ => generic

theorem rightCode_iff {generic code : SQLite3Code} (hgeneric : generic ≠ 0) (thrown : Thrown) :
    RightCode generic thrown code ↔ code = rightCode generic thrown := by
  constructor
  · intro h
    unfold rightCode
    split
    · rename_i value what
      split
      · rename_i hvalue
        apply h.generic
        rintro _ _ ⟨⟩
        exact hvalue
      · rename_i hvalue
        exact h.own value what rfl hvalue
    · rename_i hother
      apply h.generic
      intro value what hthrown
      exact absurd hthrown (hother value what)
  · rintro rfl
    unfold rightCode
    refine ⟨?_, ?_, ?_⟩
    · split
      · split
        · exact hgeneric
        · assumption
      · exact hgeneric
    · rintro value what rfl hvalue
      exact if_neg hvalue
    · intro hother
      split
      · exact if_pos (hother _ _ rfl)
      · rfl

/-! ## Where the translators get it right -/

namespace Vfs

/-- `file.cpp` takes the value of an error of SQLite even if it is `SQLITE_OK`. -/
def File.Translates : Thrown → Prop
  | .systemError .sqlite3 value _ => value ≠ 0
  | _ => True

/-- `vfs.cpp` takes the value of every system error, which is right for the generic error only. -/
def VFS.Translates : Thrown → Prop
  | .systemError .sqlite3 value _ => value ≠ 0
  | .systemError _ value _ => value = 1
  | _ => True

theorem File.translate_right (generic : SQLite3Code) (thrown : Thrown) :
    File.translate generic thrown.exception = rightCode generic thrown ↔
      (File.Translates thrown ∨ generic = 0) := by
  cases thrown with
  | systemError category value what =>
    cases category with
    | sqlite3 =>
      by_cases hvalue : value = 0
      · simp [Thrown.exception, translate, rightCode, Translates, hvalue, eq_comm]
      · simp [Thrown.exception, translate, rightCode, Translates, hvalue]
    | ysqlite3 => simp [Thrown.exception, translate, rightCode, Translates]
    | foreign name => simp [Thrown.exception, translate, rightCode, Translates]
  | stdException what => simp [Thrown.exception, translate, rightCode, Translates]
  | other => simp [Thrown.exception, translate, rightCode, Translates]

theorem VFS.translate_right (thrown : Thrown) :
    VFS.translate thrown.exception = rightCode .generic thrown ↔ VFS.Translates thrown := by
  cases thrown with
  | systemError category value what =>
    cases category with
    | sqlite3 =>
      by_cases hvalue : value = 0
      · simp [Thrown.exception, translate, rightCode, Translates, hvalue, SQLite3Code.generic]
      · simp [Thrown.exception, translate, rightCode, Translates, hvalue]
    | ysqlite3 => simp [Thrown.exception, translate, rightCode, Translates, SQLite3Code.generic]
    | foreign name => simp [Thrown.exception, translate, rightCode, Translates, SQLite3Code.generic]
  | stdException what => simp [Thrown.exception, translate, rightCode, Translates]
  | other => simp [Thrown.exception, translate, rightCode, Translates]

end Vfs

/-- The message a function error can be made of: the whole text, or as many characters of it as there
are, or more than SQLite takes. -/
theorem sqlite3ResultError_code (limit : Nat) (text : Bytes) (n : Int) :
    (sqlite3ResultError limit text n).map FunctionError.code =
      if n ≤ text.length + 1 ∨ limit < n then some .generic else none := by
  unfold sqlite3ResultError
  by_cases hn : n < 0
  · rw [if_pos (by omega : n ≤ (text.length : Int) + 1 ∨ (limit : Int) < n)]
    simp only [if_pos hn]
    split
    · rfl
    · rw [if_pos (by omega)]
      rfl
  · simp only [if_neg hn]
    by_cases hlimit : limit < n.toNat
    · rw [if_pos hlimit, if_pos (by omega)]
      rfl
    · rw [if_neg hlimit]
      by_cases htext : n.toNat ≤ text.length + 1
      · rw [if_pos htext, if_pos (by omega)]
        rfl
      · rw [if_neg htext, if_neg (by omega)]
        rfl

namespace EntryPoint

/-- `xfunc` takes the value of a system error for the length of its text. -/
def xfuncTranslates (limit : Nat) : Thrown → Prop
  | .systemError .sqlite3 value _ => value = 0 ∨ value = 1
  | .systemError _ value what => value ≤ what.length + 1 ∨ limit < value
  | _ => True

/-- The exceptions that an entry point translates as it should. -/
def Translates (limit : Nat) (thrown : Thrown) : EntryPoint → Prop
  | xOpen | vfs _ => Vfs.VFS.Translates thrown
  | xClose | file _ => Vfs.File.Translates thrown
  | xfunc => xfuncTranslates limit thrown

theorem xfunc_right (limit : Nat) (thrown : Thrown) :
    (Function.xfunc limit thrown).map FunctionError.code = some (rightCode .generic thrown) ↔
      xfuncTranslates limit thrown := by
  cases thrown with
  | systemError category value what =>
    rw [Function.xfunc, sqlite3ResultError_code]
    cases category with
    | sqlite3 =>
      simp only [rightCode, xfuncTranslates, SQLite3Code.generic, Option.ite_none_right_eq_some,
        Option.some.injEq]
      constructor
      · rintro ⟨-, hcode⟩
        split at hcode
        · exact Or.inl (by assumption)
        · exact Or.inr hcode.symm
      · rintro (rfl | rfl)
        · exact ⟨Or.inl (by omega), rfl⟩
        · exact ⟨Or.inl (by omega), rfl⟩
    | ysqlite3 => simp only [rightCode, xfuncTranslates, Option.ite_none_right_eq_some, and_true]
    | foreign name => simp only [rightCode, xfuncTranslates, Option.ite_none_right_eq_some, and_true]
  | stdException what =>
    rw [Function.xfunc, sqlite3ResultError_code, if_pos (Or.inl (by omega))]
    simp [rightCode, xfuncTranslates]
  | other =>
    rw [Function.xfunc, sqlite3ResultError_code, if_pos (Or.inl (by omega))]
    simp [rightCode, xfuncTranslates]

theorem genericError_ne_zero {entry : EntryPoint} {generic : SQLite3Code}
    (h : entry.genericError = some generic) : generic ≠ 0 := by
  cases entry with
  | xOpen => cases h; decide
  | vfs m => cases m <;> cases h <;> decide
  | xClose => cases h; decide
  | file m => cases m <;> cases h <;> decide
  | xfunc => cases h; decide

/-- SQLite receives the right code for an exception exactly if the translator of the entry point gets
that exception right. -/
theorem receives_right_iff (limit : Nat) (thrown : Thrown) (entry : EntryPoint) (generic : SQLite3Code)
    (hgeneric : entry.genericError = some generic) :
    (∃ code, entry.receives limit thrown = some code ∧ RightCode generic thrown code) ↔
      entry.Translates limit thrown := by
  have hne := genericError_ne_zero hgeneric
  have hcode : (∃ code, entry.receives limit thrown = some code ∧ RightCode generic thrown code) ↔
      entry.receives limit thrown = some (rightCode generic thrown) := by
    simp only [rightCode_iff hne, exists_eq_right]
  rw [hcode]
  cases entry with
  | xOpen =>
    cases hgeneric
    simp only [receives, Option.some.injEq]
    exact Vfs.VFS.translate_right thrown
  | vfs m =>
    have hm : m.genericError = some .generic := by cases m <;> cases hgeneric <;> rfl
    have hg : generic = .generic := by cases m <;> cases hgeneric <;> rfl
    simp only [receives, hm, hg, Option.map_some, Option.some.injEq]
    exact Vfs.VFS.translate_right thrown
  | xClose =>
    cases hgeneric
    simp only [receives, Option.some.injEq]
    exact (Vfs.File.translate_right _ thrown).trans (or_iff_left hne)
  | file m =>
    have hm : m.genericError = some generic := hgeneric
    simp only [receives, hm, Option.map_some, Option.some.injEq]
    exact (Vfs.File.translate_right _ thrown).trans (or_iff_left hne)
  | xfunc =>
    cases hgeneric
    exact xfunc_right limit thrown

/-- An exception of a file method that reaches SQLite as it should. -/
theorem receives_right_xLock :
    ∃ code, (file .xLock).receives 0 (.systemError .ysqlite3 11 []) = some code ∧
      RightCode .ioErrLock (.systemError .ysqlite3 11 []) code :=
  (receives_right_iff 0 (.systemError .ysqlite3 11 []) (file .xLock) .ioErrLock rfl).2 trivial

/-- A range error of the library that leaves `full_pathname` reaches SQLite as a corrupt database. -/
theorem receives_xFullPathname_corrupt :
    ¬ ∀ (limit : Nat) (thrown : Thrown) (entry : EntryPoint) (generic : SQLite3Code),
      entry.genericError = some generic →
        ∃ code, entry.receives limit thrown = some code ∧ RightCode generic thrown code := by
  intro h
  obtain ⟨code, hcode, hright⟩ :=
    h 1000000000 (.systemError .ysqlite3 Error.outOfBounds.value []) (vfs .xFullPathname) .generic rfl
  cases hcode
  have := hright.generic (by rintro _ _ ⟨⟩)
  exact absurd this (by decide)

end EntryPoint

end Ysqlite3
