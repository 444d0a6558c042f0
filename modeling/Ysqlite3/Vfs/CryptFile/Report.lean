import Ysqlite3.EntryPoints
import Ysqlite3.Vfs.CryptFile.Pragmas

/-!
# What SQL sees of a pragma

SQLite hands `SQLITE_FCNTL_PRAGMA` an array of strings: the slot for the result, the name of the pragma,
and its value, which is null for a pragma without one. It answers the statement with what it finds in the
first slot. `Crypt_file::file_control` puts its report into the second one, and looks into the value
without asking whether there is one.
-/

namespace Ysqlite3.Vfs

open Crypt CryptFile

variable {σ : Type}

/-! ## The side of SQLite -/

/-- What a pragma statement comes to. `builtin` is a pragma that is left to SQLite. -/
inductive PragmaAnswer where
  | row (text : Bytes)
  | noRow
  | error (code : SQLite3Code) (message : Option Bytes)
  | builtin
  deriving DecidableEq, Repr

/-- The slot for the result. -/
def FileControl.resultSlot : FileControl → Option Bytes
  | pragma args => args.result
  | other _ => none

/-- The part of `sqlite3Pragma` behind the file control that ended with `rc`. -/
def sqlite3Pragma (rc : SQLite3Code) (operation : FileControl) : PragmaAnswer :=
  if rc = .success then
    match operation.resultSlot with
    | some text => .row text
    | none => .noRow
  else if rc ≠ .notFound then .error rc operation.resultSlot
  else .builtin

/-- A pragma statement on a `Crypt_file`, whose exceptions go through `wrap`; undefined behaviour has no
answer. -/
def pragmaAnswer (ssl : OpenSsl) (P : File σ) (kdf : KdfCall) (name : Bytes) (value : Option Bytes)
    (self : PageTransformingFile Crypt σ) : Option PragmaAnswer :=
  match CryptFile.fileControl ssl P kdf (.pragma ⟨none, name, value⟩) self with
  | .returns _ (operation, _) => some (sqlite3Pragma .success operation)
  | .throws e (operation, _) => some (sqlite3Pragma (File.translate .generic e) operation)
  | .undefined => none

/-! ## The report -/

/-- The call has succeeded with the report of the pragma in the first slot and the others as they
were. -/
def ReportReturned (ssl : OpenSsl) (P : File σ) (kdf : KdfCall) (pragma : Pragma) (value : Bytes)
    (self : PageTransformingFile Crypt σ) : Prop :=
  ∃ report derived, applyPragma ssl kdf value self.derived pragma = some (report, derived) ∧
    CryptFile.fileControl ssl P kdf (.pragma ⟨none, pragma.name, some value⟩) self =
      .returns () (.pragma ⟨some report.text, pragma.name, some value⟩, { self with derived })

/-- What a pragma with a value comes to: the report takes the place of the name. -/
theorem fileControl_pragma (ssl : OpenSsl) (P : File σ) (kdf : KdfCall) {name : Bytes} {pragma : Pragma}
    (hname : Pragma.ofName name = some pragma) (value : Bytes) (self : PageTransformingFile Crypt σ) :
    ∃ report, CryptFile.fileControl ssl P kdf (.pragma ⟨none, name, some value⟩) self =
      .returns () (.pragma ⟨none, report, some value⟩,
        { self with derived := settled ssl kdf value self.derived pragma }) := by
  obtain ⟨report, happly⟩ := applyPragma_eq ssl kdf value self.derived pragma
  refine ⟨report.text, ?_⟩
  simp only [CryptFile.fileControl, hname, happly]

/-- The statement succeeds without a row, whatever the report says. -/
theorem pragmaAnswer_handled (ssl : OpenSsl) (P : File σ) (kdf : KdfCall) (pragma : Pragma)
    (value : Bytes) (self : PageTransformingFile Crypt σ) :
    pragmaAnswer ssl P kdf pragma.name (some value) self = some .noRow := by
  obtain ⟨report, hcontrol⟩ := fileControl_pragma ssl P kdf (Pragma.ofName_name pragma) value self
  rw [pragmaAnswer, hcontrol]
  rfl

/-- No report reaches SQLite: the first slot stays empty, and whatever two values a pragma is given, the
statements are answered alike, even if one is accepted and the other one is not. -/
theorem report_never_returned (ssl : OpenSsl) (P : File σ) (pragma : Pragma) (kdf : KdfCall)
    (value : Bytes) (self : PageTransformingFile Crypt σ) :
    ¬ ReportReturned ssl P kdf pragma value self ∧
      ∀ kdf' value', pragmaAnswer ssl P kdf pragma.name (some value) self =
        pragmaAnswer ssl P kdf' pragma.name (some value') self := by
  constructor
  · rintro ⟨report, derived, -, hreturned⟩
    obtain ⟨report', hcontrol⟩ := fileControl_pragma ssl P kdf (Pragma.ofName_name pragma) value self
    rw [hcontrol] at hreturned
    cases hreturned
  · intro kdf' value'
    rw [pragmaAnswer_handled, pragmaAnswer_handled]

/-- A cipher that is not known is refused, and the statement looks as if it had been accepted. -/
theorem unkownCipher_looks_accepted :
    let P : File Bytes := SQLite3FileWrapper .mainDb storeMethods
    let self : PageTransformingFile Crypt Bytes :=
      ⟨[], ⟨false, Encryptor.initial, Encryptor.initial, []⟩, [], 0⟩
    (applyPragma maskSsl .succeeds (cstr "aes-128") self.derived .cipher).map Prod.fst =
        some .unkownCipher ∧
      (applyPragma maskSsl .succeeds (cstr "aes-128-gcm") self.derived .cipher).map Prod.fst =
        some .ok ∧
      ¬ ReportReturned maskSsl P .succeeds .cipher (cstr "aes-128") self ∧
      pragmaAnswer maskSsl P .succeeds (cstr "cipher") (some (cstr "aes-128")) self =
        pragmaAnswer maskSsl P .succeeds (cstr "cipher") (some (cstr "aes-128-gcm")) self := by
  intro P self
  refine ⟨by decide, by decide, ?_, by decide⟩
  rintro ⟨report, derived, -, hreturned⟩
  obtain ⟨report', hcontrol⟩ :=
    fileControl_pragma maskSsl P .succeeds (Pragma.ofName_name .cipher) (cstr "aes-128") self
  rw [hcontrol] at hreturned
  cases hreturned

/-! ## Pragmas without a value -/

/-- The call completes, with a result or an error, and if there is no value, it leaves the members
alone. -/
def PragmaSafe (ssl : OpenSsl) (P : File σ) (kdf : KdfCall) (name : Bytes) (value : Option Bytes)
    (self : PageTransformingFile Crypt σ) : Prop :=
  ∃ operation self',
    (CryptFile.fileControl ssl P kdf (.pragma ⟨none, name, value⟩) self =
        .returns () (operation, self') ∨
      ∃ e, CryptFile.fileControl ssl P kdf (.pragma ⟨none, name, value⟩) self =
        .throws e (operation, self')) ∧
    (value = none → self'.derived = self.derived)

/-- The parent's file control completes. -/
theorem wrapper_fileControl_completes (format : FileFormat) (parent : IoMethods σ)
    (operation : FileControl) (s : σ) :
    ∃ operation' s',
      (SQLite3FileWrapper format parent).fileControl operation s = .returns () (operation', s') ∨
        ∃ e, (SQLite3FileWrapper format parent).fileControl operation s = .throws e (operation', s') := by
  refine ⟨(parent.xFileControl operation s).2.1, (parent.xFileControl operation s).2.2, ?_⟩
  by_cases hec : (parent.xFileControl operation s).1 = 0
  · exact Or.inl (if_neg (not_not_intro hec))
  · exact Or.inr ⟨_, if_pos hec⟩

/-- A pragma is safe exactly if it has a value or is none of those that look into it; the parent sees
the others. -/
theorem fileControl_safe_iff (ssl : OpenSsl) (format : FileFormat) (parent : IoMethods σ) (kdf : KdfCall)
    (name : Bytes) (value : Option Bytes) (self : PageTransformingFile Crypt σ) :
    PragmaSafe ssl (SQLite3FileWrapper format parent) kdf name value self ↔
      ((Pragma.ofName name).isSome → value ≠ none) := by
  unfold PragmaSafe
  cases hname : Pragma.ofName name with
  | none =>
    refine iff_of_true ?_ (by simp)
    simp only [CryptFile.fileControl, hname]
    obtain ⟨operation, s, hreturns | ⟨e, hthrows⟩⟩ :=
      wrapper_fileControl_completes format parent (.pragma ⟨none, name, value⟩) self.parent
    · exact ⟨operation, { self with parent := s }, Or.inl (by rw [hreturns]; rfl), fun _ => rfl⟩
    · exact ⟨operation, { self with parent := s }, Or.inr ⟨e, by rw [hthrows]; rfl⟩, fun _ => rfl⟩
  | some pragma =>
    cases value with
    | none =>
      -- the value is looked into
      refine iff_of_false ?_ (by simp)
      simp only [CryptFile.fileControl, hname, reduceCtorEq, exists_false, or_self, false_and,
        not_false_eq_true]
    | some value =>
      refine iff_of_true ?_ (by simp)
      obtain ⟨report, hcontrol⟩ := fileControl_pragma ssl (SQLite3FileWrapper format parent) kdf hname
        value self
      exact ⟨_, _, Or.inl hcontrol, fun h => by cases h⟩

/-- `PRAGMA key;` dereferences a null pointer. -/
theorem key_without_value_unsafe :
    ¬ PragmaSafe maskSsl (SQLite3FileWrapper .mainDb storeMethods) .succeeds (cstr "key") none
      ⟨[], ⟨false, Encryptor.initial, Encryptor.initial, []⟩, [], 0⟩ := by
  rintro ⟨operation, self', hreturns | ⟨e, hthrows⟩, -⟩
  · cases hreturns
  · cases hthrows

end Ysqlite3.Vfs
