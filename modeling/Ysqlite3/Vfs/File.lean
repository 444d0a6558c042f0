import Ysqlite3.Span
import Ysqlite3.Misc.ByteStore

/-!
# Files of the VFS layer

The part of `class File` that moves or sizes bytes, and the file control. `SQLite3FileWrapper` is
`SQLite3_file_wrapper` over the method table of a file of SQLite. `storeMethods` is the file such a
table stands for: a store of bytes.
-/

namespace Ysqlite3.Vfs

/-- `enum class File_format`; `master_journal` has the value of `super_journal`. -/
inductive FileFormat where
  | mainDb
  | mainJournal
  | tempDb
  | tempJournal
  | transientDb
  | subjournal
  | superJournal
  | wal
  deriving DecidableEq, Repr

/-- The array of strings SQLite hands to `SQLITE_FCNTL_PRAGMA`: the slot for the result, the name
of the pragma and its value. -/
structure PragmaArgs where
  result : Option Bytes
  name : Bytes
  value : Option Bytes
  deriving DecidableEq, Repr

/-- A `File_control` operation with its argument. -/
inductive FileControl where
  | pragma (args : PragmaArgs)
  | other (operation : Int)
  deriving DecidableEq, Repr

/-- The virtual functions of `class File` over the state `σ` of the object. A `read` is handed the
buffer to fill; what `fetch` yields is the memory its pointer shows. -/
structure File (σ : Type) where
  format : FileFormat
  read : Bytes → Nat → σ → Outcome (Bytes × σ) Unit
  write : Bytes → Nat → σ → Outcome σ Unit
  truncate : Nat → σ → Outcome σ Unit
  fileSize : σ → Outcome σ Nat
  fileControl : FileControl → σ → Outcome (FileControl × σ) Unit
  fetch : Nat → Int → σ → Outcome σ (Option Bytes)

/-- The entries of a `sqlite3_io_methods` table behind those functions, with the result code
first. -/
structure IoMethods (σ : Type) where
  xRead : Bytes → Int → Nat → σ → Int × Bytes × σ
  xWrite : Bytes → Int → Nat → σ → Int × σ
  xTruncate : Nat → σ → Int × σ
  xFileSize : σ → Int × Nat × σ
  xFileControl : FileControl → σ → Int × FileControl × σ
  xFetch : Nat → Int → σ → Int × Option Bytes × σ

/-- `assert_error` -/
def assertError {σ α : Type} (ec : Int) (value : α) (state : σ) : Outcome σ α :=
  if ec ≠ 0 then .throws (.sqlite3 ec "") state else .returns value state

/-- `SQLite3_file_wrapper` -/
def SQLite3FileWrapper {σ : Type} (format : FileFormat) (parent : IoMethods σ) : File σ where
  format := format
  read buffer offset s :=
    let (ec, buffer, s) := parent.xRead buffer (castInt buffer.length) offset s
    assertError ec () (buffer, s)
  write buffer offset s :=
    let (ec, s) := parent.xWrite buffer (castInt buffer.length) offset s
    assertError ec () s
  truncate size s :=
    let (ec, s) := parent.xTruncate size s
    assertError ec () s
  fileSize s :=
    let (ec, size, s) := parent.xFileSize s
    assertError ec size s
  fileControl operation s :=
    let (ec, operation, s) := parent.xFileControl operation s
    assertError ec () (operation, s)
  fetch offset amount s :=
    let (ec, buffer, s) := parent.xFetch offset amount s
    assertError ec buffer s

/-- A file that stores bytes: reads past the end are zero-filled and reported as short, writes past
the end leave a hole of zeros, a range inside the file can be mapped. -/
def storeMethods : IoMethods Bytes where
  xRead buffer amount offset s :=
    let n := amount.toNat
    let code := if (Store.readAt s offset n).length = n then 0 else SQLite3Code.shortRead
    (code, Store.readFilled 0 s offset n ++ buffer.drop n, s)
  xWrite buffer amount offset s := (0, Store.writeAt 0 s offset (buffer.take amount.toNat))
  xTruncate size s := (0, Store.resize 0 s size)
  xFileSize s := (0, s.length, s)
  xFileControl operation s := (SQLite3Code.notFound, operation, s)
  xFetch offset amount s :=
    (0, if offset + amount.toNat ≤ s.length then some (Store.readAt s offset amount.toNat) else none, s)

/-- `P` stores and returns bytes faithfully: `content` is what it holds, and its functions act on
that as on a store of bytes. -/
structure Faithful {σ : Type} (P : File σ) (content : σ → Bytes) : Prop where
  read : ∀ buffer offset s, buffer.length < 2 ^ 31 → ∃ s', content s' = content s ∧
    P.read buffer offset s =
      if (Store.readAt (content s) offset buffer.length).length = buffer.length then
        .returns () (Store.readAt (content s) offset buffer.length, s')
      else
        .throws (.sqlite3 .shortRead "") (Store.readFilled 0 (content s) offset buffer.length, s')
  write : ∀ buffer offset s, buffer.length < 2 ^ 31 → ∃ s',
    content s' = Store.writeAt 0 (content s) offset buffer ∧ P.write buffer offset s = .returns () s'
  truncate : ∀ size s, ∃ s',
    content s' = Store.resize 0 (content s) size ∧ P.truncate size s = .returns () s'
  fileSize : ∀ s, ∃ s', content s' = content s ∧ P.fileSize s = .returns (content s).length s'

/-- The wrapper over a store of bytes is faithful. -/
theorem storeMethods_faithful (format : FileFormat) :
    Faithful (SQLite3FileWrapper format storeMethods) (fun s => s) where
  read buffer offset s h := by
    refine ⟨s, rfl, ?_⟩
    have hcast : (castInt buffer.length).toNat = buffer.length := by
      rw [castInt_of_lt h, Int.toNat_natCast]
    simp only [SQLite3FileWrapper, storeMethods, hcast, List.drop_length, List.append_nil]
    split
    · rename_i hfull
      rw [assertError, if_neg (by simp), Store.readFilled, Store.resize_of_length 0 hfull]
    · rw [assertError, if_pos (by decide)]
  write buffer offset s h := by
    have hcast : (castInt buffer.length).toNat = buffer.length := by
      rw [castInt_of_lt h, Int.toNat_natCast]
    exact ⟨_, rfl, by simp [SQLite3FileWrapper, storeMethods, hcast, assertError]⟩
  truncate size s := ⟨_, rfl, rfl⟩
  fileSize s := ⟨_, rfl, rfl⟩

end Ysqlite3.Vfs
