import Ysqlite3.Vfs.PageTransformingFile
import Ysqlite3.Misc.Component

/-!
# Files as components

The calls SQLite makes on an open file and the replies it gets, for the parent file and for a
`Page_transforming_file` over it.
-/

namespace Ysqlite3.Vfs

variable {ι τ σ : Type}

/-- A call on an open file; `env` is what the calls out of the program come to while it runs. -/
inductive FileCall (ι : Type) where
  | read (buffer : Bytes) (offset : Nat) (env : ι)
  | write (buffer : Bytes) (offset : Nat) (env : ι)
  | truncate (size : Nat)
  | fileSize

/-- What the caller gets back. A read that throws has filled the buffer nevertheless. -/
inductive FileReply where
  | done
  | bytes (buffer : Bytes)
  | size (n : Nat)
  | control (operation : FileControl)
  | failed (exception : Exception) (buffer : Bytes)
  | undefined
  deriving DecidableEq, Repr

namespace FileReply

def ofRead (s : σ) : Outcome (Bytes × σ) Unit → FileReply × σ
  | .returns _ (buffer, s') => (.bytes buffer, s')
  | .throws e (buffer, s') => (.failed e buffer, s')
  | .undefined => (.undefined, s)

def ofUnit (s : σ) : Outcome σ Unit → FileReply × σ
  | .returns _ s' => (.done, s')
  | .throws e s' => (.failed e [], s')
  | .undefined => (.undefined, s)

def ofSize (s : σ) : Outcome σ Nat → FileReply × σ
  | .returns n s' => (.size n, s')
  | .throws e s' => (.failed e [], s')
  | .undefined => (.undefined, s)

def ofControl (s : σ) : Outcome (FileControl × σ) Unit → FileReply × σ
  | .returns _ (operation, s') => (.control operation, s')
  | .throws e (_, s') => (.failed e [], s')
  | .undefined => (.undefined, s)

end FileReply

/-- The calls on the parent file itself. -/
def plainFile (P : File σ) : Component σ (FileCall ι) FileReply where
  step s
    | .read buffer offset _ => FileReply.ofRead s (P.read buffer offset s)
    | .write buffer offset _ => FileReply.ofUnit s (P.write buffer offset s)
    | .truncate size => FileReply.ofUnit s (P.truncate size s)
    | .fileSize => FileReply.ofSize s (P.fileSize s)

/-- The calls on a `Page_transforming_file` over that parent. -/
def transformedFile (T : PageTransformer ι τ) (P : File σ) :
    Component (PageTransformingFile τ σ) (FileCall ι) FileReply where
  step self
    | .read buffer offset env => FileReply.ofRead self (PageTransformingFile.read T P env buffer offset self)
    | .write buffer offset env => FileReply.ofUnit self (PageTransformingFile.write T P env buffer offset self)
    | .truncate size => FileReply.ofUnit self (PageTransformingFile.truncate P size self)
    | .fileSize => FileReply.ofSize self (PageTransformingFile.fileSize P self)

end Ysqlite3.Vfs
