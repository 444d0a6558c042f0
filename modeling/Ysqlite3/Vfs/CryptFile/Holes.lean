import Ysqlite3.Vfs.CryptFile.Delivered
import Ysqlite3.Vfs.CryptFile.Pragmas

/-!
# Pages that were never written

A page that lies below the end of the file because a later one was written, or because the parent grew
the file ahead of time, is all zeros in the parent. It has no tag, so unlike on the parent alone it
cannot be read: every page is authenticated, and a hole is as good as a page that was overwritten.
-/

namespace Ysqlite3.Vfs

open PageTransformingFile Crypt

variable {σ : Type} {ssl : OpenSsl} {P : File σ} {content : σ → Bytes} {p : PageSize} {k : Nat}
  {s : Bytes}

/-- There are only zeros where page `k` lies, as far as the file goes. -/
def Hole (p : PageSize) (k : Nat) (s : Bytes) : Prop :=
  ∀ i, p.offset k ≤ i → i < p.offset k + p.size → s.getD i 0 = 0

/-- What the parent alone returns for a hole. -/
theorem Hole.readAt (h : Hole p k s) (hin : p.offset k + p.size ≤ s.length) :
    Store.readAt s (p.offset k) p.size = List.replicate p.size 0 := by
  rw [List.eq_replicate_iff]
  refine ⟨Store.length_readAt_of_le hin, fun b hb => ?_⟩
  obtain ⟨i, hi⟩ := List.mem_iff_getElem?.mp hb
  rw [Store.getElem?_readAt] at hi
  split at hi
  · rename_i hlt
    have hzero := h (p.offset k + i) (by omega) (by omega)
    rw [List.getD_eq_getElem?_getD, hi] at hzero
    exact hzero
  · cases hi

/-- Writing another page leaves the hole. -/
theorem Hole.writeAt (h : Hole p k s) {j : Nat} (hjk : j ≠ k) {b : Bytes} (hb : b.length = p.size) :
    Hole p k (Store.writeAt 0 s (p.offset j) b) := by
  intro i hlow hhigh
  have hdisjoint := p.offset_disjoint hjk
  have hzero := h i hlow hhigh
  rw [List.getD_eq_getElem?_getD, Store.getElem?_writeAt]
  by_cases hbefore : i < p.offset j
  · rw [if_pos hbefore]
    exact hzero
  · rw [if_neg hbefore, if_neg (by omega), ← List.getD_eq_getElem?_getD]
    exact hzero

/-- So does a change of the size of the file. -/
theorem Hole.resize (h : Hole p k s) (n : Nat) : Hole p k (Store.resize 0 s n) := by
  intro i hlow hhigh
  rw [List.getD_eq_getElem?_getD, Store.getElem?_resize]
  split
  · exact h i hlow hhigh
  · rfl

/-! ## Runs that leave the page out -/

/-- Reads, writes of other pages, pragmas that do not reach the parent, and the parent changing the size
of the file by itself. -/
def LeavesOut (p : PageSize) (k : Nat) (content : σ → Bytes) (self : PageTransformingFile Crypt σ) :
    CryptCall σ → Prop
  | .read _ _ _ => True
  | .write buffer offset _ => ∃ j, j ≠ k ∧ offset = p.offset j ∧ buffer.val.length = p.size
  | .pragma name _ _ => (Pragma.ofName name).isSome
  | .tamper parent => ∃ n, content parent = Store.resize 0 (content self.parent) n

/-- The step lemma: such a call leaves the hole. -/
theorem next_hole (ssl : OpenSsl) (hP : Faithful P content) (hf : P.format = .mainDb)
    (self : PageTransformingFile Crypt σ) (c : CryptCall σ) (h : Hole p k (content self.parent))
    (hc : LeavesOut p k content self c) :
    Hole p k (content ((cryptFile ssl P).next self c).parent) := by
  cases c with
  | read buffer offset calls =>
    rw [next_read_content ssl hP]
    exact h
  | write buffer offset calls =>
    obtain ⟨j, hjk, rfl, hlen⟩ := hc
    have hsize : 512 ≤ buffer.val.length := hlen ▸ p.isPage
    rcases next_write_content ssl hP hf self hsize (p.offset j) calls with
      ⟨-, hsame⟩ | ⟨-, b, hb, hcontent⟩
    · rw [hsame]
      exact h
    · rw [hcontent]
      exact h.writeAt hjk (hb.trans hlen)
  | pragma name value kdf =>
    rw [next_pragma_parent ssl P self hc]
    exact h
  | tamper parent =>
    obtain ⟨n, hn⟩ := hc
    change Hole p k (content parent)
    rw [hn]
    exact h.resize n

/-- A page of zeros is refused unless its zeros are a valid tag. -/
theorem readPage_hole_iff (ssl : OpenSsl) (hP : Faithful P content) (hf : P.format = .mainDb)
    {file : PageTransformingFile Crypt σ} {cipher : Cipher}
    (hc : file.derived.current.cipher = some cipher)
    (hin : p.offset k + p.size ≤ (content file.parent).length)
    (hzeros : Store.readAt (content file.parent) (p.offset k) p.size = List.replicate p.size 0)
    (buffer : Page p) {readCalls : CryptoCalls} (hcalls : Decrypts readCalls) :
    (∃ b file', PageTransformingFile.read (transformer ssl) P readCalls buffer (p.offset k) file =
        .throws (.sqlite3 .notADatabase "failed to encrypt/decrypt") (b, file')) ↔
      ¬ TagValid ssl (cipher, file.derived.current.key)
        (List.replicate (p.size - clearSize .mainDb (p.offset k)) 0) := by
  have hfull : p.offset k + buffer.val.length ≤ (content file.parent).length := by
    rw [buffer.property]
    exact hin
  have hspan : (Store.readAt (content file.parent) (p.offset k) buffer.val.length).drop
      (clearSize .mainDb (p.offset k)) =
        List.replicate (p.size - clearSize .mainDb (p.offset k)) 0 := by
    rw [buffer.property, hzeros, List.drop_replicate]
  rw [← hspan]
  constructor
  · rintro ⟨b, file', hthrows⟩ hvalid
    have hopens := valid_of_cipher hc ⟨hcalls, hvalid⟩
    cases hreserve : reserveRejected (transformer ssl)
        (openedPage ssl file.derived.current (clearSize .mainDb (p.offset k))
          (Store.readAt (content file.parent) (p.offset k) buffer.val.length)) (p.offset k)
        file.derived with
    | true =>
      obtain ⟨b', file'', hrejected, -⟩ := readPage_rejected ssl hP hf buffer.le_length
        buffer.length_lt hfull hopens hreserve
      rw [hrejected, Outcome.throws.injEq] at hthrows
      exact absurd hthrows.1 (by decide)
    | false =>
      obtain ⟨file'', hreturns, -⟩ := readPage_succeeds hP hf buffer.le_length buffer.length_lt hfull
        hopens hreserve
      rw [hreturns] at hthrows
      cases hthrows
  · intro hinvalid
    obtain ⟨b, file', hthrows, -⟩ := readPage_undecodable ssl hP hf buffer.le_length buffer.length_lt
      hfull hc (fun h => hinvalid h.2)
    rw [decodeError_of_decrypts hcalls] at hthrows
    exact ⟨b, file', hthrows⟩

/-- A page that was never written stays a hole over every run, whatever order the other pages are
written in and however the file grows, and once it lies below the end of the file, reading it fails
unless its zeros happen to be a valid tag. -/
theorem unwrittenPage_refused (ssl : OpenSsl) (P : File σ) (content : σ → Bytes) (hP : Faithful P content)
    (hf : P.format = .mainDb) (p : PageSize) (k : Nat) (self : PageTransformingFile Crypt σ)
    (hhole : Hole p k (content self.parent)) (calls : List (CryptCall σ))
    (hcalls : (cryptFile ssl P).Throughout (LeavesOut p k content) self calls)
    (file : PageTransformingFile Crypt σ) (hfile : file = (cryptFile ssl P).run self calls)
    (cipher : Cipher) (hc : file.derived.current.cipher = some cipher)
    (hin : p.offset k + p.size ≤ (content file.parent).length) :
    Store.readAt (content file.parent) (p.offset k) p.size = List.replicate p.size 0 ∧
    ∀ (buffer : Page p) (readCalls : CryptoCalls), Decrypts readCalls →
      ((∃ b file', PageTransformingFile.read (transformer ssl) P readCalls buffer (p.offset k) file =
          .throws (.sqlite3 .notADatabase "failed to encrypt/decrypt") (b, file')) ↔
        ¬ TagValid ssl (cipher, file.derived.current.key)
          (List.replicate (p.size - clearSize .mainDb (p.offset k)) 0)) := by
  have hkept : Hole p k (content file.parent) := by
    rw [hfile]
    exact (cryptFile ssl P).run_invariant (next_hole ssl hP hf) hhole hcalls
  have hzeros := hkept.readAt hin
  exact ⟨hzeros, fun buffer readCalls hdecrypts =>
    readPage_hole_iff ssl hP hf hc hin hzeros buffer hdecrypts⟩

/-! ## A database that begins with its second page -/

/-- The second page, which leaves a hole before it. -/
def secondPageOnly : List (CryptCall Bytes) := [.write (filledPage 7) 512 (.succeed (Vector.replicate 8 1))]

/-- The first page of that file is zeros for the parent, and no database for the layer. -/
theorem secondPageOnly_refuses_first :
    let P : File Bytes := SQLite3FileWrapper .mainDb storeMethods
    let p : PageSize := ⟨512, by decide, by decide⟩
    let file := (cryptFile maskSsl P).run encryptedFile secondPageOnly
    Store.readAt file.parent (p.offset 0) p.size = List.replicate p.size 0 ∧
      ∀ (buffer : Page p) (readCalls : CryptoCalls), Decrypts readCalls →
        ((∃ b file', PageTransformingFile.read (transformer maskSsl) P readCalls buffer (p.offset 0)
            file = .throws (.sqlite3 .notADatabase "failed to encrypt/decrypt") (b, file')) ↔
          ¬ TagValid maskSsl (.aes256Gcm, Vector.replicate 32 5)
            (List.replicate (p.size - clearSize .mainDb (p.offset 0)) 0)) := by
  intro P p file
  have hhole : Hole p 0 encryptedFile.parent := fun i _ _ => by simp [encryptedFile]
  have hcalls : (cryptFile maskSsl P).Throughout (LeavesOut p 0 (fun s => s)) encryptedFile secondPageOnly :=
    ⟨⟨1, by decide, rfl, by decide +kernel⟩, trivial⟩
  have hderived : file.derived.current = ⟨some .aes256Gcm, Vector.replicate 32 5⟩ := by decide +kernel
  have h := unwrittenPage_refused maskSsl P (fun s => s) (storeMethods_faithful .mainDb) rfl p 0 encryptedFile
    hhole secondPageOnly hcalls file rfl .aes256Gcm (by rw [hderived]) (by decide +kernel)
  rw [hderived] at h
  exact h

/-- Reading it does not yield the zeros. -/
theorem unwrittenPage_not_zeros :
    let P : File Bytes := SQLite3FileWrapper .mainDb storeMethods
    let file := (cryptFile maskSsl P).run encryptedFile secondPageOnly
    P.read (List.replicate 512 1) 0 file.parent = .returns () (List.replicate 512 0, file.parent) ∧
      (cryptFile maskSsl P).reply file (.read (filledPage 1) 0 (.succeed (Vector.replicate 8 1))) ≠
        .bytes (List.replicate 512 0) := by
  decide +kernel

end Ysqlite3.Vfs
