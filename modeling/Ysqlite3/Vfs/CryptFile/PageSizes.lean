import Ysqlite3.Vfs.CryptFile.Delivered
import Ysqlite3.Vfs.CryptFile.PageStore
import Ysqlite3.Vfs.CryptFile.Pragmas

/-!
# Reading with another page size

`Page_transforming_file::read` takes the size of the request for the size of the page. A reader that
still has an old page size asks for a prefix of the file that was never sealed as a page, so its first
read fails, unless the last 32 bytes of the prefix happen to hold its tag. The header itself is not
encrypted and can be read at any time with a request of less than 512 bytes.
-/

namespace Ysqlite3.Vfs

open PageTransformingFile Crypt

variable {σ : Type} {ssl : OpenSsl} {P : File σ} {content : σ → Bytes} {p : PageSize} {cipher : Cipher}
  {stored : Bytes}

/-- The first page is stored as `stored`. -/
structure FirstPageStored (p : PageSize) (stored s : Bytes) : Prop where
  inFile : p.size ≤ s.length
  stored : Store.readAt s 0 p.size = stored

/-- Reads, pragmas that do not reach the parent, and writes of pages of one size that do not replace the
first page. -/
def KeepsFirstPage (p : PageSize) (ssl : OpenSsl) (P : File σ) (self : PageTransformingFile Crypt σ) :
    CryptCall σ → Prop
  | .read _ _ _ => True
  | .write buffer offset calls => buffer.val.length = p.size ∧ ∃ j, offset = p.offset j ∧
      (j = 0 → (cryptFile ssl P).reply self (.write buffer offset calls) ≠ .done)
  | .pragma name _ _ => (Pragma.ofName name).isSome
  | .tamper _ => False

/-- The step lemma: such a call keeps the first page, whatever key it uses or sets. -/
theorem next_firstPageStored (ssl : OpenSsl) (hP : Faithful P content) (hf : P.format = .mainDb)
    (self : PageTransformingFile Crypt σ) (c : CryptCall σ)
    (h : FirstPageStored p stored (content self.parent)) (hc : KeepsFirstPage p ssl P self c) :
    FirstPageStored p stored (content ((cryptFile ssl P).next self c).parent) := by
  cases c with
  | read buffer offset calls =>
    rw [next_read_content ssl hP]
    exact h
  | write buffer offset calls =>
    obtain ⟨hlen, j, rfl, hfirst⟩ := hc
    have hsize : 512 ≤ buffer.val.length := hlen ▸ p.isPage
    rcases next_write_content ssl hP hf self hsize (p.offset j) calls with
      ⟨-, hcontent⟩ | ⟨hdone, b, hb, hcontent⟩
    · rw [hcontent]
      exact h
    · have hj : 0 ≠ j := fun hj => hfirst hj.symm hdone
      have hin := h.inFile
      have hkept : Store.readAt (Store.writeAt 0 (content self.parent) (p.offset j) b) 0 p.size =
          Store.readAt (content self.parent) 0 p.size := by
        have hne := readAt_writePage_ne (hb.trans hlen) hj (s := content self.parent)
        rw [p.offset_zero] at hne
        exact hne (Store.length_readAt_of_le (by omega))
      rw [hcontent]
      constructor
      · rw [Store.length_writeAt]
        omega
      · exact hkept.trans h.stored
  | pragma name value kdf =>
    rw [next_pragma_parent ssl P self hc]
    exact h
  | tamper parent => exact hc.elim

/-- A write of the first page that is done. -/
theorem write_firstPageStored (ssl : OpenSsl) (hP : Faithful P content) (hf : P.format = .mainDb)
    (self : PageTransformingFile Crypt σ) (page : Page p) (calls : CryptoCalls)
    (hdone : (cryptFile ssl P).reply self (.write page.toBuffer 0 calls) = .done) :
    reserveRejected (transformer ssl) page.val 0 self.derived = false ∧
      FirstPageStored p (storedPage ssl calls self.derived.writing 100 page.val)
        (content ((cryptFile ssl P).next self (.write page.toBuffer 0 calls)).parent) := by
  have hsize := page.le_length
  obtain ⟨hreserve, hcontent, -⟩ :=
    writePage_returned hP hf hsize page.length_lt (reply_write_done hdone)
  have hlen : (storedPage ssl calls self.derived.writing 100 page.val).length = p.size := by
    rw [length_storedPage (by omega), page.property]
  rw [clearSize_mainDb_zero] at hcontent
  rw [hcontent]
  refine ⟨hreserve, ?_, ?_⟩
  · rw [Store.length_writeAt, hlen]
    omega
  · have hsame := readAt_writePage_same (content self.parent) 0 hlen
    rw [p.offset_zero] at hsame
    exact hsame

/-! ## Reads of any size -/

/-- What a reader gets who takes `q` for the page size: the header last written where the first `q` bytes
carry their tag, and otherwise an error; and the header in any piece of a request for less than a
page. -/
structure FirstPageReads (ssl : OpenSsl) (P : File σ) (content : σ → Bytes) (key : Cipher × Key)
    (header : Bytes) (file : PageTransformingFile Crypt σ) : Prop where
  valid : ∀ (buffer : Buffer) (calls : CryptoCalls), 512 ≤ buffer.val.length →
    buffer.val.length ≤ (content file.parent).length → Decrypts calls →
    TagValid ssl key ((Store.readAt (content file.parent) 0 buffer.val.length).drop 100) →
    ∃ b file', PageTransformingFile.read (transformer ssl) P calls buffer.val 0 file =
      .returns () (b, file') ∧ b.take 100 = header
  invalid : ∀ (buffer : Buffer) (calls : CryptoCalls), 512 ≤ buffer.val.length →
    buffer.val.length ≤ (content file.parent).length → Decrypts calls →
    ¬ TagValid ssl key ((Store.readAt (content file.parent) 0 buffer.val.length).drop 100) →
    ∃ b file', PageTransformingFile.read (transformer ssl) P calls buffer.val 0 file =
      .throws (.sqlite3 .notADatabase "failed to encrypt/decrypt") (b, file')
  header : ∀ (buffer : Buffer) (offset : Nat) (calls : CryptoCalls),
    offset + buffer.val.length ≤ 100 →
    ∃ file', PageTransformingFile.read (transformer ssl) P calls buffer.val offset file =
      .returns () (Store.readAt header offset buffer.val.length, file')

/-- The reserve byte is in the header. -/
theorem reserveRejected_header (ssl : OpenSsl) {a b : Bytes} (hsame : a.take 100 = b.take 100)
    (ha : 100 ≤ a.length) (hb : 100 ≤ b.length) (d : Crypt) :
    reserveRejected (transformer ssl) a 0 d = reserveRejected (transformer ssl) b 0 d := by
  have hbyte : a[20]? = b[20]? := by
    have h := congrArg (·[20]?) hsame
    simpa [List.getElem?_take] using h
  have hcover : 21 ≤ a.length ∧ 21 ≤ b.length := by omega
  simp only [reserveRejected, List.getD_eq_getElem?_getD, Nat.sub_zero, Nat.zero_add, hbyte, hcover.1,
    hcover.2]

/-- A reserve byte that was accepted for a page to be encrypted is accepted under any encryptor. -/
theorem reserveRejected_of_encrypted (ssl : OpenSsl) {d : Crypt} {b : Bytes} {offset : Nat}
    (hc : d.writing.cipher = some cipher) (h : reserveRejected (transformer ssl) b offset d = false)
    (d' : Crypt) : reserveRejected (transformer ssl) b offset d' = false := by
  simp only [reserveRejected, transformer_checkReserveSize, checkReserveSize, hc, Option.isSome_some,
    Bool.not_true, Bool.false_or] at h
  simp only [reserveRejected, transformer_checkReserveSize, checkReserveSize]
  cases d'.writing.cipher with
  | none => simp
  | some cipher' => exact h

/-- Opening a page leaves its clear part. -/
theorem take_openedPage (ssl : OpenSsl) (encryptor : Encryptor) {s : Bytes} (hs : 100 ≤ s.length) :
    (openedPage ssl encryptor 100 s).take 100 = s.take 100 := by
  have hclear : Store.readAt (openedPage ssl encryptor 100 s) 0 100 = Store.readAt s 0 100 :=
    readAt_openedPage hs (Nat.le_refl 100)
  exact hclear

/-- A request of any size that covers the header begins with the header as stored. -/
theorem FirstPageStored.take_readAt {s : Bytes} (h : FirstPageStored p stored s) {q : Nat}
    (hq : 100 ≤ q) : (Store.readAt s 0 q).take 100 = stored.take 100 := by
  have hsize := p.isPage
  rw [← h.stored, Store.readAt, Store.readAt, List.drop_zero, List.take_take, List.take_take,
    Nat.min_eq_left hq, Nat.min_eq_left (by omega)]

section Reader

variable {reader : PageTransformingFile Crypt σ} {header : Bytes}

/-- The bytes of the header are read as they are, in pieces shorter than a page. -/
theorem FirstPageStored.read_header (hP : Faithful P content)
    (h : FirstPageStored p stored (content reader.parent)) (hheader : stored.take 100 = header)
    (buffer : Buffer) {offset : Nat} (hin : offset + buffer.val.length ≤ 100) (calls : CryptoCalls) :
    ∃ reader', PageTransformingFile.read (transformer ssl) P calls buffer.val offset reader =
      .returns () (Store.readAt header offset buffer.val.length, reader') := by
  have hshort : isPage P.format buffer.val.length = false := isPage_of_lt (by omega)
  have hfile : 100 ≤ (content reader.parent).length := by
    have hsize := p.isPage
    have hfirst := h.inFile
    omega
  have hprefix : Store.readAt (content reader.parent) 0 100 = header := by
    rw [← hheader, ← h.take_readAt (Nat.le_refl 100), List.take_of_length_le]
    exact Nat.le_of_eq (Store.length_readAt_of_le (by omega))
  have hslice : Store.readAt header offset buffer.val.length =
      Store.readAt (content reader.parent) offset buffer.val.length := by
    rw [← hprefix, Store.readAt_readAt hin, Nat.zero_add]
  obtain ⟨parent, -, hread⟩ := hP.read buffer.val offset reader.parent buffer.property
  rw [if_pos (Store.length_readAt_of_le (by omega))] at hread
  refine ⟨{ reader with parent }, ?_⟩
  rw [read_of_not_isPage hshort, hread, hslice]
  rfl

/-- A prefix with a valid tag is decrypted, and its header is the one stored. -/
theorem FirstPageStored.read_valid (hP : Faithful P content) (hf : P.format = .mainDb)
    (h : FirstPageStored p stored (content reader.parent)) (hheader : stored.take 100 = header)
    (hlen : header.length = 100)
    (hreserve : reserveRejected (transformer ssl) header 0 reader.derived = false)
    (hc : reader.derived.current.cipher = some cipher) (buffer : Buffer) {calls : CryptoCalls}
    (hsize : 512 ≤ buffer.val.length) (hfull : buffer.val.length ≤ (content reader.parent).length)
    (hdecrypts : Decrypts calls)
    (hvalid : TagValid ssl (cipher, reader.derived.current.key)
      ((Store.readAt (content reader.parent) 0 buffer.val.length).drop 100)) :
    ∃ b reader', PageTransformingFile.read (transformer ssl) P calls buffer.val 0 reader =
      .returns () (b, reader') ∧ b.take 100 = header := by
  have hin : 0 + buffer.val.length ≤ (content reader.parent).length := by omega
  have hlong : 100 ≤ (Store.readAt (content reader.parent) 0 buffer.val.length).length := by
    rw [Store.length_readAt_of_le hin]
    omega
  have hopened : (openedPage ssl reader.derived.current 100
      (Store.readAt (content reader.parent) 0 buffer.val.length)).take 100 = header := by
    rw [take_openedPage ssl _ hlong, h.take_readAt (by omega), hheader]
  have hsame := hopened.trans (List.take_of_length_le (Nat.le_of_eq hlen)).symm
  have hreserve' : reserveRejected (transformer ssl) (openedPage ssl reader.derived.current 100
      (Store.readAt (content reader.parent) 0 buffer.val.length)) 0 reader.derived = false := by
    rw [reserveRejected_header ssl hsame (by rw [length_openedPage]; exact hlong)
      (Nat.le_of_eq hlen.symm)]
    exact hreserve
  obtain ⟨reader', hread, -, -⟩ := readPage_succeeds hP hf hsize buffer.property hin
    (valid_of_cipher hc ⟨hdecrypts, hvalid⟩) hreserve'
  exact ⟨_, reader', hread, hopened⟩

/-- A prefix without a valid tag is refused. -/
theorem read_invalid (ssl : OpenSsl) (hP : Faithful P content) (hf : P.format = .mainDb)
    (hc : reader.derived.current.cipher = some cipher) (buffer : Buffer) {calls : CryptoCalls}
    (hsize : 512 ≤ buffer.val.length) (hfull : buffer.val.length ≤ (content reader.parent).length)
    (hdecrypts : Decrypts calls)
    (hinvalid : ¬ TagValid ssl (cipher, reader.derived.current.key)
      ((Store.readAt (content reader.parent) 0 buffer.val.length).drop 100)) :
    ∃ b reader', PageTransformingFile.read (transformer ssl) P calls buffer.val 0 reader =
      .throws (.sqlite3 .notADatabase "failed to encrypt/decrypt") (b, reader') := by
  have hin : 0 + buffer.val.length ≤ (content reader.parent).length := by omega
  have hundecodable : ¬ (Decrypts calls ∧ TagValid ssl (cipher, reader.derived.current.key)
      ((Store.readAt (content reader.parent) 0 buffer.val.length).drop 100)) :=
    fun hok => hinvalid hok.2
  obtain ⟨b, reader', hthrows, -⟩ :=
    readPage_undecodable ssl hP hf hsize buffer.property hin hc hundecodable
  rw [decodeError_of_decrypts hdecrypts] at hthrows
  exact ⟨b, reader', hthrows⟩

end Reader

/-- Once the first page has been written under a cipher, with pages of one size and whatever other pages
are written, a reader under the same key gets the header last written from the first `q` bytes if these
carry their tag, as they do for the size they were written with, and an error if they do not; the header
can be read with smaller requests at any time. -/
theorem staleSize_reads (ssl : OpenSsl) (P : File σ) (content : σ → Bytes) (hP : Faithful P content)
    (hf : P.format = .mainDb) (p : PageSize) (self : PageTransformingFile Crypt σ) (cipher : Cipher)
    (hc : self.derived.writing.cipher = some cipher) (page : Page p) (calls : CryptoCalls)
    (hdone : (cryptFile ssl P).reply self (.write page.toBuffer 0 calls) = .done)
    (after : List (CryptCall σ))
    (hafter : (cryptFile ssl P).Throughout (KeepsFirstPage p ssl P)
      ((cryptFile ssl P).next self (.write page.toBuffer 0 calls)) after)
    (reader : PageTransformingFile Crypt σ)
    (hcontent : content reader.parent =
      content ((cryptFile ssl P).run self (.write page.toBuffer 0 calls :: after)).parent)
    (hcurrent : reader.derived.current = self.derived.writing) :
    FirstPageReads ssl P content (cipher, self.derived.writing.key) (page.val.take 100) reader ∧
      (calls.getTag = true → TagValid ssl (cipher, self.derived.writing.key)
        ((Store.readAt (content reader.parent) 0 p.size).drop 100)) := by
  have hsize := page.le_length
  obtain ⟨hreserve, hstored⟩ := write_firstPageStored ssl hP hf self page calls hdone
  have hkept : FirstPageStored p (storedPage ssl calls self.derived.writing 100 page.val)
      (content reader.parent) := by
    rw [hcontent, Component.run_cons]
    exact (cryptFile ssl P).run_invariant (next_firstPageStored ssl hP hf) hstored hafter
  have hlen : (page.val.take 100).length = 100 := by simp; omega
  have hheader : (storedPage ssl calls self.derived.writing 100 page.val).take 100 =
      page.val.take 100 := by
    simp only [storedPage, hc]
    exact List.take_left' hlen
  have hreserve' : reserveRejected (transformer ssl) (page.val.take 100) 0 reader.derived = false := by
    have hsame : (page.val.take 100).take 100 = page.val.take 100 := by
      rw [List.take_take, Nat.min_self]
    rw [reserveRejected_header ssl hsame (by omega) (by omega)]
    exact reserveRejected_of_encrypted ssl hc hreserve _
  have hc' : reader.derived.current.cipher = some cipher := by rw [hcurrent, hc]
  rw [← hcurrent]
  refine ⟨⟨?_, ?_, ?_⟩, ?_⟩
  · intro buffer readCalls hpage hfull hdecrypts hvalid
    exact hkept.read_valid hP hf hheader hlen hreserve' hc' buffer hpage hfull hdecrypts hvalid
  · intro buffer readCalls hpage hfull hdecrypts hinvalid
    exact read_invalid ssl hP hf hc' buffer hpage hfull hdecrypts hinvalid
  · intro buffer offset readCalls hin
    exact hkept.read_header hP hheader buffer hin readCalls
  · intro htag
    rw [hkept.stored, hcurrent]
    simp only [storedPage, hc]
    rw [List.drop_left' hlen]
    exact tagValid_sealSpan ssl calls _ (by simp; omega) htag

/-! ## Pages of 512 bytes, read as pages of 1024 -/

/-- The second and third page, written after the first one. -/
def otherPages : List (CryptCall Bytes) :=
  [.write (filledPage 7) 512 (.succeed (Vector.replicate 8 2)),
    .write (filledPage 9) 1024 (.succeed (Vector.replicate 8 3))]

/-- Another connection with the same key, on the file as it is. -/
def reopened (parent : Bytes) : PageTransformingFile Crypt Bytes := { encryptedFile with parent }

theorem parent_reopened (parent : Bytes) : (reopened parent).parent = parent := rfl

theorem staleSize_reads_otherPages :
    let P : File Bytes := SQLite3FileWrapper .mainDb storeMethods
    let p : PageSize := ⟨512, by decide, by decide⟩
    let page : Page p := ⟨List.replicate 512 32, List.length_replicate⟩
    let calls := CryptoCalls.succeed (Vector.replicate 8 1)
    let file := (cryptFile maskSsl P).run encryptedFile (.write page.toBuffer 0 calls :: otherPages)
    FirstPageReads maskSsl P (fun s => s) (.aes256Gcm, Vector.replicate 32 5) (page.val.take 100)
        (reopened file.parent) ∧
      (calls.getTag = true → TagValid maskSsl (.aes256Gcm, Vector.replicate 32 5)
        ((Store.readAt (reopened file.parent).parent 0 p.size).drop 100)) := by
  intro P p page calls file
  have hdone : (cryptFile maskSsl P).reply encryptedFile (.write page.toBuffer 0 calls) = .done := by
    decide +kernel
  have hafter : (cryptFile maskSsl P).Throughout (KeepsFirstPage p maskSsl P)
      ((cryptFile maskSsl P).next encryptedFile (.write page.toBuffer 0 calls)) otherPages :=
    ⟨⟨by decide +kernel, 1, rfl, fun h => by cases h⟩,
      ⟨by decide +kernel, 2, rfl, fun h => by cases h⟩, trivial⟩
  exact staleSize_reads maskSsl P (fun s => s) (storeMethods_faithful .mainDb) rfl p encryptedFile
    .aes256Gcm rfl page calls hdone otherPages hafter (reopened file.parent) (parent_reopened _) rfl

/-- A request for 1024 bytes of a file of three pages of 512 bytes does not deliver the header. -/
theorem widePage_refused :
    let P : File Bytes := SQLite3FileWrapper .mainDb storeMethods
    let file := (cryptFile maskSsl P).run encryptedFile threePages
    let wide : Buffer := ⟨List.replicate 1024 0, by rw [List.length_replicate]; decide⟩
    wide.val.length ≤ file.parent.length ∧
      ¬ ∃ b, (cryptFile maskSsl P).reply file (.read wide 0 (.succeed (Vector.replicate 8 0))) = .bytes b ∧
        b.take 100 = (filledPage 32).val.take 100 := by
  intro P file wide
  refine ⟨by decide +kernel, ?_⟩
  rintro ⟨b, hreply, hheader⟩
  have hlost : ((cryptFile maskSsl P).reply file (.read wide 0 (.succeed (Vector.replicate 8 0)))).byteAt 0 =
      none := by
    decide +kernel
  rw [hreply] at hlost
  have hfirst := congrArg (·[0]?) hheader
  rw [FileReply.byteAt] at hlost
  simp only [List.getElem?_take, hlost] at hfirst
  exact absurd hfirst (by decide +kernel)

end Ysqlite3.Vfs
