import Ysqlite3.Vfs.CryptFile.Pages

/-!
# The calls on a Crypt_file

What one call does. Reads and writes change the members only by what they put on the record; over
a parent that stores bytes faithfully, a page written is a page that opens, and writing one page
leaves the others alone.
-/

namespace Ysqlite3.Vfs

open PageTransformingFile Crypt

variable {σ : Type} {ssl : OpenSsl} {P : File σ} {content : σ → Bytes}
  {self : PageTransformingFile Crypt σ}

/-! ## The members -/

/-- What a page write can put on the record: nothing, a cipher initialised, or an encryption. -/
inductive EncodeEvents (calls : CryptoCalls) (encryptor : Encryptor) (span : Bytes) :
    List CryptoEvent → Prop
  | nothing : EncodeEvents calls encryptor span []
  | initialised {cipher : Cipher} : encryptor.cipher = some cipher →
      EncodeEvents calls encryptor span
        [.cipherInit (cipher, encryptor.key) (spanIv calls span) true]
  | finished {cipher : Cipher} : encryptor.cipher = some cipher →
      EncodeEvents calls encryptor span (sealEvents calls (cipher, encryptor.key) span)

/-- What a page read can put on the record. -/
inductive DecodeEvents (encryptor : Encryptor) : List CryptoEvent → Prop
  | nothing : DecodeEvents encryptor []
  | initialised {cipher : Cipher} (iv : Bytes) : encryptor.cipher = some cipher →
      DecodeEvents encryptor [.cipherInit (cipher, encryptor.key) iv false]

/-- The key under which an event encrypts. -/
def encryptsUnder : CryptoEvent → Option Key
  | .cipherInit key _ true => some key.2
  | .cipherInit _ _ false => none
  | .cipherFinal sealing => some sealing.key.2

/-- A write encrypts with the key of the encryptor it is made with. -/
theorem EncodeEvents.key_eq {calls : CryptoCalls} {encryptor : Encryptor} {span : Bytes}
    {events : List CryptoEvent} (h : EncodeEvents calls encryptor span events) {e : CryptoEvent}
    (he : e ∈ events) {key : Key} (hkey : encryptsUnder e = some key) : key = encryptor.key := by
  cases h with
  | nothing => cases he
  | initialised _ =>
    rw [List.mem_singleton] at he
    subst he
    exact (Option.some.inj hkey).symm
  | finished _ =>
    simp only [sealEvents, List.mem_cons, List.not_mem_nil, or_false] at he
    rcases he with rfl | rfl
    · exact (Option.some.inj hkey).symm
    · exact (Option.some.inj hkey).symm

/-- Whatever `encode_page` comes to, it leaves the members as they were but for the record. -/
theorem encodePage_cases (ssl : OpenSsl) (calls : CryptoCalls) {span : Bytes} (d : Crypt)
    (h32 : 32 ≤ span.length) (h31 : span.length < 2 ^ 31) :
    ∃ page events, EncodeEvents calls d.writing span events ∧
      (encodePage ssl calls span d = .returns () (page, d.logged events) ∨
        ∃ e, encodePage ssl calls span d = .throws e (page, d.logged events)) := by
  cases hc : d.writing.cipher with
  | none =>
    refine ⟨span, [], .nothing, Or.inl ?_⟩
    rw [encodePage_null hc, logged_nil]
  | some cipher =>
    by_cases hcalls : Encrypts calls
    · exact ⟨_, _, .finished hc, Or.inl (encodePage_some hc h32 h31 hcalls)⟩
    · obtain ⟨e, page, events, hthrow, hevents⟩ := encodePage_throws ssl hc h32 h31 hcalls
      refine ⟨page, events, ?_, Or.inr ⟨e, hthrow⟩⟩
      rcases hevents with rfl | rfl
      · exact .nothing
      · exact .initialised hc

/-- Likewise `_crypt`, when it decrypts. -/
theorem crypt_decrypt_cases (ssl : OpenSsl) (calls : CryptoCalls) (buffer data : Bytes)
    (encryptor : Encryptor) (d : Crypt) :
    ∃ output events, DecodeEvents encryptor events ∧
      ((∃ tag, crypt ssl calls buffer data encryptor false d =
          .returns tag (output, d.logged events)) ∨
        ∃ e, crypt ssl calls buffer data encryptor false d =
          .throws e (output, d.logged events)) := by
  unfold crypt
  split
  · rename_i cipher hc hi
    simp only [Bool.false_eq_true, if_false]
    split
    · exact ⟨_, _, .initialised (data.take 12) hc, Or.inr ⟨_, rfl⟩⟩
    · split
      · exact ⟨_, _, .initialised (data.take 12) hc, Or.inr ⟨_, rfl⟩⟩
      · split
        · exact ⟨_, _, .initialised (data.take 12) hc, Or.inl ⟨_, rfl⟩⟩
        · exact ⟨_, _, .initialised (data.take 12) hc, Or.inr ⟨_, rfl⟩⟩
  · exact ⟨_, [], .nothing, Or.inr ⟨_, by rw [logged_nil]⟩⟩

/-- Likewise `decode_page`. -/
theorem decodePage_cases (ssl : OpenSsl) (calls : CryptoCalls) (span : Bytes) (d : Crypt) :
    ∃ page events, DecodeEvents d.current events ∧
      (decodePage ssl calls span d = .returns () (page, d.logged events) ∨
        ∃ e, decodePage ssl calls span d = .throws e (page, d.logged events)) := by
  unfold decodePage
  split
  · split
    · rename_i data body _ _
      obtain ⟨output, events, hevents, hcrypt⟩ := crypt_decrypt_cases ssl calls body data d.current d
      refine ⟨output ++ data, events, hevents, ?_⟩
      rcases hcrypt with ⟨tag, hret⟩ | ⟨e, hthrow⟩
      · exact Or.inl (by rw [hret])
      · exact Or.inr ⟨e, by rw [hthrow]⟩
    · exact ⟨_, [], .nothing, Or.inr ⟨_, by rw [logged_nil]⟩⟩
    · exact ⟨_, [], .nothing, Or.inr ⟨_, by rw [logged_nil]⟩⟩
  · exact ⟨_, [], .nothing, Or.inl (by rw [logged_nil])⟩

/-- A write changes the members only by what its encryption puts on the record. -/
theorem next_write_derived (ssl : OpenSsl) (P : File σ) (self : PageTransformingFile Crypt σ)
    (buffer : Buffer) (offset : Nat) (calls : CryptoCalls) :
    ∃ events, EncodeEvents calls self.derived.writing
        (buffer.val.drop (clearSize P.format offset)) events ∧
      ((cryptFile ssl P).next self (.write buffer offset calls)).derived =
        self.derived.logged events := by
  have hclear := clearSize_le P.format offset
  have hint := buffer.property
  by_cases hpage : isPage P.format buffer.val.length = true
  · obtain ⟨hf, hsize⟩ := isPage_iff.mp hpage
    have hdrop : 32 ≤ (buffer.val.drop (clearSize P.format offset)).length ∧
        (buffer.val.drop (clearSize P.format offset)).length < 2 ^ 31 := by
      rw [List.length_drop]
      omega
    obtain ⟨page, events, hevents, hencode⟩ := encodePage_cases ssl calls self.derived hdrop.1 hdrop.2
    rw [hf] at hpage hencode hevents ⊢
    simp only [Component.next, cryptFile, write, hf, hpage, if_true, parseParameters,
      transformer_encodePage]
    cases reserveRejected (transformer ssl) buffer.val offset self.derived with
    | true => exact ⟨[], .nothing, (logged_nil _).symm⟩
    | false =>
      rcases hencode with hret | ⟨e, hthrow⟩
      · simp only [hret, Bool.false_eq_true, if_false]
        cases P.write (buffer.val.take (clearSize .mainDb offset) ++ page) offset self.parent with
        | undefined => exact ⟨[], .nothing, (logged_nil _).symm⟩
        | throws e parent => exact ⟨events, hevents, rfl⟩
        | returns _ parent => exact ⟨events, hevents, rfl⟩
      · simp only [hthrow, Bool.false_eq_true, if_false]
        exact ⟨events, hevents, rfl⟩
  · refine ⟨[], .nothing, ?_⟩
    have hfalse := Bool.eq_false_iff.mpr hpage
    simp only [Component.next, cryptFile, write_of_not_isPage hfalse, logged_nil]
    cases P.write buffer.val offset self.parent <;> rfl

/-- A read changes the members only by what its decryption puts on the record. -/
theorem next_read_derived (ssl : OpenSsl) (P : File σ) (self : PageTransformingFile Crypt σ)
    (buffer : Buffer) (offset : Nat) (calls : CryptoCalls) :
    ∃ events, DecodeEvents self.derived.current events ∧
      ((cryptFile ssl P).next self (.read buffer offset calls)).derived =
        self.derived.logged events := by
  by_cases hpage : isPage P.format buffer.val.length = true
  · have hf := (isPage_iff.mp hpage).1
    rw [hf] at hpage
    simp only [Component.next, cryptFile, PageTransformingFile.read, hf, hpage, if_true,
      parseParameters, transformer_decodePage]
    cases P.read buffer.val offset self.parent with
    | undefined => exact ⟨[], .nothing, (logged_nil _).symm⟩
    | throws e state => exact ⟨[], .nothing, (logged_nil _).symm⟩
    | returns _ state =>
      obtain ⟨page, events, hevents, hdecode⟩ := decodePage_cases ssl calls
        (state.1.drop (clearSize .mainDb offset)) self.derived
      refine ⟨events, hevents, ?_⟩
      rcases hdecode with hret | ⟨e, hthrow⟩
      · simp only [hret]
        split <;> rfl
      · simp only [hthrow]
        rfl
  · refine ⟨[], .nothing, ?_⟩
    have hfalse := Bool.eq_false_iff.mpr hpage
    simp only [Component.next, cryptFile, read_of_not_isPage hfalse, logged_nil]
    cases P.read buffer.val offset self.parent <;> rfl

/-- A read replies with bytes exactly when it returns. -/
theorem reply_read_bytes {buffer : Buffer} {offset : Nat} {calls : CryptoCalls} {b : Bytes}
    (h : (cryptFile ssl P).reply self (.read buffer offset calls) = .bytes b) :
    ∃ self', PageTransformingFile.read (transformer ssl) P calls buffer.val offset self =
      .returns () (b, self') := by
  simp only [Component.reply, cryptFile] at h
  cases hread : PageTransformingFile.read (transformer ssl) P calls buffer.val offset self with
  | undefined => simp [hread, FileReply.ofRead] at h
  | throws e state => simp [hread, FileReply.ofRead] at h
  | returns _ state =>
    simp only [hread, FileReply.ofRead, FileReply.bytes.injEq] at h
    exact ⟨state.2, by rw [← h]⟩

/-- A write replies with success exactly when it returns. -/
theorem reply_write_done {buffer : Buffer} {offset : Nat} {calls : CryptoCalls}
    (h : (cryptFile ssl P).reply self (.write buffer offset calls) = .done) :
    write (transformer ssl) P calls buffer.val offset self =
      .returns () ((cryptFile ssl P).next self (.write buffer offset calls)) := by
  simp only [Component.reply, Component.next, cryptFile] at h ⊢
  cases hwrite : write (transformer ssl) P calls buffer.val offset self with
  | undefined => simp [hwrite, FileReply.ofUnit] at h
  | throws e state => simp [hwrite, FileReply.ofUnit] at h
  | returns _ state => rfl

/-! ## Pages over a faithful parent -/

/-- Page `k` of the store `s` decodes under the encryptor, to `page` up to IV and tag. -/
structure PageOpens (ssl : OpenSsl) (encryptor : Encryptor) (p : PageSize) (s : Bytes) (k : Nat)
    (page : Page p) : Prop where
  inFile : p.offset k + p.size ≤ s.length
  opens : OpensTo ssl encryptor (clearSize .mainDb (p.offset k))
    (Store.readAt s (p.offset k) p.size) page

/-- The first page carries the reserve byte 32, if it is to be encrypted. -/
def ReserveFits (encryptor : Encryptor) (k : Nat) (page : Bytes) : Prop :=
  k = 0 → encryptor.cipher ≠ none → page.getD 20 0 = 32

section Pages

variable {p : PageSize} {encryptor : Encryptor} {calls : CryptoCalls} {k : Nat} {page : Page p}

theorem reserveRejected_of_fits (ssl : OpenSsl) {d : Crypt} {b : Bytes} (h : ReserveFits d.writing k b) :
    reserveRejected (transformer ssl) b (p.offset k) d = false := by
  by_cases hk : k = 0
  · subst hk
    cases hc : d.writing.cipher with
    | none => simp [reserveRejected, checkReserveSize, hc]
    | some cipher =>
      have h32 := h rfl (by simp [hc])
      simp only [reserveRejected, p.offset_zero, transformer_checkReserveSize, checkReserveSize,
        Nat.sub_zero, h32]
      simp
  · exact reserveRejected_of_lt (Nat.lt_of_lt_of_le (by decide) (p.le_offset (Nat.pos_of_ne_zero hk)))

/-- A page that does not fit is refused. -/
theorem reserveRejected_of_not_fits (ssl : OpenSsl) {d : Crypt} {b : Bytes} (hsize : 512 ≤ b.length)
    (h : ¬ ReserveFits d.writing k b) :
    reserveRejected (transformer ssl) b (p.offset k) d = true := by
  simp only [ReserveFits, Classical.not_imp] at h
  obtain ⟨rfl, hcipher, hbyte⟩ := h
  obtain ⟨cipher, hc⟩ := Option.ne_none_iff_exists'.mp hcipher
  have hcover : 21 ≤ b.length := by omega
  simp only [reserveRejected, p.offset_zero, transformer_checkReserveSize, checkReserveSize, hc,
    Nat.sub_zero, hbyte]
  simpa using hcover

/-- A file that is one page, stored with its tag. -/
theorem pageOpens_storedPage (ssl : OpenSsl) (encryptor : Encryptor) (page : Page p)
    (htag : calls.getTag = true) :
    PageOpens ssl encryptor p (storedPage ssl calls encryptor 100 page) 0 page := by
  have hsize := page.le_length
  have hlen : (storedPage ssl calls encryptor 100 page.val).length = p.size := by
    rw [length_storedPage (by omega), page.property]
  have hall : Store.readAt (storedPage ssl calls encryptor 100 page.val) (p.offset 0) p.size =
      storedPage ssl calls encryptor 100 page.val := by
    rw [Store.readAt, p.offset_zero, List.drop_zero, List.take_of_length_le (Nat.le_of_eq hlen)]
  refine ⟨by rw [p.offset_zero, hlen]; omega, ?_⟩
  rw [hall, p.offset_zero, clearSize_mainDb_zero]
  exact opensTo_storedPage (by omega) (Or.inr htag)

/-- Storing another page leaves a page that opens as it was. -/
theorem PageOpens.write_ne {s b : Bytes} {j : Nat} (h : PageOpens ssl encryptor p s k page)
    (hkj : k ≠ j) (hb : b.length = p.size) :
    PageOpens ssl encryptor p (Store.writeAt 0 s (p.offset j) b) k page := by
  have hlen := Store.length_readAt_of_le h.inFile
  refine ⟨?_, ?_⟩
  · have := h.inFile
    rw [Store.length_writeAt]
    omega
  · rw [readAt_writePage_ne hb hkj hlen]
    exact h.opens

/-- Reading leaves the file alone, whatever it comes to. -/
theorem next_read_content (ssl : OpenSsl) (hP : Faithful P content)
    (self : PageTransformingFile Crypt σ) (buffer : Buffer) (offset : Nat) (calls : CryptoCalls) :
    content ((cryptFile ssl P).next self (.read buffer offset calls)).parent =
      content self.parent := by
  obtain ⟨parent, hparent, hread⟩ := hP.read buffer.val offset self.parent buffer.property
  by_cases hpage : isPage P.format buffer.val.length = true
  · have hf := (isPage_iff.mp hpage).1
    rw [hf] at hpage
    simp only [Component.next, cryptFile, PageTransformingFile.read, hf, hpage, if_true]
    by_cases hfull : (Store.readAt (content self.parent) offset buffer.val.length).length =
        buffer.val.length
    · rw [hread, if_pos hfull]
      simp only [parseParameters, if_true]
      cases (transformer ssl).decodePage calls
        ((Store.readAt (content self.parent) offset buffer.val.length).drop
          (clearSize .mainDb offset)) self.derived with
      | undefined => rfl
      | throws e state => exact hparent
      | returns _ state =>
        simp only
        split <;> exact hparent
    · rw [hread, if_neg hfull]
      exact hparent
  · have hfalse := Bool.eq_false_iff.mpr hpage
    simp only [Component.next, cryptFile, read_of_not_isPage hfalse, hread]
    split <;> exact hparent

/-- A page write stores a page or nothing, as it replies. -/
theorem next_write_content (ssl : OpenSsl) (hP : Faithful P content) (hf : P.format = .mainDb)
    (self : PageTransformingFile Crypt σ) {buffer : Buffer} (hsize : 512 ≤ buffer.val.length)
    (offset : Nat) (calls : CryptoCalls) :
    ((cryptFile ssl P).reply self (.write buffer offset calls) ≠ .done ∧
        content ((cryptFile ssl P).next self (.write buffer offset calls)).parent =
          content self.parent) ∨
      ((cryptFile ssl P).reply self (.write buffer offset calls) = .done ∧
        ∃ b, b.length = buffer.val.length ∧
          content ((cryptFile ssl P).next self (.write buffer offset calls)).parent =
            Store.writeAt 0 (content self.parent) offset b) := by
  have hclear := clearSize_le .mainDb offset
  cases hwrite : write (transformer ssl) P calls buffer.val offset self with
  | undefined =>
    refine Or.inl ⟨?_, ?_⟩
    · simp [Component.reply, cryptFile, hwrite, FileReply.ofUnit]
    · simp only [Component.next, cryptFile, hwrite, FileReply.ofUnit]
  | throws e self' =>
    refine Or.inl ⟨?_, ?_⟩
    · simp [Component.reply, cryptFile, hwrite, FileReply.ofUnit]
    · simp only [Component.next, cryptFile, hwrite, FileReply.ofUnit]
      rcases write_page_throws hf hsize hwrite with hparent | ⟨page, derived, hencode, hthrows⟩
      · rw [hparent]
      · -- a parent that stores bytes does not throw
        rw [transformer_encodePage] at hencode
        obtain ⟨-, hstored⟩ := encode_returned hsize buffer.property hencode
        obtain ⟨parent, -, hreturns⟩ := hP.write (buffer.val.take (clearSize .mainDb offset) ++ page)
          offset self.parent (by
            rw [hstored, length_storedPage (by omega)]
            exact buffer.property)
        rw [hreturns] at hthrows
        cases hthrows
  | returns u self' =>
    obtain ⟨-, hcontent, -⟩ := writePage_returned hP hf hsize buffer.property hwrite
    refine Or.inr ⟨?_, storedPage ssl calls self.derived.writing (clearSize .mainDb offset) buffer.val,
      length_storedPage (by omega), ?_⟩
    · simp only [Component.reply, cryptFile, hwrite, FileReply.ofUnit]
    · simp only [Component.next, cryptFile, hwrite, FileReply.ofUnit]
      exact hcontent

/-- A page that opens under the current encryptor can be read. -/
theorem readPage_opens (hP : Faithful P content) (hf : P.format = .mainDb)
    (h : PageOpens ssl self.derived.current p (content self.parent) k page)
    (hreserve : ReserveFits self.derived.writing k page)
    (hcalls : self.derived.current.cipher = none ∨ Decrypts calls) (buffer : Page p) :
    ∃ b self', PageTransformingFile.read (transformer ssl) P calls buffer (p.offset k) self =
        .returns () (b, self') ∧
      SameExceptTag self.derived.current page b ∧ content self'.parent = content self.parent ∧
      ∃ events, self'.derived = self.derived.logged events := by
  have hfull : p.offset k + buffer.val.length ≤ (content self.parent).length := by
    rw [buffer.property]
    exact h.inFile
  have hopens : OpensTo ssl self.derived.current (clearSize .mainDb (p.offset k))
      (Store.readAt (content self.parent) (p.offset k) buffer.val.length) page := by
    rw [buffer.property]
    exact h.opens
  have hreserve' := reserveRejected_congr ssl hopens.same page.le_length self.derived
    (p.offset k)
  rw [reserveRejected_of_fits ssl hreserve] at hreserve'
  obtain ⟨self', hret, hparent, hderived⟩ := readPage_succeeds hP hf buffer.le_length
    buffer.length_lt hfull
    (fun cipher hc => ⟨hcalls.resolve_left (by simp [hc]), hopens.valid cipher hc⟩) hreserve'
  exact ⟨_, self', hret, hopens.same, hparent, _, hderived⟩

/-- A page written opens under the encryptor it was written with, and no other page changes. -/
theorem writePage_opens (ssl : OpenSsl) (hP : Faithful P content) (hf : P.format = .mainDb)
    (page : Page p)
    (hreserve : ReserveFits self.derived.writing k page)
    (hcalls : self.derived.writing.cipher = none ∨ Encrypts calls ∧ calls.getTag = true) :
    ∃ self' b, write (transformer ssl) P calls page (p.offset k) self = .returns () self' ∧
      b.length = p.size ∧
      content self'.parent = Store.writeAt 0 (content self.parent) (p.offset k) b ∧
      PageOpens ssl self.derived.writing p (content self'.parent) k page ∧
      ∃ events, self'.derived = self.derived.logged events := by
  have hclear := clearSize_le .mainDb (p.offset k)
  have hsize := page.le_length
  have hlen : (storedPage ssl calls self.derived.writing (clearSize .mainDb (p.offset k))
      page.val).length = p.size := by
    rw [length_storedPage (by omega), page.property]
  obtain ⟨self', hret, hparent, hderived⟩ := writePage_succeeds hP hf page.le_length
    page.length_lt (reserveRejected_of_fits ssl hreserve) (hcalls.imp_right And.left)
  refine ⟨self', _, hret, hlen, hparent, ⟨?_, ?_⟩, _, hderived⟩
  · rw [hparent, Store.length_writeAt, hlen]
    omega
  · rw [hparent, readAt_writePage_same _ k hlen]
    exact opensTo_storedPage (by omega) (hcalls.imp_right And.right)

end Pages

/-! ## A small instance -/

/-- Byte `i` of the reply, if the read has succeeded. -/
def FileReply.byteAt (i : Nat) : FileReply → Option UInt8
  | .bytes b => b[i]?
  | _ => none

theorem FileReply.bytes_of_byteAt {reply : FileReply} {i : Nat} {v : UInt8}
    (h : reply.byteAt i = some v) : ∃ b, reply = .bytes b ∧ b[i]? = some v := by
  cases reply with
  | bytes b => exact ⟨b, rfl, h⟩
  | _ => cases h

/-- A page of 512 bytes `v`. -/
def filledPage (v : UInt8) : Buffer :=
  ⟨List.replicate 512 v, by rw [List.length_replicate]; decide⟩

/-- A toy in the place of OpenSSL: bytes are masked with the first one of the key, the tag is a
checksum, and a key repeats the sum of its password. -/
def maskSsl : OpenSsl where
  gcm :=
    { encrypt := fun k _ m => m.map (· ^^^ k.2[0])
      decrypt := fun k _ c => c.map (· ^^^ k.2[0])
      tag := fun k iv c => Vector.replicate 16 (c.foldl (· + ·) (iv.foldl (· + ·) k.2[0]))
      length_encrypt := fun _ _ _ => List.length_map _
      length_decrypt := fun _ _ _ => List.length_map _
      decrypt_encrypt := fun k _ m => by
        simp only [List.map_map, Function.comp_def, UInt8.xor_assoc, UInt8.xor_self,
          UInt8.xor_zero, List.map_id'] }
  pbkdf2 := fun password _ => Vector.replicate 32 (password.foldl (· + ·) 1)

def encryptedFile : PageTransformingFile Crypt Bytes :=
  ⟨[], ⟨false, ⟨some .aes256Gcm, Vector.replicate 32 5⟩, Encryptor.initial, []⟩, [], 0⟩

/-- Three pages written to an encrypted file. -/
def threePages : List (CryptCall Bytes) :=
  [.write (filledPage 32) 0 (.succeed (Vector.replicate 8 1)),
    .write (filledPage 7) 512 (.succeed (Vector.replicate 8 2)),
    .write (filledPage 9) 1024 (.succeed (Vector.replicate 8 3))]

end Ysqlite3.Vfs
