import Ysqlite3.Vfs.CryptFile.Pragmas

/-!
# Tampering

An adversary replaces the content of the file between the calls. With an ideal cipher, a page read
that succeeds delivers a body that some page write has encrypted under the same key. Neither the
clear header nor the place of the page is part of what the tag covers.
-/

namespace Ysqlite3.Vfs

open PageTransformingFile Crypt

variable {σ : Type} {ssl : OpenSsl} {P : File σ} {content : σ → Bytes}

/-- The bytes of a page that are encrypted: behind the header, before the reserved ones. -/
def encryptedPart (offset : Nat) (page : Bytes) : Bytes :=
  (page.drop (clearSize .mainDb offset)).take (page.length - clearSize .mainDb offset - 32)

/-- Not a forgery: if the tag found in the file is valid, the cipher has produced it. -/
def Unforged (ssl : OpenSsl) (content : σ → Bytes) (key : Cipher × Key)
    (self : PageTransformingFile Crypt σ) (offset n : Nat) : Prop :=
  let span := (Store.readAt (content self.parent) offset n).drop (clearSize .mainDb offset)
  let iv := (span.drop (span.length - 32)).take 12
  let body := span.take (span.length - 32)
  TagValid ssl key span →
    ssl.gcm.Produced (sealings self.derived.log) key iv body (ssl.gcm.tag key iv body)

/-- Reads, writes, and interventions of the adversary. -/
def CryptCall.IsAccess : CryptCall σ → Prop
  | .pragma _ _ _ => False
  | _ => True

/-- What a call adds to the encryptions: nothing, or that of a page write that returned. -/
def Seals (ssl : OpenSsl) (P : File σ) (self : PageTransformingFile Crypt σ) (c : CryptCall σ)
    (added : List (Sealing (Cipher × Key) Bytes UInt8)) : Prop :=
  added = [] ∨ ∃ buffer offset calls iv cipher, c = .write buffer offset calls ∧
    512 ≤ buffer.val.length ∧ (cryptFile ssl P).reply self c = .done ∧
    self.derived.writing.cipher = some cipher ∧
    added = [⟨(cipher, self.derived.writing.key), iv, encryptedPart offset buffer.val⟩]

theorem sealings_append (log events : List CryptoEvent) :
    sealings (log ++ events) = sealings log ++ sealings events := List.filterMap_append

/-- A page write that is refused, or whose encryption fails, has encrypted nothing. -/
theorem writePage_fails {self : PageTransformingFile Crypt σ} {buffer : Buffer} {offset : Nat}
    {calls : CryptoCalls} {cipher : Cipher} (hf : P.format = .mainDb)
    (hsize : 512 ≤ buffer.val.length) (hc : self.derived.writing.cipher = some cipher)
    (hfails : reserveRejected (transformer ssl) buffer.val offset self.derived = true ∨
      ¬ Encrypts calls) :
    sealings ((cryptFile ssl P).next self (.write buffer offset calls)).derived.log =
      sealings self.derived.log := by
  have hint := buffer.property
  have hclear := clearSize_le .mainDb offset
  have hpage : isPage .mainDb buffer.val.length = true := isPage_iff.mpr ⟨rfl, hsize⟩
  simp only [Component.next, cryptFile, write, hf, hpage, if_true, parseParameters,
    transformer_encodePage]
  cases hreserve : reserveRejected (transformer ssl) buffer.val offset self.derived with
  | true => rfl
  | false =>
    have hcalls : ¬ Encrypts calls := hfails.resolve_left (by simp [hreserve])
    have hdrop : 32 ≤ (buffer.val.drop (clearSize .mainDb offset)).length := by simp; omega
    obtain ⟨e, page, events, hthrow, hevents⟩ :=
      encodePage_throws ssl hc hdrop (by simp; omega) hcalls
    simp only [hthrow, Bool.false_eq_true, if_false, FileReply.ofUnit, log_logged, sealings_append]
    rcases hevents with rfl | rfl
    · exact List.append_nil _
    · exact List.append_nil _

theorem sealings_decodeEvents {encryptor : Encryptor} {events : List CryptoEvent}
    (h : DecodeEvents encryptor events) : sealings events = [] := by
  cases h <;> rfl

theorem take_drop_encryptedPart (offset : Nat) (page : Bytes) :
    (page.drop (clearSize .mainDb offset)).take
        ((page.drop (clearSize .mainDb offset)).length - 32) = encryptedPart offset page := by
  rw [encryptedPart, List.length_drop]

/-- A page write with a cipher set encrypts exactly when it returns. -/
theorem writePage_seals (hP : Faithful P content) (hf : P.format = .mainDb)
    {self : PageTransformingFile Crypt σ} {buffer : Buffer} {cipher : Cipher}
    (hsize : 512 ≤ buffer.val.length) (hc : self.derived.writing.cipher = some cipher)
    (offset : Nat) (calls : CryptoCalls) :
    ∃ added, Seals ssl P self (.write buffer offset calls) added ∧
      sealings ((cryptFile ssl P).next self (.write buffer offset calls)).derived.log =
        sealings self.derived.log ++ added := by
  by_cases hok : reserveRejected (transformer ssl) buffer.val offset self.derived = false ∧
      Encrypts calls
  · obtain ⟨self', hret, -, hderived⟩ := writePage_succeeds hP hf hsize buffer.property hok.1
      (Or.inr hok.2)
    refine ⟨_, Or.inr ⟨buffer, offset, calls,
      spanIv calls (buffer.val.drop (clearSize .mainDb offset)), cipher, rfl, hsize, ?_, hc, rfl⟩, ?_⟩
    · simp only [Component.reply, cryptFile, hret]
      rfl
    · simp only [Component.next, cryptFile, hret, FileReply.ofUnit, hderived, log_logged,
        sealings_append, writeEvents, hc]
      rw [sealEvents, take_drop_encryptedPart]
      rfl
  · refine ⟨[], Or.inl rfl, ?_⟩
    rw [writePage_fails hf hsize hc ?_, List.append_nil]
    rcases not_and_or.mp hok with hrejected | hcalls
    · exact Or.inl (by simpa using hrejected)
    · exact Or.inr hcalls

/-- Every call adds to the encryptions as `Seals` says. -/
theorem next_seals (ssl : OpenSsl) (hP : Faithful P content) (hf : P.format = .mainDb)
    (self : PageTransformingFile Crypt σ) (c : CryptCall σ) :
    ∃ added, Seals ssl P self c added ∧
      sealings ((cryptFile ssl P).next self c).derived.log =
        sealings self.derived.log ++ added := by
  obtain ⟨events, hrecords, hlog⟩ := next_log ssl P self c
  cases c with
  | read buffer offset calls =>
    refine ⟨[], Or.inl rfl, ?_⟩
    rw [hlog, sealings_append, sealings_decodeEvents hrecords]
  | pragma name value kdf =>
    have hnone : events = [] := hrecords
    exact ⟨[], Or.inl rfl, by rw [hlog, hnone, sealings_append]; rfl⟩
  | tamper parent => exact ⟨[], Or.inl rfl, (List.append_nil _).symm⟩
  | write buffer offset calls =>
    cases hc : self.derived.writing.cipher with
    | none =>
      refine ⟨[], Or.inl rfl, ?_⟩
      have hnone : events = [] := by
        cases hrecords with
        | nothing => rfl
        | initialised hsome => rw [hc] at hsome; cases hsome
        | finished hsome => rw [hc] at hsome; cases hsome
      rw [hlog, hnone, sealings_append]
      rfl
    | some cipher =>
      by_cases hsize : 512 ≤ buffer.val.length
      · exact writePage_seals hP hf hsize hc offset calls
      · refine ⟨[], Or.inl rfl, ?_⟩
        have hshort : isPage P.format buffer.val.length = false :=
          isPage_of_lt (Nat.lt_of_not_le hsize)
        simp only [Component.next, cryptFile, write_of_not_isPage hshort, List.append_nil]
        cases P.write buffer.val offset self.parent <;> rfl

/-- Accesses leave the mode and the encryptors alone. -/
theorem run_access (ssl : OpenSsl) (P : File σ) (self : PageTransformingFile Crypt σ)
    {calls : List (CryptCall σ)} (hcalls : ∀ c ∈ calls, c.IsAccess) :
    ∃ log, ((cryptFile ssl P).run self calls).derived = { self.derived with log } := by
  have hstep : ∀ s c, (∃ log, s.derived = { self.derived with log }) → CryptCall.IsAccess c →
      ∃ log, ((cryptFile ssl P).next s c).derived = { self.derived with log } := by
    intro s c hs hc
    obtain ⟨log, hs⟩ := hs
    cases c with
    | read buffer offset calls =>
      obtain ⟨events, -, hderived⟩ := next_read_derived ssl P s buffer offset calls
      exact ⟨_, by rw [hderived, hs]; rfl⟩
    | write buffer offset calls =>
      obtain ⟨events, -, hderived⟩ := next_write_derived ssl P s buffer offset calls
      exact ⟨_, by rw [hderived, hs]; rfl⟩
    | pragma name value kdf => exact absurd hc id
    | tamper parent => exact ⟨log, hs⟩
  have hthroughout : (cryptFile ssl P).Throughout (fun _ c => CryptCall.IsAccess c) self calls :=
    (cryptFile ssl P).throughout_of_forall (fun c hc _ => hcalls c hc) self
  exact (cryptFile ssl P).run_invariant hstep ⟨self.derived.log, rfl⟩ hthroughout

/-- What a page that opened under a cipher shows behind its header is the decrypted body. -/
theorem encryptedPart_openedPage {encryptor : Encryptor} {cipher : Cipher} {offset : Nat}
    {stored : Bytes} (hc : encryptor.cipher = some cipher) (hsize : 512 ≤ stored.length) :
    let span := stored.drop (clearSize .mainDb offset)
    encryptedPart offset (openedPage ssl encryptor (clearSize .mainDb offset) stored) =
      ssl.gcm.decrypt (cipher, encryptor.key) ((span.drop (span.length - 32)).take 12)
        (span.take (span.length - 32)) := by
  intro span
  have hclear := clearSize_le .mainDb offset
  have hlen : (openedPage ssl encryptor (clearSize .mainDb offset) stored).length -
      clearSize .mainDb offset - 32 = span.length - 32 := by
    simp only [span, length_openedPage, List.length_drop]
  rw [encryptedPart, hlen]
  simp only [openedPage, hc]
  rw [List.drop_left' (by simp; omega)]
  exact List.take_left' (by simp [span])

/-- Among pages of one size, only that of the first page is 100 bytes shorter. -/
theorem encryptedPart_first {offset offset' : Nat} {page page' : Bytes} (hsize : 512 ≤ page.length)
    (hlen : page'.length = page.length)
    (h : encryptedPart offset page = encryptedPart offset' page') : offset = 0 ↔ offset' = 0 := by
  have hclear := clearSize_le .mainDb offset
  have hclear' := clearSize_le .mainDb offset'
  have hlength := congrArg List.length h
  simp only [encryptedPart, List.length_take, List.length_drop] at hlength
  have hclears : clearSize .mainDb offset = clearSize .mainDb offset' := by omega
  simp only [clearSize, true_and] at hclears
  constructor
  · intro hzero
    by_contra hne
    rw [if_pos hzero, if_neg hne] at hclears
    cases hclears
  · intro hzero
    by_contra hne
    rw [if_neg hne, if_pos hzero] at hclears
    cases hclears

/-- Tampering with what is encrypted is detected: in a run of reads and writes with a cipher set, over
a file that an adversary changes at will but never with a forgery, a page read that succeeds delivers,
between the header and the reserved bytes, what an earlier page write that returned has encrypted
there under the same key; among pages of one size, the first page is not mistaken for another. -/
theorem tampering_detected (ssl : OpenSsl) (P : File σ) (content : σ → Bytes)
    (hP : Faithful P content) (hf : P.format = .mainDb) (self : PageTransformingFile Crypt σ)
    (cipher : Cipher) (hcipher : self.derived.current.cipher = some cipher)
    (hlog : self.derived.log = []) (calls : List (CryptCall σ)) (hcalls : ∀ c ∈ calls, c.IsAccess)
    (target : Buffer) (hsize : 512 ≤ target.val.length) (offset : Nat) (readCalls : CryptoCalls)
    (hunforged : Unforged ssl content (cipher, self.derived.current.key)
      ((cryptFile ssl P).run self calls) offset target.val.length)
    (b : Bytes)
    (hread : (cryptFile ssl P).reply ((cryptFile ssl P).run self calls)
      (.read target offset readCalls) = .bytes b) :
    ∃ before buffer offset' writeCalls after,
      calls = before ++ .write buffer offset' writeCalls :: after ∧
      512 ≤ buffer.val.length ∧
      (cryptFile ssl P).reply ((cryptFile ssl P).run self before)
        (.write buffer offset' writeCalls) = .done ∧
      ((cryptFile ssl P).run self before).derived.writing = self.derived.current ∧
      encryptedPart offset b = encryptedPart offset' buffer.val ∧
      (buffer.val.length = b.length → (offset = 0 ↔ offset' = 0)) := by
  have hclear := clearSize_le .mainDb offset
  obtain ⟨self', hret⟩ := reply_read_bytes hread
  obtain ⟨log, hderived⟩ := run_access ssl P self hcalls
  set found := (cryptFile ssl P).run self calls with hfound
  have hcurrent : found.derived.current = self.derived.current := by rw [hderived]
  obtain ⟨hfull, hvalid, hb, -, -⟩ := readPage_returned hP hf hsize target.property hret
  rw [hcurrent] at hvalid hb
  have hstored := Store.length_readAt_of_le hfull
  obtain ⟨e, he, hkey, -, hplain⟩ := Aead.decrypt_of_produced _ (hunforged (hvalid cipher hcipher))
  have hpart : encryptedPart offset b = e.plaintext := by
    rw [hb, hplain]
    exact encryptedPart_openedPage hcipher (by omega)
  -- the encryption was made by one of the writes of the run
  have hrun := (cryptFile ssl P).run_record (fun s => sealings s.derived.log) (Seals ssl P)
    (next_seals ssl hP hf) he
  rw [hlog] at hrun
  obtain ⟨before, c, after, added, rfl, hseals, hmem⟩ := hrun.resolve_left List.not_mem_nil
  rcases hseals with rfl | ⟨buffer, offset', writeCalls, iv, cipher', rfl, hsize', hdone, hwriting, rfl⟩
  · cases hmem
  · rw [List.mem_singleton] at hmem
    subst hmem
    rw [Prod.mk.injEq] at hkey
    have hencryptor : ((cryptFile ssl P).run self before).derived.writing = self.derived.current :=
      Encryptor.ext (by rw [hwriting, hcipher, hkey.1]) hkey.2
    refine ⟨before, buffer, offset', writeCalls, after, rfl, hsize', hdone, hencryptor, hpart, ?_⟩
    intro hlen
    have hlenb : b.length = target.val.length := by rw [hb, length_openedPage, hstored]
    exact encryptedPart_first (hlenb ▸ hsize) hlen hpart

/-! ## What the tag does not cover -/

/-- A page read that succeeds delivers, outside the reserved bytes, a content written before at the
same offset. -/
def ReadsWritten (ssl : OpenSsl) (P : File σ) (self : PageTransformingFile Crypt σ)
    (calls : List (CryptCall σ)) (target : Buffer) (offset : Nat) (readCalls : CryptoCalls) : Prop :=
  ∀ b, (cryptFile ssl P).reply ((cryptFile ssl P).run self calls) (.read target offset readCalls) =
      .bytes b →
    ∃ before buffer writeCalls after, calls = before ++ .write buffer offset writeCalls :: after ∧
      ∀ i, i + 32 < target.val.length → b[i]? = buffer.val[i]?

/-- The header changed, and the second page replaced by the third. -/
def tampered : Bytes :=
  let stored := ((cryptFile maskSsl (SQLite3FileWrapper .mainDb storeMethods)).run encryptedFile
    threePages).parent
  Store.writeAt 0 (Store.writeAt 0 stored 50 [1]) 512 (Store.readAt stored 1024 512)

/-- A byte that no page written at the offset has there is not a byte written. -/
theorem not_readsWritten {self : PageTransformingFile Crypt σ} {calls : List (CryptCall σ)}
    {target : Buffer} {offset : Nat} {readCalls : CryptoCalls} (i : Nat) (v : UInt8)
    (hi : i + 32 < target.val.length)
    (hread : ((cryptFile ssl P).reply ((cryptFile ssl P).run self calls)
      (.read target offset readCalls)).byteAt i = some v)
    (hcalls : ∀ buffer writeCalls, .write buffer offset writeCalls ∈ calls →
      buffer.val[i]? ≠ some v) :
    ¬ ReadsWritten ssl P self calls target offset readCalls := by
  intro h
  obtain ⟨b, hreply, hbyte⟩ := FileReply.bytes_of_byteAt hread
  obtain ⟨before, buffer, writeCalls, after, hwritten, hbytes⟩ := h b hreply
  refine hcalls buffer writeCalls ?_ ((hbytes i hi).symm.trans hbyte)
  rw [hwritten]
  simp

/-- None of it is a forgery, and yet the changed header and the moved page are read as genuine. -/
theorem tampering_undetected :
    let P : File Bytes := SQLite3FileWrapper .mainDb storeMethods
    let calls := threePages ++ [.tamper tampered]
    let key : Cipher × Key := (.aes256Gcm, Vector.replicate 32 5)
    let found := (cryptFile maskSsl P).run encryptedFile calls
    (Unforged maskSsl (fun s => s) key found 0 512 ∧
        ¬ ReadsWritten maskSsl P encryptedFile calls (filledPage 0) 0
          (.succeed (Vector.replicate 8 0))) ∧
      (Unforged maskSsl (fun s => s) key found 512 512 ∧
        ¬ ReadsWritten maskSsl P encryptedFile calls (filledPage 0) 512
          (.succeed (Vector.replicate 8 0))) := by
  intro P calls key found
  -- one evaluation, since the writes are the same for both pages
  have hevaluated : (Unforged maskSsl (fun s => s) key found 0 512 ∧
      ((cryptFile maskSsl P).reply found
        (.read (filledPage 0) 0 (.succeed (Vector.replicate 8 0)))).byteAt 50 = some 1) ∧
      Unforged maskSsl (fun s => s) key found 512 512 ∧
      ((cryptFile maskSsl P).reply found
        (.read (filledPage 0) 512 (.succeed (Vector.replicate 8 0)))).byteAt 0 = some 9 := by
    unfold Unforged TagValid Aead.Produced
    decide +kernel
  obtain ⟨⟨hunforged, hheader⟩, hunforged', hmoved⟩ := hevaluated
  refine ⟨⟨hunforged, not_readsWritten 50 1 (by decide +kernel) hheader ?_⟩,
    hunforged', not_readsWritten 0 9 (by decide +kernel) hmoved ?_⟩
  · intro buffer writeCalls hmem
    simp [calls, threePages] at hmem
    rw [hmem.1]
    decide +kernel
  · intro buffer writeCalls hmem
    simp [calls, threePages] at hmem
    rw [hmem.1]
    decide +kernel

/-- After the adversary has intervened, the second page is read as what was written at another place. -/
theorem threePages_detected :
    let P : File Bytes := SQLite3FileWrapper .mainDb storeMethods
    let calls := threePages ++ [.tamper tampered]
    ∃ b, (cryptFile maskSsl P).reply ((cryptFile maskSsl P).run encryptedFile calls)
        (.read (filledPage 0) 512 (.succeed (Vector.replicate 8 0))) = .bytes b ∧
      ∃ before buffer offset' writeCalls after,
        calls = before ++ .write buffer offset' writeCalls :: after ∧
        512 ≤ buffer.val.length ∧
        (cryptFile maskSsl P).reply ((cryptFile maskSsl P).run encryptedFile before)
          (.write buffer offset' writeCalls) = .done ∧
        ((cryptFile maskSsl P).run encryptedFile before).derived.writing =
          encryptedFile.derived.current ∧
        encryptedPart 512 b = encryptedPart offset' buffer.val ∧
        (buffer.val.length = b.length → (512 = 0 ↔ offset' = 0)) := by
  intro P calls
  have hevaluated : ((cryptFile maskSsl P).reply ((cryptFile maskSsl P).run encryptedFile calls)
      (.read (filledPage 0) 512 (.succeed (Vector.replicate 8 0)))).byteAt 0 = some 9 ∧
      Unforged maskSsl (fun s => s) (.aes256Gcm, Vector.replicate 32 5)
        ((cryptFile maskSsl P).run encryptedFile calls) 512 (filledPage 0).val.length := by
    unfold Unforged TagValid Aead.Produced
    decide +kernel
  obtain ⟨hsucceeds, hunforged⟩ := hevaluated
  obtain ⟨b, hread, -⟩ := FileReply.bytes_of_byteAt hsucceeds
  have hcalls : ∀ c ∈ calls, CryptCall.IsAccess c := by
    intro c hc
    simp only [calls, threePages, List.mem_append, List.mem_cons, List.not_mem_nil, or_false] at hc
    rcases hc with (rfl | rfl | rfl) | rfl <;> trivial
  exact ⟨b, hread, tampering_detected maskSsl P (fun s => s) (storeMethods_faithful .mainDb) rfl
    encryptedFile .aes256Gcm rfl rfl calls hcalls (filledPage 0) (by decide +kernel) 512 _
    hunforged b hread⟩

end Ysqlite3.Vfs
