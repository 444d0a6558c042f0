import Ysqlite3.Vfs.CryptFile.Reserve

/-!
# Page writes for which a call of OpenSSL fails

`encode_page` throws before the parent is written to if the cipher cannot be initialised, run or
finished. A failure of `RAND_bytes` leaves the IV with its counter as the only change and does no harm
here. A failure to get the tag is not noticed: the page is stored with what the buffer held in the
place of the tag.
-/

namespace Ysqlite3.Vfs

open PageTransformingFile Crypt

variable {σ : Type} {ssl : OpenSsl} {P : File σ} {content : σ → Bytes} {calls : CryptoCalls}
  {cipher : Cipher} {key : Cipher × Key} {span buffer : Bytes} {offset : Nat}
  {self : PageTransformingFile Crypt σ}

/-- The span has the tag of its encryption in the place of the tag before it is encrypted. -/
def CarriesTag (ssl : OpenSsl) (calls : CryptoCalls) (key : Cipher × Key) (span : Bytes) : Prop :=
  (ssl.gcm.tag key (spanIv calls span)
    (ssl.gcm.encrypt key (spanIv calls span) (span.take (span.length - 32)))).toList =
      ((span.drop (span.length - 32)).drop 12).take 16

/-- The tag of a sealed span is valid if it was stored, or if it was there before. -/
theorem tagValid_sealSpan_iff (ssl : OpenSsl) (calls : CryptoCalls) (key : Cipher × Key)
    (h32 : 32 ≤ span.length) :
    TagValid ssl key (sealSpan ssl calls key span) ↔
      (calls.getTag = true ∨ CarriesTag ssl calls key span) := by
  obtain ⟨hlen, hbody, hiv, ht, -⟩ := sealSpan_parts ssl calls key h32
  unfold TagValid CarriesTag
  simp only [hlen, hbody, hiv, ht]
  cases calls.getTag <;> simp

/-- A page that is refused, or for which one of the calls that are looked at fails, is not written. -/
theorem writePage_throws (ssl : OpenSsl) (P : File σ) (hf : P.format = .mainDb)
    (hc : self.derived.writing.cipher = some cipher) (hsize : 512 ≤ buffer.length)
    (hint : buffer.length < 2 ^ 31)
    (h : reserveRejected (transformer ssl) buffer offset self.derived = true ∨ ¬ Encrypts calls) :
    ∃ e self', write (transformer ssl) P calls buffer offset self = .throws e self' ∧
      self'.parent = self.parent := by
  cases hreserve : reserveRejected (transformer ssl) buffer offset self.derived with
  | true =>
    obtain ⟨size, hwrite⟩ : ∃ size, write (transformer ssl) P calls buffer offset self =
        .throws (.sqlite3 .generic "bad reserve size") { self with pageSize := size } :=
      write_page_rejected hf hsize hreserve
    exact ⟨_, _, hwrite, rfl⟩
  | false =>
    have hcalls : ¬ Encrypts calls := h.resolve_left (by simp [hreserve])
    have hclear := clearSize_le .mainDb offset
    obtain ⟨size, hparse⟩ := parseParameters_returns .mainDb self hreserve
    have h32 : 32 ≤ (buffer.drop (clearSize .mainDb offset)).length := by simp; omega
    have hspan : (buffer.drop (clearSize .mainDb offset)).length < 2 ^ 31 := by simp; omega
    obtain ⟨e, page, events, hencode, -⟩ := encodePage_throws ssl hc h32 hspan hcalls
    have hpage : isPage P.format buffer.length = true := isPage_mainDb hf hsize
    refine ⟨e, { self with
      pageSize := size
      derived := self.derived.logged events
      tmpBuffer := buffer.take (clearSize .mainDb offset) ++ page }, ?_, rfl⟩
    rw [hf] at hpage
    simp only [write, hf, hpage, if_true, hparse, transformer_encodePage, hencode]

/-- The write throws and leaves the parent file as it was, or it returns, and while the file holds what
was written, a read under the same key gives the page back, IV and tag apart. -/
structure AllOrNothing (ssl : OpenSsl) (P : File σ) (content : σ → Bytes)
    (file : PageTransformingFile Crypt σ) (buffer : Bytes) (offset : Nat) (calls : CryptoCalls) :
    Prop where
  defined : write (transformer ssl) P calls buffer offset file ≠ .undefined
  nothing : ∀ e file', write (transformer ssl) P calls buffer offset file = .throws e file' →
    file'.parent = file.parent
  all : ∀ file', write (transformer ssl) P calls buffer offset file = .returns () file' →
    ∀ (later : PageTransformingFile Crypt σ) (target : Bytes) (readCalls : CryptoCalls),
      content later.parent = content file'.parent → target.length = buffer.length →
      Decrypts readCalls →
      ∃ b later', PageTransformingFile.read (transformer ssl) P readCalls target offset
          (readingUnder file.derived.writing later) = .returns () (b, later') ∧
        SameExceptTag file.derived.writing buffer b

section Cases

variable {e : Exception} {self' : PageTransformingFile Crypt σ}

/-- A write that throws without touching the parent. -/
theorem allOrNothing_of_throws
    (hwrite : write (transformer ssl) P calls buffer offset self = .throws e self')
    (hparent : self'.parent = self.parent) : AllOrNothing ssl P content self buffer offset calls where
  defined := by simp [hwrite]
  nothing e' self'' hthrows := by
    rw [hwrite, Outcome.throws.injEq] at hthrows
    rw [← hthrows.2, hparent]
  all self'' hreturns := by
    rw [hwrite] at hreturns
    cases hreturns

/-- A write that returns and after which the page can be read. -/
theorem allOrNothing_of_returns
    (hwrite : write (transformer ssl) P calls buffer offset self = .returns () self')
    (hread : ∀ (later : PageTransformingFile Crypt σ) (target : Bytes) (readCalls : CryptoCalls),
      content later.parent = content self'.parent → target.length = buffer.length →
      Decrypts readCalls →
      ∃ b later', PageTransformingFile.read (transformer ssl) P readCalls target offset
          (readingUnder self.derived.writing later) = .returns () (b, later') ∧
        SameExceptTag self.derived.writing buffer b) :
    AllOrNothing ssl P content self buffer offset calls where
  defined := by simp [hwrite]
  nothing e self'' hthrows := by
    rw [hwrite] at hthrows
    cases hthrows
  all self'' hreturns := by
    rw [hwrite, Outcome.returns.injEq] at hreturns
    rw [← hreturns.2]
    exact hread

/-- What the file holds behind the clear part once a page has been stored. -/
theorem drop_readAt_storedPage (ssl : OpenSsl) (calls : CryptoCalls) {encryptor : Encryptor}
    (hc : encryptor.cipher = some cipher) (s : Bytes) (hsize : 512 ≤ buffer.length) :
    (Store.readAt (Store.writeAt 0 s offset
      (storedPage ssl calls encryptor (clearSize .mainDb offset) buffer)) offset buffer.length).drop
        (clearSize .mainDb offset) =
      sealSpan ssl calls (cipher, encryptor.key) (buffer.drop (clearSize .mainDb offset)) := by
  have hclear := clearSize_le .mainDb offset
  have hlen : (storedPage ssl calls encryptor (clearSize .mainDb offset) buffer).length =
      buffer.length := length_storedPage (by omega)
  rw [← hlen, Store.readAt_writeAt_same]
  simp only [storedPage, hc]
  exact List.drop_left' (by simp; omega)

/-- A page that was stored can be read if it was stored with a valid tag. -/
theorem readPage_stored (hP : Faithful P content) (hf : P.format = .mainDb)
    (hc : self.derived.writing.cipher = some cipher) (hsize : 512 ≤ buffer.length)
    (hint : buffer.length < 2 ^ 31)
    (hreserve : reserveRejected (transformer ssl) buffer offset self.derived = false)
    (htag : TagValid ssl (cipher, self.derived.writing.key)
      (sealSpan ssl calls (cipher, self.derived.writing.key) (buffer.drop (clearSize .mainDb offset))))
    {later : PageTransformingFile Crypt σ} {target : Bytes} {readCalls : CryptoCalls}
    (hlater : content later.parent = Store.writeAt 0 (content self.parent) offset
      (storedPage ssl calls self.derived.writing (clearSize .mainDb offset) buffer))
    (htarget : target.length = buffer.length) (hdecrypts : Decrypts readCalls) :
    ∃ b later', PageTransformingFile.read (transformer ssl) P readCalls target offset
        (readingUnder self.derived.writing later) = .returns () (b, later') ∧
      SameExceptTag self.derived.writing buffer b := by
  have hclear := clearSize_le .mainDb offset
  have hlen : (storedPage ssl calls self.derived.writing (clearSize .mainDb offset) buffer).length =
      target.length := by
    rw [length_storedPage (by omega), htarget]
  have hfull : offset + target.length ≤ (content later.parent).length := by
    rw [hlater, Store.length_writeAt, hlen]
    omega
  have hopens : OpensTo ssl self.derived.writing (clearSize .mainDb offset)
      (Store.readAt (content later.parent) offset target.length) buffer := by
    constructor
    · intro cipher' hcipher'
      obtain rfl := Option.some.inj (hc.symm.trans hcipher')
      rw [hlater, htarget, drop_readAt_storedPage ssl calls hc _ hsize]
      exact htag
    · rw [hlater, ← hlen, Store.readAt_writeAt_same]
      exact sameExceptTag_storedPage (by omega)
  exact readBack hP hf hsize hint hreserve hfull htarget hdecrypts hopens

end Cases

/-- A page write is all or nothing unless it stores a page without its tag: exactly if the page is
refused, one of the calls fails that are looked at, the tag can be had, or the buffer holds it
already. -/
theorem write_allOrNothing_iff (ssl : OpenSsl) (hP : Faithful P content) (hf : P.format = .mainDb)
    (self : PageTransformingFile Crypt σ) (hc : self.derived.writing.cipher = some cipher)
    (hsize : 512 ≤ buffer.length) (hint : buffer.length < 2 ^ 31) (offset : Nat) (calls : CryptoCalls) :
    AllOrNothing ssl P content self buffer offset calls ↔
      (reserveRejected (transformer ssl) buffer offset self.derived = true ∨ ¬ Encrypts calls ∨
        calls.getTag = true ∨ CarriesTag ssl calls (cipher, self.derived.writing.key)
          (buffer.drop (clearSize .mainDb offset))) := by
  have hclear := clearSize_le .mainDb offset
  have h32 : 32 ≤ (buffer.drop (clearSize .mainDb offset)).length := by simp; omega
  rw [← tagValid_sealSpan_iff ssl calls _ h32]
  by_cases hfails : reserveRejected (transformer ssl) buffer offset self.derived = true ∨ ¬ Encrypts calls
  · -- nothing is written
    obtain ⟨e, self', hwrite, hparent⟩ := writePage_throws ssl P hf hc hsize hint hfails
    exact iff_of_true (allOrNothing_of_throws hwrite hparent) (hfails.imp_right Or.inl)
  · -- the page is stored, and what matters is its tag
    rw [not_or, Bool.not_eq_true, not_not] at hfails
    obtain ⟨hreserve, hcalls⟩ := hfails
    obtain ⟨self', hwrite, hcontent, -⟩ := writePage_succeeds hP hf hsize hint hreserve (Or.inr hcalls)
    constructor
    · intro h
      obtain ⟨b, later, hread, -⟩ := h.all self' hwrite self' buffer
        (.succeed (Vector.replicate 8 0)) rfl rfl ⟨rfl, rfl, rfl, rfl⟩
      have hvalid := (readPage_returned hP hf hsize hint hread).2.1 cipher hc
      simp only [readingUnder, hcontent] at hvalid
      rw [drop_readAt_storedPage ssl calls hc _ hsize] at hvalid
      exact Or.inr (Or.inr hvalid)
    · rintro (hrejected | hfailed | htag)
      · simp [hreserve] at hrejected
      · exact absurd hcalls hfailed
      · refine allOrNothing_of_returns hwrite fun later target readCalls hlater htarget hdecrypts => ?_
        exact readPage_stored hP hf hc hsize hint hreserve htag (hlater.trans hcontent) htarget hdecrypts

/-! ## A tag that is missing -/

/-- All calls of OpenSSL succeed but the one that gets the tag. -/
def withoutTag : CryptoCalls := { CryptoCalls.succeed (Vector.replicate 8 1) with getTag := false }

theorem write_allOrNothing_succeed :
    AllOrNothing maskSsl (SQLite3FileWrapper .mainDb storeMethods) (fun s => s) encryptedFile
      (filledPage 7).val 512 (.succeed (Vector.replicate 8 1)) :=
  (write_allOrNothing_iff maskSsl (storeMethods_faithful .mainDb) rfl encryptedFile rfl
    (by decide +kernel) (filledPage 7).property 512 (.succeed (Vector.replicate 8 1))).2
      (Or.inr (Or.inr (Or.inl rfl)))

/-- The write returns, and the page cannot be read. -/
theorem write_withoutTag_lost :
    ¬ AllOrNothing maskSsl (SQLite3FileWrapper .mainDb storeMethods) (fun s => s) encryptedFile
      (filledPage 7).val 512 withoutTag := by
  intro h
  set P : File Bytes := SQLite3FileWrapper .mainDb storeMethods with hP
  set written := (cryptFile maskSsl P).next encryptedFile (.write (filledPage 7) 512 withoutTag) with hwritten
  have hwrite : write (transformer maskSsl) P withoutTag (filledPage 7).val 512 encryptedFile =
      .returns () written := by
    rw [hwritten, hP]
    decide +kernel
  obtain ⟨b, later, hread, hsame⟩ := h.all written hwrite written (filledPage 7).val
    (.succeed (Vector.replicate 8 0)) rfl rfl ⟨rfl, rfl, rfl, rfl⟩
  have hlost : ((FileReply.ofRead encryptedFile (PageTransformingFile.read (transformer maskSsl) P
      (.succeed (Vector.replicate 8 0)) (filledPage 7).val 512
      (readingUnder encryptedFile.derived.writing written))).1).byteAt 0 = none := by
    rw [hwritten, hP]
    decide +kernel
  rw [hread] at hlost
  have hfirst := hsame.2 0 (by decide +kernel) (Or.inr (Or.inl (by decide +kernel)))
  exact absurd (hfirst.symm.trans hlost) (by decide)

end Ysqlite3.Vfs
