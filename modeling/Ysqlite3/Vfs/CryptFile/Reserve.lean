import Ysqlite3.Vfs.CryptFile.Calls

/-!
# The reserve byte

IV and tag take the last 32 bytes of a page. `check_reserve_size` sees the reserve byte only when the
first page goes through, so it says nothing about a first page written before the cipher was set.
-/

namespace Ysqlite3.Vfs

open PageTransformingFile Crypt

variable {σ : Type} {ssl : OpenSsl} {P : File σ} {content : σ → Bytes}
  {self : PageTransformingFile Crypt σ}

/-- The reserve byte of the first page in the file. -/
def reserveByte (s : Bytes) : Nat := (s.getD 20 0).toNat

/-- The file read under a given encryptor. -/
def readingUnder (encryptor : Encryptor) (self : PageTransformingFile Crypt σ) :
    PageTransformingFile Crypt σ :=
  { self with derived := { self.derived with transform := false, current := encryptor } }

/-- When a page write returns success, reading the page back under the same encryptor returns what
was written, except for the bytes that the first page reserves. -/
def KeepsBytes (ssl : OpenSsl) (P : File σ) (content : σ → Bytes)
    (self : PageTransformingFile Crypt σ) : CryptCall σ → Prop
  | .write buffer offset calls =>
    512 ≤ buffer.val.length → (∃ k, offset = k * buffer.val.length) →
    ∀ self', write (transformer ssl) P calls buffer.val offset self = .returns () self' →
    ∀ (target : Buffer) (readCalls : CryptoCalls), target.val.length = buffer.val.length →
      Decrypts readCalls →
      ∃ b self'', PageTransformingFile.read (transformer ssl) P readCalls target.val offset
          (readingUnder self.derived.writing self') = .returns () (b, self'') ∧
        ∀ i, i + reserveByte (content self'.parent) < buffer.val.length → b[i]? = buffer.val[i]?
  | _ => True

/-- A page whose write returns is stored unencrypted, or its tag is written and it is the first page or
the first page in the file reserves 32 bytes. -/
def ReserveRespected (ssl : OpenSsl) (P : File σ) (content : σ → Bytes)
    (self : PageTransformingFile Crypt σ) : CryptCall σ → Prop
  | .write buffer offset calls =>
    512 ≤ buffer.val.length →
    (∃ self', write (transformer ssl) P calls buffer.val offset self = .returns () self') →
    self.derived.writing.cipher = none ∨
      calls.getTag = true ∧ (offset = 0 ∨ 32 ≤ reserveByte (content self.parent))
  | _ => True

theorem reserveRejected_writing (ssl : OpenSsl) {d d' : Crypt} (h : d.writing = d'.writing)
    (b : Bytes) (offset : Nat) :
    reserveRejected (transformer ssl) b offset d = reserveRejected (transformer ssl) b offset d' := by
  simp only [reserveRejected, transformer_checkReserveSize, checkReserveSize, h]

/-- A page written behind the first one leaves the reserve byte alone. -/
theorem reserveByte_writeAt {s b : Bytes} {offset : Nat} (h : 20 < offset) :
    reserveByte (Store.writeAt 0 s offset b) = reserveByte s := by
  unfold reserveByte
  rw [List.getD_eq_getElem?_getD, Store.getElem?_writeAt, if_pos h, Option.getD_some]

/-- An encrypted first page that was accepted reserves 32 bytes. -/
theorem reserveByte_first {s buffer : Bytes} {calls : CryptoCalls} {d : Crypt}
    (hsize : 512 ≤ buffer.length) (hc : d.writing.cipher ≠ none)
    (hreserve : reserveRejected (transformer ssl) buffer 0 d = false) :
    reserveByte (Store.writeAt 0 s 0 (storedPage ssl calls d.writing 100 buffer)) = 32 := by
  obtain ⟨cipher, hcipher⟩ := Option.ne_none_iff_exists'.mp hc
  have h32 : buffer.getD 20 0 = 32 := by
    simp only [reserveRejected, transformer_checkReserveSize, checkReserveSize, hcipher] at hreserve
    have hcover : 21 ≤ buffer.length := by omega
    simpa [hcover] using hreserve
  have hbyte : (storedPage ssl calls d.writing 100 buffer)[20]? = buffer[20]? := by
    simp only [storedPage, hcipher]
    rw [List.getElem?_append_left (by simp; omega), List.getElem?_take, if_pos (by decide)]
  have hlen : (storedPage ssl calls d.writing 100 buffer).length = buffer.length :=
    length_storedPage (by omega)
  unfold reserveByte
  rw [List.getD_eq_getElem?_getD, Store.getElem?_writeAt, if_neg (by omega), if_pos (by omega),
    Nat.sub_zero, hbyte, ← List.getD_eq_getElem?_getD, h32]
  rfl

/-- After an encrypted page write that respects the reserve byte, the first page reserves 32 bytes. -/
theorem reserveByte_written {d : Crypt} {s buffer : Bytes} {calls : CryptoCalls} {k : Nat}
    (hsize : 512 ≤ buffer.length) (hc : d.writing.cipher ≠ none)
    (hreserve : reserveRejected (transformer ssl) buffer (k * buffer.length) d = false)
    (hfirst : k * buffer.length = 0 ∨ 32 ≤ reserveByte s) :
    32 ≤ reserveByte (Store.writeAt 0 s (k * buffer.length) (storedPage ssl calls d.writing
      (clearSize .mainDb (k * buffer.length)) buffer)) := by
  rcases Nat.eq_zero_or_pos k with rfl | hk
  · rw [Nat.zero_mul] at hreserve ⊢
    rw [clearSize_mainDb_zero]
    exact Nat.le_of_eq (reserveByte_first hsize hc hreserve).symm
  · have hpage := Nat.le_mul_of_pos_left buffer.length hk
    rw [reserveByte_writeAt (by omega)]
    exact hfirst.resolve_left (by omega)

section ReadBack

variable {buffer target : Bytes} {offset : Nat} {later : PageTransformingFile Crypt σ}
  {readCalls : CryptoCalls}

/-- While the file holds what a page was stored as, the page can be read under the encryptor it was
written with. -/
theorem readBack (hP : Faithful P content) (hf : P.format = .mainDb) (hsize : 512 ≤ buffer.length)
    (hint : buffer.length < 2 ^ 31)
    (hreserve : reserveRejected (transformer ssl) buffer offset self.derived = false)
    (hfull : offset + target.length ≤ (content later.parent).length)
    (htarget : target.length = buffer.length) (hdecrypts : Decrypts readCalls)
    (hopens : OpensTo ssl self.derived.writing (clearSize .mainDb offset)
      (Store.readAt (content later.parent) offset target.length) buffer) :
    ∃ b later', PageTransformingFile.read (transformer ssl) P readCalls target offset
        (readingUnder self.derived.writing later) = .returns () (b, later') ∧
      SameExceptTag self.derived.writing buffer b := by
  have hfull' : offset + target.length ≤
      (content (readingUnder self.derived.writing later).parent).length := hfull
  -- reading checks the reserve byte again, with the same encryptor
  have hreserve' := reserveRejected_congr ssl hopens.same hsize
    (readingUnder self.derived.writing later).derived offset
  have hsame : reserveRejected (transformer ssl) buffer offset
      (readingUnder self.derived.writing later).derived = false :=
    (reserveRejected_writing ssl rfl _ _).trans hreserve
  rw [hsame] at hreserve'
  obtain ⟨later', hread, -, -⟩ := readPage_succeeds hP hf (by omega) (by omega) hfull'
    (fun cipher hcipher => ⟨hdecrypts, hopens.valid cipher hcipher⟩) hreserve'
  exact ⟨_, later', hread, hopens.same⟩

end ReadBack

/-- One page write that respects the reserve byte keeps the bytes. -/
theorem keepsBytes_step (ssl : OpenSsl) (hP : Faithful P content) (hf : P.format = .mainDb)
    (self : PageTransformingFile Crypt σ) (c : CryptCall σ)
    (hc : ReserveRespected ssl P content self c) :
    KeepsBytes ssl P content self c := by
  cases c with
  | read buffer offset calls => trivial
  | pragma name value kdf => trivial
  | tamper parent => trivial
  | write buffer offset calls =>
    rintro hsize ⟨k, rfl⟩ self' hwrite target readCalls htarget hdecrypts
    have hc := hc hsize ⟨self', hwrite⟩
    have hclear := clearSize_le .mainDb (k * buffer.val.length)
    obtain ⟨hreserve, hcontent, -⟩ :=
      writePage_returned hP hf hsize buffer.property hwrite
    have htag : self.derived.writing.cipher = none ∨ calls.getTag = true := hc.imp_right And.left
    have hlen : (storedPage ssl calls self.derived.writing
        (clearSize .mainDb (k * buffer.val.length)) buffer.val).length = target.val.length := by
      rw [length_storedPage (by omega), htarget]
    have hopens : OpensTo ssl self.derived.writing (clearSize .mainDb (k * buffer.val.length))
        (Store.readAt (content self'.parent) (k * buffer.val.length) target.val.length)
        buffer.val := by
      rw [hcontent, ← hlen, Store.readAt_writeAt_same]
      exact opensTo_storedPage (by omega) htag
    have hfull : k * buffer.val.length + target.val.length ≤ (content self'.parent).length := by
      rw [hcontent, Store.length_writeAt, hlen]
      omega
    obtain ⟨b, self'', hread, hsame⟩ :=
      readBack hP hf hsize buffer.property hreserve hfull htarget hdecrypts hopens
    refine ⟨b, self'', hread, ?_⟩
    intro i hi
    refine hsame.2 i (by omega) ?_
    rcases hc with hnull | ⟨-, hfirst⟩
    · exact Or.inl hnull
    · by_cases hnull : self.derived.writing.cipher = none
      · exact Or.inl hnull
      · have h32 : 32 ≤ reserveByte (content self'.parent) := by
          rw [hcontent]
          exact reserveByte_written hsize hnull hreserve hfirst
        exact Or.inr (Or.inl (by omega))

/-- Encryption keeps the bytes a database uses: in every run whose page writes all respect the
reserve byte when they return, each of these can be read back. -/
theorem pageWrites_keepBytes (ssl : OpenSsl) (P : File σ) (content : σ → Bytes)
    (hP : Faithful P content) (hf : P.format = .mainDb) (self : PageTransformingFile Crypt σ)
    (calls : List (CryptCall σ))
    (hcalls : (cryptFile ssl P).Throughout (ReserveRespected ssl P content) self calls) :
    (cryptFile ssl P).Throughout (KeepsBytes ssl P content) self calls :=
  hcalls.mono (keepsBytes_step ssl hP hf)

/-- A database without reserved bytes that is given a cipher. -/
def lateCipher : List (CryptCall Bytes) :=
  [.write (filledPage 0) 0 (.succeed (Vector.replicate 8 1)),
    .pragma (cstr "cipher") (some (cstr "aes-256-gcm")) .succeeds]

/-- The first page reserves nothing, the write returns success, and 28 bytes of the page are lost. -/
theorem lateCipher_destroys :
    let P : File Bytes := SQLite3FileWrapper .mainDb storeMethods
    ¬ (cryptFile maskSsl P).Throughout (KeepsBytes maskSsl P (fun s => s))
      ⟨[], ⟨false, Encryptor.initial, Encryptor.initial, []⟩, [], 0⟩
      (lateCipher ++ [.write (filledPage 7) 512 (.succeed (Vector.replicate 8 1))]) := by
  intro P h
  set opened : PageTransformingFile Crypt Bytes :=
    ⟨[], ⟨false, Encryptor.initial, Encryptor.initial, []⟩, [], 0⟩ with hopened
  rw [Component.throughout_append] at h
  set self := (cryptFile maskSsl P).run opened lateCipher with hself
  set self' := (cryptFile maskSsl P).next self
    (.write (filledPage 7) 512 (.succeed (Vector.replicate 8 1))) with hself'
  have hwrite : write (transformer maskSsl) P (.succeed (Vector.replicate 8 1)) (filledPage 7).val 512
      self = .returns () self' := by
    rw [hself', hself, hopened]
    decide +kernel
  have hlost : (match PageTransformingFile.read (transformer maskSsl) P
        (.succeed (Vector.replicate 8 1)) (filledPage 7).val 512
        (readingUnder self.derived.writing self') with
      | .returns _ (b, _) => b[480]?
      | _ => none) = some 1 := by
    rw [hself', hself, hopened]
    decide +kernel
  have hreserve : 480 + reserveByte self'.parent < (filledPage 7).val.length := by
    rw [hself', hself, hopened]
    decide +kernel
  obtain ⟨b, self'', hread, hbytes⟩ := h.2.1 (by decide +kernel) ⟨1, by decide +kernel⟩ self' hwrite
    (filledPage 7) (.succeed (Vector.replicate 8 1)) rfl ⟨rfl, rfl, rfl, rfl⟩
  simp only [hread] at hlost
  rw [hbytes 480 hreserve] at hlost
  exact absurd hlost (by decide +kernel)

/-- The same run over a first page that reserves 32 bytes. -/
theorem reservedRun_keepsBytes :
    let P : File Bytes := SQLite3FileWrapper .mainDb storeMethods
    (cryptFile maskSsl P).Throughout (KeepsBytes maskSsl P (fun s => s))
      ⟨List.replicate 512 32, ⟨false, Encryptor.initial, Encryptor.initial, []⟩, [], 0⟩
      [.pragma (cstr "cipher") (some (cstr "aes-256-gcm")) .succeeds,
        .write (filledPage 7) 512 (.succeed (Vector.replicate 8 1))] := by
  intro P
  refine pageWrites_keepBytes maskSsl P _ (storeMethods_faithful .mainDb) rfl _ _ ?_
  refine ⟨trivial, fun _ _ => Or.inr ⟨rfl, Or.inr ?_⟩, trivial⟩
  decide +kernel

end Ysqlite3.Vfs
