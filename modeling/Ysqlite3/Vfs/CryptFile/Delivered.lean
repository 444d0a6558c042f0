import Ysqlite3.EntryPoints
import Ysqlite3.Vfs.CryptFile.Failures

/-!
# What a page read delivers

`Page_transforming_file::read` lets the parent fill SQLite's own buffer and decodes it in place. Where
the parent throws because the file ends within the page, the buffer is left as the parent filled it, and
the pager goes on as if the read had succeeded.
-/

namespace Ysqlite3.Vfs

open PageTransformingFile Crypt

variable {σ τ : Type} {ssl : OpenSsl} {P : File σ} {content : σ → Bytes} {calls : CryptoCalls}
  {cipher : Cipher} {buffer : Bytes} {offset : Nat} {self : PageTransformingFile Crypt σ}

/-! ## The outcomes of a page read -/

section Outcomes

variable (ssl) (hP : Faithful P content) (hf : P.format = .mainDb) (hsize : 512 ≤ buffer.length)
  (hint : buffer.length < 2 ^ 31)

include hP hf hsize hint

/-- A page that the file ends in is not decoded. -/
theorem readPage_short (calls : CryptoCalls)
    (hshort : (content self.parent).length < offset + buffer.length) :
    ∃ self', PageTransformingFile.read (transformer ssl) P calls buffer offset self =
        .throws (.sqlite3 .shortRead "")
          (Store.readFilled 0 (content self.parent) offset buffer.length, self') ∧
      content self'.parent = content self.parent := by
  obtain ⟨parent, hparent, hread⟩ := hP.read buffer offset self.parent hint
  have hlen : (Store.readAt (content self.parent) offset buffer.length).length ≠ buffer.length := by
    rw [Store.length_readAt]
    omega
  rw [if_neg hlen] at hread
  exact ⟨_, read_page_throws hf hsize hread, hparent⟩

/-- A page in the file that cannot be decrypted. -/
theorem readPage_undecodable (hfull : offset + buffer.length ≤ (content self.parent).length)
    (hc : self.derived.current.cipher = some cipher)
    (h : ¬ (Decrypts calls ∧ TagValid ssl (cipher, self.derived.current.key)
      ((Store.readAt (content self.parent) offset buffer.length).drop (clearSize .mainDb offset)))) :
    ∃ b self', PageTransformingFile.read (transformer ssl) P calls buffer offset self =
        .throws (decodeError calls) (b, self') ∧ content self'.parent = content self.parent := by
  obtain ⟨parent, hparent, hread⟩ := hP.read buffer offset self.parent hint
  have hlen := Store.length_readAt_of_le hfull
  have hclear := clearSize_le .mainDb offset
  rw [if_pos hlen] at hread
  obtain ⟨page, events, hdecode, -⟩ := decodePage_throws hc (by simp; omega) (by simp; omega) h
  rw [← transformer_decodePage] at hdecode
  exact ⟨_, _, read_page_undecodable hf hsize hread hdecode, hparent⟩

/-- A page in the file that is decrypted and then refused for its reserve byte. -/
theorem readPage_rejected (hfull : offset + buffer.length ≤ (content self.parent).length)
    (hvalid : ∀ cipher, self.derived.current.cipher = some cipher → Decrypts calls ∧
      TagValid ssl (cipher, self.derived.current.key)
        ((Store.readAt (content self.parent) offset buffer.length).drop (clearSize .mainDb offset)))
    (hreserve : reserveRejected (transformer ssl)
      (openedPage ssl self.derived.current (clearSize .mainDb offset)
        (Store.readAt (content self.parent) offset buffer.length)) offset self.derived = true) :
    ∃ b self', PageTransformingFile.read (transformer ssl) P calls buffer offset self =
        .throws (.sqlite3 .generic "bad reserve size") (b, self') ∧
      content self'.parent = content self.parent := by
  obtain ⟨parent, hparent, hread⟩ := hP.read buffer offset self.parent hint
  have hlen := Store.length_readAt_of_le hfull
  rw [if_pos hlen] at hread
  obtain ⟨page, hdecode, hopened⟩ := decode_succeeds (hlen.symm ▸ hsize) (hlen.symm ▸ hint) hvalid
  rw [← hopened] at hreserve
  rw [← transformer_decodePage] at hdecode
  obtain ⟨size, hread⟩ := read_page_rejected hf hsize hread hdecode hreserve
  exact ⟨_, _, hread, hparent⟩

end Outcomes

/-! ## The reply of xRead -/

/-- The code of `xRead`, behind `wrap`, and the buffer SQLite has then. -/
def readReply : Outcome (Bytes × τ) Unit → Option (SQLite3Code × Bytes)
  | .returns _ (buffer, _) => some (.success, buffer)
  | .throws e (buffer, _) => some (File.translate .generic e, buffer)
  | .undefined => none

/-- The codes that the pager goes on with. -/
def PagerAccepts (code : SQLite3Code) : Prop := code = .success ∨ code = .shortRead

/-- The buffer holds, behind the clear part, the decryption of a page in the file whose tag is valid. -/
structure Authentic (ssl : OpenSsl) (key : Cipher × Key) (s : Bytes) (offset : Nat) (b : Bytes) :
    Prop where
  inFile : offset + b.length ≤ s.length
  valid : TagValid ssl key ((Store.readAt s offset b.length).drop (clearSize .mainDb offset))
  opened : b.drop (clearSize .mainDb offset) =
    openSpan ssl key ((Store.readAt s offset b.length).drop (clearSize .mainDb offset))

/-- Whenever the pager accepts what a read replies, the buffer holds an authentic page or zeros. -/
def DeliversNoCiphertext (ssl : OpenSsl) (P : File σ) (content : σ → Bytes) (key : Cipher × Key)
    (file : PageTransformingFile Crypt σ) (buffer : Bytes) (offset : Nat) (calls : CryptoCalls) : Prop :=
  ∃ code b, readReply (PageTransformingFile.read (transformer ssl) P calls buffer offset file) =
      some (code, b) ∧
    (PagerAccepts code → Authentic ssl key (content file.parent) offset b ∨
      ∀ x ∈ b.drop (clearSize .mainDb offset), x = 0)

/-- A page read reports a wrong tag as no database. -/
theorem decodeError_of_decrypts (h : Decrypts calls) :
    decodeError calls = .sqlite3 .notADatabase "failed to encrypt/decrypt" := by
  rw [decodeError, h.1, h.2.1]
  rfl

theorem decodeError_not_accepted (calls : CryptoCalls) :
    ¬ PagerAccepts (File.translate .generic (decodeError calls)) := by
  unfold decodeError PagerAccepts
  split <;> decide

/-- The bytes a short read leaves behind the clear part are zeros exactly if all bytes of the file from
there on are. -/
theorem zeros_readFilled_iff {s : Bytes} {offset n clear : Nat} (hshort : s.length ≤ offset + n) :
    (∀ x ∈ (Store.readFilled 0 s offset n).drop clear, x = 0) ↔
      ∀ x ∈ s.drop (offset + clear), x = 0 := by
  rw [Store.readFilled_of_le 0 hshort, List.drop_append, List.drop_drop, List.drop_replicate]
  simp only [List.mem_append, List.mem_replicate, or_imp, forall_and]
  exact and_iff_left fun x hx => hx.2

section Deliveries

variable (ssl) (hP : Faithful P content) (hf : P.format = .mainDb) (hsize : 512 ≤ buffer.length)
  (hint : buffer.length < 2 ^ 31)

include hP hf hsize hint

/-- A page in the file is decrypted, or the pager is told that it cannot be. -/
theorem deliversNoCiphertext_full (hc : self.derived.current.cipher = some cipher) (calls : CryptoCalls)
    (hfull : offset + buffer.length ≤ (content self.parent).length) :
    DeliversNoCiphertext ssl P content (cipher, self.derived.current.key) self buffer offset calls := by
  have hlen := Store.length_readAt_of_le hfull
  unfold DeliversNoCiphertext
  by_cases hok : Decrypts calls ∧ TagValid ssl (cipher, self.derived.current.key)
      ((Store.readAt (content self.parent) offset buffer.length).drop (clearSize .mainDb offset))
  · have hvalid := valid_of_cipher hc hok
    cases hreserve : reserveRejected (transformer ssl)
        (openedPage ssl self.derived.current (clearSize .mainDb offset)
          (Store.readAt (content self.parent) offset buffer.length)) offset self.derived with
    | true =>
      obtain ⟨b, self', hread, -⟩ := readPage_rejected ssl hP hf hsize hint hfull hvalid hreserve
      rw [hread]
      exact ⟨_, _, rfl, fun h => absurd h (by unfold PagerAccepts; decide)⟩
    | false =>
      obtain ⟨self', hread, -, -⟩ := readPage_succeeds hP hf hsize hint hfull hvalid hreserve
      have hopened : (openedPage ssl self.derived.current (clearSize .mainDb offset)
          (Store.readAt (content self.parent) offset buffer.length)).length = buffer.length := by
        rw [length_openedPage, hlen]
      rw [hread]
      refine ⟨_, _, rfl, fun _ => Or.inl ⟨?_, ?_, ?_⟩⟩
      · rw [hopened]
        exact hfull
      · rw [hopened]
        exact hok.2
      · rw [hopened]
        have hclear := clearSize_le .mainDb offset
        simp only [openedPage, hc]
        exact List.drop_left' (by simp; omega)
  · obtain ⟨b, self', hread, -⟩ := readPage_undecodable ssl hP hf hsize hint hfull hc hok
    rw [hread]
    exact ⟨_, _, rfl, fun h => absurd h (decodeError_not_accepted calls)⟩

/-- Of a page that the file ends in, the pager gets what is there. -/
theorem deliversNoCiphertext_short_iff (key : Cipher × Key) (calls : CryptoCalls)
    (hshort : (content self.parent).length < offset + buffer.length) :
    DeliversNoCiphertext ssl P content key self buffer offset calls ↔
      ∀ x ∈ (content self.parent).drop (offset + clearSize .mainDb offset), x = 0 := by
  obtain ⟨self', hread, -⟩ := readPage_short ssl hP hf hsize hint calls hshort
  rw [← zeros_readFilled_iff (n := buffer.length) (by omega)]
  unfold DeliversNoCiphertext
  rw [hread]
  constructor
  · rintro ⟨code, b, hreply, hdelivers⟩
    cases hreply
    refine (hdelivers (Or.inr rfl)).resolve_left fun h => ?_
    have hin := h.inFile
    rw [Store.readFilled, Store.length_resize] at hin
    omega
  · intro hzeros
    exact ⟨_, _, rfl, fun _ => Or.inr hzeros⟩

end Deliveries

/-- A page read delivers nothing but authentic pages and zeros exactly if the file does not end within
the page, or holds only zeros behind the clear part. -/
theorem readPage_deliversNoCiphertext_iff (ssl : OpenSsl) (hP : Faithful P content)
    (hf : P.format = .mainDb) (self : PageTransformingFile Crypt σ)
    (hc : self.derived.current.cipher = some cipher) (hsize : 512 ≤ buffer.length)
    (hint : buffer.length < 2 ^ 31) (offset : Nat) (calls : CryptoCalls) :
    DeliversNoCiphertext ssl P content (cipher, self.derived.current.key) self buffer offset calls ↔
      (offset + buffer.length ≤ (content self.parent).length ∨
        ∀ x ∈ (content self.parent).drop (offset + clearSize .mainDb offset), x = 0) := by
  by_cases hfull : offset + buffer.length ≤ (content self.parent).length
  · exact iff_of_true (deliversNoCiphertext_full ssl hP hf hsize hint hc calls hfull) (Or.inl hfull)
  · rw [or_iff_right hfull]
    exact deliversNoCiphertext_short_iff ssl hP hf hsize hint _ calls (by omega)

theorem emptyFile_deliversNoCiphertext :
    DeliversNoCiphertext maskSsl (SQLite3FileWrapper .mainDb storeMethods) (fun s => s)
      (.aes256Gcm, Vector.replicate 32 5) encryptedFile (filledPage 0).val 0
      (.succeed (Vector.replicate 8 0)) :=
  (readPage_deliversNoCiphertext_iff maskSsl (storeMethods_faithful .mainDb) rfl encryptedFile rfl
    (by decide +kernel) (filledPage 0).property 0 (.succeed (Vector.replicate 8 0))).2
      (Or.inr (fun x hx => absurd hx List.not_mem_nil))

/-- Of a second page that was cut after 88 bytes, the pager gets these bytes as they are. -/
theorem truncatedPage_delivered :
    ¬ DeliversNoCiphertext maskSsl (SQLite3FileWrapper .mainDb storeMethods) (fun s => s)
      (.aes256Gcm, Vector.replicate 32 5) { encryptedFile with parent := List.replicate 600 7 }
      (filledPage 0).val 512 (.succeed (Vector.replicate 8 0)) := by
  intro h
  have hzeros := (deliversNoCiphertext_short_iff maskSsl (storeMethods_faithful .mainDb) rfl
    (by decide +kernel) (filledPage 0).property _ _ (by decide +kernel)).1 h
  have hseven : (7 : UInt8) ∈ (List.replicate 600 7).drop (512 + clearSize .mainDb 512) := by
    rw [List.drop_replicate, List.mem_replicate]
    exact ⟨by decide, rfl⟩
  exact absurd (hzeros 7 hseven) (by decide)

end Ysqlite3.Vfs
