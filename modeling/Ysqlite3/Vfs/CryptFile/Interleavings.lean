import Ysqlite3.Vfs.CryptFile.Nonce
import Ysqlite3.Vfs.CryptFile.Tamper
import Ysqlite3.Vfs.CryptFile.Connections

/-!
# Connections with keys of their own

Any number of Crypt_files over one file of the parent, each with the keys and ciphers that its pragmas set at
any time, whose calls interleave and whose OpenSSL calls may fail; and an adversary that changes the file in
between. The encryptions of all of them count as made, also those of files that were closed since.
-/

namespace Ysqlite3.Vfs

open PageTransformingFile Crypt

variable {σ : Type}

/-- The Crypt_files, and the adversary. -/
def cryptFiles (ssl : OpenSsl) (P : File σ) :
    Component (Instances Nat (PageTransformingFile Crypt σ) σ)
      (InstanceCall Nat (PageTransformingFile Crypt σ) σ (CryptCall σ) σ) (Option FileReply) :=
  (cryptFile ssl P).shared parentPart (fun _ left => left)

theorem cryptFiles_reply {ssl : OpenSsl} {P : File σ} {s : Instances Nat (PageTransformingFile Crypt σ) σ}
    {id : Nat} {self : PageTransformingFile Crypt σ} (h : s.instances id = some self) (c : CryptCall σ) :
    (cryptFiles ssl P).reply s (.call id c) =
      some ((cryptFile ssl P).reply (parentPart.set s.resource self) c) :=
  Component.shared_reply _ _ _ h c

/-- The encryptions that a call adds to the record of its file. -/
def newSealings (ssl : OpenSsl) (P : File σ) (self : PageTransformingFile Crypt σ) (c : CryptCall σ) :
    List (Sealing (Cipher × Key) Bytes UInt8) :=
  sealings (((cryptFile ssl P).next self c).derived.log.drop self.derived.log.length)

/-- All encryptions of a run. -/
def allSealings (ssl : OpenSsl) (P : File σ) (s : Instances Nat (PageTransformingFile Crypt σ) σ)
    (calls : List (InstanceCall Nat (PageTransformingFile Crypt σ) σ (CryptCall σ) σ)) :
    List (Sealing (Cipher × Key) Bytes UInt8) :=
  (cryptFiles ssl P).collect (Component.observed parentPart (newSealings ssl P)) s calls

/-- Not a forgery: if the tag found in the file is valid, it came out of one of these encryptions. -/
def Genuine (ssl : OpenSsl) (made : List (Sealing (Cipher × Key) Bytes UInt8)) (key : Cipher × Key)
    (stored : Bytes) (offset n : Nat) : Prop :=
  let span := (Store.readAt stored offset n).drop (clearSize .mainDb offset)
  let iv := (span.drop (span.length - 32)).take 12
  let body := span.take (span.length - 32)
  TagValid ssl key span → ssl.gcm.Produced made key iv body (ssl.gcm.tag key iv body)

/-- What a call adds is what `Seals` says. -/
theorem newSealings_seals (ssl : OpenSsl) {P : File σ} {content : σ → Bytes} (hP : Faithful P content)
    (hf : P.format = .mainDb) (self : PageTransformingFile Crypt σ) (c : CryptCall σ) :
    Seals ssl P self c (newSealings ssl P self c) := by
  obtain ⟨added, hseals, hsealings⟩ := next_seals ssl hP hf self c
  obtain ⟨events, -, hlog⟩ := next_log ssl P self c
  have hadded : newSealings ssl P self c = added := by
    rw [hlog, sealings_append] at hsealings
    rw [newSealings, hlog, List.drop_left]
    exact List.append_cancel_left hsealings
  rw [hadded]
  exact hseals

/-- In every run of any number of Crypt_files over one file, whatever the keys and the order of the calls, a
page read under a cipher that succeeds delivers what an earlier page write through one of them has encrypted,
under the same key and cipher; forgeries apart, whatever an adversary did to the file. So files with other
keys, and the wrong page where it is the first, never get to see each other's pages as garbage. -/
theorem reads_what_some_file_wrote (ssl : OpenSsl) (P : File σ) (content : σ → Bytes)
    (hP : Faithful P content) (hf : P.format = .mainDb)
    (s : Instances Nat (PageTransformingFile Crypt σ) σ)
    (calls : List (InstanceCall Nat (PageTransformingFile Crypt σ) σ (CryptCall σ) σ))
    (id : Nat) (reader : PageTransformingFile Crypt σ)
    (hreader : ((cryptFiles ssl P).run s calls).instances id = some reader)
    (cipher : Cipher) (hcipher : reader.derived.current.cipher = some cipher)
    (target : Buffer) (hsize : 512 ≤ target.val.length) (offset : Nat) (readCalls : CryptoCalls)
    (hgenuine : Genuine ssl (allSealings ssl P s calls) (cipher, reader.derived.current.key)
      (content ((cryptFiles ssl P).run s calls).resource) offset target.val.length)
    (b : Bytes)
    (hread : (cryptFiles ssl P).reply ((cryptFiles ssl P).run s calls)
      (.call id (.read target offset readCalls)) = some (.bytes b)) :
    ∃ before id' buffer offset' writeCalls after writer,
      calls = before ++ .call id' (.write buffer offset' writeCalls) :: after ∧
      512 ≤ buffer.val.length ∧
      (cryptFiles ssl P).reply ((cryptFiles ssl P).run s before)
        (.call id' (.write buffer offset' writeCalls)) = some .done ∧
      ((cryptFiles ssl P).run s before).instances id' = some writer ∧
      writer.derived.writing = reader.derived.current ∧
      encryptedPart offset b = encryptedPart offset' buffer.val ∧
      (buffer.val.length = b.length → (offset = 0 ↔ offset' = 0)) := by
  have hclear := clearSize_le .mainDb offset
  rw [cryptFiles_reply hreader] at hread
  obtain ⟨self', hret⟩ := reply_read_bytes (Option.some.inj hread)
  obtain ⟨hfull, hvalid, hb, -, -⟩ := readPage_returned hP hf hsize target.property hret
  have hstored := Store.length_readAt_of_le hfull
  obtain ⟨e, he, hkey, -, hplain⟩ := Aead.decrypt_of_produced _ (hgenuine (hvalid cipher hcipher))
  have hpart : encryptedPart offset b = e.plaintext := by
    rw [hb, hplain]
    exact encryptedPart_openedPage hcipher (by omega)
  -- The encryption was made by one of the writes of the run, through some file.
  obtain ⟨before, id', c, after, writer, rfl, hwriter, hmem⟩ := Component.mem_collect_observed _ _ _ he
  change ((cryptFiles ssl P).run s before).instances id' = some writer at hwriter
  change e ∈ newSealings ssl P (parentPart.set ((cryptFiles ssl P).run s before).resource writer) c at hmem
  have hseals := newSealings_seals ssl hP hf (parentPart.set
    ((cryptFiles ssl P).run s before).resource writer) c
  rcases hseals with hnone | ⟨buffer, offset', writeCalls, iv, cipher', rfl, hsize', hdone, hwriting, hadded⟩
  · rw [hnone] at hmem
    cases hmem
  · rw [hadded, List.mem_singleton] at hmem
    subst hmem
    rw [Prod.mk.injEq] at hkey
    have hencryptor : writer.derived.writing = reader.derived.current :=
      Encryptor.ext (hwriting.trans (by rw [hcipher, hkey.1])) hkey.2
    refine ⟨before, id', buffer, offset', writeCalls, after, writer, rfl, hsize', ?_, hwriter, hencryptor,
      hpart, ?_⟩
    · rw [cryptFiles_reply hwriter, hdone]
    · intro hlen
      have hlenb : b.length = target.val.length := by rw [hb, length_openedPage, hstored]
      exact encryptedPart_first (hlenb ▸ hsize) hlen hpart

/-- A file of which one connection writes a page and another, with the same key and cipher, is to read it. -/
def twoFiles : List (InstanceCall Nat (PageTransformingFile Crypt Bytes) Bytes (CryptCall Bytes) Bytes) :=
  [.opens 0 (fun parent => some { encryptedFile with parent }),
    .opens 1 (fun parent => some { encryptedFile with parent }),
    .call 0 (.write (filledPage 32) 0 (.succeed (Vector.replicate 8 1))),
    .call 0 (.write (filledPage 7) 512 (.succeed (Vector.replicate 8 2))),
    .closes 0]

theorem twoFiles_read :
    let P : File Bytes := SQLite3FileWrapper .mainDb storeMethods
    let s : Instances Nat (PageTransformingFile Crypt Bytes) Bytes := ⟨fun _ => none, []⟩
    ∃ b, (cryptFiles maskSsl P).reply ((cryptFiles maskSsl P).run s twoFiles)
        (.call 1 (.read (filledPage 0) 512 (.succeed (Vector.replicate 8 0)))) = some (.bytes b) ∧
      ∃ before id' buffer offset' writeCalls after writer,
        twoFiles = before ++ .call id' (.write buffer offset' writeCalls) :: after ∧
        512 ≤ buffer.val.length ∧
        (cryptFiles maskSsl P).reply ((cryptFiles maskSsl P).run s before)
          (.call id' (.write buffer offset' writeCalls)) = some .done ∧
        ((cryptFiles maskSsl P).run s before).instances id' = some writer ∧
        writer.derived.writing = encryptedFile.derived.current ∧
        encryptedPart 512 b = encryptedPart offset' buffer.val ∧
        (buffer.val.length = b.length → (512 = 0 ↔ offset' = 0)) := by
  intro P s
  have hevaluated : (((cryptFiles maskSsl P).reply ((cryptFiles maskSsl P).run s twoFiles)
      (.call 1 (.read (filledPage 0) 512 (.succeed (Vector.replicate 8 0))))).bind
        (fun reply => reply.byteAt 0)) = some 7 ∧
      Genuine maskSsl (allSealings maskSsl P s twoFiles) (.aes256Gcm, Vector.replicate 32 5)
        ((cryptFiles maskSsl P).run s twoFiles).resource 512 (filledPage 0).val.length := by
    unfold Genuine TagValid Aead.Produced
    decide +kernel
  obtain ⟨hread, hgenuine⟩ := hevaluated
  have hreader : ((cryptFiles maskSsl P).run s twoFiles).instances 1 = some { encryptedFile with parent := [] } := by
    have hcall : ∀ s' c, ((cryptFiles maskSsl P).next s' (.call 0 c)).instances 1 = s'.instances 1 :=
      fun s' c => Component.shared_call_ne _ _ _ s' (by decide) c
    have hclose : ∀ s', ((cryptFiles maskSsl P).next s' (.closes 0)).instances 1 = s'.instances 1 :=
      fun s' => Function.update_of_ne (show (1 : Nat) ≠ 0 by decide) none s'.instances
    rw [twoFiles, Component.run_cons, Component.run_cons, Component.run_cons, Component.run_cons,
      Component.run_cons, Component.run_nil, hclose, hcall, hcall]
    rfl
  obtain ⟨reply, hreply, hbyte⟩ := Option.bind_eq_some_iff.mp hread
  obtain ⟨b, rfl, -⟩ := FileReply.bytes_of_byteAt hbyte
  exact ⟨b, hreply, reads_what_some_file_wrote maskSsl P (fun s => s) (storeMethods_faithful .mainDb) rfl s
    twoFiles 1 _ hreader .aes256Gcm rfl (filledPage 0) (by decide +kernel) 512 _
    hgenuine b hreply⟩

/-! ## Nonces -/

/-- In every run of any number of Crypt_files, as long as `RAND_bytes` does not fail and never yields the same
bytes twice, no two page writes that return success encrypt with the same IV: neither through one file nor
through two, whatever their keys are. -/
theorem nonces_of_all_files_distinct (ssl : OpenSsl) (P : File σ)
    (s : Instances Nat (PageTransformingFile Crypt σ) σ)
    (calls : List (InstanceCall Nat (PageTransformingFile Crypt σ) σ (CryptCall σ) σ))
    (hdistinct :
      ((cryptFiles ssl P).collect (Component.observed parentPart (draws ssl P)) s calls).reduceOption.Nodup)
    (hrand : none ∉ (cryptFiles ssl P).collect (Component.observed parentPart (draws ssl P)) s calls) :
    ((cryptFiles ssl P).collect (Component.observed parentPart (writeIvs ssl P)) s calls).Nodup := by
  have hsublist := (cryptFiles ssl P).collect_related
    (f := Component.observed parentPart (writeIvs ssl P)) (g := Component.observed parentPart (draws ssl P))
    (R := fun ivs drawn => none ∉ drawn →
      (ivs.map (List.take 8)).Sublist (drawn.reduceOption.map Vector.toList))
    (fun _ => List.Sublist.slnil)
    (fun has hbs hnone => by
      rw [List.mem_append, not_or] at hnone
      rw [List.map_append, List.reduceOption_append, List.map_append]
      exact (has hnone.1).append (hbs hnone.2))
    (fun s call hnone => by
      cases call with
      | opens id construct => exact List.Sublist.slnil
      | closes id => exact List.Sublist.slnil
      | changes left => exact List.Sublist.slnil
      | call id c =>
        cases hid : s.instances id with
        | none =>
          simp only [Component.observed, hid]
          exact List.Sublist.slnil
        | some self =>
          simp only [Component.observed, hid] at hnone ⊢
          exact writeIvs_sublist_draws ssl P _ c hnone)
    calls s hrand
  have hinj : Function.Injective (Vector.toList : Vector UInt8 8 → List UInt8) := by
    intro a b hab
    exact Vector.toList_inj.mp hab
  exact ((hdistinct.map hinj).sublist hsublist).of_map _

theorem twoFiles_nonces_distinct :
    ((cryptFiles maskSsl (SQLite3FileWrapper .mainDb storeMethods)).collect
      (Component.observed parentPart (writeIvs maskSsl (SQLite3FileWrapper .mainDb storeMethods)))
      ⟨fun _ => none, []⟩ twoFiles).Nodup :=
  nonces_of_all_files_distinct maskSsl _ _ twoFiles (by decide +kernel) (by decide +kernel)

end Ysqlite3.Vfs
