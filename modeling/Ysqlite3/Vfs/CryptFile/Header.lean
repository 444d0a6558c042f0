import Ysqlite3.Vfs.CryptFile.Interleavings

/-!
# The header that all connections see

SQLite tells from the change counter in the header, which it reads without the rest of the page, whether
another connection has written to the file since. The header is not encrypted, so that works for connections
that have no key, and for those that have another one.
-/

namespace Ysqlite3.Vfs

open PageTransformingFile Crypt

variable {σ : Type} {ssl : OpenSsl} {P : File σ} {content : σ → Bytes}

/-- The header, if there is as much of the file. -/
def headerOf (s : Bytes) : Bytes := Store.readAt s 0 100

/-- The header that a call sets: a page written to the beginning of the file. -/
def headerWritten (c : CryptCall σ) (reply : FileReply) : Option Bytes :=
  match c, reply with
  | .write buffer offset _, .done => if offset = 0 then some (headerOf buffer.val) else none
  | _, _ => none

/-- What SQLite does with the file: it reads whatever it likes, writes pages, and uses the pragmas. -/
def WritesPages (_self : PageTransformingFile Crypt σ) : CryptCall σ → Prop
  | .read _ _ _ => True
  | .write buffer offset _ => 512 ≤ buffer.val.length ∧ (offset = 0 ∨ 100 ≤ offset)
  | .pragma name _ _ => (Pragma.ofName name).isSome
  | .tamper _ => False

/-- A crash, or a file that is truncated, leaves the header. -/
def LeavesHeader (content : σ → Bytes) (resource left : σ) : Prop :=
  100 ≤ (content left).length ∧ headerOf (content left) = headerOf (content resource)

/-- What is clear of a page is stored as it is. -/
theorem headerOf_storedPage (ssl : OpenSsl) (calls : CryptoCalls) (encryptor : Encryptor) {buffer : Bytes}
    (h : 100 ≤ buffer.length) : headerOf (storedPage ssl calls encryptor 100 buffer) = headerOf buffer := by
  unfold headerOf storedPage
  cases encryptor.cipher with
  | none => rfl
  | some cipher =>
    have hclear : (buffer.take 100).length = 100 := List.length_take_of_le h
    exact List.take_left' hclear

theorem headerOf_writeAt (s : Bytes) {b : Bytes} (h : 100 ≤ b.length) :
    headerOf (Store.writeAt 0 s 0 b) = headerOf b := by
  have hwritten := Store.readAt_writeAt_same 0 s 0 b
  have hinside : Store.readAt (Store.readAt (Store.writeAt 0 s 0 b) 0 b.length) 0 100 =
      Store.readAt (Store.writeAt 0 s 0 b) 0 100 := Store.readAt_readAt (by omega)
  rw [headerOf, ← hinside, hwritten, headerOf]

/-- The step lemma: a call sets the header as `headerWritten` says. -/
theorem next_headerOf (ssl : OpenSsl) (hP : Faithful P content) (hf : P.format = .mainDb)
    (self : PageTransformingFile Crypt σ) (c : CryptCall σ) (hlong : 100 ≤ (content self.parent).length)
    (hc : WritesPages self c) :
    100 ≤ (content ((cryptFile ssl P).next self c).parent).length ∧
      headerOf (content ((cryptFile ssl P).next self c).parent) =
        (headerWritten c ((cryptFile ssl P).reply self c)).getD (headerOf (content self.parent)) := by
  cases c with
  | read buffer offset calls =>
    rw [next_read_content ssl hP]
    exact ⟨hlong, rfl⟩
  | pragma name value kdf =>
    rw [next_pragma_parent ssl P self hc]
    exact ⟨hlong, rfl⟩
  | tamper parent => exact hc.elim
  | write buffer offset calls =>
    obtain ⟨hsize, hoffset⟩ := hc
    rcases next_write_content ssl hP hf self hsize offset calls with ⟨hfails, hsame⟩ | ⟨hdone, b, hb, hcontent⟩
    · have hnone : headerWritten (.write (σ := σ) buffer offset calls)
          ((cryptFile ssl P).reply self (.write buffer offset calls)) = none := by
        unfold headerWritten
        split
        · rename_i heq hreply
          exact absurd hreply hfails
        · rfl
      rw [hsame, hnone]
      exact ⟨hlong, rfl⟩
    · have hlength : 100 ≤ (content ((cryptFile ssl P).next self
          (.write buffer offset calls)).parent).length := by
        rw [hcontent, Store.length_writeAt]
        omega
      refine ⟨hlength, ?_⟩
      rw [hdone]
      rcases hoffset with rfl | hbehind
      · obtain ⟨-, hstored, -⟩ := writePage_returned hP hf hsize buffer.property (reply_write_done hdone)
        rw [clearSize_mainDb_zero] at hstored
        rw [hstored, headerOf_writeAt, headerOf_storedPage ssl calls _ (by omega)]
        · rfl
        · rw [length_storedPage (by omega)]
          omega
      · have hne : offset ≠ 0 := by omega
        rw [hcontent, headerOf, Store.readAt_writeAt_disjoint 0 (by omega) (Or.inl (by omega))]
        simp only [headerWritten, if_neg hne]
        rfl

/-- In every run of any number of Crypt_files over one file, whatever their keys and ciphers are and whichever
calls fail, a read inside the header through any of them delivers the header of the page that was last written
to the beginning of the file, through whichever of them. -/
theorem header_seen_by_all (ssl : OpenSsl) (P : File σ) (content : σ → Bytes) (hP : Faithful P content)
    (hf : P.format = .mainDb) (s : Instances Nat (PageTransformingFile Crypt σ) σ)
    (hlong : 100 ≤ (content s.resource).length)
    (calls : List (InstanceCall Nat (PageTransformingFile Crypt σ) σ (CryptCall σ) σ))
    (hcalls : (cryptFiles ssl P).Throughout
      (Component.Permits parentPart WritesPages (LeavesHeader content)) s calls)
    (id : Nat) (hopen : ((cryptFiles ssl P).run s calls).instances id ≠ none)
    (buffer : Buffer) (offset : Nat) (readCalls : CryptoCalls) (hin : offset + buffer.val.length ≤ 100) :
    (cryptFiles ssl P).reply ((cryptFiles ssl P).run s calls) (.call id (.read buffer offset readCalls)) =
      some (.bytes (Store.readAt
        (Component.lastOf (Component.answered headerWritten) (headerOf (content s.resource))
          (calls.zip ((cryptFiles ssl P).replies s calls)))
        offset buffer.val.length)) := by
  obtain ⟨hfile, hheader⟩ := Component.resource_observed (cryptFile ssl P) parentPart (fun _ left => left)
    (fun r => 100 ≤ (content r).length) (fun r => headerOf (content r)) headerWritten
    (fun self c => next_headerOf ssl hP hf self c) (fun _ _ _ hleft => hleft) hlong hcalls
  obtain ⟨self, hself⟩ := Option.ne_none_iff_exists'.mp hopen
  rw [cryptFiles_reply hself]
  change 100 ≤ (content ((cryptFiles ssl P).run s calls).resource).length at hfile
  change headerOf (content ((cryptFiles ssl P).run s calls).resource) = _ at hheader
  generalize ((cryptFiles ssl P).run s calls).resource = r at hfile hheader ⊢
  -- Such a read is no page, so it shows the bytes of the parent.
  have hshort : isPage P.format buffer.val.length = false := isPage_of_lt (by omega)
  obtain ⟨parent, -, hread⟩ := hP.read buffer.val offset r buffer.property
  rw [if_pos (Store.length_readAt_of_le (by omega))] at hread
  have hslice : Store.readAt (content r) offset buffer.val.length =
      Store.readAt (headerOf (content r)) offset buffer.val.length := by
    rw [headerOf, Store.readAt_readAt hin, Nat.zero_add]
  have hread' : P.read buffer.val offset (parentPart.set r self).parent =
      .returns () (Store.readAt (headerOf (content r)) offset buffer.val.length, parent) := by
    rw [← hslice]
    exact hread
  simp only [Component.reply, cryptFile, read_of_not_isPage hshort, hread', hheader]
  rfl

/-- A connection without a key sees the header that another one has written along with an encrypted page. -/
theorem header_seen_without_key :
    let P : File Bytes := SQLite3FileWrapper .mainDb storeMethods
    let s : Instances Nat (PageTransformingFile Crypt Bytes) Bytes := ⟨fun _ => none, List.replicate 512 0⟩
    let calls : List (InstanceCall Nat (PageTransformingFile Crypt Bytes) Bytes (CryptCall Bytes) Bytes) :=
      [.opens 0 (fun parent => some { encryptedFile with parent }),
        .opens 1 (openCrypt maskSsl .succeeds none none),
        .call 0 (.write (filledPage 32) 0 (.succeed (Vector.replicate 8 1)))]
    (cryptFiles maskSsl P).reply ((cryptFiles maskSsl P).run s calls)
        (.call 1 (.read ⟨List.replicate 16 0, by decide⟩ 24 (.succeed (Vector.replicate 8 0)))) =
      some (.bytes (List.replicate 16 32)) := by
  intro P s calls
  have hcalls : (cryptFiles maskSsl P).Throughout
      (Component.Permits parentPart WritesPages (LeavesHeader fun s => s)) s calls :=
    ⟨trivial, trivial, ⟨_, rfl, by decide +kernel, Or.inl rfl⟩, trivial⟩
  have hopen : ((cryptFiles maskSsl P).run s calls).instances 1 ≠ none := by
    rw [← Option.isSome_iff_ne_none]
    decide +kernel
  rw [header_seen_by_all maskSsl P (fun s => s) (storeMethods_faithful .mainDb) rfl s
    (by decide +kernel) calls hcalls 1 hopen _ 24 _ (by decide)]
  have hheader : Component.lastOf (Component.answered headerWritten) (headerOf s.resource)
      (calls.zip ((cryptFiles maskSsl P).replies s calls)) = List.replicate 100 32 := by
    decide +kernel
  rw [hheader]
  decide

end Ysqlite3.Vfs
