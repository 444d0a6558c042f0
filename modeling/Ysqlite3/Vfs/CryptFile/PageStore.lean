import Ysqlite3.Vfs.CryptFile.Calls
import Mathlib.Logic.Function.Basic

/-!
# An encrypted file is a store of pages

With the mode off and one key and cipher, a Crypt_file answers page reads and page writes as a
plain map from page numbers to pages does, up to the bytes that hold IV and tag. The header stays
readable in pieces.
-/

namespace Ysqlite3.Vfs

open PageTransformingFile Crypt

variable {σ : Type} {p : PageSize}

/-- A page access during which OpenSSL does its work and `RAND_bytes` yields `rand`. -/
inductive PageCall (p : PageSize) where
  | read (k : Nat) (buffer : Page p) (rand : Vector UInt8 8)
  | write (k : Nat) (page : Page p) (rand : Vector UInt8 8)

def PageCall.toCryptCall : PageCall p → CryptCall σ
  | .read k buffer rand => .read buffer.toBuffer (p.offset k) (.succeed rand)
  | .write k page rand => .write page.toBuffer (p.offset k) (.succeed rand)

/-- A write of the first page that is to be encrypted carries the reserve byte 32. -/
def PageCall.Fits (encryptor : Encryptor) : PageCall p → Prop
  | .read _ _ _ => True
  | .write k page _ => ReserveFits encryptor k page

/-! ## The plain store -/

/-- What the plain store replies; there is no promise about a page never written. -/
inductive PageReply (p : PageSize) where
  | written
  | page (page : Option (Page p))

/-- A map from page numbers to pages, read and written. -/
def pageStore (p : PageSize) : Component (Nat → Option (Page p)) (PageCall p) (PageReply p) where
  step store
    | .read k _ _ => (.page (store k), store)
    | .write k page _ => (.written, Function.update store k (some page))

/-- The file answers as the plain store does, up to IV and tag. -/
def Answers (encryptor : Encryptor) : FileReply → PageReply p → Prop
  | .done, .written => True
  | .bytes b, .page (some page) => SameExceptTag encryptor page b
  | _, .page none => True
  | _, _ => False

/-! ## The refinement -/

section Refinement

variable {ssl : OpenSsl} {P : File σ} {content : σ → Bytes} {encryptor : Encryptor}
  {self : PageTransformingFile Crypt σ} {store : Nat → Option (Page p)}

/-- Every page of the plain store opens in the file. -/
structure Represents (ssl : OpenSsl) (content : σ → Bytes) (encryptor : Encryptor)
    (file : PageTransformingFile Crypt σ) (store : Nat → Option (Page p)) : Prop where
  off : file.derived.transform = false
  current : file.derived.current = encryptor
  pages : ∀ k page, store k = some page →
    ReserveFits encryptor k page ∧ PageOpens ssl encryptor p (content file.parent) k page

theorem Represents.writing (h : Represents ssl content encryptor self store) :
    self.derived.writing = encryptor := by
  simp only [Crypt.writing, h.off, h.current, Bool.false_eq_true, if_false]

/-- The relation looks at the mode, the current encryptor and the content of the parent. -/
theorem Represents.congr {self' : PageTransformingFile Crypt σ} {events : List CryptoEvent}
    (h : Represents ssl content encryptor self store)
    (hderived : self'.derived = self.derived.logged events)
    (hcontent : content self'.parent = content self.parent) :
    Represents ssl content encryptor self' store where
  off := by rw [hderived, transform_logged, h.off]
  current := by rw [hderived, current_logged, h.current]
  pages := by rw [hcontent]; exact h.pages

theorem decrypts_succeed (rand : Vector UInt8 8) : Decrypts (.succeed rand) := ⟨rfl, rfl, rfl, rfl⟩

theorem encrypts_succeed (rand : Vector UInt8 8) : Encrypts (.succeed rand) := ⟨rfl, rfl, rfl⟩

/-- A page that opens under the current encryptor is what a read of it replies. -/
theorem answers_read (hP : Faithful P content) (hf : P.format = .mainDb) {k : Nat} {page : Page p}
    (hopens : PageOpens ssl self.derived.current p (content self.parent) k page)
    (hfits : ReserveFits self.derived.writing k page) (buffer : Page p) (rand : Vector UInt8 8) :
    Answers self.derived.current
      ((cryptFile ssl P).reply self (PageCall.read k buffer rand).toCryptCall)
      (.page (some page)) := by
  obtain ⟨b, self', hret, hsame, -, -⟩ :=
    readPage_opens hP hf hopens hfits (Or.inr (decrypts_succeed rand)) buffer
  simp only [Component.reply, cryptFile, PageCall.toCryptCall, Page.val_toBuffer, hret]
  exact hsame

/-- A page write replies success, and the page then opens under the encryptor in use. -/
theorem answers_write (ssl : OpenSsl) (hP : Faithful P content) (hf : P.format = .mainDb) {k : Nat}
    {page : Page p} (hfits : ReserveFits self.derived.writing k page) (rand : Vector UInt8 8) :
    (cryptFile ssl P).reply self (PageCall.write k page rand).toCryptCall = .done ∧
      ∃ b, b.length = p.size ∧
        content ((cryptFile ssl P).next self (PageCall.write k page rand).toCryptCall).parent =
          Store.writeAt 0 (content self.parent) (p.offset k) b ∧
        PageOpens ssl self.derived.writing p
          (content ((cryptFile ssl P).next self (PageCall.write k page rand).toCryptCall).parent)
          k page := by
  obtain ⟨self', b, hret, hlen, hcontent, hopens, -⟩ :=
    writePage_opens ssl hP hf page hfits (Or.inr ⟨encrypts_succeed rand, rfl⟩)
  simp only [Component.reply, Component.next, cryptFile, PageCall.toCryptCall, Page.val_toBuffer,
    hret]
  exact ⟨rfl, b, hlen, hcontent, hopens⟩

theorem readPage_simulates_store (hP : Faithful P content) (hf : P.format = .mainDb)
    (h : Represents ssl content encryptor self store) (k : Nat) (buffer : Page p)
    (rand : Vector UInt8 8) :
    Answers encryptor ((cryptFile ssl P).reply self (PageCall.read k buffer rand).toCryptCall)
        (.page (store k)) ∧
      Represents ssl content encryptor
        ((cryptFile ssl P).next self (PageCall.read k buffer rand).toCryptCall) store := by
  constructor
  · cases hk : store k with
    | none =>
      cases (cryptFile ssl P).reply self (PageCall.read k buffer rand).toCryptCall <;> trivial
    | some page =>
      obtain ⟨hfits, hopens⟩ := h.pages k page hk
      rw [← h.writing] at hfits
      rw [← h.current] at hopens ⊢
      exact answers_read hP hf hopens hfits buffer rand
  · obtain ⟨events, -, hderived⟩ := next_read_derived ssl P self
      buffer.toBuffer (p.offset k) (.succeed rand)
    exact h.congr hderived (next_read_content ssl hP self _ _ _)

theorem writePage_simulates_store (hP : Faithful P content) (hf : P.format = .mainDb)
    (h : Represents ssl content encryptor self store) (k : Nat) (page : Page p)
    (rand : Vector UInt8 8) (hfits : ReserveFits encryptor k page) :
    Answers encryptor ((cryptFile ssl P).reply self (PageCall.write k page rand).toCryptCall)
        (.written : PageReply p) ∧
      Represents ssl content encryptor
        ((cryptFile ssl P).next self (PageCall.write k page rand).toCryptCall)
        (Function.update store k (some page)) := by
  have hfits' := hfits
  rw [← h.writing] at hfits'
  obtain ⟨hreply, b, hlen, hcontent, hopens⟩ := answers_write ssl hP hf hfits' rand
  obtain ⟨events, -, hderived⟩ := next_write_derived ssl P self
    page.toBuffer (p.offset k) (.succeed rand)
  rw [h.writing] at hopens
  refine ⟨by rw [hreply]; trivial, ⟨?_, ?_, ?_⟩⟩
  · exact (congrArg Crypt.transform hderived).trans h.off
  · exact (congrArg Crypt.current hderived).trans h.current
  · intro j page' hj
    by_cases hjk : j = k
    · subst hjk
      rw [Function.update_self, Option.some.injEq] at hj
      subst hj
      exact ⟨hfits, hopens⟩
    · rw [Function.update_of_ne hjk] at hj
      obtain ⟨hfits', hopens'⟩ := h.pages j page' hj
      rw [hcontent]
      exact ⟨hfits', hopens'.write_ne hjk hlen⟩

/-- One page access: the answers agree and the file still represents the store. -/
theorem pageCall_simulates (hP : Faithful P content) (hf : P.format = .mainDb)
    (self : PageTransformingFile Crypt σ) (store : Nat → Option (Page p))
    (_ : Nat → Option (Page p)) (c : PageCall p)
    (h : Represents ssl content encryptor self store) (hc : c.Fits encryptor) :
    Answers encryptor (((cryptFile ssl P).comap PageCall.toCryptCall).reply self c)
        ((pageStore p).reply store c) ∧
      Represents ssl content encryptor (((cryptFile ssl P).comap PageCall.toCryptCall).next self c)
        ((pageStore p).next store c) := by
  cases c with
  | read k buffer rand => exact readPage_simulates_store hP hf h k buffer rand
  | write k page rand => exact writePage_simulates_store hP hf h k page rand hc

/-- A file that represents a store answers as the store does. -/
theorem Represents.replies (hP : Faithful P content) (hf : P.format = .mainDb)
    (h : Represents ssl content encryptor self store) (calls : List (PageCall p))
    (hcalls : ∀ c ∈ calls, c.Fits encryptor) :
    List.Forall₂ (Answers encryptor)
      ((cryptFile ssl P).replies self (calls.map PageCall.toCryptCall))
      ((pageStore p).replies store calls) := by
  have hfits : (pageStore p).Throughout (fun _ c => c.Fits encryptor) store calls :=
    (pageStore p).throughout_of_forall (fun c hc _ => hcalls c hc) _
  rw [Component.replies_map]
  exact Component.replies_related (pageCall_simulates hP hf) h hfits

/-- What a page read at offset 0 delivers, a short read inside the header delivers in part. -/
def HeaderAgrees (ssl : OpenSsl) (P : File σ) (p : PageSize) (self : PageTransformingFile Crypt σ) :
    Prop :=
  ∀ (buffer : Page p) (rand : Vector UInt8 8) (b : Bytes),
    (cryptFile ssl P).reply self (PageCall.read 0 buffer rand).toCryptCall = .bytes b →
    ∀ (short : Buffer) (offset : Nat) (calls : CryptoCalls), offset + short.val.length ≤ 100 →
      (cryptFile ssl P).reply self (.read short offset calls) =
        .bytes (Store.readAt b offset short.val.length)

/-- Decoding leaves the clear part of a page as it is in the file. -/
theorem readAt_openedPage {clear offset n : Nat} {stored : Bytes} (hclear : clear ≤ stored.length)
    (hin : offset + n ≤ clear) :
    Store.readAt (openedPage ssl encryptor clear stored) offset n = Store.readAt stored offset n := by
  unfold openedPage
  cases encryptor.cipher with
  | none => rfl
  | some cipher =>
    apply List.ext_getElem?
    intro i
    rw [Store.getElem?_readAt, Store.getElem?_readAt]
    by_cases hi : i < n
    · rw [if_pos hi, if_pos hi, List.getElem?_append_left (by simp; omega), List.getElem?_take,
        if_pos (by omega)]
    · rw [if_neg hi, if_neg hi]

theorem headerAgrees (ssl : OpenSsl) (hP : Faithful P content) (hf : P.format = .mainDb)
    (p : PageSize) (self : PageTransformingFile Crypt σ) : HeaderAgrees ssl P p self := by
  intro buffer rand b hpage short offset calls hin
  have hsize := buffer.le_length
  obtain ⟨self', hret⟩ := reply_read_bytes hpage
  rw [Page.val_toBuffer, p.offset_zero] at hret
  obtain ⟨hfull, -, hb, -, -⟩ := readPage_returned hP hf hsize buffer.length_lt hret
  have hstored := Store.length_readAt_of_le hfull
  -- the short read is no page, so it shows the bytes of the parent
  have hshort : isPage P.format short.val.length = false := isPage_of_lt (by omega)
  obtain ⟨parent, -, hread⟩ := hP.read short.val offset self.parent short.property
  rw [if_pos (Store.length_readAt_of_le (by omega))] at hread
  have hslice : Store.readAt b offset short.val.length =
      Store.readAt (content self.parent) offset short.val.length := by
    rw [hb, clearSize_mainDb_zero, readAt_openedPage (by omega) hin,
      Store.readAt_readAt (by omega), Nat.zero_add]
  simp only [Component.reply, cryptFile, read_of_not_isPage hshort, hread, hslice]
  rfl

end Refinement

/-- An encrypted page store refines a plain one: with the mode off, a Crypt_file over a faithful
parent answers every sequence of page reads and page writes as the plain store of pages does, up to
the bytes of IV and tag, and in every state on the way the header reads the same in pieces. -/
theorem cryptFile_refines_pageStore {content : σ → Bytes} (ssl : OpenSsl) (P : File σ)
    (hP : Faithful P content) (hf : P.format = .mainDb) (p : PageSize)
    (self : PageTransformingFile Crypt σ) (hoff : self.derived.transform = false)
    (calls : List (PageCall p)) (hcalls : ∀ c ∈ calls, c.Fits self.derived.current) :
    List.Forall₂ (Answers self.derived.current)
        ((cryptFile ssl P).replies self (calls.map PageCall.toCryptCall))
        ((pageStore p).replies (fun _ => none) calls) ∧
      ∀ done rest, calls = done ++ rest →
        HeaderAgrees ssl P p ((cryptFile ssl P).run self (done.map PageCall.toCryptCall)) := by
  constructor
  · have hinit : Represents ssl content self.derived.current self
        (fun _ => (none : Option (Page p))) := ⟨hoff, rfl, by simp⟩
    exact hinit.replies hP hf calls hcalls
  · intro done rest _
    exact headerAgrees ssl hP hf p _

/-- Two pages of an encrypted database, written, read back, and written over. -/
theorem maskSsl_refines_pageStore :
    let P : File Bytes := SQLite3FileWrapper .mainDb storeMethods
    let p : PageSize := ⟨512, by decide, by decide⟩
    let first : Page p := ⟨List.replicate 512 32, List.length_replicate⟩
    let other : Page p := ⟨List.replicate 512 7, List.length_replicate⟩
    let rand := Vector.replicate 8 1
    let encryptor : Encryptor := ⟨some .aes256Gcm, Vector.replicate 32 5⟩
    let self : PageTransformingFile Crypt Bytes :=
      ⟨[], ⟨false, encryptor, Encryptor.initial, []⟩, [], 0⟩
    let calls : List (PageCall p) :=
      [.write 0 first rand, .write 1 other rand, .read 0 other rand, .write 1 first rand,
        .read 1 other rand]
    List.Forall₂ (Answers encryptor)
        ((cryptFile maskSsl P).replies self (calls.map PageCall.toCryptCall))
        ((pageStore p).replies (fun _ => none) calls) ∧
      ∀ done rest, calls = done ++ rest →
        HeaderAgrees maskSsl P p ((cryptFile maskSsl P).run self (done.map PageCall.toCryptCall)) := by
  intro P p first other rand encryptor self calls
  have hcalls : ∀ c ∈ calls, c.Fits encryptor := by
    intro c hc
    simp only [calls, List.mem_cons, List.not_mem_nil, or_false] at hc
    rcases hc with rfl | rfl | rfl | rfl | rfl
    · intro _ _; rfl
    · intro hk; cases hk
    · trivial
    · intro hk; cases hk
    · trivial
  exact cryptFile_refines_pageStore maskSsl P (storeMethods_faithful .mainDb) rfl p self rfl calls
    hcalls

end Ysqlite3.Vfs
