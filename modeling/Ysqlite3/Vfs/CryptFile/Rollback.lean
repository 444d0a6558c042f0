import Ysqlite3.Vfs.CryptFile.Transformation

/-!
# An abandoned re-encryption

Rolling back writes the original contents through the same path, so they end up encoded under the new
encryptor, and switching the mode off puts that one into use. Pages that were not touched stay encoded
under the old encryptor.
-/

namespace Ysqlite3.Vfs

open PageTransformingFile Crypt

variable {σ : Type} {p : PageSize}

/-- A page write during which OpenSSL does its work. -/
structure PageWrite (p : PageSize) where
  k : Nat
  page : Page p
  rand : Vector UInt8 8

def PageWrite.toCryptCall (w : PageWrite p) : CryptCall σ :=
  (PageCall.write w.k w.page w.rand).toCryptCall

/-- The page `j` is in both stores, with the same bytes. -/
structure SamePage (p : PageSize) (s s' : Bytes) (j : Nat) : Prop where
  inFile : p.offset j + p.size ≤ s'.length
  same : Store.readAt s' (p.offset j) p.size = Store.readAt s (p.offset j) p.size

theorem SamePage.opens {ssl : OpenSsl} {encryptor : Encryptor} {s s' : Bytes} {j : Nat}
    {page : Page p} (hsame : SamePage p s s' j) (h : PageOpens ssl encryptor p s j page) :
    PageOpens ssl encryptor p s' j page := by
  refine ⟨hsame.inFile, ?_⟩
  rw [hsame.same]
  exact h.opens

/-- Without a cipher the key is not looked at. -/
theorem pageOpens_of_no_cipher {ssl : OpenSsl} {old new : Encryptor} {s : Bytes} {k : Nat}
    {page : Page p} (hold : old.cipher = none) (hnew : new.cipher = none)
    (h : PageOpens ssl old p s k page) : PageOpens ssl new p s k page := by
  obtain ⟨hin, hopens⟩ := h
  refine ⟨hin, ?_, ?_⟩
  · intro cipher hcipher
    rw [hnew] at hcipher
    cases hcipher
  · obtain ⟨hlen, hbytes⟩ := hopens.same
    simp only [openedPage, hold] at hlen hbytes
    simp only [openedPage, hnew]
    exact ⟨hlen, fun i hi _ => hbytes i hi (Or.inl trivial)⟩

section Writes

variable {ssl : OpenSsl} {P : File σ} {content : σ → Bytes} {old new : Encryptor}
  {self : PageTransformingFile Crypt σ}

/-- A page whose reserve byte does not fit is refused before anything is stored. -/
theorem write_not_fits (ssl : OpenSsl) (hf : P.format = .mainDb) (w : PageWrite p)
    (hfits : ¬ ReserveFits self.derived.writing w.k w.page) :
    ((cryptFile ssl P).next self w.toCryptCall).parent = self.parent := by
  have hrejected : reserveRejected (transformer ssl) w.page.val (p.offset w.k) self.derived = true :=
    reserveRejected_of_not_fits ssl w.page.le_length hfits
  obtain ⟨size, hthrow⟩ : ∃ size, write (transformer ssl) P (.succeed w.rand) w.page.val
      (p.offset w.k) self =
        .throws (.sqlite3 .generic "bad reserve size") { self with pageSize := size } :=
    write_page_rejected hf w.page.le_length hrejected
  simp only [Component.next, cryptFile, PageWrite.toCryptCall, PageCall.toCryptCall,
    Page.val_toBuffer, hthrow]
  rfl

/-- A page write while the mode is on stores the page under the new encryptor, or, where the reserve
byte does not fit, nothing. -/
theorem write_transforming (ssl : OpenSsl) (hP : Faithful P content) (hf : P.format = .mainDb)
    (h : Transforming old new self.derived) (w : PageWrite p) :
    Transforming old new ((cryptFile ssl P).next self w.toCryptCall).derived ∧
      ((ReserveFits new w.k w.page → PageOpens ssl new p
          (content ((cryptFile ssl P).next self w.toCryptCall).parent) w.k w.page) ∧
        ∀ j, j ≠ w.k → p.offset j + p.size ≤ (content self.parent).length →
          SamePage p (content self.parent)
            (content ((cryptFile ssl P).next self w.toCryptCall).parent) j) := by
  obtain ⟨events, -, hderived⟩ := next_write_derived ssl P self
    w.page.toBuffer (p.offset w.k) (.succeed w.rand)
  refine ⟨hderived ▸ h.logged events, ?_⟩
  by_cases hfits : ReserveFits new w.k w.page
  · have hfits' := hfits
    rw [← h.writing] at hfits'
    obtain ⟨-, b, hlen, hcontent, hopens⟩ := answers_write ssl hP hf hfits' w.rand
    rw [h.writing] at hopens
    refine ⟨fun _ => hopens, ?_⟩
    intro j hj hin
    change SamePage p _ (content ((cryptFile ssl P).next self
      (PageCall.write w.k w.page w.rand).toCryptCall).parent) j
    rw [hcontent]
    refine ⟨?_, readAt_writePage_ne hlen hj (Store.length_readAt_of_le hin)⟩
    rw [Store.length_writeAt]
    omega
  · have hfits' := hfits
    rw [← h.writing] at hfits'
    refine ⟨fun hfits'' => absurd hfits'' hfits, ?_⟩
    intro j _ hin
    rw [write_not_fits ssl hf w hfits']
    exact ⟨hin, rfl⟩

/-- A sequence of page writes: the pages it does not touch keep their bytes. -/
theorem run_untouched (ssl : OpenSsl) (hP : Faithful P content) (hf : P.format = .mainDb)
    {ws : List (PageWrite p)} (h : Transforming old new self.derived) {j : Nat}
    (hj : ∀ w ∈ ws, w.k ≠ j) (hin : p.offset j + p.size ≤ (content self.parent).length) :
    SamePage p (content self.parent)
      (content ((cryptFile ssl P).run self (ws.map PageWrite.toCryptCall)).parent) j := by
  induction ws generalizing self with
  | nil => exact ⟨hin, rfl⟩
  | cons w ws ih =>
    obtain ⟨hmode, -, hothers⟩ := write_transforming ssl hP hf h w
    have hfirst := hothers j (Ne.symm (hj w List.mem_cons_self)) hin
    have hrest := ih hmode (fun v hv => hj v (List.mem_cons_of_mem w hv)) hfirst.inFile
    exact ⟨hrest.inFile, hrest.same.trans hfirst.same⟩

theorem run_writes_mode (ssl : OpenSsl) (hP : Faithful P content) (hf : P.format = .mainDb)
    (ws : List (PageWrite p)) (h : Transforming old new self.derived) :
    Transforming old new
      ((cryptFile ssl P).run self (ws.map PageWrite.toCryptCall)).derived := by
  induction ws generalizing self with
  | nil => exact h
  | cons w ws ih => exact ih (write_transforming ssl hP hf h w).1

/-- A page to which the sequence writes only one content, which fits, opens to it afterwards. -/
theorem run_touched (ssl : OpenSsl) (hP : Faithful P content) (hf : P.format = .mainDb)
    {ws : List (PageWrite p)} (h : Transforming old new self.derived) {j : Nat} {page : Page p}
    (htouched : ∃ w ∈ ws, w.k = j) (honly : ∀ w ∈ ws, w.k = j → w.page = page)
    (hfits : ReserveFits new j page) :
    PageOpens ssl new p
      (content ((cryptFile ssl P).run self (ws.map PageWrite.toCryptCall)).parent) j page := by
  induction ws generalizing self with
  | nil =>
    obtain ⟨w, hw, -⟩ := htouched
    cases hw
  | cons w ws ih =>
    obtain ⟨hmode, hthis, -⟩ := write_transforming ssl hP hf h w
    by_cases hlater : ∃ v ∈ ws, v.k = j
    · exact ih hmode hlater (fun v hv => honly v (List.mem_cons_of_mem w hv))
    · have hnever : ∀ v ∈ ws, v.k ≠ j := fun v hv hvj => hlater ⟨v, hv, hvj⟩
      obtain ⟨v, hv, hvj⟩ := htouched
      rcases List.mem_cons.mp hv with rfl | hv
      · subst hvj
        have hpage := honly v List.mem_cons_self rfl
        rw [← hpage] at hfits ⊢
        have hopens := hthis hfits
        exact (run_untouched ssl hP hf hmode hnever hopens.inFile).opens hopens
      · exact absurd hvj (hnever v hv)

end Writes

/-- Every read of page `k` replies the content `page`, up to IV and tag. -/
def ReadsBack (ssl : OpenSsl) (P : File σ) (encryptor : Encryptor)
    (file : PageTransformingFile Crypt σ) (k : Nat) (page : Page p) : Prop :=
  ∀ (buffer : Page p) (rand : Vector UInt8 8), Answers encryptor
    ((cryptFile ssl P).reply file (PageCall.read k buffer rand).toCryptCall) (.page (some page))

/-- Outside a re-encryption, a page that opens under the current encryptor is read back. -/
theorem readsBack_of_opens {ssl : OpenSsl} {P : File σ} {content : σ → Bytes}
    {encryptor : Encryptor} {file : PageTransformingFile Crypt σ} {k : Nat} {page : Page p}
    (hP : Faithful P content) (hf : P.format = .mainDb) (hoff : file.derived.transform = false)
    (hcurrent : file.derived.current = encryptor) (hfits : ReserveFits encryptor k page)
    (hopens : PageOpens ssl encryptor p (content file.parent) k page) :
    ReadsBack ssl P encryptor file k page := by
  intro buffer rand
  have hwriting : file.derived.writing = encryptor := by
    rw [Crypt.writing, if_neg (by rw [hoff]; simp), hcurrent]
  rw [← hwriting] at hfits
  rw [← hcurrent] at hopens ⊢
  exact answers_read hP hf hopens hfits buffer rand

/-- What an abandoned re-encryption leaves. A page whose original content was written back, and not
refused for its reserve byte, is read with that content. A page that was not touched is stored as it was,
and read with its content where the settings came back to the old encryptor, or where there is no cipher
before and after. -/
theorem abandoned_reencryption (ssl : OpenSsl) (P : File σ) (content : σ → Bytes)
    (hP : Faithful P content) (hf : P.format = .mainDb) (p : PageSize)
    (self : PageTransformingFile Crypt σ) (hoff : self.derived.transform = false)
    (n : Nat) (pages : Nat → Page p)
    (hpages : ∀ k < n, ReserveFits self.derived.current k (pages k) ∧
      PageOpens ssl self.derived.current p (content self.parent) k (pages k))
    (settings : List Setting) (hsettings : ∀ s ∈ settings, s.mode ≠ some false)
    (writes back : List (PageWrite p)) (hback : ∀ w ∈ back, w.page = pages w.k)
    (hcover : ∀ w ∈ writes, ∃ v ∈ back, v.k = w.k) :
    let new := settledEncryptor ssl self.derived.current settings
    let after := finished ssl P ((cryptFile ssl P).run (started ssl P self settings)
      ((writes ++ back).map PageWrite.toCryptCall))
    after.derived.transform = false ∧ after.derived.current = new ∧
      ∀ k < n,
        ((∃ w ∈ back, w.k = k) → ReserveFits new k (pages k) →
          ReadsBack ssl P new after k (pages k)) ∧
        ((∀ w ∈ back, w.k ≠ k) →
          SamePage p (content self.parent) (content after.parent) k ∧
            (new = self.derived.current ∨ self.derived.current.cipher = none ∧ new.cipher = none →
              ReadsBack ssl P new after k (pages k))) := by
  intro new after
  obtain ⟨hmode, hparent⟩ := started_transforming ssl P hoff hsettings
  have hend := run_writes_mode ssl hP hf (writes ++ back) hmode
  obtain ⟨hoff', hcurrent, hcontent⟩ := finished_off ssl P hend
  have hreads : ∀ {k : Nat}, ReserveFits new k (pages k) →
      PageOpens ssl new p (content after.parent) k (pages k) →
        ReadsBack ssl P new after k (pages k) :=
    fun hfits hopens => readsBack_of_opens hP hf hoff' hcurrent hfits hopens
  refine ⟨hoff', hcurrent, ?_⟩
  intro k hk
  obtain ⟨hfits, hopens⟩ := hpages k hk
  constructor
  · -- the write back comes after every other write to the page
    intro htouched hfits'
    apply hreads hfits'
    rw [hcontent, List.map_append, Component.run_append]
    have hmode' := run_writes_mode ssl hP hf writes hmode
    refine run_touched ssl hP hf hmode' htouched ?_ hfits'
    rintro w hw rfl
    exact hback w hw
  · intro huntouched
    have hnever : ∀ w ∈ writes ++ back, w.k ≠ k := by
      intro w hw hwk
      rcases List.mem_append.mp hw with hw | hw
      · obtain ⟨v, hv, hvw⟩ := hcover w hw
        exact huntouched v hv (hvw.trans hwk)
      · exact huntouched w hw hwk
    have hin := hopens.inFile
    rw [← hparent] at hin
    have hsame : SamePage p (content self.parent) (content after.parent) k := by
      rw [hcontent, ← hparent]
      exact run_untouched ssl hP hf hmode hnever hin
    refine ⟨hsame, ?_⟩
    have hopens' := hsame.opens hopens
    rintro (hnew | ⟨hold, hnew⟩)
    · rw [← hnew] at hfits hopens'
      exact hreads hfits hopens'
    · exact hreads (fun _ hcipher => absurd hnew hcipher)
        (pageOpens_of_no_cipher hold hnew hopens')

/-- The page re-encrypted, its original content written back, and the key set again. -/
theorem oneEncryptedPage_abandoned :
    let P : File Bytes := SQLite3FileWrapper .mainDb storeMethods
    let settings : List Setting := [⟨.key, cstr "r'b'"⟩, ⟨.cipher, cstr "aes-128-gcm"⟩]
    let writes : List (PageWrite smallPages) := [⟨0, firstPage, Vector.replicate 8 2⟩]
    let back : List (PageWrite smallPages) := [⟨0, firstPage, Vector.replicate 8 3⟩]
    let new := settledEncryptor maskSsl oneEncryptedPage.derived.current settings
    let after := finished maskSsl P ((cryptFile maskSsl P).run
      (started maskSsl P oneEncryptedPage settings)
      ((writes ++ back).map PageWrite.toCryptCall))
    after.derived.transform = false ∧ after.derived.current = new ∧
      ∀ k < 1,
        ((∃ w ∈ back, w.k = k) → ReserveFits new k firstPage →
          ReadsBack maskSsl P new after k firstPage) ∧
        ((∀ w ∈ back, w.k ≠ k) →
          SamePage smallPages oneEncryptedPage.parent after.parent k ∧
            (new = oneEncryptedPage.derived.current ∨
                oneEncryptedPage.derived.current.cipher = none ∧ new.cipher = none →
              ReadsBack maskSsl P new after k firstPage)) := by
  intro P settings writes back
  have hpages : ∀ k < 1, ReserveFits oneEncryptedPage.derived.current k firstPage ∧
      PageOpens maskSsl oneEncryptedPage.derived.current smallPages oneEncryptedPage.parent k
        firstPage := by
    intro k hk
    exact ⟨fun _ _ => rfl, oneEncryptedPage_opens k hk⟩
  have hsettings : ∀ s ∈ settings, s.mode ≠ some false := by decide
  have hback : ∀ w ∈ back, w.page = firstPage := by
    intro w hw
    rw [List.mem_singleton.mp hw]
  have hcover : ∀ w ∈ writes, ∃ v ∈ back, v.k = w.k := by
    intro w hw
    rw [List.mem_singleton.mp hw]
    exact ⟨_, List.mem_cons_self, rfl⟩
  exact abandoned_reencryption maskSsl P (fun s => s) (storeMethods_faithful .mainDb) rfl
    smallPages oneEncryptedPage rfl 1 (fun _ => firstPage) hpages settings hsettings writes back
    hback hcover

/-- A page that is read back has its bytes in the reply. -/
theorem ReadsBack.byteAt {ssl : OpenSsl} {P : File σ} {encryptor : Encryptor}
    {file : PageTransformingFile Crypt σ} {k i : Nat} {page : Page p}
    (h : ReadsBack ssl P encryptor file k page) (hi : i < p.size - 32) (buffer : Page p)
    (rand : Vector UInt8 8) :
    ((cryptFile ssl P).reply file (PageCall.read k buffer rand).toCryptCall).byteAt i =
      page.val[i]? := by
  have hread := h buffer rand
  cases hreply : (cryptFile ssl P).reply file (PageCall.read k buffer rand).toCryptCall with
  | bytes b =>
    rw [hreply] at hread
    have hlen := page.property
    exact hread.2 i (by omega) (Or.inr (Or.inl (by omega)))
  | _ =>
    rw [hreply] at hread
    exact hread.elim

/-- A database of one page that reserves nothing, without a cipher. -/
def onePlainPage : PageTransformingFile Crypt Bytes :=
  ⟨List.replicate 512 0, ⟨false, Encryptor.initial, Encryptor.initial, []⟩, [], 0⟩

def plainPage : Page smallPages := ⟨List.replicate 512 0, List.length_replicate⟩

/-- Switching off commits: under the new key an untouched page does not open, and under the first
cipher a page that reserves nothing cannot be written back. -/
theorem abandoned_reencryption_loses :
    let P : File Bytes := SQLite3FileWrapper .mainDb storeMethods
    let writes : List (PageWrite smallPages) := [⟨0, firstPage, Vector.replicate 8 2⟩]
    let back : List (PageWrite smallPages) := [⟨0, plainPage, Vector.replicate 8 3⟩]
    (PageOpens maskSsl oneEncryptedPage.derived.current smallPages oneEncryptedPage.parent 0
        firstPage ∧
      ∀ encryptor, ¬ ReadsBack maskSsl P encryptor
        (finished maskSsl P (started maskSsl P oneEncryptedPage [⟨.key, cstr "r'b'"⟩])) 0
        firstPage) ∧
    (PageOpens maskSsl onePlainPage.derived.current smallPages onePlainPage.parent 0 plainPage ∧
      ∀ encryptor, ¬ ReadsBack maskSsl P encryptor
        (finished maskSsl P ((cryptFile maskSsl P).run
          (started maskSsl P onePlainPage [⟨.cipher, cstr "aes-256-gcm"⟩])
          ((writes ++ back).map PageWrite.toCryptCall))) 0
        plainPage) := by
  intro P writes back
  refine ⟨⟨oneEncryptedPage_opens 0 Nat.zero_lt_one, ?_⟩, ⟨?_, ?_⟩⟩
  · intro encryptor h
    have hbyte := h.byteAt (i := 0) (by decide) firstPage (Vector.replicate 8 0)
    have hfails : (firstPage.val[0]? : Option UInt8) = none := by
      rw [← hbyte]
      decide +kernel
    exact absurd hfails (by decide +kernel)
  · -- without a cipher the page is stored as it is
    have hstored : PageOpens maskSsl onePlainPage.derived.current smallPages
        (storedPage maskSsl (.succeed (Vector.replicate 8 0)) onePlainPage.derived.current 100
          plainPage) 0 plainPage :=
      pageOpens_storedPage maskSsl onePlainPage.derived.current plainPage rfl
    exact hstored
  · intro encryptor h
    have hbyte := h.byteAt (i := 0) (by decide) firstPage (Vector.replicate 8 0)
    have hother : (plainPage.val[0]? : Option UInt8) = some 32 := by
      rw [← hbyte]
      decide +kernel
    exact absurd hother (by decide +kernel)

end Ysqlite3.Vfs
