import Ysqlite3.Vfs.CryptFile.PageStore
import Ysqlite3.Vfs.CryptFile.History

/-!
# Re-encryption

While the mode is on, pages are read with the old encryptor and written with the new one. A run that
writes every page before the mode goes off loses nothing. Switching off is always a commit: the new
encryptor takes over for all pages, also for those that were not written.
-/

namespace Ysqlite3.Vfs

open PageTransformingFile Crypt

variable {σ : Type} {p : PageSize}

/-- `crypt_transformation=1` or `crypt_transformation=0` -/
def Setting.switch (on : Bool) : Setting :=
  ⟨.cryptTransformation, cstr (if on then "1" else "0")⟩

theorem Setting.mode_switch (on : Bool) : (Setting.switch on).mode = some on := by
  cases on <;> decide

section Settings

variable (ssl : OpenSsl) (P : File σ) (self : PageTransformingFile Crypt σ)

/-- The file with the mode switched on and the new key and cipher set. -/
def started (settings : List Setting) : PageTransformingFile Crypt σ :=
  (cryptFile ssl P).run self ((Setting.switch true :: settings).map Setting.toCall)

/-- The file with the mode switched off. -/
def finished : PageTransformingFile Crypt σ :=
  (cryptFile ssl P).next self (Setting.switch false).toCall

/-- The encryptor the settings lead to. -/
def settledEncryptor (encryptor : Encryptor) (settings : List Setting) : Encryptor where
  cipher := Component.lastOf Setting.cipher encryptor.cipher settings
  key := Component.lastOf (Setting.key ssl) encryptor.key settings

/-- A setting touches nothing but the encryptors and the mode. -/
theorem next_setting (s : Setting) :
    (cryptFile ssl P).next self s.toCall =
      { self with derived := settled ssl .succeeds s.value self.derived s.pragma } := by
  rcases next_pragma ssl P self s.pragma.name (some s.value) .succeeds with
    ⟨pragma, v, hname, hvalue, hnext⟩ | ⟨hno, -⟩
  · rw [Pragma.ofName_name, Option.some.injEq] at hname
    rw [Option.some.injEq] at hvalue
    subst hname hvalue
    exact hnext
  · simp at hno

/-- Switching to the mode there is changes nothing. -/
theorem next_switch_same (on : Bool) (h : self.derived.transform = on) :
    (cryptFile ssl P).next self (Setting.switch on).toCall = self := by
  rw [next_setting]
  have hsame : (self.derived.cryptTransformation (Setting.switch on).value).2 = self.derived := by
    subst h
    cases hon : self.derived.transform with
    | true =>
      have hdigit : (Setting.switch true).value = [49] := by decide
      simp [cryptTransformation, hdigit, hon]
    | false =>
      have hdigit : (Setting.switch false).value = [48] := by decide
      simp [cryptTransformation, hdigit, hon]
  simp only [Setting.switch, settled] at hsame ⊢
  rw [hsame]

end Settings

/-- The mode is on, between two encryptors. -/
structure Transforming (old new : Encryptor) (d : Crypt) : Prop where
  on : d.transform = true
  current : d.current = old
  transformation : d.transformation = new

theorem Transforming.writing {old new : Encryptor} {d : Crypt} (h : Transforming old new d) :
    d.writing = new := by
  simp only [Crypt.writing, h.on, if_true, h.transformation]

theorem Transforming.logged {old new : Encryptor} {d : Crypt} (h : Transforming old new d)
    (events : List CryptoEvent) : Transforming old new (d.logged events) :=
  ⟨h.on, h.current, h.transformation⟩

section Switching

variable {self : PageTransformingFile Crypt σ}

/-- While the mode stays on, settings leave the encryptor pages are read with alone. -/
theorem run_settings_on (ssl : OpenSsl) (P : File σ) {old : Encryptor} {settings : List Setting}
    (hsettings : ∀ s ∈ settings, s.mode ≠ some false) (hon : self.derived.transform = true)
    (hcurrent : self.derived.current = old) :
    let reached := (cryptFile ssl P).run self (settings.map Setting.toCall)
    reached.derived.transform = true ∧ reached.derived.current = old ∧
      reached.parent = self.parent := by
  induction settings generalizing self with
  | nil => exact ⟨hon, hcurrent, rfl⟩
  | cons s settings ih =>
    have hstep := next_settles ssl P self (s.toCall : CryptCall σ)
    have hmode := hstep.mode
    rw [Setting.modeLeft_toCall] at hmode
    have hon' : ((cryptFile ssl P).next self s.toCall).derived.transform = true := by
      cases hs : s.mode with
      | none => rw [hmode, hs, Option.getD_none, hon]
      | some on =>
        cases on with
        | true => rw [hmode, hs, Option.getD_some]
        | false => exact absurd hs (hsettings s List.mem_cons_self)
    have hcurrent' : ((cryptFile ssl P).next self s.toCall).derived.current = old := by
      rw [hstep.reading hon', if_pos hon, hcurrent]
    obtain ⟨hon'', hcurrent'', hparent⟩ :=
      ih (fun t ht => hsettings t (List.mem_cons_of_mem s ht)) hon' hcurrent'
    refine ⟨hon'', hcurrent'', hparent.trans ?_⟩
    rw [next_setting]

/-- Switching on keeps the encryptor in use for reading, and the settings go to the new one. -/
theorem started_transforming (ssl : OpenSsl) (P : File σ) (hoff : self.derived.transform = false)
    {settings : List Setting} (hsettings : ∀ s ∈ settings, s.mode ≠ some false) :
    Transforming self.derived.current (settledEncryptor ssl self.derived.current settings)
        (started ssl P self settings).derived ∧
      (started ssl P self settings).parent = self.parent := by
  have hwriting : self.derived.writing = self.derived.current := by
    simp only [writing, hoff, Bool.false_eq_true, if_false]
  have hstep := next_settles ssl P self ((Setting.switch true).toCall : CryptCall σ)
  have hmode := hstep.mode
  rw [Setting.modeLeft_toCall, Setting.mode_switch, Option.getD_some] at hmode
  have hcurrent := hstep.reading hmode
  rw [if_neg (by simp [hoff]), hwriting] at hcurrent
  obtain ⟨hon, hcurrent', hparent⟩ := run_settings_on ssl P hsettings hmode hcurrent
  have hnew := afterSettings_writing ssl P self (Setting.switch true :: settings)
  rw [hwriting, Component.lastOf_cons, Component.lastOf_cons] at hnew
  refine ⟨⟨hon, hcurrent', ?_⟩, hparent.trans (by rw [next_setting])⟩
  have hon' : (afterSettings ssl P self (Setting.switch true :: settings)).transform = true := hon
  rw [writing, if_pos hon'] at hnew
  exact hnew

/-- Switching off puts the new encryptor into use for all pages. -/
theorem finished_off {old new : Encryptor} (ssl : OpenSsl) (P : File σ)
    (h : Transforming old new self.derived) :
    (finished ssl P self).derived.transform = false ∧
      (finished ssl P self).derived.current = new ∧
      (finished ssl P self).parent = self.parent := by
  have hstep := next_settles ssl P self ((Setting.switch false).toCall : CryptCall σ)
  have hmode := hstep.mode
  rw [Setting.modeLeft_toCall, Setting.mode_switch, Option.getD_some] at hmode
  have hwriting : ((finished ssl P self).derived).writing = new :=
    Encryptor.ext (hstep.cipher.trans (by rw [h.writing]; rfl))
      (hstep.key.trans (by rw [h.writing]; rfl))
  refine ⟨hmode, ?_, by rw [finished, next_setting]⟩
  rw [writing, if_neg (by rw [finished, hmode]; simp)] at hwriting
  exact hwriting

end Switching

/-! ## A completed run -/

/-- The first page carries the reserve byte 32. -/
def Reserves (k : Nat) (page : Bytes) : Prop := k = 0 → page.getD 20 0 = 32

theorem Reserves.fits {k : Nat} {page : Bytes} (h : Reserves k page) (encryptor : Encryptor) :
    ReserveFits encryptor k page :=
  fun hk _ => h hk

/-- Pages that no write changes: what the reads during the run are to reply. -/
def unchangedPages (pages : Nat → Page p) : Component Unit (PageCall p) (PageReply p) where
  step _
    | .read k _ _ => (.page (some (pages k)), ())
    | .write _ _ _ => (.written, ())

/-- A page is read only before it is written, and every content written carries the reserve byte. -/
def Reencrypts (n : Nat) (written : Nat → Option (Page p)) : PageCall p → Prop
  | .read k _ _ => k < n ∧ written k = none
  | .write k page _ => Reserves k page

/-- The pages of the file during the run: those not yet written open under the old encryptor, the
others under the new one. -/
structure Reencrypting (ssl : OpenSsl) (content : σ → Bytes) (old new : Encryptor) (n : Nat)
    (pages : Nat → Page p) (file : PageTransformingFile Crypt σ)
    (written : Nat → Option (Page p)) : Prop where
  mode : Transforming old new file.derived
  unwritten : ∀ k < n, written k = none →
    Reserves k (pages k) ∧ PageOpens ssl old p (content file.parent) k (pages k)
  rewritten : ∀ k page, written k = some page →
    Reserves k page ∧ PageOpens ssl new p (content file.parent) k page

section Completed

variable {ssl : OpenSsl} {P : File σ} {content : σ → Bytes} {old new : Encryptor} {n : Nat}
  {pages : Nat → Page p} {self : PageTransformingFile Crypt σ} {written : Nat → Option (Page p)}

theorem readPage_reencrypts (hP : Faithful P content) (hf : P.format = .mainDb)
    (h : Reencrypting ssl content old new n pages self written) {k : Nat} (buffer : Page p)
    (rand : Vector UInt8 8) (hk : k < n) (hunwritten : written k = none) :
    Answers old ((cryptFile ssl P).reply self (PageCall.read k buffer rand).toCryptCall)
        (.page (some (pages k))) ∧
      Reencrypting ssl content old new n pages
        ((cryptFile ssl P).next self (PageCall.read k buffer rand).toCryptCall) written := by
  obtain ⟨hreserves, hopens⟩ := h.unwritten k hk hunwritten
  have hcurrent := h.mode.current
  constructor
  · rw [← hcurrent] at hopens ⊢
    exact answers_read hP hf hopens (hreserves.fits _) buffer rand
  · obtain ⟨events, -, hderived⟩ := next_read_derived ssl P self
      buffer.toBuffer (p.offset k) (.succeed rand)
    have hcontent := next_read_content ssl hP self buffer.toBuffer (p.offset k) (.succeed rand)
    refine ⟨?_, ?_, ?_⟩
    · exact hderived ▸ h.mode.logged events
    · intro j hj hnone
      exact hcontent ▸ h.unwritten j hj hnone
    · intro j page hj
      exact hcontent ▸ h.rewritten j page hj

theorem writePage_reencrypts (hP : Faithful P content) (hf : P.format = .mainDb)
    (h : Reencrypting ssl content old new n pages self written) {k : Nat} {page : Page p}
    (rand : Vector UInt8 8) (hreserves : Reserves k page) :
    Answers old ((cryptFile ssl P).reply self (PageCall.write k page rand).toCryptCall)
        (.written : PageReply p) ∧
      Reencrypting ssl content old new n pages
        ((cryptFile ssl P).next self (PageCall.write k page rand).toCryptCall)
        (Function.update written k (some page)) := by
  obtain ⟨hreply, b, hlen, hcontent, hopens⟩ :=
    answers_write ssl hP hf (hreserves.fits self.derived.writing) rand
  obtain ⟨events, -, hderived⟩ := next_write_derived ssl P self
    page.toBuffer (p.offset k) (.succeed rand)
  rw [h.mode.writing] at hopens
  refine ⟨by rw [hreply]; trivial, ⟨?_, ?_, ?_⟩⟩
  · exact hderived ▸ h.mode.logged events
  · intro j hj hnone
    have hjk : j ≠ k := by
      rintro rfl
      simp at hnone
    rw [Function.update_of_ne hjk] at hnone
    obtain ⟨hreserves', hopens'⟩ := h.unwritten j hj hnone
    rw [hcontent]
    exact ⟨hreserves', hopens'.write_ne hjk hlen⟩
  · intro j page' hj
    by_cases hjk : j = k
    · subst hjk
      rw [Function.update_self, Option.some.injEq] at hj
      subst hj
      exact ⟨hreserves, hopens⟩
    · rw [Function.update_of_ne hjk] at hj
      obtain ⟨hreserves', hopens'⟩ := h.rewritten j page' hj
      rw [hcontent]
      exact ⟨hreserves', hopens'.write_ne hjk hlen⟩

/-- One page access during the run. -/
theorem pageCall_reencrypts (hP : Faithful P content) (hf : P.format = .mainDb)
    (self : PageTransformingFile Crypt σ) (_ : Unit) (written : Nat → Option (Page p))
    (c : PageCall p) (h : Reencrypting ssl content old new n pages self written)
    (hc : Reencrypts n written c) :
    Answers old (((cryptFile ssl P).comap PageCall.toCryptCall).reply self c)
        ((unchangedPages pages).reply () c) ∧
      Reencrypting ssl content old new n pages
        (((cryptFile ssl P).comap PageCall.toCryptCall).next self c)
        ((pageStore p).next written c) := by
  cases c with
  | read k buffer rand => exact readPage_reencrypts hP hf h buffer rand hc.1 hc.2
  | write k page rand => exact writePage_reencrypts hP hf h rand hc

/-- What is in the plain store stays there. -/
theorem pageStore_run_ne_none {k : Nat} {calls : List (PageCall p)} :
    ∀ {store : Nat → Option (Page p)},
      store k ≠ none ∨ (∃ page rand, .write k page rand ∈ calls) →
      (pageStore p).run store calls k ≠ none := by
  induction calls with
  | nil =>
    intro store h
    rcases h with h | ⟨_, _, h⟩
    · exact h
    · cases h
  | cons c calls ih =>
    intro store h
    rw [Component.run_cons]
    apply ih
    cases c with
    | read j buffer rand =>
      rcases h with h | ⟨page, rand', h⟩
      · exact Or.inl h
      · exact Or.inr ⟨page, rand', by simpa using h⟩
    | write j page rand =>
      by_cases hkj : k = j
      · subst hkj
        exact Or.inl (by simp [pageStore, Component.next])
      · rcases h with h | ⟨page', rand', h⟩
        · left
          simp only [pageStore, Component.next, Function.update_of_ne hkj]
          exact h
        · right
          refine ⟨page', rand', ?_⟩
          simpa [hkj] using h

end Completed

/-- A completed re-encryption loses nothing. During the run every write succeeds and every read of a
page not yet written returns its old content; afterwards, every page of the file having been written,
the file is the store of what was written last, under the new encryptor. A switch to the mode there is
changes nothing. -/
theorem reencryption_loses_nothing (ssl : OpenSsl) (P : File σ) (content : σ → Bytes)
    (hP : Faithful P content) (hf : P.format = .mainDb) (p : PageSize)
    (self : PageTransformingFile Crypt σ) (hoff : self.derived.transform = false)
    (n : Nat) (pages : Nat → Page p)
    (hpages : ∀ k < n, Reserves k (pages k) ∧
      PageOpens ssl self.derived.current p (content self.parent) k (pages k))
    (settings : List Setting) (hsettings : ∀ s ∈ settings, s.mode ≠ some false)
    (accesses : List (PageCall p))
    (horder : (pageStore p).Throughout (Reencrypts n) (fun _ => none) accesses)
    (hall : ∀ k < n, ∃ page rand, .write k page rand ∈ accesses)
    (later : List (PageCall p))
    (hlater : ∀ c ∈ later, c.Fits (settledEncryptor ssl self.derived.current settings)) :
    let during := started ssl P self settings
    let after := finished ssl P ((cryptFile ssl P).run during (accesses.map PageCall.toCryptCall))
    let written := (pageStore p).run (fun _ => none) accesses
    List.Forall₂ (Answers self.derived.current)
        ((cryptFile ssl P).replies during (accesses.map PageCall.toCryptCall))
        ((unchangedPages pages).replies () accesses) ∧
      (∀ k < n, written k ≠ none) ∧
      List.Forall₂ (Answers (settledEncryptor ssl self.derived.current settings))
        ((cryptFile ssl P).replies after (later.map PageCall.toCryptCall))
        ((pageStore p).replies written later) ∧
      ∀ (file : PageTransformingFile Crypt σ) (on : Bool), file.derived.transform = on →
        (cryptFile ssl P).next file (Setting.switch on).toCall = file := by
  intro during after written
  obtain ⟨hmode, hparent⟩ := started_transforming ssl P hoff hsettings
  have hinit : Reencrypting ssl content self.derived.current
      (settledEncryptor ssl self.derived.current settings) n pages during
      (fun _ => none) := by
    refine ⟨hmode, ?_, ?_⟩
    · intro k hk _
      rw [hparent]
      exact hpages k hk
    · intro k page hnone
      cases hnone
  have hend : Reencrypting ssl content self.derived.current
      (settledEncryptor ssl self.derived.current settings) n pages
      ((cryptFile ssl P).run during (accesses.map PageCall.toCryptCall)) written := by
    rw [Component.run_map]
    exact Component.run_related (A := unchangedPages pages) (t := ())
      (R := fun file _ written => Reencrypting ssl content _ _ n pages file written)
      (pageCall_reencrypts hP hf) hinit horder
  refine ⟨?_, ?_, ?_, next_switch_same ssl P⟩
  · rw [Component.replies_map]
    exact Component.replies_related (A := unchangedPages pages) (t := ())
      (R := fun file _ written => Reencrypting ssl content _ _ n pages file written)
      (pageCall_reencrypts hP hf) hinit horder
  · intro k hk
    exact pageStore_run_ne_none (Or.inr (hall k hk))
  · obtain ⟨hoff', hcurrent, hcontent⟩ := finished_off ssl P hend.mode
    have hrep : Represents ssl content (settledEncryptor ssl self.derived.current settings) after
        written := by
      refine ⟨hoff', hcurrent, ?_⟩
      intro k page hk
      obtain ⟨hreserves, hopens⟩ := hend.rewritten k page hk
      rw [← hcontent] at hopens
      exact ⟨hreserves.fits _, hopens⟩
    exact hrep.replies hP hf later hlater

def smallPages : PageSize := ⟨512, by decide, by decide⟩

/-- A page that carries the reserve byte. -/
def firstPage : Page smallPages := ⟨List.replicate 512 32, List.length_replicate⟩

/-- A database of that page. -/
def oneEncryptedPage : PageTransformingFile Crypt Bytes :=
  let encryptor : Encryptor := ⟨some .aes256Gcm, Vector.replicate 32 5⟩
  ⟨storedPage maskSsl (.succeed (Vector.replicate 8 1)) encryptor 100 firstPage,
    ⟨false, encryptor, Encryptor.initial, []⟩, [], 0⟩

theorem oneEncryptedPage_opens (k : Nat) (hk : k < 1) :
    PageOpens maskSsl oneEncryptedPage.derived.current smallPages oneEncryptedPage.parent k
      firstPage := by
  obtain rfl : k = 0 := by omega
  exact pageOpens_storedPage maskSsl _ firstPage rfl

/-- The page re-encrypted under a new key and cipher, and read afterwards. -/
theorem oneEncryptedPage_reencryption :
    let P : File Bytes := SQLite3FileWrapper .mainDb storeMethods
    let settings : List Setting := [⟨.key, cstr "r'b'"⟩, ⟨.cipher, cstr "aes-128-gcm"⟩]
    let rand := Vector.replicate 8 2
    let accesses : List (PageCall smallPages) := [.read 0 firstPage rand, .write 0 firstPage rand]
    let later : List (PageCall smallPages) := [.read 0 firstPage rand]
    let during := started maskSsl P oneEncryptedPage settings
    let after := finished maskSsl P
      ((cryptFile maskSsl P).run during (accesses.map PageCall.toCryptCall))
    let written := (pageStore smallPages).run (fun _ => none) accesses
    List.Forall₂ (Answers oneEncryptedPage.derived.current)
        ((cryptFile maskSsl P).replies during (accesses.map PageCall.toCryptCall))
        ((unchangedPages (fun _ => firstPage)).replies () accesses) ∧
      (∀ k < 1, written k ≠ none) ∧
      List.Forall₂ (Answers (settledEncryptor maskSsl oneEncryptedPage.derived.current settings))
        ((cryptFile maskSsl P).replies after (later.map PageCall.toCryptCall))
        ((pageStore smallPages).replies written later) ∧
      ∀ (file : PageTransformingFile Crypt Bytes) (on : Bool), file.derived.transform = on →
        (cryptFile maskSsl P).next file (Setting.switch on).toCall = file := by
  intro P settings rand accesses later
  have hreserves : Reserves 0 firstPage.val := fun _ => rfl
  have hpages : ∀ k < 1, Reserves k firstPage.val ∧ PageOpens maskSsl
      oneEncryptedPage.derived.current smallPages oneEncryptedPage.parent k firstPage := by
    intro k hk
    exact ⟨fun _ => rfl, oneEncryptedPage_opens k hk⟩
  have hsettings : ∀ s ∈ settings, s.mode ≠ some false := by decide
  have horder : (pageStore smallPages).Throughout (Reencrypts 1) (fun _ => none) accesses :=
    ⟨⟨Nat.zero_lt_one, rfl⟩, hreserves, trivial⟩
  have hall : ∀ k < 1, ∃ page rand, .write k page rand ∈ accesses := by
    intro k hk
    obtain rfl : k = 0 := by omega
    exact ⟨firstPage, rand, by simp [accesses]⟩
  have hlater : ∀ c ∈ later,
      c.Fits (settledEncryptor maskSsl oneEncryptedPage.derived.current settings) := by
    intro c hc
    rw [List.mem_singleton.mp hc]
    trivial
  exact reencryption_loses_nothing maskSsl P (fun s => s) (storeMethods_faithful .mainDb) rfl
    smallPages oneEncryptedPage rfl 1 (fun _ => firstPage) hpages settings hsettings accesses horder
    hall later hlater

end Ysqlite3.Vfs
