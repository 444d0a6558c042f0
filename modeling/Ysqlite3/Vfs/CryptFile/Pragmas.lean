import Ysqlite3.Vfs.CryptFile.Calls
import Mathlib.Data.List.Induction

/-!
# Keys, ciphers and the mode over a history of pragmas

Key, cipher and mode are registers: each pragma that is accepted overwrites one of them in the
encryptor pages are written with. The encryptor pages are read with follows that one while the mode
is off, and stays what it was at the switch while the mode is on.
-/

namespace Ysqlite3.Vfs

open PageTransformingFile Crypt

variable {σ : Type} {ssl : OpenSsl}

/-! ## Key values -/

namespace Crypt

theorem charAt_defined {value : Bytes} {i : Nat} (h : i ≤ value.length) :
    charAt value i = some (value.getD i 0) := if_pos h

theorem charsAt_defined (value : Bytes) {i n : Nat} (h : i + n ≤ value.length + 1) :
    ∃ cs, charsAt value i n = some cs := by
  induction n generalizing i with
  | zero => exact ⟨[], rfl⟩
  | succ n ih =>
    obtain ⟨cs, hcs⟩ := ih (i := i + 1) (by omega)
    exact ⟨_, by rw [charsAt, charAt_defined (by omega), hcs]; rfl⟩

theorem hexByte_defined (value : Bytes) {i : Nat} (h : i * 2 + 1 ≤ value.length) :
    ∃ r, hexByte value i = some r := by
  unfold hexByte
  rw [charAt_defined (by omega), charAt_defined h]
  simp only [Option.bind_eq_bind, Option.bind_some]
  split
  · exact ⟨_, rfl⟩
  · split <;> exact ⟨_, rfl⟩

theorem hexBytes_defined (value : Bytes) {i n : Nat} (h : (i + n) * 2 ≤ value.length + 1) :
    ∃ r, hexBytes value i n = some r := by
  induction n generalizing i with
  | zero => exact ⟨_, rfl⟩
  | succ n ih =>
    obtain ⟨b, hb⟩ := hexByte_defined value (i := i) (by omega)
    obtain ⟨bs, hbs⟩ := ih (i := i + 1) (by omega)
    rw [hexBytes, hb]
    simp only [Option.bind_eq_bind, Option.bind_some, hbs]
    cases b with
    | error c => exact ⟨_, rfl⟩
    | ok b => cases bs <;> exact ⟨_, rfl⟩

theorem hexKey_defined (value : Bytes) {length : Nat} (h : length + 3 ≤ value.length) :
    ∃ r, hexKey value length = some r := by
  unfold hexKey
  split
  · obtain ⟨bs, hbs⟩ := hexBytes_defined (value.drop 1) (i := 1) (n := length / 2)
      (by rw [List.length_drop]; omega)
    rw [charAt_defined (by omega), hbs]
    simp only [Option.bind_eq_bind, Option.bind_some]
    split
    · exact ⟨_, rfl⟩
    · cases bs <;> exact ⟨_, rfl⟩
  · exact hexBytes_defined _ (by rw [List.length_drop]; omega)

/-- No key value makes `_generate_key` read behind the value, and one that is refused is not reported
as accepted. -/
theorem parseKey_defined (value : Bytes) :
    ∃ r, parseKey value = some r ∧ r ≠ .error .ok := by
  unfold parseKey
  split
  · exact ⟨_, rfl, by simp⟩
  · rename_i hlen
    obtain ⟨cs, hcs⟩ := charsAt_defined value (i := 2) (n := value.length - 3) (by omega)
    obtain ⟨bs, hbs⟩ := hexKey_defined value
      (Nat.le_of_eq (Nat.sub_add_cancel (Nat.le_of_not_lt hlen)))
    rw [charAt_defined (by omega), charAt_defined (by omega), charAt_defined (by omega)]
    simp only [Option.bind_eq_bind, Option.bind_some, hcs, hbs]
    split
    · exact ⟨_, rfl, by simp⟩
    · split
      · exact ⟨_, rfl, by simp⟩
      · split
        · cases bs with
          | error c => exact ⟨_, rfl, by simp⟩
          | ok password => exact ⟨_, rfl, by simp⟩
        · exact ⟨_, rfl, by simp⟩

/-- The key a key value leaves behind, if it is well formed. -/
def keyLeft (ssl : OpenSsl) (kdf : KdfCall) (value : Bytes) : Option Key :=
  match parseKey value, kdf with
  | some (.ok password), .succeeds => some (ssl.pbkdf2 password (castInt password.length))
  | some (.ok _), .fails left => some left
  | _, _ => none

theorem generateKey_eq (ssl : OpenSsl) (kdf : KdfCall) (value : Bytes) (encryptor : Encryptor) :
    ∃ report, generateKey ssl kdf value encryptor =
      some (report, { encryptor with key := (keyLeft ssl kdf value).getD encryptor.key }) := by
  obtain ⟨r, hr, -⟩ := parseKey_defined value
  unfold generateKey keyLeft
  rw [hr]
  cases r with
  | error report => exact ⟨report, rfl⟩
  | ok password => cases kdf <;> exact ⟨_, rfl⟩

/-- The cipher a cipher value leaves behind, if it is known. -/
def cipherLeft (value : Bytes) : Option (Option Cipher) :=
  if value = cstr "null" then some none
  else if value = cstr "aes-256-gcm" then some (some .aes256Gcm)
  else if value = cstr "aes-192-gcm" then some (some .aes192Gcm)
  else if value = cstr "aes-128-gcm" then some (some .aes128Gcm)
  else none

theorem setChiper_eq (value : Bytes) (encryptor : Encryptor) :
    (setChiper value encryptor).2 =
      { encryptor with cipher := (cipherLeft value).getD encryptor.cipher } := by
  unfold setChiper cipherLeft
  split
  · rfl
  · split
    · rfl
    · split
      · rfl
      · split <;> rfl

/-- The mode a switch asks for, if its value is a digit 0 or 1. -/
def modeLeft (value : Bytes) : Option Bool :=
  if (value.getD 0 0 = 48 ∨ value.getD 0 0 = 49) ∧ value.getD 1 0 = 0 then
    some (value.getD 0 0 = 49 : Bool)
  else none

/-- Switching on or off carries the encryptor pages are written with over. -/
theorem cryptTransformation_eq (value : Bytes) (d : Crypt) :
    (d.cryptTransformation value).2.transform = (modeLeft value).getD d.transform ∧
      (d.cryptTransformation value).2.writing = d.writing ∧
      (d.cryptTransformation value).2.log = d.log ∧
      ((modeLeft value).getD d.transform = true →
        (d.cryptTransformation value).2.current =
          if d.transform then d.current else d.writing) := by
  unfold cryptTransformation modeLeft
  by_cases hvalue : (value.getD 0 0 = 48 ∨ value.getD 0 0 = 49) ∧ value.getD 1 0 = 0
  · simp only [if_pos hvalue, Option.getD_some]
    cases hd : d.transform with
    | false => cases decide (value.getD 0 0 = 49) <;> simp [hd, writing]
    | true => cases decide (value.getD 0 0 = 49) <;> simp [hd, writing]
  · simp only [if_neg hvalue, Option.getD_none]
    cases hd : d.transform <;> simp [writing, hd]

/-! ## What a pragma does -/

section SetWriting

variable (d : Crypt) (encryptor : Encryptor)

@[simp] theorem writing_setWriting : (d.setWriting encryptor).writing = encryptor := by
  cases hd : d.transform <;> simp [setWriting, writing, hd]

@[simp] theorem transform_setWriting : (d.setWriting encryptor).transform = d.transform := by
  cases hd : d.transform <;> simp [setWriting, hd]

@[simp] theorem log_setWriting : (d.setWriting encryptor).log = d.log := by
  cases hd : d.transform <;> simp [setWriting, hd]

theorem current_setWriting (h : d.transform = true) :
    (d.setWriting encryptor).current = d.current := by
  simp [setWriting, h]

end SetWriting

/-- The members after a pragma with the given value. -/
def settled (ssl : OpenSsl) (kdf : KdfCall) (value : Bytes) (d : Crypt) : Pragma → Crypt
  | .key => d.setWriting { d.writing with key := (keyLeft ssl kdf value).getD d.writing.key }
  | .cryptTransformation => (d.cryptTransformation value).2
  | .cipher => d.setWriting { d.writing with cipher := (cipherLeft value).getD d.writing.cipher }

theorem applyPragma_eq (ssl : OpenSsl) (kdf : KdfCall) (value : Bytes) (d : Crypt)
    (pragma : Pragma) :
    ∃ report, applyPragma ssl kdf value d pragma =
      some (report, settled ssl kdf value d pragma) := by
  cases pragma with
  | key =>
    obtain ⟨report, hkey⟩ := generateKey_eq ssl kdf value d.writing
    exact ⟨report, by rw [applyPragma, hkey]; rfl⟩
  | cryptTransformation => exact ⟨_, rfl⟩
  | cipher =>
    refine ⟨(setChiper value d.writing).1, ?_⟩
    simp only [applyPragma, settled, setChiper_eq]

/-- What the constructor leaves behind. -/
theorem construct_eq (ssl : OpenSsl) (kdf : KdfCall) (uriKey uriCipher : Option Bytes) :
    construct ssl kdf uriKey uriCipher = some
      { transform := false
        current :=
          { cipher := (uriCipher.bind cipherLeft).getD none
            key := (uriKey.bind (keyLeft ssl kdf)).getD (Vector.replicate 32 0) }
        transformation := Encryptor.initial
        log := [] } := by
  cases uriKey with
  | none => cases uriCipher <;> simp [construct, setChiper_eq, Encryptor.initial]
  | some key =>
    obtain ⟨report, hkey⟩ := generateKey_eq ssl kdf key Encryptor.initial
    cases uriCipher <;> simp only [construct, setChiper_eq, hkey, Option.map_some,
      Option.bind_eq_bind, Option.bind_some] <;> rfl

end Crypt

/-- A pragma the file handles itself settles the members and does nothing else; any other one goes
to the parent. -/
theorem next_pragma (ssl : OpenSsl) (P : File σ) (self : PageTransformingFile Crypt σ)
    (name : Bytes) (value : Option Bytes) (kdf : KdfCall) :
    (∃ pragma v, Pragma.ofName name = some pragma ∧ value = some v ∧
        (cryptFile ssl P).next self (.pragma name value kdf) =
          { self with derived := settled ssl kdf v self.derived pragma }) ∨
      ((Pragma.ofName name = none ∨ value = none) ∧
        ((cryptFile ssl P).next self (.pragma name value kdf)).derived = self.derived) := by
  simp only [Component.next, cryptFile, CryptFile.fileControl]
  cases hname : Pragma.ofName name with
  | none =>
    refine Or.inr ⟨Or.inl rfl, ?_⟩
    cases P.fileControl (.pragma ⟨none, name, value⟩) self.parent <;> rfl
  | some pragma =>
    cases value with
    | none => exact Or.inr ⟨Or.inr rfl, rfl⟩
    | some v =>
      obtain ⟨report, happly⟩ := applyPragma_eq ssl kdf v self.derived pragma
      exact Or.inl ⟨pragma, v, rfl, rfl, by simp only [happly]; rfl⟩

/-- A pragma the file handles itself leaves the parent alone, with and without a value. -/
theorem next_pragma_parent (ssl : OpenSsl) (P : File σ) (self : PageTransformingFile Crypt σ)
    {name : Bytes} (hname : (Pragma.ofName name).isSome) (value : Option Bytes) (kdf : KdfCall) :
    ((cryptFile ssl P).next self (.pragma name value kdf)).parent = self.parent := by
  obtain ⟨pragma, hpragma⟩ := Option.isSome_iff_exists.mp hname
  simp only [Component.next, cryptFile, CryptFile.fileControl, hpragma]
  cases value with
  | none => rfl
  | some v =>
    obtain ⟨report, happly⟩ := applyPragma_eq ssl kdf v self.derived pragma
    simp only [happly]
    rfl

@[simp] theorem log_settled (kdf : KdfCall) (value : Bytes) (d : Crypt) (pragma : Pragma) :
    (settled ssl kdf value d pragma).log = d.log := by
  cases pragma with
  | key => simp [settled]
  | cryptTransformation => exact (cryptTransformation_eq value d).2.2.1
  | cipher => simp [settled]

/-- What a call can add to the record. -/
def Records (P : File σ) (self : PageTransformingFile Crypt σ) :
    CryptCall σ → List CryptoEvent → Prop
  | .read _ _ _, events => DecodeEvents self.derived.current events
  | .write buffer offset calls, events =>
    EncodeEvents calls self.derived.writing (buffer.val.drop (clearSize P.format offset)) events
  | .pragma _ _ _, events => events = []
  | .tamper _, events => events = []

theorem next_log (ssl : OpenSsl) (P : File σ) (self : PageTransformingFile Crypt σ)
    (c : CryptCall σ) :
    ∃ events, Records P self c events ∧
      ((cryptFile ssl P).next self c).derived.log = self.derived.log ++ events := by
  cases c with
  | read buffer offset calls =>
    obtain ⟨events, hevents, hderived⟩ := next_read_derived ssl P self buffer offset calls
    exact ⟨events, hevents, by rw [hderived, log_logged]⟩
  | write buffer offset calls =>
    obtain ⟨events, hevents, hderived⟩ := next_write_derived ssl P self buffer offset calls
    exact ⟨events, hevents, by rw [hderived, log_logged]⟩
  | pragma name value kdf =>
    refine ⟨[], rfl, ?_⟩
    rw [List.append_nil]
    rcases next_pragma ssl P self name value kdf with ⟨pragma, v, -, -, hnext⟩ | ⟨-, hnext⟩
    · rw [hnext, log_settled]
    · rw [hnext]
  | tamper parent => exact ⟨[], rfl, (List.append_nil _).symm⟩

/-! ## Histories -/

namespace CryptCall

/-- What a call leaves behind in the key pages are written with. -/
def keyLeft (ssl : OpenSsl) : CryptCall σ → Option Key
  | .pragma name (some value) kdf =>
    if Pragma.ofName name = some .key then Crypt.keyLeft ssl kdf value else none
  | _ => none

/-- What a call leaves behind in the cipher pages are written with. -/
def cipherLeft : CryptCall σ → Option (Option Cipher)
  | .pragma name (some value) _ =>
    if Pragma.ofName name = some .cipher then Crypt.cipherLeft value else none
  | _ => none

/-- The mode a call switches to. -/
def modeLeft : CryptCall σ → Option Bool
  | .pragma name (some value) _ =>
    if Pragma.ofName name = some .cryptTransformation then Crypt.modeLeft value else none
  | _ => none

end CryptCall

/-- What one call does to the registers: the last part says which encryptor pages are read with
while the mode is on. -/
structure Settles (ssl : OpenSsl) (c : CryptCall σ) (d d' : Crypt) : Prop where
  key : d'.writing.key = (c.keyLeft ssl).getD d.writing.key
  cipher : d'.writing.cipher = c.cipherLeft.getD d.writing.cipher
  mode : d'.transform = c.modeLeft.getD d.transform
  reading : d'.transform = true → d'.current = if d.transform then d.current else d.writing

theorem settles_logged {c : CryptCall σ} (hkey : c.keyLeft ssl = none) (hcipher : c.cipherLeft = none)
    (hmode : c.modeLeft = none) (d : Crypt) (events : List CryptoEvent) :
    Settles ssl c d (d.logged events) where
  key := by rw [hkey]; rfl
  cipher := by rw [hcipher]; rfl
  mode := by rw [hmode]; rfl
  reading h := by rw [transform_logged] at h; rw [current_logged, if_pos h]

theorem settles_setWriting {c : CryptCall σ} {d : Crypt} {encryptor : Encryptor}
    (hkey : encryptor.key = (c.keyLeft ssl).getD d.writing.key)
    (hcipher : encryptor.cipher = c.cipherLeft.getD d.writing.cipher) (hmode : c.modeLeft = none) :
    Settles ssl c d (d.setWriting encryptor) where
  key := by rw [writing_setWriting, hkey]
  cipher := by rw [writing_setWriting, hcipher]
  mode := by rw [transform_setWriting, hmode]; rfl
  reading h := by
    rw [transform_setWriting] at h
    rw [current_setWriting _ _ h, if_pos h]

/-- The step lemma: every call settles the members. -/
theorem next_settles (ssl : OpenSsl) (P : File σ) (self : PageTransformingFile Crypt σ)
    (c : CryptCall σ) : Settles ssl c self.derived ((cryptFile ssl P).next self c).derived := by
  cases c with
  | read buffer offset calls =>
    obtain ⟨events, -, hderived⟩ := next_read_derived ssl P self buffer offset calls
    rw [hderived]
    exact settles_logged rfl rfl rfl _ _
  | write buffer offset calls =>
    obtain ⟨events, -, hderived⟩ := next_write_derived ssl P self buffer offset calls
    rw [hderived]
    exact settles_logged rfl rfl rfl _ _
  | tamper parent =>
    have h : Settles ssl (CryptCall.tamper parent) self.derived (self.derived.logged []) :=
      settles_logged rfl rfl rfl _ _
    rwa [logged_nil] at h
  | pragma name value kdf =>
    rcases next_pragma ssl P self name value kdf with ⟨pragma, v, hname, rfl, hnext⟩ | ⟨hno, hnext⟩
    · rw [hnext]
      cases pragma with
      | key =>
        apply settles_setWriting
        · simp [CryptCall.keyLeft, hname]
        · simp [CryptCall.cipherLeft, hname]
        · simp [CryptCall.modeLeft, hname]
      | cryptTransformation =>
        obtain ⟨hmode, hwriting, -, hcurrent⟩ := cryptTransformation_eq v self.derived
        refine ⟨?_, ?_, ?_, ?_⟩
        · simp [settled, CryptCall.keyLeft, hname, hwriting]
        · simp [settled, CryptCall.cipherLeft, hname, hwriting]
        · simp [settled, CryptCall.modeLeft, hname, hmode]
        · intro hon
          simp only [settled] at hon ⊢
          rw [hmode] at hon
          exact hcurrent hon
      | cipher =>
        apply settles_setWriting
        · simp [CryptCall.keyLeft, hname]
        · simp [CryptCall.cipherLeft, hname]
        · simp [CryptCall.modeLeft, hname]
    · rw [hnext]
      have hnone : (CryptCall.pragma (σ := σ) name value kdf).keyLeft ssl = none ∧
          (CryptCall.pragma (σ := σ) name value kdf).cipherLeft = none ∧
          (CryptCall.pragma (σ := σ) name value kdf).modeLeft = none := by
        rcases hno with hname | rfl
        · cases value <;> simp [CryptCall.keyLeft, CryptCall.cipherLeft, CryptCall.modeLeft, hname]
        · exact ⟨rfl, rfl, rfl⟩
      have h := settles_logged hnone.1 hnone.2.1 hnone.2.2 self.derived []
      rwa [logged_nil] at h

/-! ## Runs -/

section Run

variable (ssl) (P : File σ) (self : PageTransformingFile Crypt σ) (calls : List (CryptCall σ))

/-- Pages are written with the key the last well-formed key value has left. -/
theorem run_key :
    ((cryptFile ssl P).run self calls).derived.writing.key =
      Component.lastOf (CryptCall.keyLeft ssl) self.derived.writing.key calls :=
  (cryptFile ssl P).run_register (fun s => s.derived.writing.key) (CryptCall.keyLeft ssl)
    (fun s c => (next_settles ssl P s c).key) self calls

theorem run_cipher :
    ((cryptFile ssl P).run self calls).derived.writing.cipher =
      Component.lastOf CryptCall.cipherLeft self.derived.writing.cipher calls :=
  (cryptFile ssl P).run_register (fun s => s.derived.writing.cipher) CryptCall.cipherLeft
    (fun s c => (next_settles ssl P s c).cipher) self calls

theorem run_mode :
    ((cryptFile ssl P).run self calls).derived.transform =
      Component.lastOf CryptCall.modeLeft self.derived.transform calls :=
  (cryptFile ssl P).run_register (fun s => s.derived.transform) CryptCall.modeLeft
    (fun s c => (next_settles ssl P s c).mode) self calls

/-- While the mode is on, pages are read with the encryptor they were written with when it was last
switched on. -/
theorem run_reading (hoff : self.derived.transform = false) :
    ((cryptFile ssl P).run self calls).derived.transform = true →
    ∃ before c after, calls = before ++ c :: after ∧ c.modeLeft = some true ∧
      ((cryptFile ssl P).run self before).derived.transform = false ∧
      (∀ e ∈ after, e.modeLeft ≠ some false) ∧
      ((cryptFile ssl P).run self calls).derived.current =
        ((cryptFile ssl P).run self before).derived.writing := by
  induction calls using List.reverseRecOn with
  | nil =>
    intro hon
    rw [Component.run_nil, hoff] at hon
    cases hon
  | append_singleton calls c ih =>
    intro hon
    rw [Component.run_snoc] at hon ⊢
    have hstep := next_settles ssl P ((cryptFile ssl P).run self calls) c
    have hmode := hstep.mode
    rw [hon] at hmode
    rw [hstep.reading hon]
    cases hbefore : ((cryptFile ssl P).run self calls).derived.transform with
    | false =>
      -- this call has switched the mode on
      refine ⟨calls, c, [], rfl, ?_, hbefore, by simp, by simp⟩
      cases hc : c.modeLeft with
      | none => simp [hc, hbefore] at hmode
      | some on => simpa [hc] using hmode.symm
    | true =>
      obtain ⟨before, switch, after, hcalls, hswitch, hoff', hafter, hcurrent⟩ := ih hbefore
      refine ⟨before, switch, after ++ [c], by simp [hcalls], hswitch, hoff', ?_, by simpa using hcurrent⟩
      intro e he
      rcases List.mem_append.mp he with he | he
      · exact hafter e he
      · rw [List.mem_singleton] at he
        subst he
        intro hfalse
        simp [hfalse] at hmode

end Run

end Ysqlite3.Vfs
