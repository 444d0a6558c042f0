import Ysqlite3.Vfs.CryptFile.Pragmas

/-!
# The encryptors after a history

The exact state of the two encryptors after any sequence of settings, and the keys that pages were
encrypted with in a run.
-/

namespace Ysqlite3.Vfs

open PageTransformingFile Crypt

variable {σ : Type}

/-! ## Settings -/

/-- A pragma with its value, or a parameter of the URI. -/
structure Setting where
  pragma : Pragma
  value : Bytes
  deriving DecidableEq, Repr

namespace Setting

variable (ssl : OpenSsl) (s : Setting)

def toCall : CryptCall σ := .pragma s.pragma.name (some s.value) .succeeds

/-- The key a key setting asks for, if it is well formed. -/
def key : Option Key := if s.pragma = .key then keyLeft ssl .succeeds s.value else none

/-- The cipher a cipher setting asks for, if it is known. -/
def cipher : Option (Option Cipher) := if s.pragma = .cipher then cipherLeft s.value else none

/-- The mode a switch asks for. -/
def mode : Option Bool := if s.pragma = .cryptTransformation then modeLeft s.value else none

/-- The pragma reports "ok". -/
def Accepted (d : Crypt) : Prop :=
  (applyPragma ssl .succeeds s.value d s.pragma).map Prod.fst = some .ok

@[simp] theorem keyLeft_toCall : (s.toCall : CryptCall σ).keyLeft ssl = s.key ssl := by
  simp [toCall, CryptCall.keyLeft, key]

@[simp] theorem cipherLeft_toCall : (s.toCall : CryptCall σ).cipherLeft = s.cipher := by
  simp [toCall, CryptCall.cipherLeft, cipher]

@[simp] theorem modeLeft_toCall : (s.toCall : CryptCall σ).modeLeft = s.mode := by
  simp [toCall, CryptCall.modeLeft, mode]

/-- What is not accepted asks for nothing. -/
theorem accepted_iff (d : Crypt) :
    s.Accepted ssl d ↔ (s.key ssl).isSome ∨ s.cipher.isSome ∨ s.mode.isSome := by
  obtain ⟨pragma, value⟩ := s
  cases pragma with
  | key =>
    obtain ⟨r, hr, hok⟩ := parseKey_defined value
    cases r with
    | error report =>
      have hreport : report ≠ .ok := fun h => hok (by rw [h])
      simp [Accepted, key, cipher, mode, applyPragma, generateKey, keyLeft, hr, hreport]
    | ok password =>
      simp [Accepted, key, cipher, mode, applyPragma, generateKey, keyLeft, hr]
  | cryptTransformation =>
    by_cases hvalue : (value.getD 0 0 = 48 ∨ value.getD 0 0 = 49) ∧ value.getD 1 0 = 0
    · simp only [Accepted, key, cipher, mode, applyPragma, cryptTransformation, modeLeft,
        if_pos hvalue]
      split <;> simp
    · simp only [Accepted, key, cipher, mode, applyPragma, cryptTransformation, modeLeft,
        if_neg hvalue]
      simp
  | cipher =>
    simp only [Accepted, key, cipher, mode, applyPragma, setChiper, cipherLeft]
    split
    · simp
    · split
      · simp
      · split
        · simp
        · split <;> simp

/-- What is refused, or asks for the mode there is, asks for no change. -/
theorem asks_nothing {d : Crypt} (h : ¬ s.Accepted ssl d ∨ s.mode = some d.transform) :
    s.key ssl = none ∧ s.cipher = none ∧ s.mode.getD d.transform = d.transform := by
  rcases h with hrefused | hsame
  · rw [accepted_iff, not_or, not_or] at hrefused
    simp only [Option.not_isSome_iff_eq_none] at hrefused
    obtain ⟨hkey, hcipher, hmode⟩ := hrefused
    exact ⟨hkey, hcipher, by rw [hmode]; rfl⟩
  · have hpragma : s.pragma = .cryptTransformation := by
      unfold mode at hsame
      split at hsame
      · assumption
      · cases hsame
    refine ⟨?_, ?_, ?_⟩
    · simp [key, hpragma]
    · simp [cipher, hpragma]
    · rw [hsame]
      rfl

end Setting

/-! ## Encryptors -/

/-- The parameters of the URI, in the order the constructor looks at them. -/
def uriSettings (uriKey uriCipher : Option Bytes) : List Setting :=
  (uriKey.map (Setting.mk .key)).toList ++ (uriCipher.map (Setting.mk .cipher)).toList

/-- The constructor leaves what the parameters of the URI ask for. -/
theorem construct_settings (ssl : OpenSsl) (uriKey uriCipher : Option Bytes) :
    construct ssl .succeeds uriKey uriCipher = some
      { transform := false
        current :=
          { cipher := Component.lastOf Setting.cipher none (uriSettings uriKey uriCipher)
            key := Component.lastOf (Setting.key ssl) (Vector.replicate 32 0)
              (uriSettings uriKey uriCipher) }
        transformation := Encryptor.initial
        log := [] } := by
  rw [construct_eq]
  cases uriKey <;> cases uriCipher <;>
    simp [uriSettings, Component.lastOf_cons, Setting.key, Setting.cipher]

section After

variable (ssl : OpenSsl) (P : File σ) (self : PageTransformingFile Crypt σ)

/-- The members after a sequence of settings. -/
def afterSettings (settings : List Setting) : Crypt :=
  ((cryptFile ssl P).run self (settings.map Setting.toCall)).derived

theorem afterSettings_writing (settings : List Setting) :
    (afterSettings ssl P self settings).writing =
      { cipher := Component.lastOf Setting.cipher self.derived.writing.cipher settings
        key := Component.lastOf (Setting.key ssl) self.derived.writing.key settings } := by
  have hcipher := run_cipher ssl P self (settings.map Setting.toCall)
  have hkey := run_key ssl P self (settings.map Setting.toCall)
  simp only [Component.lastOf_map, Setting.cipherLeft_toCall, Setting.keyLeft_toCall] at hcipher hkey
  exact Encryptor.ext hcipher hkey

theorem afterSettings_mode (settings : List Setting) :
    (afterSettings ssl P self settings).transform =
      Component.lastOf Setting.mode self.derived.transform settings := by
  have hmode := run_mode ssl P self (settings.map Setting.toCall)
  simp only [Component.lastOf_map, Setting.modeLeft_toCall] at hmode
  exact hmode

theorem afterSettings_reading (hoff : self.derived.transform = false) (settings : List Setting)
    (hon : (afterSettings ssl P self settings).transform = true) :
    ∃ before switch rest, settings = before ++ switch :: rest ∧ switch.mode = some true ∧
      (afterSettings ssl P self before).transform = false ∧
      (∀ s ∈ rest, s.mode ≠ some false) ∧
      (afterSettings ssl P self settings).current =
        (afterSettings ssl P self before).writing := by
  obtain ⟨before, c, after, hcalls, hswitch, hoff', hafter, hcurrent⟩ :=
    run_reading ssl P self (settings.map Setting.toCall) hoff hon
  obtain ⟨before, rest, rfl, rfl, hrest⟩ := List.map_eq_append_iff.mp hcalls
  obtain ⟨switch, rest, rfl, rfl, rfl⟩ := List.map_eq_cons_iff.mp hrest
  rw [Setting.modeLeft_toCall] at hswitch
  refine ⟨before, switch, rest, rfl, hswitch, hoff', ?_, hcurrent⟩
  intro s hs
  have h := hafter s.toCall (List.mem_map_of_mem hs)
  rwa [Setting.modeLeft_toCall] at h

/-- What is refused, or asks for the mode there is, changes nothing. -/
theorem afterSettings_snoc (settings : List Setting) (s : Setting)
    (hs : ¬ s.Accepted ssl (afterSettings ssl P self settings) ∨
      s.mode = some (afterSettings ssl P self settings).transform) :
    (afterSettings ssl P self (settings ++ [s])).writing =
        (afterSettings ssl P self settings).writing ∧
      (afterSettings ssl P self (settings ++ [s])).current =
        (afterSettings ssl P self settings).current := by
  have hstep := next_settles ssl P ((cryptFile ssl P).run self (settings.map Setting.toCall))
    (s.toCall : CryptCall σ)
  rw [← Component.run_snoc] at hstep
  have hlist : settings.map Setting.toCall ++ [(s.toCall : CryptCall σ)] =
      (settings ++ [s]).map Setting.toCall := by simp
  rw [hlist] at hstep
  change Settles ssl s.toCall (afterSettings ssl P self settings)
    (afterSettings ssl P self (settings ++ [s])) at hstep
  generalize afterSettings ssl P self (settings ++ [s]) = d' at hstep ⊢
  generalize afterSettings ssl P self settings = d at hstep hs ⊢
  obtain ⟨hk, hc, hm⟩ := s.asks_nothing ssl hs
  have hkey := hstep.key
  have hcipher := hstep.cipher
  have htransform := hstep.mode
  rw [Setting.keyLeft_toCall, hk, Option.getD_none] at hkey
  rw [Setting.cipherLeft_toCall, hc, Option.getD_none] at hcipher
  rw [Setting.modeLeft_toCall, hm] at htransform
  have hwriting : d'.writing = d.writing := Encryptor.ext hcipher hkey
  refine ⟨hwriting, ?_⟩
  cases hon : d.transform with
  | true =>
    rw [hstep.reading (htransform.trans hon), if_pos hon]
  | false =>
    have hoff' := htransform.trans hon
    simpa [writing, hon, hoff'] using hwriting

end After

/-- The exact state of the encryptors: after any sequence of settings, pages are written with the
last key and the last cipher that were accepted, the parameters of the URI included; they are read
with the same while the mode is off, and while it is on, with the encryptor there was when it was
last switched on. What is refused, and a switch to the mode there is, changes neither. -/
theorem encryptors_of_history (ssl : OpenSsl) (P : File σ) (uriKey uriCipher : Option Bytes) :
    ∃ d, construct ssl .succeeds uriKey uriCipher = some d ∧
      ∀ (parent : σ) (tmpBuffer : Bytes) (pageSize : Nat) (settings : List Setting),
        let after := afterSettings ssl P ⟨parent, d, tmpBuffer, pageSize⟩
        let history := uriSettings uriKey uriCipher ++ settings
        (after settings).writing =
            { cipher := Component.lastOf Setting.cipher none history
              key := Component.lastOf (Setting.key ssl) (Vector.replicate 32 0) history } ∧
          (after settings).transform = Component.lastOf Setting.mode false history ∧
          ((after settings).transform = false →
            (after settings).current = (after settings).writing) ∧
          ((after settings).transform = true →
            ∃ before switch rest, settings = before ++ switch :: rest ∧
              switch.mode = some true ∧ (after before).transform = false ∧
              (∀ s ∈ rest, s.mode ≠ some false) ∧
              (after settings).current = (after before).writing) ∧
          ∀ s : Setting,
            ¬ s.Accepted ssl (after settings) ∨ s.mode = some (after settings).transform →
            (after (settings ++ [s])).writing = (after settings).writing ∧
              (after (settings ++ [s])).current = (after settings).current := by
  refine ⟨_, construct_settings ssl uriKey uriCipher, ?_⟩
  intro parent tmpBuffer pageSize settings after history
  refine ⟨?_, ?_, ?_, ?_, ?_⟩
  · simp only [after, history]
    rw [afterSettings_writing, Component.lastOf_append, Component.lastOf_append]
    rfl
  · have huri : Component.lastOf Setting.mode false (uriSettings uriKey uriCipher) = false := by
      cases uriKey <;> cases uriCipher <;>
        simp [uriSettings, Component.lastOf_cons, Setting.mode]
    simp only [after, history, afterSettings_mode, Component.lastOf_append, huri]
  · intro hoff
    rw [writing, if_neg (by simp [hoff])]
  · exact afterSettings_reading ssl P _ rfl settings
  · exact afterSettings_snoc ssl P _ settings

/-! ## Keys that encrypt -/

/-- The keys that the URI and a sequence of calls have left, in order. -/
def keysLeft (ssl : OpenSsl) (kdf : KdfCall) (uriKey : Option Bytes) (calls : List (CryptCall σ)) :
    List Key :=
  (uriKey.bind (keyLeft ssl kdf)).toList ++ calls.filterMap (CryptCall.keyLeft ssl)

/-- Pages are written with the last of these keys. -/
theorem run_keysLeft (P : File σ) {ssl : OpenSsl} {kdf : KdfCall} {uriKey : Option Bytes}
    {self : PageTransformingFile Crypt σ} (calls : List (CryptCall σ))
    (hkey : self.derived.writing.key =
      (uriKey.bind (keyLeft ssl kdf)).getD (Vector.replicate 32 0)) :
    ((cryptFile ssl P).run self calls).derived.writing.key =
      ((keysLeft ssl kdf uriKey calls).getLast?).getD (Vector.replicate 32 0) := by
  rw [run_key, hkey]
  unfold Component.lastOf keysLeft
  cases uriKey.bind (keyLeft ssl kdf) with
  | none => rfl
  | some key => rw [Option.toList_some, List.singleton_append, List.getLast?_cons]; rfl

/-- A call that encrypts is a page write, and it encrypts under the key pages are written with. -/
theorem Records.encrypts {P : File σ} {self : PageTransformingFile Crypt σ} {c : CryptCall σ}
    {events : List CryptoEvent} (h : Records P self c events) {e : CryptoEvent} (he : e ∈ events)
    {key : Key} (hkey : encryptsUnder e = some key) :
    (∃ buffer offset rand, c = .write buffer offset rand) ∧ key = self.derived.writing.key := by
  cases c with
  | read buffer offset rand =>
    cases h with
    | nothing => cases he
    | initialised iv _ =>
      rw [List.mem_singleton] at he
      subst he
      cases hkey
  | write buffer offset rand => exact ⟨⟨_, _, _, rfl⟩, EncodeEvents.key_eq h he hkey⟩
  | pragma name value kdf =>
    rw [show events = [] from h] at he
    cases he
  | tamper parent =>
    rw [show events = [] from h] at he
    cases he

/-- The keys pages are encrypted under: whatever calls came before, a call that adds an encryption to the
record is a page write, and its key is the one the last well-formed key value before it has left, the URI
included, or the zeros of a fresh encryptor if there was none. -/
theorem encryption_keys (ssl : OpenSsl) (P : File σ) (kdf : KdfCall)
    (uriKey uriCipher : Option Bytes) :
    ∃ d, construct ssl kdf uriKey uriCipher = some d ∧
      ∀ (parent : σ) (tmpBuffer : Bytes) (pageSize : Nat) (calls : List (CryptCall σ))
        (c : CryptCall σ),
        let before := (cryptFile ssl P).run ⟨parent, d, tmpBuffer, pageSize⟩ calls
        ∃ events, ((cryptFile ssl P).next before c).derived.log = before.derived.log ++ events ∧
          ∀ e ∈ events, ∀ key, encryptsUnder e = some key →
            (∃ buffer offset rand, c = .write buffer offset rand) ∧
              (keysLeft ssl kdf uriKey calls = [] ∧ key = Vector.replicate 32 0 ∨
                (keysLeft ssl kdf uriKey calls).getLast? = some key) := by
  refine ⟨_, construct_eq ssl kdf uriKey uriCipher, ?_⟩
  intro parent tmpBuffer pageSize calls c before
  obtain ⟨events, hrecords, hlog⟩ := next_log ssl P before c
  refine ⟨events, hlog, ?_⟩
  intro e he key hunder
  obtain ⟨⟨buffer, offset, rand, rfl⟩, hkey⟩ := hrecords.encrypts he hunder
  refine ⟨⟨buffer, offset, rand, rfl⟩, ?_⟩
  rw [run_keysLeft P calls rfl] at hkey
  cases hlast : (keysLeft ssl kdf uriKey calls).getLast? with
  | none =>
    rw [hlast] at hkey
    exact Or.inl ⟨List.getLast?_eq_none_iff.mp hlast, hkey⟩
  | some key' =>
    rw [hlast] at hkey
    exact Or.inr (by rw [hkey]; rfl)

/-- Every key a page was encrypted under came from a key value, and is not the initial one. -/
def EncryptsUnderSetKeys (ssl : OpenSsl) (P : File σ) (kdf : KdfCall) (uriKey : Option Bytes)
    (self : PageTransformingFile Crypt σ) (calls : List (CryptCall σ)) : Prop :=
  ∀ cipher key iv,
    .cipherInit (cipher, key) iv true ∈ ((cryptFile ssl P).run self calls).derived.log →
    key ∈ keysLeft ssl kdf uriKey calls ∧ key ≠ Vector.replicate 32 0

/-- A database opened without parameters: setting a cipher is enough for a page to be encrypted. -/
theorem cipher_without_key :
    construct maskSsl .succeeds none none =
        some ⟨false, Encryptor.initial, Encryptor.initial, []⟩ ∧
      ¬ EncryptsUnderSetKeys maskSsl (SQLite3FileWrapper .mainDb storeMethods) .succeeds none
        ⟨[], ⟨false, Encryptor.initial, Encryptor.initial, []⟩, [], 0⟩
        [.pragma (cstr "cipher") (some (cstr "aes-256-gcm")) .succeeds,
          .write (filledPage 7) 512 (.succeed (Vector.replicate 8 1))] := by
  refine ⟨rfl, ?_⟩
  intro h
  have hzero := h .aes256Gcm (Vector.replicate 32 0) (List.replicate 8 1 ++ [8, 7, 7, 7])
    (by decide +kernel)
  exact hzero.2 rfl

end Ysqlite3.Vfs
