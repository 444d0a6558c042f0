import Ysqlite3.Vfs.FileCalls
import Ysqlite3.Vfs.Page
import Ysqlite3.Misc.Aead

/-!
# Crypt_file

`Crypt_file<Parent>` encrypts the pages of a main database with AES-GCM. It holds two encryptors
and a mode: while a transformation is on, pages are read with the current encryptor and written
with the one of the transformation. Keys, ciphers and the mode are set by pragmas, or keys and
ciphers by the URI the file was opened with. OpenSSL is a parameter, and so is what each of its
calls comes to.
-/

namespace Ysqlite3.Vfs

/-- The ciphers `_set_chiper` knows. -/
inductive Cipher where
  | aes256Gcm
  | aes192Gcm
  | aes128Gcm
  deriving DecidableEq, Repr

abbrev Key := Vector UInt8 32

/-- `Crypt_file::Encryptor` -/
@[ext] structure Encryptor where
  cipher : Option Cipher
  key : Key
  deriving DecidableEq, Repr

/-- The members of a fresh `Encryptor`: no cipher and a key of zeros. -/
def Encryptor.initial : Encryptor where
  cipher := none
  key := Vector.replicate 32 0

/-! ## OpenSSL -/

/-- What OpenSSL computes: AES-GCM without associated data, and `PKCS5_PBKDF2_HMAC` over SHA-512
with no salt and 200000 iterations, given the password and its length. -/
structure OpenSsl where
  gcm : Aead (Cipher × Key) Bytes UInt8 (Vector UInt8 16)
  pbkdf2 : Bytes → Int → Key

/-- What the OpenSSL calls made for one page come to. `RAND_bytes` yields eight bytes or fails and
leaves its buffer untouched. -/
structure CryptoCalls where
  rand : Option (Vector UInt8 8)
  cipherInit : Bool
  cipherUpdate : Bool
  setTag : Bool
  cipherFinal : Bool
  getTag : Bool
  deriving DecidableEq, Repr

/-- All calls succeed. -/
def CryptoCalls.succeed (rand : Vector UInt8 8) : CryptoCalls where
  rand := some rand
  cipherInit := true
  cipherUpdate := true
  setTag := true
  cipherFinal := true
  getTag := true

/-- What a `PKCS5_PBKDF2_HMAC` call comes to; one that fails leaves something in the key. -/
inductive KdfCall where
  | succeeds
  | fails (left : Key)
  deriving DecidableEq, Repr

/-- What OpenSSL has seen: each initialisation of a cipher, and each encryption it finished. -/
inductive CryptoEvent where
  | cipherInit (key : Cipher × Key) (iv : Bytes) (encrypt : Bool)
  | cipherFinal (sealing : Sealing (Cipher × Key) Bytes UInt8)
  deriving DecidableEq

/-- The encryptions among the events. -/
def sealings (log : List CryptoEvent) : List (Sealing (Cipher × Key) Bytes UInt8) :=
  log.filterMap (fun
    | .cipherFinal sealing => some sealing
    | .cipherInit _ _ _ => none)

/-- `EVP_CipherUpdate` in place over the first `inl` bytes of `buffer`: the buffer afterwards and
the length processed. -/
def cipherUpdate (succeeds : Bool) (process : Bytes → Bytes) (buffer : Bytes) (inl : Int) :
    Option (Bytes × Int) :=
  if succeeds && 0 ≤ inl then
    some (process (buffer.take inl.toNat) ++ buffer.drop inl.toNat, inl)
  else none

/-! ## Pages -/

/-- The members of `Crypt_file`, and the record `log` of what OpenSSL has seen. -/
structure Crypt where
  transform : Bool
  current : Encryptor
  transformation : Encryptor
  log : List CryptoEvent
  deriving DecidableEq

namespace Crypt

/-- `crypt_file_reserve_size` -/
def reserveSize : Nat := 32

/-- `_transform ? _transformation : _current` -/
def writing (self : Crypt) : Encryptor :=
  if self.transform then self.transformation else self.current

/-- Stores through the same reference. -/
def setWriting (self : Crypt) (encryptor : Encryptor) : Crypt :=
  if self.transform then { self with transformation := encryptor }
  else { self with current := encryptor }

/-- A `std::uint32_t` in little-endian order. -/
def loadLe32 (bytes : Bytes) : UInt32 := bytes.foldr (fun b n => n <<< 8 ||| b.toUInt32) 0

def storeLe32 (n : UInt32) : Bytes :=
  [n.toUInt8, (n >>> 8).toUInt8, (n >>> 16).toUInt8, (n >>> 24).toUInt8]

/-- `_generate_iv`: eight random bytes, if there are any, and the counter behind them plus one.
The result of `RAND_bytes` is not looked at. -/
def generateIv (calls : CryptoCalls) (iv : Bytes) : Bytes :=
  let iv := match calls.rand with
    | some bytes => bytes.toList ++ iv.drop 8
    | none => iv
  iv.take (iv.length - 4) ++ storeLe32 (loadLe32 (iv.drop (iv.length - 4)) + 1)

/-- `_crypt`. The value returned is the tag the context holds for `EVP_CTRL_GCM_GET_TAG`. -/
def crypt (ssl : OpenSsl) (calls : CryptoCalls) (buffer data : Bytes) (encryptor : Encryptor)
    (encrypt : Bool) (self : Crypt) : Outcome (Bytes × Crypt) (Vector UInt8 16) :=
  match encryptor.cipher, calls.cipherInit with
  | some cipher, true =>
    let key := (cipher, encryptor.key)
    let iv := data.take 12
    let self := { self with log := self.log ++ [.cipherInit key iv encrypt] }
    let size := castInt buffer.length
    let process := if encrypt then ssl.gcm.encrypt key iv else ssl.gcm.decrypt key iv
    match cipherUpdate calls.cipherUpdate process buffer size with
    | none => .throws (.sqlite3 .generic "failed to encrypt/decrypt") (buffer, self)
    | some (output, len) =>
      if len ≠ castInt buffer.length then
        .throws (.sqlite3 .generic "failed to encrypt/decrypt") (output, self)
      else
        let tag := ssl.gcm.tag key iv ((if encrypt then output else buffer).take size.toNat)
        if encrypt then
          if calls.cipherFinal then
            .returns tag (output, { self with
              log := self.log ++ [.cipherFinal ⟨key, iv, buffer.take size.toNat⟩] })
          else .throws (.sqlite3 .notADatabase "failed to encrypt/decrypt") (output, self)
        -- the expected tag is set from the page; a failure to set it shows in `CipherFinal`
        else if calls.setTag && calls.cipherFinal && tag.toList = (data.drop 12).take 16 then
          .returns tag (output, self)
        else .throws (.sqlite3 .notADatabase "failed to encrypt/decrypt") (output, self)
  | _, _ => .throws (.sqlite3 .generic "failed to encrypt/decrypt") (buffer, self)

/-- `encode_page` -/
def encodePage (ssl : OpenSsl) (calls : CryptoCalls) (page : Bytes) (self : Crypt) :
    Outcome (Bytes × Crypt) Unit :=
  if self.writing.cipher.isSome then
    match Span.subspan page (sizeSub page.length reserveSize) Span.dynamicExtent,
        Span.subspan page 0 (sizeSub page.length reserveSize) with
    | .ok data, .ok body =>
      let data := generateIv calls (data.take 12) ++ data.drop 12
      match crypt ssl calls body data self.writing true self with
      | .undefined => .undefined
      | .throws e (body, self) => .throws e (body ++ data, self)
      | .returns tag (body, self) =>
        let data := if calls.getTag then data.take 12 ++ tag.toList ++ data.drop 28 else data
        .returns () (body ++ data, self)
    | .error e, _ => .throws e (page, self)
    | _, .error e => .throws e (page, self)
  else .returns () (page, self)

/-- `decode_page` -/
def decodePage (ssl : OpenSsl) (calls : CryptoCalls) (page : Bytes) (self : Crypt) :
    Outcome (Bytes × Crypt) Unit :=
  if self.current.cipher.isSome then
    match Span.subspan page (sizeSub page.length reserveSize) Span.dynamicExtent,
        Span.subspan page 0 (sizeSub page.length reserveSize) with
    | .ok data, .ok body =>
      match crypt ssl calls body data self.current false self with
      | .undefined => .undefined
      | .throws e (body, self) => .throws e (body ++ data, self)
      | .returns _ (body, self) => .returns () (body ++ data, self)
    | .error e, _ => .throws e (page, self)
    | _, .error e => .throws e (page, self)
  else .returns () (page, self)

/-- `check_reserve_size` -/
def checkReserveSize (size : UInt8) (self : Crypt) : Bool :=
  !self.writing.cipher.isSome || size = 32

/-- The page transformation of `Crypt_file`. -/
def transformer (ssl : OpenSsl) : PageTransformer CryptoCalls Crypt where
  encodePage := encodePage ssl
  decodePage := decodePage ssl
  checkReserveSize := checkReserveSize

@[simp] theorem transformer_encodePage (ssl : OpenSsl) :
    (transformer ssl).encodePage = encodePage ssl := rfl
@[simp] theorem transformer_decodePage (ssl : OpenSsl) :
    (transformer ssl).decodePage = decodePage ssl := rfl
@[simp] theorem transformer_checkReserveSize (ssl : OpenSsl) :
    (transformer ssl).checkReserveSize = checkReserveSize := rfl

end Crypt

/-! ## Keys, ciphers and pragmas -/

/-- The string a pragma reports. -/
inductive Report where
  | ok
  | badKeyFormat
  | unknownFormat
  | badHexCharacter (c : UInt8)
  | failedToGenerateNewKey
  | badArgument
  | unkownCipher
  deriving DecidableEq, Repr

/-- A `char`, which is signed, as the `unsigned int` that `sqlite3_mprintf` takes it for. -/
def castUnsigned (c : UInt8) : UInt32 :=
  if c < 0x80 then c.toUInt32 else 0xffffff00 ||| c.toUInt32

/-- The conversion `%c` of `sqlite3_mprintf`. -/
def etCharx (ch : UInt32) : Bytes :=
  let bits (shift mask : UInt32) : UInt8 := (ch >>> shift &&& mask).toUInt8
  if ch < 0x80 then [bits 0 0xff]
  else if ch < 0x800 then [0xc0 + bits 6 0x1f, 0x80 + bits 0 0x3f]
  else if ch < 0x10000 then [0xe0 + bits 12 0x0f, 0x80 + bits 6 0x3f, 0x80 + bits 0 0x3f]
  else [0xf0 + bits 18 0x07, 0x80 + bits 12 0x3f, 0x80 + bits 6 0x3f, 0x80 + bits 0 0x3f]

def Report.text : Report → Bytes
  | ok => cstr "ok"
  | badKeyFormat => cstr "bad key format"
  | unknownFormat => cstr "unknown format"
  | badHexCharacter c => cstr "bad hex character: '" ++ etCharx (castUnsigned c) ++ cstr "'"
  | failedToGenerateNewKey => cstr "failed to generate new key"
  | badArgument => cstr "bad argument"
  | unkownCipher => cstr "unkown cipher"

namespace Crypt

/-- `value[i]`; a C string ends at its terminator, and reading behind that is undefined. -/
def charAt (value : Bytes) (i : Nat) : Option UInt8 :=
  if i ≤ value.length then some (value.getD i 0) else none

/-- The `n` characters from `value + i` on. -/
def charsAt (value : Bytes) (i : Nat) : Nat → Option Bytes
  | 0 => some []
  | n + 1 => do return (← charAt value i) :: (← charsAt value (i + 1) n)

/-- The lambda `convert`: the value of a hex digit, or -1. -/
def convert (c : UInt8) : Int :=
  if 48 ≤ c ∧ c ≤ 57 then c.toNat - 48
  else if 97 ≤ c ∧ c ≤ 102 then c.toNat - 97 + 10
  else if 65 ≤ c ∧ c ≤ 70 then c.toNat - 65 + 10
  else -1

/-- `static_cast<char>(k << 4 | v)` -/
def shiftDigit (k : UInt8) (v : Int) : UInt8 := k <<< 4 ||| UInt8.ofNat v.toNat

/-- The inner loop: two digits of `value` make the byte `key[i]`; the first character that is no
digit ends it. -/
def hexByte (value : Bytes) (i : Nat) : Option (Except UInt8 UInt8) := do
  let c ← charAt value (i * 2)
  if convert c < 0 then return .error c
  let d ← charAt value (i * 2 + 1)
  if convert d < 0 then return .error d
  return .ok (shiftDigit (shiftDigit 0 (convert c)) (convert d))

/-- The outer loop over the `n` bytes `key[i]`, `key[i + 1]`, …. -/
def hexBytes (value : Bytes) (i : Nat) : Nat → Option (Except UInt8 Bytes)
  | 0 => some (.ok [])
  | n + 1 => do
    match ← hexByte value i with
    | .error c => return .error c
    | .ok b =>
      match ← hexBytes value (i + 1) n with
      | .error c => return .error c
      | .ok bs => return .ok (b :: bs)

/-- The key in the `length` hex digits from `value + 2` on. With an odd number of digits the first
one makes a byte of its own and the pointer moves back by one. -/
def hexKey (value : Bytes) (length : Nat) : Option (Except UInt8 Bytes) := do
  if length % 2 = 1 then
    let c ← charAt value 2
    if convert c < 0 then return .error c
    match ← hexBytes (value.drop 1) 1 (length / 2) with
    | .error c => return .error c
    | .ok bs => return .ok (shiftDigit 0 (convert c) :: bs)
  else hexBytes (value.drop 2) 0 (length / 2)

/-- What `_generate_key` takes out of its argument: the password for the key, or a complaint. -/
def parseKey (value : Bytes) : Option (Except Report Bytes) := do
  if value.length < 3 then return .error .badKeyFormat
  let first ← charAt value 1
  let last ← charAt value (value.length - 1)
  -- 39 and 34 are the single and the double quote
  if first ≠ last ∨ (first ≠ 39 ∧ first ≠ 34) then return .error .badKeyFormat
  let format ← charAt value 0
  -- 114 and 120 are `r` and `x`
  if format = 114 then return .ok (← charsAt value 2 (value.length - 3))
  else if format = 120 then
    match ← hexKey value (value.length - 3) with
    | .error c => return .error (.badHexCharacter c)
    | .ok password => return .ok password
  else return .error .unknownFormat

/-- `_generate_key` -/
def generateKey (ssl : OpenSsl) (kdf : KdfCall) (value : Bytes) (encryptor : Encryptor) :
    Option (Report × Encryptor) := do
  match ← parseKey value with
  | .error report => return (report, encryptor)
  | .ok password =>
    match kdf with
    | .succeeds =>
      return (.ok, { encryptor with key := ssl.pbkdf2 password (castInt password.length) })
    | .fails left => return (.failedToGenerateNewKey, { encryptor with key := left })

/-- `_set_chiper` -/
def setChiper (value : Bytes) (encryptor : Encryptor) : Report × Encryptor :=
  if value = cstr "null" then (.ok, { encryptor with cipher := none })
  else if value = cstr "aes-256-gcm" then (.ok, { encryptor with cipher := some .aes256Gcm })
  else if value = cstr "aes-192-gcm" then (.ok, { encryptor with cipher := some .aes192Gcm })
  else if value = cstr "aes-128-gcm" then (.ok, { encryptor with cipher := some .aes128Gcm })
  else (.unkownCipher, encryptor)

/-- The branch of `file_control` for `crypt_transformation`. -/
def cryptTransformation (value : Bytes) (self : Crypt) : Report × Crypt :=
  let digit := value.getD 0 0
  -- 48 and 49 are the digits 0 and 1
  if (digit = 48 ∨ digit = 49) ∧ value.getD 1 0 = 0 then
    if self.transform ≠ (digit = 49 : Bool) then
      let self := if self.transform then { self with current := self.transformation }
        else { self with transformation := self.current }
      (.ok, { self with transform := !self.transform })
    else (.ok, self)
  else (.badArgument, self)

/-- The pragmas `file_control` handles itself. -/
inductive Pragma where
  | key
  | cryptTransformation
  | cipher
  deriving DecidableEq, Repr

def Pragma.ofName (name : Bytes) : Option Pragma :=
  if name = cstr "key" then some .key
  else if name = cstr "crypt_transformation" then some .cryptTransformation
  else if name = cstr "cipher" then some .cipher
  else none

def Pragma.name : Pragma → Bytes
  | .key => cstr "key"
  | .cryptTransformation => cstr "crypt_transformation"
  | .cipher => cstr "cipher"

@[simp] theorem Pragma.ofName_name (pragma : Pragma) : ofName pragma.name = some pragma := by
  cases pragma <;> decide

/-- What such a pragma does with its value: the report and the members afterwards. -/
def applyPragma (ssl : OpenSsl) (kdf : KdfCall) (value : Bytes) (self : Crypt) :
    Pragma → Option (Report × Crypt)
  | .key => do
    let (report, encryptor) ← generateKey ssl kdf value self.writing
    return (report, self.setWriting encryptor)
  | .cryptTransformation => some (self.cryptTransformation value)
  | .cipher =>
    let (report, encryptor) := setChiper value self.writing
    some (report, self.setWriting encryptor)

/-- The constructor, with the URI parameters `key` and `cipher`. -/
def construct (ssl : OpenSsl) (kdf : KdfCall) (uriKey uriCipher : Option Bytes) : Option Crypt := do
  let current ← match uriKey with
    | some key => (generateKey ssl kdf key Encryptor.initial).map Prod.snd
    | none => some Encryptor.initial
  let current := match uriCipher with
    | some cipher => (setChiper cipher current).2
    | none => current
  return { transform := false, current, transformation := Encryptor.initial, log := [] }

end Crypt

namespace CryptFile

variable {σ : Type}

/-- `Crypt_file::file_control`. The report goes into the slot of the pragma's name; reading a value
that is not there is undefined. -/
def fileControl (ssl : OpenSsl) (P : File σ) (kdf : KdfCall) (operation : FileControl)
    (self : PageTransformingFile Crypt σ) :
    Outcome (FileControl × PageTransformingFile Crypt σ) Unit :=
  let toParent := (P.fileControl operation self.parent).mapState
    (fun (operation, parent) => (operation, { self with parent }))
  match operation with
  | .other _ => toParent
  | .pragma args =>
    match Crypt.Pragma.ofName args.name, args.value with
    | none, _ => toParent
    | some _, none => .undefined
    | some pragma, some value =>
      match Crypt.applyPragma ssl kdf value self.derived pragma with
      | none => .undefined
      | some (report, derived) =>
        .returns () (.pragma { args with name := report.text }, { self with derived })

end CryptFile

/-- A call on an open `Crypt_file`, or an adversary replacing what the parent holds. -/
inductive CryptCall (σ : Type) where
  | read (buffer : Buffer) (offset : Nat) (calls : CryptoCalls)
  | write (buffer : Buffer) (offset : Nat) (calls : CryptoCalls)
  | pragma (name : Bytes) (value : Option Bytes) (kdf : KdfCall)
  | tamper (parent : σ)

/-- `Crypt_file<Parent>` as a component. -/
def cryptFile {σ : Type} (ssl : OpenSsl) (P : File σ) :
    Component (PageTransformingFile Crypt σ) (CryptCall σ) FileReply where
  step self
    | .read buffer offset calls => FileReply.ofRead self
        (PageTransformingFile.read (Crypt.transformer ssl) P calls buffer offset self)
    | .write buffer offset calls => FileReply.ofUnit self
        (PageTransformingFile.write (Crypt.transformer ssl) P calls buffer offset self)
    | .pragma name value kdf => FileReply.ofControl self
        (CryptFile.fileControl ssl P kdf (.pragma ⟨none, name, value⟩) self)
    | .tamper parent => (.done, { self with parent })

end Ysqlite3.Vfs
