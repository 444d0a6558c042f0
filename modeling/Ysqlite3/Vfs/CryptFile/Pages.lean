import Ysqlite3.Vfs.CryptFile
import Ysqlite3.Vfs.Page

/-!
# What encryption makes of a page

A page is encoded behind its clear part: the body is replaced by its ciphertext, and of the last 32
bytes the first 12 become the IV, the next 16 the tag, and the last 4 stay. `OpensTo` says that the
bytes in the file decode to a given page, up to the 28 bytes of IV and tag.
-/

namespace Ysqlite3.Vfs

open PageTransformingFile

namespace Crypt

variable {ssl : OpenSsl} {calls : CryptoCalls} {key : Cipher × Key} {cipher : Cipher}
  {span page stored : Bytes} {self self' : Crypt}

/-! ## The record -/

/-- The members with more on the record. -/
def logged (d : Crypt) (events : List CryptoEvent) : Crypt := { d with log := d.log ++ events }

section Logged

variable (d : Crypt) (events : List CryptoEvent)

@[simp] theorem transform_logged : (d.logged events).transform = d.transform := rfl
@[simp] theorem current_logged : (d.logged events).current = d.current := rfl
@[simp] theorem transformation_logged :
    (d.logged events).transformation = d.transformation := rfl
@[simp] theorem log_logged : (d.logged events).log = d.log ++ events := rfl
@[simp] theorem writing_logged : (d.logged events).writing = d.writing := rfl
@[simp] theorem logged_nil : d.logged [] = d := by simp [logged]

end Logged

/-! ## Spans -/

theorem cipherUpdate_eq (process : Bytes → Bytes) {buffer : Bytes} (h : buffer.length < 2 ^ 31) :
    cipherUpdate true process buffer (castInt buffer.length) =
      some (process buffer, castInt buffer.length) := by
  rw [castInt_of_lt h]
  simp [cipherUpdate]

theorem length_generateIv (calls : CryptoCalls) {iv : Bytes} (h : iv.length = 12) :
    (generateIv calls iv).length = 12 := by
  unfold generateIv
  cases calls.rand with
  | none => simp [storeLe32, h]
  | some bytes => simp [storeLe32, h]

/-- Random bytes that were drawn start the IV. -/
theorem take_generateIv {bytes : Vector UInt8 8} (h : calls.rand = some bytes) {iv : Bytes}
    (hiv : iv.length = 12) : (generateIv calls iv).take 8 = bytes.toList := by
  have hlen : (bytes.toList ++ iv.drop 8).length - 4 = 8 := by simp [hiv]
  simp only [generateIv, h, hlen]
  rw [List.take_append_of_le_length (by simp), List.take_take, Nat.min_self,
    List.take_left' (by simp)]

/-- The IV `_generate_iv` leaves in the last 32 bytes of a span. -/
def spanIv (calls : CryptoCalls) (span : Bytes) : Bytes :=
  generateIv calls ((span.drop (span.length - 32)).take 12)

/-- What `encode_page` makes of a span, when it succeeds under `key`. -/
def sealSpan (ssl : OpenSsl) (calls : CryptoCalls) (key : Cipher × Key) (span : Bytes) : Bytes :=
  let data := span.drop (span.length - 32)
  let iv := spanIv calls span
  let ciphertext := ssl.gcm.encrypt key iv (span.take (span.length - 32))
  let tag := if calls.getTag then (ssl.gcm.tag key iv ciphertext).toList else (data.drop 12).take 16
  ciphertext ++ (iv ++ (tag ++ data.drop 28))

/-- What `decode_page` makes of a span, when it succeeds under `key`. -/
def openSpan (ssl : OpenSsl) (key : Cipher × Key) (span : Bytes) : Bytes :=
  let data := span.drop (span.length - 32)
  ssl.gcm.decrypt key (data.take 12) (span.take (span.length - 32)) ++ data

/-- The tag in a span is the one of its body. -/
def TagValid (ssl : OpenSsl) (key : Cipher × Key) (span : Bytes) : Prop :=
  let data := span.drop (span.length - 32)
  (ssl.gcm.tag key (data.take 12) (span.take (span.length - 32))).toList = (data.drop 12).take 16

theorem length_spanIv (calls : CryptoCalls) (h : 32 ≤ span.length) :
    (spanIv calls span).length = 12 :=
  length_generateIv calls (by simp; omega)

theorem take_spanIv (calls : CryptoCalls) (h : 32 ≤ span.length) (rest : Bytes) :
    (spanIv calls span ++ rest).take 12 = spanIv calls span :=
  List.take_left' (length_spanIv calls h)

theorem length_body_lt (h31 : span.length < 2 ^ 31) :
    (span.take (span.length - 32)).length < 2 ^ 31 := by
  rw [List.length_take]
  omega

/-- The last 32 bytes and the body, as `subspan` cuts them. -/
theorem subspan_data (h32 : 32 ≤ span.length) (h31 : span.length < 2 ^ 31) :
    Span.subspan span (sizeSub span.length reserveSize) Span.dynamicExtent =
        .ok (span.drop (span.length - 32)) ∧
      Span.subspan span 0 (sizeSub span.length reserveSize) =
        .ok (span.take (span.length - 32)) := by
  have hsub : sizeSub span.length reserveSize = span.length - 32 :=
    sizeSub_of_le h32 (by omega)
  constructor
  · rw [hsub, Span.subspan_ok _ (by omega), List.take_of_length_le]
    simp only [List.length_drop, Span.dynamicExtent]
    omega
  · rw [hsub, Span.subspan_ok _ (Nat.zero_le _), List.drop_zero]

section Sealed

variable (ssl calls key) (h32 : 32 ≤ span.length)
include h32

/-- The parts of a sealed span: ciphertext, IV, tag and the last four bytes. -/
theorem sealSpan_parts :
    (sealSpan ssl calls key span).length = span.length ∧
    (sealSpan ssl calls key span).take (span.length - 32) =
      ssl.gcm.encrypt key (spanIv calls span) (span.take (span.length - 32)) ∧
    ((sealSpan ssl calls key span).drop (span.length - 32)).take 12 = spanIv calls span ∧
    (((sealSpan ssl calls key span).drop (span.length - 32)).drop 12).take 16 =
      (if calls.getTag then
        (ssl.gcm.tag key (spanIv calls span)
          (ssl.gcm.encrypt key (spanIv calls span) (span.take (span.length - 32)))).toList
      else ((span.drop (span.length - 32)).drop 12).take 16) ∧
    (sealSpan ssl calls key span).drop (span.length - 4) = span.drop (span.length - 4) := by
  have hiv := length_spanIv calls h32
  set iv := spanIv calls span
  set ciphertext := ssl.gcm.encrypt key iv (span.take (span.length - 32)) with hc
  set tag := (if calls.getTag then (ssl.gcm.tag key iv ciphertext).toList
    else ((span.drop (span.length - 32)).drop 12).take 16) with ht
  have hclen : ciphertext.length = span.length - 32 := by
    rw [hc, ssl.gcm.length_encrypt, List.length_take]; omega
  have htlen : tag.length = 16 := by
    rw [ht]; split
    · simp
    · simp; omega
  have hseal : sealSpan ssl calls key span =
      ciphertext ++ (iv ++ (tag ++ span.drop (span.length - 4))) := by
    have : (span.drop (span.length - 32)).drop 28 = span.drop (span.length - 4) := by
      rw [List.drop_drop]; congr 1; omega
    simp only [sealSpan, this, hc, ht]
    rfl
  rw [hseal]
  refine ⟨?_, ?_, ?_, ?_, ?_⟩
  · simp only [List.length_append, List.length_drop, hclen, hiv, htlen]; omega
  · exact List.take_left' hclen
  · rw [List.drop_left' hclen, List.take_left' hiv]
  · rw [List.drop_left' hclen, List.drop_left' hiv, List.take_left' htlen]
  · rw [← List.append_assoc, ← List.append_assoc]
    exact List.drop_left' (by simp only [List.length_append, hclen, hiv, htlen]; omega)

theorem length_sealSpan : (sealSpan ssl calls key span).length = span.length :=
  (sealSpan_parts ssl calls key h32).1

/-- A span sealed with its tag written carries a valid tag. -/
theorem tagValid_sealSpan (htag : calls.getTag = true) :
    TagValid ssl key (sealSpan ssl calls key span) := by
  obtain ⟨hlen, hbody, hiv, ht, -⟩ := sealSpan_parts ssl calls key h32
  unfold TagValid
  simp only [hlen, hbody, hiv, ht, htag, if_true]

/-- Opening a sealed span gives its body back. -/
theorem openSpan_sealSpan :
    openSpan ssl key (sealSpan ssl calls key span) =
      span.take (span.length - 32) ++ (sealSpan ssl calls key span).drop (span.length - 32) := by
  obtain ⟨hlen, hbody, hiv, -, -⟩ := sealSpan_parts ssl calls key h32
  simp only [openSpan, hlen, hbody, hiv, ssl.gcm.decrypt_encrypt]

end Sealed

theorem length_openSpan (ssl : OpenSsl) (key : Cipher × Key) (span : Bytes) :
    (openSpan ssl key span).length = span.length := by
  simp only [openSpan, List.length_append, ssl.gcm.length_decrypt, List.length_take,
    List.length_drop]
  omega

/-! ## encode_page and decode_page -/

/-- The OpenSSL calls an encryption cannot do without came to success. -/
def Encrypts (calls : CryptoCalls) : Prop :=
  calls.cipherInit = true ∧ calls.cipherUpdate = true ∧ calls.cipherFinal = true

theorem encodePage_null (h : self.writing.cipher = none) :
    encodePage ssl calls page self = .returns () (page, self) := by
  simp [encodePage, h]

theorem decodePage_null (h : self.current.cipher = none) :
    decodePage ssl calls page self = .returns () (page, self) := by
  simp [decodePage, h]

/-- Encryption by `_crypt` over a buffer whose size is an `int`. -/
theorem crypt_encrypt {buffer data : Bytes} {encryptor : Encryptor}
    (hc : encryptor.cipher = some cipher) (h31 : buffer.length < 2 ^ 31) :
    crypt ssl calls buffer data encryptor true self =
      if calls.cipherInit then
        let iv := data.take 12
        let key := (cipher, encryptor.key)
        let log := self.log ++ [.cipherInit key iv true]
        if calls.cipherUpdate then
          let output := ssl.gcm.encrypt key iv buffer
          if calls.cipherFinal then
            .returns (ssl.gcm.tag key iv output)
              (output, { self with log := log ++ [.cipherFinal ⟨key, iv, buffer⟩] })
          else .throws (.sqlite3 .notADatabase "failed to encrypt/decrypt")
            (output, { self with log })
        else .throws (.sqlite3 .generic "failed to encrypt/decrypt") (buffer, { self with log })
      else .throws (.sqlite3 .generic "failed to encrypt/decrypt") (buffer, self) := by
  have hsize : (castInt buffer.length).toNat = buffer.length := by
    rw [castInt_of_lt h31, Int.toNat_natCast]
  cases hi : calls.cipherInit with
  | false => simp [crypt, hc, hi]
  | true =>
    cases hu : calls.cipherUpdate with
    | false => simp [crypt, hc, hi, hu, cipherUpdate]
    | true =>
      have hfull : ∀ key iv, (ssl.gcm.encrypt key iv buffer).take buffer.length =
          ssl.gcm.encrypt key iv buffer :=
        fun key iv => List.take_of_length_le (Nat.le_of_eq (ssl.gcm.length_encrypt key iv buffer))
      simp only [crypt, hc, hi, hu, if_true, cipherUpdate_eq _ h31, ne_eq, not_true, if_false, hsize,
        hfull, List.take_length]

/-- Decryption by `_crypt` over a buffer whose size is an `int`. -/
theorem crypt_decrypt {buffer data : Bytes} {encryptor : Encryptor}
    (hc : encryptor.cipher = some cipher) (h31 : buffer.length < 2 ^ 31) :
    crypt ssl calls buffer data encryptor false self =
      if calls.cipherInit then
        let iv := data.take 12
        let key := (cipher, encryptor.key)
        let self := { self with log := self.log ++ [.cipherInit key iv false] }
        if calls.cipherUpdate then
          let output := ssl.gcm.decrypt key iv buffer
          if calls.setTag && calls.cipherFinal &&
              (ssl.gcm.tag key iv buffer).toList = (data.drop 12).take 16 then
            .returns (ssl.gcm.tag key iv buffer) (output, self)
          else .throws (.sqlite3 .notADatabase "failed to encrypt/decrypt") (output, self)
        else .throws (.sqlite3 .generic "failed to encrypt/decrypt") (buffer, self)
      else .throws (.sqlite3 .generic "failed to encrypt/decrypt") (buffer, self) := by
  have hsize : (castInt buffer.length).toNat = buffer.length := by
    rw [castInt_of_lt h31, Int.toNat_natCast]
  cases hi : calls.cipherInit with
  | false => simp [crypt, hc, hi]
  | true =>
    cases hu : calls.cipherUpdate with
    | false => simp [crypt, hc, hi, hu, cipherUpdate]
    | true =>
      simp only [crypt, hc, hi, hu, if_true, cipherUpdate_eq _ h31, ne_eq, not_true, if_false, hsize,
        Bool.false_eq_true, List.take_length]

/-- What a finished encryption adds to the record. -/
def sealEvents (calls : CryptoCalls) (key : Cipher × Key) (span : Bytes) : List CryptoEvent :=
  [.cipherInit key (spanIv calls span) true,
    .cipherFinal ⟨key, spanIv calls span, span.take (span.length - 32)⟩]

theorem encodePage_some (hc : self.writing.cipher = some cipher) (h32 : 32 ≤ span.length)
    (h31 : span.length < 2 ^ 31) (hcalls : Encrypts calls) :
    encodePage ssl calls span self =
      .returns () (sealSpan ssl calls (cipher, self.writing.key) span,
        self.logged (sealEvents calls (cipher, self.writing.key) span)) := by
  obtain ⟨hdata, hbody⟩ := subspan_data h32 h31
  obtain ⟨hi, hu, hf⟩ := hcalls
  have hiv := length_spanIv calls h32
  have hiv' : generateIv calls ((span.drop (span.length - 32)).take 12) = spanIv calls span := rfl
  -- the last four bytes, behind the IV and the place of the tag
  have hrest : ∀ data : Bytes, data.drop 28 = (data.drop 12).drop 16 :=
    fun data => by rw [List.drop_drop]
  have hdrop : ∀ data : Bytes, (spanIv calls span ++ data.drop 12).drop 28 = data.drop 28 := by
    intro data
    rw [hrest, List.drop_left' hiv, hrest]
  simp only [encodePage, hc, Option.isSome_some, if_true, hdata, hbody, hiv']
  rw [crypt_encrypt hc (length_body_lt h31)]
  simp only [hi, hu, hf, if_true, take_spanIv calls h32, sealEvents, List.append_assoc,
    List.cons_append, List.nil_append]
  refine congrArg (fun page => Outcome.returns () (page, _)) ?_
  unfold sealSpan
  cases hg : calls.getTag with
  | true => simp only [if_true, hdrop]
  | false =>
    simp only [Bool.false_eq_true, if_false]
    rw [hrest, List.take_append_drop]

/-- An encryption for which one of the calls fails throws. -/
theorem encodePage_throws (ssl : OpenSsl) (hc : self.writing.cipher = some cipher) (h32 : 32 ≤ span.length)
    (h31 : span.length < 2 ^ 31) (hcalls : ¬ Encrypts calls) :
    ∃ e page events, encodePage ssl calls span self = .throws e (page, self.logged events) ∧
      (events = [] ∨
        events = [.cipherInit (cipher, self.writing.key) (spanIv calls span) true]) := by
  obtain ⟨hdata, hbody⟩ := subspan_data h32 h31
  have hiv : generateIv calls ((span.drop (span.length - 32)).take 12) = spanIv calls span := rfl
  simp only [encodePage, hc, Option.isSome_some, if_true, hdata, hbody]
  rw [crypt_encrypt hc (length_body_lt h31)]
  simp only [hiv, take_spanIv calls h32]
  cases hi : calls.cipherInit with
  | false => exact ⟨_, _, [], by rw [logged_nil]; rfl, Or.inl rfl⟩
  | true =>
    cases hu : calls.cipherUpdate with
    | false => exact ⟨_, _, _, rfl, Or.inr rfl⟩
    | true =>
      cases hf : calls.cipherFinal with
      | false => exact ⟨_, _, _, rfl, Or.inr rfl⟩
      | true => exact absurd ⟨hi, hu, hf⟩ hcalls

/-- What an encryption that returned has made of the span. -/
theorem encodePage_returns (hc : self.writing.cipher = some cipher) (h32 : 32 ≤ span.length)
    (h31 : span.length < 2 ^ 31) (h : encodePage ssl calls span self = .returns () (page, self')) :
    page = sealSpan ssl calls (cipher, self.writing.key) span ∧
      self' = self.logged (sealEvents calls (cipher, self.writing.key) span) := by
  by_cases hcalls : Encrypts calls
  · rw [encodePage_some hc h32 h31 hcalls, Outcome.returns.injEq, Prod.mk.injEq] at h
    exact ⟨h.2.1.symm, h.2.2.symm⟩
  · obtain ⟨e, page', events, hthrow, -⟩ := encodePage_throws ssl hc h32 h31 hcalls
    rw [hthrow] at h
    cases h

/-- The OpenSSL calls of a decryption came to success. -/
def Decrypts (calls : CryptoCalls) : Prop :=
  calls.cipherInit = true ∧ calls.cipherUpdate = true ∧ calls.setTag = true ∧
    calls.cipherFinal = true

/-- What a decryption adds to the record. -/
def openEvents (key : Cipher × Key) (span : Bytes) : List CryptoEvent :=
  [.cipherInit key ((span.drop (span.length - 32)).take 12) false]

theorem decodePage_some (hc : self.current.cipher = some cipher) (h32 : 32 ≤ span.length)
    (h31 : span.length < 2 ^ 31) (hcalls : Decrypts calls)
    (htag : TagValid ssl (cipher, self.current.key) span) :
    decodePage ssl calls span self =
      .returns () (openSpan ssl (cipher, self.current.key) span,
        self.logged (openEvents (cipher, self.current.key) span)) := by
  obtain ⟨hdata, hbody⟩ := subspan_data h32 h31
  obtain ⟨hi, hu, hs, hf⟩ := hcalls
  unfold TagValid at htag
  simp only [decodePage, hc, Option.isSome_some, if_true, hdata, hbody]
  rw [crypt_decrypt hc (length_body_lt h31)]
  simp only [hi, hu, hs, hf, htag, decide_true, Bool.and_self, if_true]
  rfl

/-- What a failed decryption throws: only once the data has been processed is it the tag, or what
belongs to it, that is wrong. -/
def decodeError (calls : CryptoCalls) : Exception :=
  .sqlite3 (if calls.cipherInit && calls.cipherUpdate then .notADatabase else .generic)
    "failed to encrypt/decrypt"

/-- A decryption for which one of the calls fails, or which finds a wrong tag, throws. -/
theorem decodePage_throws (hc : self.current.cipher = some cipher) (h32 : 32 ≤ span.length)
    (h31 : span.length < 2 ^ 31)
    (h : ¬ (Decrypts calls ∧ TagValid ssl (cipher, self.current.key) span)) :
    ∃ page events, decodePage ssl calls span self =
        .throws (decodeError calls) (page, self.logged events) ∧
      (events = [] ∨ events = openEvents (cipher, self.current.key) span) := by
  obtain ⟨hdata, hbody⟩ := subspan_data h32 h31
  simp only [decodePage, hc, Option.isSome_some, if_true, hdata, hbody, decodeError]
  rw [crypt_decrypt hc (length_body_lt h31)]
  cases hi : calls.cipherInit with
  | false => exact ⟨_, [], by rw [logged_nil]; rfl, Or.inl rfl⟩
  | true =>
    cases hu : calls.cipherUpdate with
    | false => exact ⟨_, _, rfl, Or.inr rfl⟩
    | true =>
      rw [if_pos rfl]
      simp only [if_true]
      rw [if_neg]
      · exact ⟨_, _, rfl, Or.inr rfl⟩
      · intro hcond
        simp only [Bool.and_eq_true, decide_eq_true_eq] at hcond
        exact h ⟨⟨hi, hu, hcond.1.1, hcond.1.2⟩, hcond.2⟩

/-- What a decryption that returned has found in the span. -/
theorem decodePage_returns (hc : self.current.cipher = some cipher) (h32 : 32 ≤ span.length)
    (h31 : span.length < 2 ^ 31) (h : decodePage ssl calls span self = .returns () (page, self')) :
    TagValid ssl (cipher, self.current.key) span ∧
      page = openSpan ssl (cipher, self.current.key) span ∧
      self' = self.logged (openEvents (cipher, self.current.key) span) := by
  by_cases hok : Decrypts calls ∧ TagValid ssl (cipher, self.current.key) span
  · rw [decodePage_some hc h32 h31 hok.1 hok.2, Outcome.returns.injEq, Prod.mk.injEq] at h
    exact ⟨hok.2, h.2.1.symm, h.2.2.symm⟩
  · obtain ⟨page', events, hthrow, -⟩ := decodePage_throws hc h32 h31 hok
    rw [hthrow] at h
    cases h

/-! ## Whole pages -/

/-- The bytes of `b` are those of `page`, except for the 28 bytes of IV and tag where the encryptor
has a cipher. -/
def SameExceptTag (encryptor : Encryptor) (page b : Bytes) : Prop :=
  b.length = page.length ∧ ∀ i < page.length,
    (encryptor.cipher = none ∨ i < page.length - 32 ∨ page.length - 4 ≤ i) → b[i]? = page[i]?

/-- What the parent gets to store for the page `buffer`. -/
def storedPage (ssl : OpenSsl) (calls : CryptoCalls) (encryptor : Encryptor) (clear : Nat)
    (buffer : Bytes) : Bytes :=
  match encryptor.cipher with
  | none => buffer
  | some cipher =>
    buffer.take clear ++ sealSpan ssl calls (cipher, encryptor.key) (buffer.drop clear)

/-- What a page in the file decodes to. -/
def openedPage (ssl : OpenSsl) (encryptor : Encryptor) (clear : Nat) (stored : Bytes) : Bytes :=
  match encryptor.cipher with
  | none => stored
  | some cipher =>
    stored.take clear ++ openSpan ssl (cipher, encryptor.key) (stored.drop clear)

/-- What writing a page adds to the record. -/
def writeEvents (calls : CryptoCalls) (encryptor : Encryptor) (span : Bytes) : List CryptoEvent :=
  match encryptor.cipher with
  | none => []
  | some cipher => sealEvents calls (cipher, encryptor.key) span

/-- What reading a page adds to the record. -/
def readEvents (encryptor : Encryptor) (span : Bytes) : List CryptoEvent :=
  match encryptor.cipher with
  | none => []
  | some cipher => openEvents (cipher, encryptor.key) span

/-- The page `stored` decodes under the encryptor, to `page` up to IV and tag. -/
structure OpensTo (ssl : OpenSsl) (encryptor : Encryptor) (clear : Nat) (stored page : Bytes) :
    Prop where
  valid : ∀ cipher, encryptor.cipher = some cipher →
    TagValid ssl (cipher, encryptor.key) (stored.drop clear)
  same : SameExceptTag encryptor page (openedPage ssl encryptor clear stored)

section Whole

variable {encryptor : Encryptor} {clear : Nat} {buffer : Bytes}

theorem SameExceptTag.refl (encryptor : Encryptor) (page : Bytes) :
    SameExceptTag encryptor page page :=
  ⟨rfl, fun _ _ _ => rfl⟩

theorem length_storedPage (h : clear + 32 ≤ buffer.length) :
    (storedPage ssl calls encryptor clear buffer).length = buffer.length := by
  unfold storedPage
  cases encryptor.cipher with
  | none => rfl
  | some cipher =>
    have h32 : 32 ≤ (buffer.drop clear).length := by simp; omega
    simp only [List.length_append, length_sealSpan ssl calls _ h32, List.length_take,
      List.length_drop]
    omega

theorem length_openedPage : (openedPage ssl encryptor clear stored).length = stored.length := by
  unfold openedPage
  cases encryptor.cipher with
  | none => rfl
  | some cipher =>
    simp only [List.length_append, length_openSpan, List.length_take, List.length_drop]
    omega

/-- Opening what was stored gives everything before the last 32 bytes back. -/
theorem openedPage_storedPage {cipher : Cipher} (hc : encryptor.cipher = some cipher)
    (hsize : clear + 32 ≤ buffer.length) :
    openedPage ssl encryptor clear (storedPage ssl calls encryptor clear buffer) =
      buffer.take (buffer.length - 32) ++
        (sealSpan ssl calls (cipher, encryptor.key) (buffer.drop clear)).drop
          ((buffer.drop clear).length - 32) := by
  have h32 : 32 ≤ (buffer.drop clear).length := by simp; omega
  have hclear : (buffer.take clear).length = clear := by simp; omega
  have hsplit : buffer.length - 32 = clear + ((buffer.drop clear).length - 32) := by
    simp only [List.length_drop]; omega
  simp only [openedPage, storedPage, hc, List.take_left' hclear, List.drop_left' hclear,
    openSpan_sealSpan ssl calls _ h32]
  rw [hsplit, List.take_add, List.append_assoc]

/-- What was stored opens to what was written, IV and tag apart. -/
theorem sameExceptTag_storedPage (hsize : clear + 32 ≤ buffer.length) :
    SameExceptTag encryptor buffer
      (openedPage ssl encryptor clear (storedPage ssl calls encryptor clear buffer)) := by
  cases hc : encryptor.cipher with
  | none =>
    simp only [openedPage, storedPage, hc]
    exact SameExceptTag.refl _ _
  | some cipher =>
    have h32 : 32 ≤ (buffer.drop clear).length := by simp; omega
    refine ⟨length_openedPage.trans (length_storedPage hsize), fun i hi hplace => ?_⟩
    rw [openedPage_storedPage hc hsize]
    by_cases hbody : i < buffer.length - 32
    · rw [List.getElem?_append_left (by simp; omega), List.getElem?_take, if_pos hbody]
    · have hlast : buffer.length - 4 ≤ i := by
        rcases hplace with hnone | hlow | hhigh
        · simp [hc] at hnone
        · omega
        · exact hhigh
      -- the last four bytes are behind IV and tag
      obtain ⟨hlen, -, -, -, hrest⟩ :=
        sealSpan_parts ssl calls (cipher, encryptor.key) h32
      have hdrop := congrArg (·[i - (buffer.length - 4)]?) hrest
      simp only [List.getElem?_drop, List.length_drop] at hdrop
      rw [List.getElem?_append_right (by simp; omega), List.getElem?_drop, List.length_take,
        List.length_drop]
      have e₁ : buffer.length - clear - 32 + (i - min (buffer.length - 32) buffer.length) =
          buffer.length - clear - 4 + (i - (buffer.length - 4)) := by omega
      have e₂ : clear + (buffer.length - clear - 4 + (i - (buffer.length - 4))) = i := by omega
      rw [e₁, hdrop, e₂]

/-- A page stored with its tag opens to what was written. -/
theorem opensTo_storedPage (hsize : clear + 32 ≤ buffer.length)
    (htag : encryptor.cipher = none ∨ calls.getTag = true) :
    OpensTo ssl encryptor clear (storedPage ssl calls encryptor clear buffer) buffer where
  valid cipher hc := by
    have h32 : 32 ≤ (buffer.drop clear).length := by simp; omega
    have hclear : (buffer.take clear).length = clear := by simp; omega
    have hg : calls.getTag = true := htag.resolve_left (by simp [hc])
    simp only [storedPage, hc, List.drop_left' hclear]
    exact tagValid_sealSpan ssl calls _ h32 hg
  same := sameExceptTag_storedPage hsize

end Whole

end Crypt

/-! ## Page accesses of a Crypt_file -/

section Access

open Crypt

variable {σ : Type} {ssl : OpenSsl} {P : File σ} {content : σ → Bytes} {calls : CryptoCalls}
  {buffer page : Bytes} {offset : Nat} {self self' : PageTransformingFile Crypt σ}

/-- The reserve byte is not among the bytes that IV and tag replace. -/
theorem reserveRejected_congr (ssl : OpenSsl) {a b : Bytes} {encryptor : Encryptor}
    (hsame : SameExceptTag encryptor a b) (hsize : 512 ≤ a.length) (d : Crypt) (offset : Nat) :
    reserveRejected (transformer ssl) b offset d = reserveRejected (transformer ssl) a offset d := by
  have hbyte : b.getD (20 - offset) 0 = a.getD (20 - offset) 0 := by
    rw [List.getD_eq_getElem?_getD, List.getD_eq_getElem?_getD,
      hsame.2 (20 - offset) (by omega) (Or.inr (Or.inl (by omega)))]
  simp only [reserveRejected, transformer_checkReserveSize, hsame.1, hbyte]

/-- `decode_page` on the part of a stored page behind the clear bytes, when its decryption
succeeds. -/
theorem decode_succeeds {stored : Bytes} {d : Crypt} (hsize : 512 ≤ stored.length)
    (hint : stored.length < 2 ^ 31)
    (hvalid : ∀ cipher, d.current.cipher = some cipher → Decrypts calls ∧
      TagValid ssl (cipher, d.current.key) (stored.drop (clearSize .mainDb offset))) :
    ∃ page, decodePage ssl calls (stored.drop (clearSize .mainDb offset)) d =
        .returns () (page, d.logged (readEvents d.current
          (stored.drop (clearSize .mainDb offset)))) ∧
      stored.take (clearSize .mainDb offset) ++ page =
        openedPage ssl d.current (clearSize .mainDb offset) stored := by
  have hclear := clearSize_le .mainDb offset
  cases hc : d.current.cipher with
  | none =>
    refine ⟨stored.drop (clearSize .mainDb offset), ?_, ?_⟩
    · rw [decodePage_null hc]
      simp only [readEvents, hc, logged_nil]
    · rw [List.take_append_drop]
      simp only [openedPage, hc]
  | some cipher =>
    obtain ⟨hcalls, htag⟩ := hvalid cipher hc
    refine ⟨openSpan ssl (cipher, d.current.key) (stored.drop (clearSize .mainDb offset)), ?_, ?_⟩
    · rw [decodePage_some hc (by simp; omega) (by simp; omega) hcalls htag]
      simp only [readEvents, hc]
    · simp only [openedPage, hc]

/-- What `decode_page` has made of a stored page when it returned. -/
theorem decode_returned {stored : Bytes} {d d' : Crypt} (hsize : 512 ≤ stored.length)
    (hint : stored.length < 2 ^ 31)
    (h : decodePage ssl calls (stored.drop (clearSize .mainDb offset)) d =
      .returns () (page, d')) :
    (∀ cipher, d.current.cipher = some cipher →
        TagValid ssl (cipher, d.current.key) (stored.drop (clearSize .mainDb offset))) ∧
      d' = d.logged (readEvents d.current (stored.drop (clearSize .mainDb offset))) ∧
      stored.take (clearSize .mainDb offset) ++ page =
        openedPage ssl d.current (clearSize .mainDb offset) stored := by
  have hclear := clearSize_le .mainDb offset
  cases hc : d.current.cipher with
  | none =>
    rw [decodePage_null hc, Outcome.returns.injEq, Prod.mk.injEq] at h
    obtain ⟨-, rfl, rfl⟩ := h
    refine ⟨by simp, ?_, ?_⟩
    · simp only [readEvents, hc, logged_nil]
    · simp only [openedPage, hc, List.take_append_drop]
  | some cipher =>
    obtain ⟨htag, rfl, rfl⟩ := decodePage_returns hc (by simp; omega) (by simp; omega) h
    refine ⟨?_, ?_, ?_⟩
    · intro cipher' hcipher
      cases hcipher
      exact htag
    · simp only [readEvents, hc]
    · simp only [openedPage, hc]

/-- A span that is valid under the cipher there is. -/
theorem valid_of_cipher {encryptor : Encryptor} {cipher : Cipher} {span : Bytes}
    (hc : encryptor.cipher = some cipher)
    (h : Decrypts calls ∧ TagValid ssl (cipher, encryptor.key) span) :
    ∀ cipher', encryptor.cipher = some cipher' →
      Decrypts calls ∧ TagValid ssl (cipher', encryptor.key) span := by
  intro cipher' hcipher'
  obtain rfl := Option.some.inj (hc.symm.trans hcipher')
  exact h

/-- A full page in the file that decodes, and whose reserve byte is accepted, is read. -/
theorem readPage_succeeds (hP : Faithful P content) (hf : P.format = .mainDb)
    (hsize : 512 ≤ buffer.length) (hint : buffer.length < 2 ^ 31)
    (hfull : offset + buffer.length ≤ (content self.parent).length)
    (hvalid : ∀ cipher, self.derived.current.cipher = some cipher → Decrypts calls ∧
      TagValid ssl (cipher, self.derived.current.key)
        ((Store.readAt (content self.parent) offset buffer.length).drop
          (clearSize .mainDb offset)))
    (hreserve : reserveRejected (transformer ssl)
      (openedPage ssl self.derived.current (clearSize .mainDb offset)
        (Store.readAt (content self.parent) offset buffer.length)) offset self.derived = false) :
    ∃ self', read (transformer ssl) P calls buffer offset self =
        .returns () (openedPage ssl self.derived.current (clearSize .mainDb offset)
          (Store.readAt (content self.parent) offset buffer.length), self') ∧
      content self'.parent = content self.parent ∧
      self'.derived = self.derived.logged (readEvents self.derived.current
        ((Store.readAt (content self.parent) offset buffer.length).drop
          (clearSize .mainDb offset))) := by
  obtain ⟨parent, hparent, hread⟩ := hP.read buffer offset self.parent hint
  have hlen := Store.length_readAt_of_le hfull
  rw [if_pos hlen] at hread
  obtain ⟨page, hdecode, hopened⟩ :=
    decode_succeeds (hlen.symm ▸ hsize) (hlen.symm ▸ hint) hvalid
  rw [← hopened] at hreserve ⊢
  rw [← transformer_decodePage] at hdecode
  obtain ⟨size, hret⟩ := read_page hf hsize hread hdecode hreserve
  exact ⟨_, hret, hparent, rfl⟩

/-- What a page read that returned has found. -/
theorem readPage_returned {b : Bytes} (hP : Faithful P content) (hf : P.format = .mainDb)
    (hsize : 512 ≤ buffer.length) (hint : buffer.length < 2 ^ 31)
    (h : read (transformer ssl) P calls buffer offset self = .returns () (b, self')) :
    offset + buffer.length ≤ (content self.parent).length ∧
      (∀ cipher, self.derived.current.cipher = some cipher →
        TagValid ssl (cipher, self.derived.current.key)
          ((Store.readAt (content self.parent) offset buffer.length).drop
            (clearSize .mainDb offset))) ∧
      b = openedPage ssl self.derived.current (clearSize .mainDb offset)
        (Store.readAt (content self.parent) offset buffer.length) ∧
      content self'.parent = content self.parent ∧
      self'.derived = self.derived.logged (readEvents self.derived.current
        ((Store.readAt (content self.parent) offset buffer.length).drop
          (clearSize .mainDb offset))) := by
  obtain ⟨parent, hparent, hread⟩ := hP.read buffer offset self.parent hint
  obtain ⟨raw, page, parent', hread', hdecode, hb, hparent', -⟩ := read_page_returns hf hsize h
  rw [hread] at hread'
  by_cases hlen : (Store.readAt (content self.parent) offset buffer.length).length = buffer.length
  · rw [if_pos hlen, Outcome.returns.injEq, Prod.mk.injEq] at hread'
    obtain ⟨-, rfl, rfl⟩ := hread'
    have hfull : offset + buffer.length ≤ (content self.parent).length := by
      rw [Store.length_readAt] at hlen; omega
    rw [transformer_decodePage] at hdecode
    obtain ⟨hvalid, hd, hopened⟩ :=
      decode_returned (hlen.symm ▸ hsize) (hlen.symm ▸ hint) hdecode
    exact ⟨hfull, hvalid, hb.trans hopened, hparent' ▸ hparent, hd⟩
  · rw [if_neg hlen] at hread'
    cases hread'

/-- `encode_page` on the part of a page behind the clear bytes, when its encryption succeeds. -/
theorem encode_succeeds (ssl : OpenSsl) (hsize : 512 ≤ buffer.length) (hint : buffer.length < 2 ^ 31)
    {d : Crypt} (hcalls : d.writing.cipher = none ∨ Encrypts calls) (offset : Nat) :
    ∃ page, encodePage ssl calls (buffer.drop (clearSize .mainDb offset)) d =
        .returns () (page, d.logged (writeEvents calls d.writing
          (buffer.drop (clearSize .mainDb offset)))) ∧
      buffer.take (clearSize .mainDb offset) ++ page =
        storedPage ssl calls d.writing (clearSize .mainDb offset) buffer := by
  have hclear := clearSize_le .mainDb offset
  cases hc : d.writing.cipher with
  | none =>
    refine ⟨buffer.drop (clearSize .mainDb offset), ?_, ?_⟩
    · rw [encodePage_null hc]
      simp only [writeEvents, hc, logged_nil]
    · rw [List.take_append_drop]
      simp only [storedPage, hc]
  | some cipher =>
    have henc : Encrypts calls := hcalls.resolve_left (by simp [hc])
    refine ⟨sealSpan ssl calls (cipher, d.writing.key) (buffer.drop (clearSize .mainDb offset)),
      ?_, ?_⟩
    · rw [encodePage_some hc (by simp; omega) (by simp; omega) henc]
      simp only [writeEvents, hc]
    · simp only [storedPage, hc]

/-- What `encode_page` has made of a page when it returned. -/
theorem encode_returned {d d' : Crypt} (hsize : 512 ≤ buffer.length)
    (hint : buffer.length < 2 ^ 31)
    (h : encodePage ssl calls (buffer.drop (clearSize .mainDb offset)) d =
      .returns () (page, d')) :
    d' = d.logged (writeEvents calls d.writing (buffer.drop (clearSize .mainDb offset))) ∧
      buffer.take (clearSize .mainDb offset) ++ page =
        storedPage ssl calls d.writing (clearSize .mainDb offset) buffer := by
  have hclear := clearSize_le .mainDb offset
  cases hc : d.writing.cipher with
  | none =>
    rw [encodePage_null hc, Outcome.returns.injEq, Prod.mk.injEq] at h
    obtain ⟨-, rfl, rfl⟩ := h
    simp only [writeEvents, storedPage, hc, logged_nil, List.take_append_drop, and_self]
  | some cipher =>
    obtain ⟨rfl, rfl⟩ := encodePage_returns hc (by simp; omega) (by simp; omega) h
    simp only [writeEvents, storedPage, hc, and_self]

/-- A page whose reserve byte is accepted and whose encryption succeeds is written. -/
theorem writePage_succeeds (hP : Faithful P content) (hf : P.format = .mainDb)
    (hsize : 512 ≤ buffer.length) (hint : buffer.length < 2 ^ 31)
    (hreserve : reserveRejected (transformer ssl) buffer offset self.derived = false)
    (hcalls : self.derived.writing.cipher = none ∨ Encrypts calls) :
    ∃ self', write (transformer ssl) P calls buffer offset self = .returns () self' ∧
      content self'.parent = Store.writeAt 0 (content self.parent) offset
        (storedPage ssl calls self.derived.writing (clearSize .mainDb offset) buffer) ∧
      self'.derived = self.derived.logged (writeEvents calls self.derived.writing
        (buffer.drop (clearSize .mainDb offset))) := by
  have hclear := clearSize_le .mainDb offset
  obtain ⟨page, hencode, hstored⟩ := encode_succeeds ssl hsize hint hcalls offset
  have hlen : (storedPage ssl calls self.derived.writing (clearSize .mainDb offset) buffer).length <
      2 ^ 31 := by
    rw [length_storedPage (by omega)]; exact hint
  obtain ⟨parent, hparent, hwrite⟩ := hP.write _ offset self.parent hlen
  rw [← hstored] at hwrite
  rw [← transformer_encodePage] at hencode
  obtain ⟨tmp, size, hret⟩ := write_page hf hsize hreserve hencode hwrite
  exact ⟨_, hret, hparent, rfl⟩

/-- What a page write that returned has done. -/
theorem writePage_returned (hP : Faithful P content) (hf : P.format = .mainDb)
    (hsize : 512 ≤ buffer.length) (hint : buffer.length < 2 ^ 31)
    (h : write (transformer ssl) P calls buffer offset self = .returns () self') :
    reserveRejected (transformer ssl) buffer offset self.derived = false ∧
      content self'.parent = Store.writeAt 0 (content self.parent) offset
        (storedPage ssl calls self.derived.writing (clearSize .mainDb offset) buffer) ∧
      self'.derived = self.derived.logged (writeEvents calls self.derived.writing
        (buffer.drop (clearSize .mainDb offset))) := by
  have hclear := clearSize_le .mainDb offset
  obtain ⟨hreserve, page, hencode, hwrite⟩ := write_page_returns hf hsize h
  rw [transformer_encodePage] at hencode
  obtain ⟨hd, hstored⟩ := encode_returned hsize hint hencode
  have hlen : (storedPage ssl calls self.derived.writing (clearSize .mainDb offset) buffer).length <
      2 ^ 31 := by
    rw [length_storedPage (by omega)]; exact hint
  obtain ⟨parent, hparent, hwrite'⟩ := hP.write _ offset self.parent hlen
  rw [hstored, hwrite', Outcome.returns.injEq] at hwrite
  rw [← hwrite.2]
  exact ⟨hreserve, hparent, hd⟩

end Access

end Ysqlite3.Vfs
