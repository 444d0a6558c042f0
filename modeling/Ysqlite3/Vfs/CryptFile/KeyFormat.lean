import Ysqlite3.Vfs.CryptFile.Pragmas
import Ysqlite3.Misc.Hexadecimal

/-!
# The format of keys

A key value is a letter and a text between two quotes of the same kind. After `r` the text is the
password itself; after `x` the password is the number it stands for as hexadecimal text, in bytes.
Everything else is refused and leaves the encryptor as it is.
-/

namespace Ysqlite3.Vfs.Crypt

open Hexadecimal

/-- The two kinds of quotes. -/
def IsQuote (c : UInt8) : Prop := c = 39 ∨ c = 34

/-- The letter `format` and the text between two quotes. -/
def keyValue (format quote : UInt8) (text : Bytes) : Bytes := format :: quote :: (text ++ [quote])

/-- The key values with a password: `r` with any text, `x` with hex digits. -/
def WellFormed (value : Bytes) : Prop :=
  ∃ format quote text, value = keyValue format quote text ∧ IsQuote quote ∧
    (format = 114 ∨ format = 120 ∧ ∀ c ∈ text, IsDigit c)

/-! ## Digits -/

theorem convert_of_digit {c : UInt8} (h : IsDigit c) : convert c = value c := by
  simp only [IsDigit, UInt8.le_iff_toNat_le, UInt8.reduceToNat] at h
  simp only [convert, value, UInt8.le_iff_toNat_le, UInt8.reduceToNat]
  rcases h with hc | hc | hc
  · rw [if_pos hc, if_pos hc.2]
    omega
  · rw [if_neg (by omega), if_neg (by omega), if_pos hc, if_neg (by omega), if_pos hc.2]
    omega
  · rw [if_neg (by omega), if_pos hc, if_neg (by omega), if_neg (by omega)]
    omega

theorem convert_neg_iff (c : UInt8) : convert c < 0 ↔ ¬ IsDigit c := by
  constructor
  · intro hneg hdigit
    rw [convert_of_digit hdigit] at hneg
    omega
  · intro h
    simp only [IsDigit, UInt8.le_iff_toNat_le, UInt8.reduceToNat] at h
    simp only [convert, UInt8.le_iff_toNat_le, UInt8.reduceToNat]
    rw [if_neg (by omega), if_neg (by omega), if_neg (by omega)]
    decide

theorem shiftDigit_pair : ∀ v < 16, ∀ w < 16,
    shiftDigit (shiftDigit 0 (v : Nat)) (w : Nat) = UInt8.ofNat (v * 16 + w) := by
  decide +kernel

theorem shiftDigit_zero : ∀ w < 16, shiftDigit 0 (w : Nat) = UInt8.ofNat w := by
  decide +kernel

/-- The loops over a text of digits in pairs: its bytes, or the first character that is no digit. -/
def hexPairs : Bytes → Except UInt8 Bytes
  | c :: d :: rest =>
    if ¬ IsDigit c then .error c
    else if ¬ IsDigit d then .error d
    else match hexPairs rest with
      | .error e => .error e
      | .ok bytes => .ok (UInt8.ofNat (value c * 16 + value d) :: bytes)
  | _ => .ok []

/-- The text with a zero in front if it has an odd number of characters. -/
def padded (text : Bytes) : Bytes := if text.length % 2 = 1 then 48 :: text else text

theorem padded_length (text : Bytes) : (padded text).length = (text.length + 1) / 2 * 2 := by
  unfold padded
  split
  · rw [List.length_cons]
    omega
  · omega

theorem padded_digits (text : Bytes) :
    (∀ c ∈ padded text, IsDigit c) ↔ ∀ c ∈ text, IsDigit c := by
  unfold padded
  split
  · rw [List.forall_mem_cons]
    exact and_iff_right (by decide)
  · exact Iff.rfl

theorem number_padded (text : Bytes) : number (padded text) = number text := by
  unfold padded
  split
  · exact number_zero_cons text
  · rfl

private theorem exists_pair {text : Bytes} {k : Nat} (h : text.length = (k + 1) * 2) :
    ∃ c d rest, text = c :: d :: rest ∧ rest.length = k * 2 := by
  match text, h with
  | c :: d :: rest, h =>
    simp only [List.length_cons] at h
    exact ⟨c, d, rest, rfl, by omega⟩
  | [_], h => simp only [List.length_singleton] at h; omega
  | [], h => simp only [List.length_nil] at h; omega

theorem hexPairs_digits {k : Nat} : ∀ {text : Bytes}, text.length = k * 2 →
    (∀ c ∈ text, IsDigit c) → hexPairs text = .ok (bigEndian (number text) k) := by
  induction k with
  | zero =>
    intro text hlength _
    rw [List.eq_nil_of_length_eq_zero (l := text) (by omega)]
    rfl
  | succ k ih =>
    intro text hlength hdigits
    obtain ⟨c, d, rest, rfl, hrest⟩ := exists_pair hlength
    have hdigits' : ∀ e ∈ rest, IsDigit e := fun e he => hdigits e (by simp [he])
    rw [hexPairs, if_neg (not_not_intro (hdigits c (by simp))),
      if_neg (not_not_intro (hdigits d (by simp))), ih hrest hdigits',
      bigEndian_number hrest hdigits']

theorem hexPairs_refused {k : Nat} : ∀ {text : Bytes}, text.length = k * 2 →
    ¬ (∀ c ∈ text, IsDigit c) → ∃ c, hexPairs text = .error c := by
  induction k with
  | zero =>
    intro text hlength hbad
    rw [List.eq_nil_of_length_eq_zero (by omega : text.length = 0)] at hbad
    exact absurd (by simp) hbad
  | succ k ih =>
    intro text hlength hbad
    obtain ⟨c, d, rest, rfl, hrest⟩ := exists_pair hlength
    unfold hexPairs
    by_cases hc : IsDigit c
    · by_cases hd : IsDigit d
      · have hbad' : ¬ ∀ e ∈ rest, IsDigit e := by
          intro h
          apply hbad
          rw [List.forall_mem_cons, List.forall_mem_cons]
          exact ⟨hc, hd, h⟩
        obtain ⟨e, he⟩ := ih hrest hbad'
        exact ⟨e, by rw [if_neg (not_not_intro hc), if_neg (not_not_intro hd), he]⟩
      · exact ⟨d, by rw [if_neg (not_not_intro hc), if_pos hd]⟩
    · exact ⟨c, by rw [if_pos hc]⟩

/-! ## The loops of `_generate_key` -/

theorem charAt_of_drop {value rest : Bytes} {i : Nat} {c : UInt8} (h : value.drop i = c :: rest) :
    charAt value i = some c := by
  have hlength := congrArg List.length h
  rw [List.length_drop, List.length_cons] at hlength
  rw [charAt_defined (by omega), List.getD_eq_getElem?_getD, ← Nat.add_zero i, ← List.getElem?_drop,
    h]
  rfl

theorem drop_succ_of_drop {value rest : Bytes} {i : Nat} {c : UInt8} (h : value.drop i = c :: rest) :
    value.drop (i + 1) = rest := by
  rw [← List.drop_drop, h]
  rfl

theorem hexByte_eq {value rest : Bytes} {i : Nat} {c d : UInt8}
    (h : value.drop (i * 2) = c :: d :: rest) :
    hexByte value i = some (if ¬ IsDigit c then .error c else if ¬ IsDigit d then .error d
      else .ok (UInt8.ofNat (Hexadecimal.value c * 16 + Hexadecimal.value d))) := by
  unfold hexByte
  rw [charAt_of_drop h, charAt_of_drop (drop_succ_of_drop h)]
  simp only [Option.bind_eq_bind, Option.bind_some, convert_neg_iff]
  by_cases hc : IsDigit c
  · by_cases hd : IsDigit d
    · rw [if_neg (not_not_intro hc), if_neg (not_not_intro hd), if_neg (not_not_intro hc),
        if_neg (not_not_intro hd), convert_of_digit hc, convert_of_digit hd,
        shiftDigit_pair _ (value_lt hc) _ (value_lt hd)]
      rfl
    · rw [if_neg (not_not_intro hc), if_pos hd, if_neg (not_not_intro hc), if_pos hd]
      rfl
  · rw [if_pos hc, if_pos hc]
    rfl

theorem hexBytes_eq {value : Bytes} {n : Nat} : ∀ {i : Nat} {text rest : Bytes},
    value.drop (i * 2) = text ++ rest → text.length = n * 2 →
      hexBytes value i n = some (hexPairs text) := by
  induction n with
  | zero =>
    intro i text rest _ hlength
    rw [List.eq_nil_of_length_eq_zero (l := text) (by omega)]
    rfl
  | succ n ih =>
    intro i text rest hdrop hlength
    obtain ⟨c, d, text, rfl, htext⟩ := exists_pair hlength
    have hnext : value.drop ((i + 1) * 2) = text ++ rest := by
      rw [Nat.add_mul]
      exact drop_succ_of_drop (drop_succ_of_drop hdrop)
    rw [hexBytes, hexByte_eq hdrop, hexPairs, ih hnext htext]
    simp only [Option.bind_eq_bind, Option.bind_some]
    by_cases hc : IsDigit c
    · by_cases hd : IsDigit d
      · simp only [if_neg (not_not_intro hc), if_neg (not_not_intro hd)]
        cases hexPairs text <;> rfl
      · simp only [if_neg (not_not_intro hc), if_pos hd]
        rfl
    · simp only [if_pos hc]
      rfl

/-- The key in a text: the pairs of the padded text. -/
theorem hexKey_eq (format quote : UInt8) (text rest : Bytes) :
    hexKey (format :: quote :: (text ++ rest)) text.length = some (hexPairs (padded text)) := by
  unfold hexKey
  by_cases hodd : text.length % 2 = 1
  · match text, hodd with
    | c :: text, hodd =>
      have hpadded : padded (c :: text) = 48 :: c :: text := if_pos hodd
      have hdrop : (quote :: c :: (text ++ rest)).drop (1 * 2) = text ++ rest := rfl
      have hlength : text.length = (text.length + 1) / 2 * 2 := by
        rw [List.length_cons] at hodd
        omega
      rw [if_pos hodd, hpadded, hexPairs, if_neg (not_not_intro (by decide : IsDigit 48))]
      have hfirst : charAt (format :: quote :: (c :: text ++ rest)) 2 = some c := charAt_of_drop rfl
      rw [hfirst]
      simp only [List.cons_append, List.drop_succ_cons, List.drop_zero, List.length_cons,
        Option.bind_eq_bind, Option.bind_some, convert_neg_iff, hexBytes_eq hdrop hlength]
      by_cases hc : IsDigit c
      · simp only [if_neg (not_not_intro hc), convert_of_digit hc,
          shiftDigit_zero _ (value_lt hc)]
        have hzero : Hexadecimal.value 48 = 0 := rfl
        rw [hzero, Nat.zero_mul, Nat.zero_add]
        cases hexPairs text <;> rfl
      · simp only [if_pos hc]
        rfl
  · have hpadded : padded text = text := if_neg hodd
    rw [if_neg hodd, hpadded]
    exact hexBytes_eq (i := 0) rfl (by omega)

/-! ## Key values -/

theorem charsAt_eq {value : Bytes} : ∀ {text rest : Bytes} {i : Nat},
    value.drop i = text ++ rest → charsAt value i text.length = some text := by
  intro text
  induction text with
  | nil => intro rest i _; rfl
  | cons c text ih =>
    intro rest i hdrop
    rw [List.length_cons, charsAt, charAt_of_drop hdrop, ih (drop_succ_of_drop hdrop)]
    rfl

/-- What the parser makes of a text in quotes. -/
theorem parseKey_keyValue {quote : UInt8} (hquote : IsQuote quote) (format : UInt8) (text : Bytes) :
    parseKey (keyValue format quote text) = some (
      if format = 114 then .ok text
      else if format = 120 then
        match hexPairs (padded text) with
        | .error c => .error (.badHexCharacter c)
        | .ok password => .ok password
      else .error .unknownFormat) := by
  have hlength : (keyValue format quote text).length = text.length + 3 := by
    simp [keyValue]
  have hlast : (keyValue format quote text).drop (text.length + 2) = [quote] :=
    List.drop_left
  unfold parseKey
  have hformat : charAt (keyValue format quote text) 0 = some format := charAt_of_drop rfl
  have hopening : charAt (keyValue format quote text) 1 = some quote := charAt_of_drop rfl
  have hclosing : charAt (keyValue format quote text) (text.length + 3 - 1) = some quote :=
    charAt_of_drop hlast
  rw [hlength, if_neg (by omega), hformat, hopening, hclosing]
  simp only [Option.bind_eq_bind, Option.bind_some, Nat.add_sub_cancel]
  have hsame : ¬ (quote ≠ quote ∨ (quote ≠ 39 ∧ quote ≠ 34)) := by
    rintro (hne | ⟨h39, h34⟩)
    · exact hne rfl
    · exact hquote.elim h39 h34
  have htext : charsAt (keyValue format quote text) 2 text.length = some text := charsAt_eq rfl
  rw [if_neg hsame, htext, keyValue, hexKey_eq]
  by_cases hraw : format = 114
  · rw [if_pos hraw, if_pos hraw]
    rfl
  · rw [if_neg hraw, if_neg hraw]
    by_cases hhex : format = 120
    · rw [if_pos hhex, if_pos hhex]
      cases hexPairs (padded text) <;> rfl
    · rw [if_neg hhex, if_neg hhex]
      rfl

/-- Everything that is no text in quotes is refused. -/
theorem parseKey_of_not_quoted {value : Bytes}
    (h : ∀ format quote text, IsQuote quote → value ≠ keyValue format quote text) :
    parseKey value = some (.error .badKeyFormat) := by
  unfold parseKey
  match value, h with
  | [], _ => rfl
  | [_], _ => rfl
  | [_, _], _ => rfl
  | format :: first :: c :: cs, h =>
    obtain ⟨text, last, htext⟩ : ∃ text last, c :: cs = text ++ [last] :=
      ⟨_, _, (List.dropLast_append_getLast (List.cons_ne_nil c cs)).symm⟩
    rw [htext]
    have hlength : (format :: first :: (text ++ [last])).length = text.length + 3 := by simp
    have hlast : (format :: first :: (text ++ [last])).drop (text.length + 2) = [last] :=
      List.drop_left
    simp only [hlength]
    have hopening : charAt (format :: first :: (text ++ [last])) 1 = some first := charAt_of_drop rfl
    rw [if_neg (by omega), hopening, charAt_of_drop (i := text.length + 3 - 1) hlast]
    simp only [Option.bind_eq_bind, Option.bind_some]
    have hbad : first ≠ last ∨ (first ≠ 39 ∧ first ≠ 34) := by
      by_contra hgood
      rw [not_or, not_and_or, not_not, not_not, not_not] at hgood
      apply h format first text hgood.2
      rw [htext, keyValue, hgood.1]
    rw [if_pos hbad]
    rfl

/-! ## Keys -/

/-- The encryptor with the key derived from a password. -/
def withPassword (ssl : OpenSsl) (password : Bytes) (encryptor : Encryptor) : Encryptor :=
  { encryptor with key := ssl.pbkdf2 password (castInt password.length) }

section Keys

variable (ssl : OpenSsl) (encryptor : Encryptor) {quote : UInt8}

theorem generateKey_raw (hquote : IsQuote quote) (text : Bytes) :
    generateKey ssl .succeeds (keyValue 114 quote text) encryptor =
      some (.ok, withPassword ssl text encryptor) := by
  rw [generateKey, parseKey_keyValue hquote, if_pos rfl]
  rfl

/-- After `x` the outcome depends on the pairs of the padded text alone. -/
theorem generateKey_hex (hquote : IsQuote quote) (text : Bytes) :
    generateKey ssl .succeeds (keyValue 120 quote text) encryptor = some (
      match hexPairs (padded text) with
      | .error c => (.badHexCharacter c, encryptor)
      | .ok password => (.ok, withPassword ssl password encryptor)) := by
  rw [generateKey, parseKey_keyValue hquote, if_neg (by decide), if_pos rfl]
  cases hexPairs (padded text) <;> rfl

theorem generateKey_hex_digits (hquote : IsQuote quote) {text : Bytes}
    (hdigits : ∀ c ∈ text, IsDigit c) :
    generateKey ssl .succeeds (keyValue 120 quote text) encryptor = some
      (.ok, withPassword ssl (bigEndian (number text) ((text.length + 1) / 2)) encryptor) := by
  rw [generateKey_hex ssl encryptor hquote,
    hexPairs_digits (padded_length text) ((padded_digits text).mpr hdigits), number_padded]

theorem generateKey_hex_refused (hquote : IsQuote quote) {text : Bytes}
    (hbad : ¬ ∀ c ∈ text, IsDigit c) :
    ∃ c, generateKey ssl .succeeds (keyValue 120 quote text) encryptor =
      some (.badHexCharacter c, encryptor) := by
  obtain ⟨c, hc⟩ := hexPairs_refused (padded_length text) (mt (padded_digits text).mp hbad)
  exact ⟨c, by rw [generateKey_hex ssl encryptor hquote, hc]⟩

theorem keyValue_inj {format format' quote quote' : UInt8} {text text' : Bytes}
    (h : keyValue format quote text = keyValue format' quote' text') :
    format = format' ∧ quote = quote' ∧ text = text' := by
  rw [keyValue, keyValue, List.cons.injEq, List.cons.injEq] at h
  exact ⟨h.1, h.2.1, (List.append_inj' h.2.2 rfl).1⟩

/-- Every value gets an answer; it is ok for the well-formed values, and the encryptor is as before
for all others. -/
theorem generateKey_answers (value : Bytes) :
    ∃ report left, generateKey ssl .succeeds value encryptor = some (report, left) ∧
      (report = .ok ↔ WellFormed value) ∧ (report ≠ .ok → left = encryptor) := by
  by_cases hquoted : ∃ format quote text, IsQuote quote ∧ value = keyValue format quote text
  · obtain ⟨format, quote, text, hquote, rfl⟩ := hquoted
    by_cases hraw : format = 114
    · subst hraw
      exact ⟨_, _, generateKey_raw ssl encryptor hquote text,
        iff_of_true rfl ⟨114, quote, text, rfl, hquote, Or.inl rfl⟩, fun h => absurd rfl h⟩
    · have hform (hwell : WellFormed (keyValue format quote text)) :
          format = 120 ∧ ∀ c ∈ text, IsDigit c := by
        obtain ⟨format', quote', text', hvalue, -, hformat⟩ := hwell
        obtain ⟨rfl, -, rfl⟩ := keyValue_inj hvalue
        exact hformat.resolve_left hraw
      by_cases hhex : format = 120
      · subst hhex
        by_cases hdigits : ∀ c ∈ text, IsDigit c
        · exact ⟨_, _, generateKey_hex_digits ssl encryptor hquote hdigits,
            iff_of_true rfl ⟨120, quote, text, rfl, hquote, Or.inr ⟨rfl, hdigits⟩⟩,
            fun h => absurd rfl h⟩
        · obtain ⟨c, hc⟩ := generateKey_hex_refused ssl encryptor hquote hdigits
          exact ⟨_, _, hc, iff_of_false (by simp) (fun hwell => hdigits (hform hwell).2),
            fun _ => rfl⟩
      · refine ⟨.unknownFormat, encryptor, ?_, iff_of_false (by simp) (fun hwell =>
          hhex (hform hwell).1), fun _ => rfl⟩
        rw [generateKey, parseKey_keyValue hquote, if_neg hraw, if_neg hhex]
        rfl
  · refine ⟨.badKeyFormat, encryptor, ?_, iff_of_false (by simp) ?_, fun _ => rfl⟩
    · have hparse := parseKey_of_not_quoted (fun format quote text hquote hvalue =>
        hquoted ⟨format, quote, text, hquote, hvalue⟩)
      rw [generateKey, hparse]
      rfl
    · rintro ⟨format, quote, text, hvalue, hquote, -⟩
      exact hquoted ⟨format, quote, text, hquote, hvalue⟩

theorem generateKey_hex_odd (hquote : IsQuote quote) {text : Bytes} (hodd : text.length % 2 = 1) :
    generateKey ssl .succeeds (keyValue 120 quote text) encryptor =
      generateKey ssl .succeeds (keyValue 120 quote (48 :: text)) encryptor := by
  have htext : padded text = 48 :: text := if_pos hodd
  have hzero : padded (48 :: text) = 48 :: text := if_neg (by rw [List.length_cons]; omega)
  rw [generateKey_hex ssl encryptor hquote, generateKey_hex ssl encryptor hquote, htext, hzero]

theorem generateKey_raw_hex {quote' : UInt8} (hquote : IsQuote quote) (hquote' : IsQuote quote')
    (capital : Bool) (text : Bytes) :
    generateKey ssl .succeeds (keyValue 114 quote text) encryptor =
      generateKey ssl .succeeds (keyValue 120 quote' (Hexadecimal.text capital text))
        encryptor := by
  have hlength : ((Hexadecimal.text capital text).length + 1) / 2 = text.length := by
    rw [text_length]
    omega
  rw [generateKey_raw ssl encryptor hquote, generateKey_hex_digits ssl encryptor hquote'
    (isDigit_text capital text), hlength, bigEndian_text]

end Keys

/-- `_generate_key` reads inside every value. It answers ok to a text in quotes after `r`, which is
then the password, and to hex digits in quotes after `x`, whose number in bytes is then the password;
to nothing else, and then the encryptor is as before. So a text of odd length after `x` is one with a
zero in front, and a text after `r` is its own hexadecimal form after `x`. -/
theorem generateKey_grammar (ssl : OpenSsl) (encryptor : Encryptor) :
    (∀ value, ∃ report left, generateKey ssl .succeeds value encryptor = some (report, left) ∧
      (report = .ok ↔ WellFormed value) ∧ (report ≠ .ok → left = encryptor)) ∧
    (∀ quote text, IsQuote quote →
      generateKey ssl .succeeds (keyValue 114 quote text) encryptor =
        some (.ok, withPassword ssl text encryptor)) ∧
    (∀ quote text, IsQuote quote → (∀ c ∈ text, IsDigit c) →
      generateKey ssl .succeeds (keyValue 120 quote text) encryptor = some
        (.ok, withPassword ssl (bigEndian (number text) ((text.length + 1) / 2)) encryptor)) ∧
    (∀ quote text, IsQuote quote → text.length % 2 = 1 →
      generateKey ssl .succeeds (keyValue 120 quote text) encryptor =
        generateKey ssl .succeeds (keyValue 120 quote (48 :: text)) encryptor) ∧
    (∀ quote quote' capital text, IsQuote quote → IsQuote quote' →
      generateKey ssl .succeeds (keyValue 114 quote text) encryptor =
        generateKey ssl .succeeds (keyValue 120 quote' (Hexadecimal.text capital text))
          encryptor) := by
  refine ⟨generateKey_answers ssl encryptor, ?_, ?_, ?_, ?_⟩
  · intro quote text hquote
    exact generateKey_raw ssl encryptor hquote text
  · intro quote text hquote hdigits
    exact generateKey_hex_digits ssl encryptor hquote hdigits
  · intro quote text hquote hodd
    exact generateKey_hex_odd ssl encryptor hquote hodd
  · intro quote quote' capital text hquote hquote'
    exact generateKey_raw_hex ssl encryptor hquote hquote' capital text

/-- `x'123'` has the password 0x01, 0x23. -/
theorem generateKey_grammar_hex :
    generateKey maskSsl .succeeds (cstr "x'123'") Encryptor.initial =
      some (.ok, withPassword maskSsl [1, 0x23] Encryptor.initial) :=
  (generateKey_grammar maskSsl Encryptor.initial).2.2.1 39 (cstr "123") (Or.inl rfl)
    (by decide +kernel)

end Ysqlite3.Vfs.Crypt
