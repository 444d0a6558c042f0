import Ysqlite3.Span
import Ysqlite3.Misc.Sextets

/-!
# Base64

The encoder and the decoder of `base64.hpp`. A `char` is modelled by its byte; the comparisons of
the decoder treat a negative `char` and a byte above 127 alike.
-/

namespace Ysqlite3.Base64

/-- `enum class alphabet` -/
inductive Alphabet where
  | auto_
  | standard
  | urlFilenameSafe
  deriving DecidableEq, Repr

/-- `enum class decoding_behavior` -/
inductive DecodingBehavior where
  | moderate
  | loose
  deriving DecidableEq, Repr

/-- `base64_error` -/
structure Base64Error where
  what : String
  deriving DecidableEq, Repr

def invalidCharacter : Base64Error := ⟨"invalid base64 character."⟩

def pad : UInt8 := 61

/-- The string `alpha` points to. -/
def characters : Alphabet → Bytes
  | .urlFilenameSafe => cstr "ABCDEFGHIJKLMNOPQRSTUVWXYZabcdefghijklmnopqrstuvwxyz0123456789-_"
  | _ => cstr "ABCDEFGHIJKLMNOPQRSTUVWXYZabcdefghijklmnopqrstuvwxyz0123456789+/"

/-- `alpha[index]` -/
def alpha (alphabet : Alphabet) (index : Nat) : UInt8 := (characters alphabet).getD index 0

/-- `base64::encode`: one case for each place where the input can end. -/
def encode (alphabet : Alphabet) : Bytes → Bytes
  | [] => []
  | [i0] =>
    [alpha alphabet (i0.toNat >>> 2 &&& 0x3f),
      alpha alphabet ((i0.toNat &&& 0x3) <<< 4),
      pad, pad]
  | [i0, i1] =>
    [alpha alphabet (i0.toNat >>> 2 &&& 0x3f),
      alpha alphabet ((i0.toNat &&& 0x3) <<< 4 ||| (i1.toNat >>> 4 &&& 0x0f)),
      alpha alphabet ((i1.toNat &&& 0xf) <<< 2),
      pad]
  | i0 :: i1 :: i2 :: rest =>
    alpha alphabet (i0.toNat >>> 2 &&& 0x3f) ::
      alpha alphabet ((i0.toNat &&& 0x3) <<< 4 ||| (i1.toNat >>> 4 &&& 0x0f)) ::
      alpha alphabet ((i1.toNat &&& 0xf) <<< 2 ||| (i2.toNat >>> 6 &&& 0x03)) ::
      alpha alphabet (i2.toNat &&& 0x3f) :: encode alphabet rest

/-- `_base64_value`, with the alphabet it leaves. -/
def base64Value (alphabet : Alphabet) (c : UInt8) : Except Base64Error (UInt8 × Alphabet) :=
  if 65 ≤ c ∧ c ≤ 90 then .ok (c - 65, alphabet)
  else if 97 ≤ c ∧ c ≤ 122 then .ok (c - 97 + 26, alphabet)
  else if 48 ≤ c ∧ c ≤ 57 then .ok (c - 48 + 52, alphabet)
  else match alphabet with
    | .standard =>
      if c = 43 then .ok (62, .standard)
      else if c = 47 then .ok (63, .standard)
      else .error invalidCharacter
    | .urlFilenameSafe =>
      if c = 45 then .ok (62, .urlFilenameSafe)
      else if c = 95 then .ok (63, .urlFilenameSafe)
      else .error invalidCharacter
    -- auto detect
    | .auto_ =>
      if c = 43 then .ok (62, .standard)
      else if c = 47 then .ok (63, .standard)
      else if c = 45 then .ok (62, .urlFilenameSafe)
      else if c = 95 then .ok (63, .urlFilenameSafe)
      else .error invalidCharacter

/-- The first loop of `decode`: the bytes written to `out` and the characters after the first
padding. -/
def decodeCharacters (alphabet : Alphabet) (last : UInt8) (bits : Nat) :
    Bytes → Except Base64Error (Bytes × Bytes)
  | [] => .ok ([], [])
  | c :: cs =>
    if c = pad then .ok ([], cs)
    else match base64Value alphabet c with
      | .error e => .error e
      | .ok (part, alphabet) =>
        if bits + 6 ≥ 8 then
          match decodeCharacters alphabet part (bits - 2) cs with
          | .error e => .error e
          | .ok (out, rest) =>
            .ok (UInt8.ofNat (last.toNat <<< (8 - bits) ||| part.toNat >>> (bits - 2)) :: out, rest)
        else decodeCharacters alphabet part (bits + 6) cs

/-- `base64::decode` -/
def decode (alphabet : Alphabet) (behavior : DecodingBehavior) (text : Bytes) :
    Except Base64Error Bytes :=
  match decodeCharacters alphabet 0 0 text with
  | .error e => .error e
  | .ok (out, rest) =>
    if behavior ≠ .loose ∧ ∃ c ∈ rest, c ≠ pad then .error invalidCharacter else .ok out

/-- `required_encode_size`, in `std::size_t`. -/
def requiredEncodeSize (size : Nat) : Nat :=
  (size / 3 + (if size % 3 ≠ 0 then 1 else 0)) * 4 % 2 ^ 64

/-! ## What the encoder writes -/

/-- The padding after the characters of `size` bytes. -/
def padding (size : Nat) : Bytes := List.replicate ((3 - size % 3) % 3) pad

/-- The low `m` bits of `a`, moved up, and the `k` bits of `b` above its lowest `n`. -/
private theorem low_or_high (a b m n k : Nat) :
    (a &&& (2 ^ m - 1)) <<< k ||| (b >>> n &&& (2 ^ k - 1)) =
      a % 2 ^ m * 2 ^ k + b / 2 ^ n % 2 ^ k := by
  have hhigh : b / 2 ^ n % 2 ^ k < 2 ^ k := Nat.mod_lt _ (Nat.two_pow_pos k)
  rw [Nat.and_two_pow_sub_one_eq_mod, Nat.and_two_pow_sub_one_eq_mod, Nat.shiftRight_eq_div_pow,
    ← Nat.shiftLeft_add_eq_or_of_lt hhigh, Nat.shiftLeft_eq]

private theorem index_first (i0 : UInt8) : i0.toNat >>> 2 &&& 0x3f = i0.toNat / 4 := by
  have h0 := i0.toNat_lt
  rw [Nat.shiftRight_eq_div_pow, Nat.and_two_pow_sub_one_eq_mod _ 6]
  omega

private theorem index_second (i0 i1 : UInt8) :
    (i0.toNat &&& 0x3) <<< 4 ||| (i1.toNat >>> 4 &&& 0x0f) =
      i0.toNat % 4 * 16 + i1.toNat / 16 := by
  have h1 := i1.toNat_lt
  apply (low_or_high i0.toNat i1.toNat 2 4 4).trans
  omega

private theorem index_third (i1 i2 : UInt8) :
    (i1.toNat &&& 0xf) <<< 2 ||| (i2.toNat >>> 6 &&& 0x03) =
      i1.toNat % 16 * 4 + i2.toNat / 64 := by
  have h2 := i2.toNat_lt
  apply (low_or_high i1.toNat i2.toNat 4 6 2).trans
  omega

private theorem index_shifted (i m k : Nat) :
    (i &&& (2 ^ m - 1)) <<< k = i % 2 ^ m * 2 ^ k := by
  rw [Nat.and_two_pow_sub_one_eq_mod, Nat.shiftLeft_eq]

/-- `encode` looks up the groups of six bits and adds the padding. -/
theorem encode_eq (alphabet : Alphabet) (bytes : Bytes) :
    encode alphabet bytes =
      (Sextets.split bytes).map (alpha alphabet) ++ padding bytes.length := by
  induction bytes using encode.induct with
  | case1 => rfl
  | case2 i0 =>
    have hsecond : (i0.toNat &&& 0x3) <<< 4 = i0.toNat % 4 * 16 := index_shifted i0.toNat 2 4
    rw [encode, index_first, hsecond]
    rfl
  | case3 i0 i1 =>
    have hthird : (i1.toNat &&& 0xf) <<< 2 = i1.toNat % 16 * 4 := index_shifted i1.toNat 4 2
    rw [encode, index_first, index_second, hthird]
    rfl
  | case4 i0 i1 i2 rest ih =>
    have hfourth : i2.toNat &&& 0x3f = i2.toNat % 64 := Nat.and_two_pow_sub_one_eq_mod _ 6
    rw [encode, index_first, index_second, index_third, hfourth, ih]
    have hpad : padding (rest.length + 3) = padding rest.length := by
      rw [padding, Nat.add_mod_right, padding]
    simp only [List.length_cons, Sextets.split, List.map_cons, List.cons_append]
    rw [hpad]

theorem encode_length (alphabet : Alphabet) (bytes : Bytes) :
    (encode alphabet bytes).length =
      (bytes.length / 3 + (if bytes.length % 3 ≠ 0 then 1 else 0)) * 4 := by
  rw [encode_eq, List.length_append, List.length_map, Sextets.split_length, padding,
    List.length_replicate]
  split <;> omega

/-! ## What the decoder reads -/

/-- Decoding with `alphabet'` finds the values of the characters that `alphabet` writes. -/
def Reads (alphabet' alphabet : Alphabet) : Prop :=
  alphabet' = .auto_ ∨ characters alphabet' = characters alphabet

/-- The letters and digits, which both alphabets start with. -/
def common : Bytes := (List.range' 65 26 ++ List.range' 97 26 ++ List.range' 48 10).map UInt8.ofNat

/-- The two characters only one of the alphabets has. -/
def special : Alphabet → Bytes
  | .urlFilenameSafe => [45, 95]
  | _ => [43, 47]

theorem characters_eq (alphabet : Alphabet) : characters alphabet = common ++ special alphabet := by
  cases alphabet <;> decide +kernel

theorem alpha_common (alphabet : Alphabet) {v : Nat} (hv : v < 62) :
    alpha alphabet v = common.getD v 0 := by
  have hlength : common.length = 62 := rfl
  rw [alpha, characters_eq, List.getD_eq_getElem?_getD, List.getElem?_append_left (by omega),
    ← List.getD_eq_getElem?_getD]

theorem alpha_special (alphabet : Alphabet) (v : Nat) :
    alpha alphabet (v + 62) = (special alphabet).getD v 0 := by
  have hlength : common.length = 62 := rfl
  rw [alpha, characters_eq, List.getD_eq_getElem?_getD, List.getElem?_append_right (by omega),
    ← List.getD_eq_getElem?_getD, hlength, Nat.add_sub_cancel]

/-- Letters and digits have the same value in both alphabets and settle nothing. -/
theorem base64Value_common (alphabet' : Alphabet) :
    ∀ v < 62, base64Value alphabet' (common.getD v 0) = .ok (UInt8.ofNat v, alphabet') := by
  cases alphabet' <;> decide +kernel

theorem reads_special {alphabet alphabet' : Alphabet} (h : Reads alphabet' alphabet) :
    alphabet' = .auto_ ∨ special alphabet' = special alphabet := by
  apply h.imp_right
  intro hcharacters
  rw [characters_eq, characters_eq] at hcharacters
  exact List.append_cancel_left hcharacters

/-- The two other characters settle the alphabet, to the one that wrote them. -/
theorem base64Value_special {alphabet alphabet' : Alphabet} (h : Reads alphabet' alphabet) :
    ∃ found, Reads found alphabet ∧ ∀ v < 2,
      base64Value alphabet' ((special alphabet).getD v 0) = .ok (UInt8.ofNat (v + 62), found) := by
  cases alphabet with
  | urlFilenameSafe =>
    refine ⟨.urlFilenameSafe, Or.inr rfl, ?_⟩
    cases alphabet' with
    | auto_ => decide
    | urlFilenameSafe => decide
    | standard => exact absurd (reads_special h) (by decide)
  | auto_ =>
    refine ⟨.standard, Or.inr rfl, ?_⟩
    cases alphabet' with
    | auto_ => decide
    | urlFilenameSafe => exact absurd (reads_special h) (by decide)
    | standard => decide
  | standard =>
    refine ⟨.standard, Or.inr rfl, ?_⟩
    cases alphabet' with
    | auto_ => decide
    | urlFilenameSafe => exact absurd (reads_special h) (by decide)
    | standard => decide

theorem base64Value_alpha {alphabet alphabet' : Alphabet} (h : Reads alphabet' alphabet) {v : Nat}
    (hv : v < 64) : ∃ found, Reads found alphabet ∧
      base64Value alphabet' (alpha alphabet v) = .ok (UInt8.ofNat v, found) := by
  by_cases hcommon : v < 62
  · refine ⟨alphabet', h, ?_⟩
    rw [alpha_common alphabet hcommon]
    exact base64Value_common alphabet' v hcommon
  · obtain ⟨found, hfound, hvalue⟩ := base64Value_special h
    refine ⟨found, hfound, ?_⟩
    have hsum : v - 62 + 62 = v := Nat.sub_add_cancel (Nat.le_of_not_lt hcommon)
    rw [← hsum, alpha_special]
    exact hvalue (v - 62) (by omega)

theorem alpha_ne_pad (alphabet : Alphabet) {v : Nat} (hv : v < 64) : alpha alphabet v ≠ pad := by
  have hlength : (characters alphabet).length = 64 := by
    rw [characters_eq]
    cases alphabet <;> rfl
  have hpad : pad ∉ characters alphabet := by
    rw [characters_eq]
    cases alphabet <;> decide
  rw [alpha, List.getD_eq_getElem?_getD, List.getElem?_eq_getElem (by omega)]
  exact fun h => hpad (h ▸ List.getElem_mem _)

/-- The loop stops before the padding, or at the end. -/
theorem decodeCharacters_stop (alphabet : Alphabet) (last : UInt8) (bits : Nat) {suffix : Bytes}
    (hsuffix : ∀ c ∈ suffix.head?, c = pad) :
    decodeCharacters alphabet last bits suffix = .ok ([], suffix.tail) := by
  cases suffix with
  | nil => rfl
  | cons c cs => rw [decodeCharacters, if_pos (hsuffix c rfl), List.tail_cons]

theorem head_padding (size : Nat) : ∀ c ∈ (padding size).head?, c = pad := by
  intro c hc
  exact List.eq_of_mem_replicate (List.mem_of_mem_head? hc)

private theorem bits_used {bits : Nat} (h : bits ≤ 6 ∧ bits % 2 = 0) :
    bits - 2 ≤ 6 ∧ (bits - 2) % 2 = 0 := by omega

private theorem bits_refilled {bits : Nat} (h : bits ≤ 6 ∧ bits % 2 = 0) (hfew : ¬ 8 ≤ bits + 6) :
    bits + 6 ≤ 6 ∧ (bits + 6) % 2 = 0 := by omega

/-- The loop over the characters of groups of six bits writes what these groups fill, whatever
alphabet it has settled on so far. -/
theorem decodeCharacters_map {alphabet : Alphabet} {suffix : Bytes}
    (hsuffix : ∀ c ∈ suffix.head?, c = pad) {groups : List Nat}
    (hgroups : ∀ group ∈ groups, group < 64) :
    ∀ {alphabet' : Alphabet} (last : UInt8) {bits : Nat}, Reads alphabet' alphabet →
      bits ≤ 6 ∧ bits % 2 = 0 →
        decodeCharacters alphabet' last bits (groups.map (alpha alphabet) ++ suffix) =
          .ok (Sextets.merge last.toNat bits groups, suffix.tail) := by
  induction groups with
  | nil =>
    intro alphabet' last bits _ _
    exact decodeCharacters_stop alphabet' last bits hsuffix
  | cons group groups ih =>
    intro alphabet' last bits hreads hbits
    have hgroup : group < 64 := hgroups group (by simp)
    have hrest : ∀ g ∈ groups, g < 64 := fun g hg => hgroups g (List.mem_cons_of_mem _ hg)
    obtain ⟨found, hfound, hvalue⟩ := base64Value_alpha hreads hgroup
    have hnat : (UInt8.ofNat group).toNat = group := by
      rw [UInt8.toNat_ofNat', Nat.mod_eq_of_lt (by omega)]
    rw [List.map_cons, List.cons_append, decodeCharacters,
      if_neg (alpha_ne_pad alphabet hgroup), hvalue, Sextets.merge]
    by_cases henough : 8 ≤ bits + 6
    · -- the bits left over and the first ones of this group make a byte
      have hloop := ih hrest (UInt8.ofNat group) hfound (bits_used hbits)
      have hlow : group / 2 ^ (bits - 2) < 2 ^ (8 - bits) := by
        rw [Nat.div_lt_iff_lt_mul (Nat.two_pow_pos _), ← Nat.pow_add]
        have : 8 - bits + (bits - 2) = 6 := by omega
        rw [this]
        exact hgroup
      have hbyte : last.toNat <<< (8 - bits) ||| group >>> (bits - 2) =
          last.toNat * 2 ^ (8 - bits) + group / 2 ^ (bits - 2) := by
        rw [Nat.shiftRight_eq_div_pow, ← Nat.shiftLeft_add_eq_or_of_lt hlow, Nat.shiftLeft_eq]
      simp only [if_pos henough, ge_iff_le, hloop, hnat, hbyte]
    · have hloop := ih hrest (UInt8.ofNat group) hfound (bits_refilled hbits henough)
      simp only [if_neg henough, ge_iff_le, hloop, hnat]

/-- The decoder reads what the encoder wrote. -/
theorem decode_of_reads {alphabet alphabet' : Alphabet} (h : Reads alphabet' alphabet)
    (behavior : DecodingBehavior) (bytes : Bytes) :
    decode alphabet' behavior (encode alphabet bytes) = .ok bytes := by
  have hloop := decodeCharacters_map (head_padding bytes.length) (Sextets.split_lt bytes) 0 h
    ⟨Nat.zero_le 6, rfl⟩
  have hpadded : ¬ (behavior ≠ .loose ∧ ∃ c ∈ (padding bytes.length).tail, c ≠ pad) := by
    rintro ⟨_, c, hc, hne⟩
    exact hne (List.eq_of_mem_replicate (List.mem_of_mem_tail hc))
  rw [decode, encode_eq, hloop]
  show (if _ then _ else _) = _
  rw [if_neg hpadded, Sextets.merge_split]

/-- Decoding undoes encoding, with the alphabet of the encoder or with the one detected, and the
encoded text is as long as announced unless that number overflows. -/
theorem decode_encode (alphabet : Alphabet) (behavior : DecodingBehavior) (bytes : Bytes) :
    decode alphabet behavior (encode alphabet bytes) = .ok bytes ∧
      decode .auto_ behavior (encode alphabet bytes) = .ok bytes ∧
      ((bytes.length / 3 + (if bytes.length % 3 ≠ 0 then 1 else 0)) * 4 < 2 ^ 64 →
        (encode alphabet bytes).length = requiredEncodeSize bytes.length) := by
  refine ⟨decode_of_reads (Or.inr rfl) behavior bytes, decode_of_reads (Or.inl rfl) behavior bytes,
    ?_⟩
  intro hsize
  rw [encode_length, requiredEncodeSize, Nat.mod_eq_of_lt hsize]

theorem decode_encode_man :
    (encode .standard (cstr "Man?")).length = requiredEncodeSize 4 :=
  (decode_encode .standard .moderate (cstr "Man?")).2.2 (by decide)

end Ysqlite3.Base64
