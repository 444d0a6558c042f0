import Ysqlite3.Base64

/-!
# What the decoder accepts

The strings that `base64::decode` accepts, and the bytes they mean: up to the first padding there are only
characters of one alphabet, and what follows is padding unless the behaviour is loose. The bytes are those
that the six bits of each character fill.
-/

namespace Ysqlite3.Base64

/-! ## The language -/

/-- The part before the first padding. -/
def unpadded (text : Bytes) : Bytes := text.takeWhile (· ≠ pad)

/-- The part from the first padding on. -/
def padded (text : Bytes) : Bytes := text.dropWhile (· ≠ pad)

/-- The alphabets that `a` can stand for while decoding with `alphabet`. -/
def Candidate (alphabet a : Alphabet) : Prop := a ≠ .auto_ ∧ (alphabet = .auto_ ∨ alphabet = a)

/-- The strings that are base64. -/
structure Accepts (alphabet : Alphabet) (behavior : DecodingBehavior) (text : Bytes) : Prop where
  letters : ∃ a, Candidate alphabet a ∧ ∀ c ∈ unpadded text, c ∈ characters a
  padding : behavior ≠ .loose → ∀ c ∈ padded text, c = pad

/-- The six bits a character stands for: its place in the standard alphabet, or else in the other one. -/
def value (c : UInt8) : Nat :=
  if c ∈ characters .standard then (characters .standard).idxOf c
  else (characters .urlFilenameSafe).idxOf c

/-- The full bytes of these bits. -/
def meaning (text : Bytes) : Bytes := BitString.octets (Sextets.bits ((unpadded text).map value))

theorem length_meaning (text : Bytes) : (meaning text).length = 6 * (unpadded text).length / 8 := by
  rw [meaning, BitString.length_octets, Sextets.length_bits, List.length_map]

theorem unpadded_append_padded (text : Bytes) : unpadded text ++ padded text = text :=
  List.takeWhile_append_dropWhile

theorem head_padded (text : Bytes) : ∀ c ∈ (padded text).head?, c = pad := by
  intro c hc
  have hstop := List.head?_dropWhile_not (· ≠ pad) text
  rw [padded] at hc
  rw [hc] at hstop
  simpa using hstop

/-! ## Characters -/

theorem length_characters (a : Alphabet) : (characters a).length = 64 := by
  rw [characters_eq]
  cases a <;> rfl

theorem special_standard_not_url : ∀ c ∈ special .standard, c ∉ characters .urlFilenameSafe := by
  rw [characters_eq]
  decide +kernel

/-- A character has the same value in every alphabet that has it. -/
theorem value_eq {a : Alphabet} {c : UInt8} (hc : c ∈ characters a) : value c = (characters a).idxOf c := by
  unfold value
  cases a with
  | auto_ => exact if_pos hc
  | standard => exact if_pos hc
  | urlFilenameSafe =>
    split
    · rename_i hstandard
      rw [characters_eq, List.mem_append] at hstandard
      rcases hstandard with hcommon | hspecial
      · rw [characters_eq, characters_eq, List.idxOf_append_of_mem hcommon,
          List.idxOf_append_of_mem hcommon]
      · exact absurd hc (special_standard_not_url c hspecial)
    · rfl

theorem value_lt {a : Alphabet} {c : UInt8} (hc : c ∈ characters a) : value c < 64 := by
  rw [value_eq hc, ← length_characters a]
  exact List.idxOf_lt_length_of_mem hc

/-- The encoder writes the character for its value. -/
theorem alpha_value {a : Alphabet} {c : UInt8} (hc : c ∈ characters a) : alpha a (value c) = c := by
  have hlt := List.idxOf_lt_length_of_mem hc
  rw [value_eq hc, alpha, List.getD_eq_getElem?_getD, List.getElem?_eq_getElem hlt, Option.getD_some,
    List.getElem_idxOf hlt]

/-- Letters and digits are in both alphabets. -/
theorem mem_common {c : UInt8} (h : 65 ≤ c ∧ c ≤ 90 ∨ 97 ≤ c ∧ c ≤ 122 ∨ 48 ≤ c ∧ c ≤ 57) :
    c ∈ common := by
  simp only [UInt8.le_iff_toNat_le, UInt8.reduceToNat] at h
  refine List.mem_map.mpr ⟨c.toNat, ?_, UInt8.ofNat_toNat⟩
  simp only [List.mem_append, List.mem_range'_1]
  omega

theorem mem_characters_of_common (a : Alphabet) {c : UInt8} (hc : c ∈ common) : c ∈ characters a := by
  rw [characters_eq]
  exact List.mem_append_left _ hc

theorem mem_characters_of_special {a : Alphabet} {c : UInt8} (hc : c ∈ special a) : c ∈ characters a := by
  rw [characters_eq]
  exact List.mem_append_right _ hc

/-- A comparison with one of the two other characters. -/
theorem special_branch {alphabet a found : Alphabet} {c x v w : UInt8}
    {rest : Except Base64Error (UInt8 × Alphabet)}
    (h : (if c = x then .ok (w, a) else rest) = .ok (v, found))
    (hx : Candidate alphabet a ∧ x ∈ special a)
    (hrest : rest = .ok (v, found) → Candidate alphabet found ∧ c ∈ special found) :
    Candidate alphabet found ∧ c ∈ special found := by
  by_cases hc : c = x
  · rw [if_pos hc] at h
    cases h
    exact hc ▸ hx
  · rw [if_neg hc] at h
    exact hrest h

/-- What `_base64_value` accepts: a letter or digit, which settles nothing, or another character of the
alphabet it leaves. -/
theorem base64Value_ok {alphabet found : Alphabet} {c v : UInt8}
    (h : base64Value alphabet c = .ok (v, found)) :
    c ∈ common ∧ found = alphabet ∨ Candidate alphabet found ∧ c ∈ special found := by
  unfold base64Value at h
  split at h
  · rename_i hupper
    cases h
    exact Or.inl ⟨mem_common (Or.inl hupper), rfl⟩
  split at h
  · rename_i hlower
    cases h
    exact Or.inl ⟨mem_common (Or.inr (Or.inl hlower)), rfl⟩
  split at h
  · rename_i hdigit
    cases h
    exact Or.inl ⟨mem_common (Or.inr (Or.inr hdigit)), rfl⟩
  right
  cases alphabet with
  | standard =>
    have hstandard : Candidate .standard .standard := ⟨by decide, Or.inr rfl⟩
    apply special_branch h ⟨hstandard, by decide⟩
    intro h
    apply special_branch h ⟨hstandard, by decide⟩
    exact fun h => nomatch h
  | urlFilenameSafe =>
    have hurl : Candidate .urlFilenameSafe .urlFilenameSafe := ⟨by decide, Or.inr rfl⟩
    apply special_branch h ⟨hurl, by decide⟩
    intro h
    apply special_branch h ⟨hurl, by decide⟩
    exact fun h => nomatch h
  | auto_ =>
    have hstandard : Candidate .auto_ .standard := ⟨by decide, Or.inl rfl⟩
    have hurl : Candidate .auto_ .urlFilenameSafe := ⟨by decide, Or.inl rfl⟩
    apply special_branch h ⟨hstandard, by decide⟩
    intro h
    apply special_branch h ⟨hstandard, by decide⟩
    intro h
    apply special_branch h ⟨hurl, by decide⟩
    intro h
    apply special_branch h ⟨hurl, by decide⟩
    exact fun h => nomatch h

/-- Every alphabet that can still be meant afterwards could be meant before, and has the character. -/
theorem Candidate.of_value {alphabet found a : Alphabet} {c v : UInt8}
    (h : base64Value alphabet c = .ok (v, found)) (ha : Candidate found a) :
    Candidate alphabet a ∧ c ∈ characters a := by
  rcases base64Value_ok h with ⟨hcommon, rfl⟩ | ⟨hfound, hspecial⟩
  · exact ⟨ha, mem_characters_of_common a hcommon⟩
  · obtain rfl := ha.2.resolve_left hfound.1
    exact ⟨hfound, mem_characters_of_special hspecial⟩

theorem Candidate.exists (alphabet : Alphabet) : ∃ a, Candidate alphabet a := by
  cases alphabet with
  | auto_ => exact ⟨.standard, by decide, Or.inl rfl⟩
  | standard => exact ⟨.standard, by decide, Or.inr rfl⟩
  | urlFilenameSafe => exact ⟨.urlFilenameSafe, by decide, Or.inr rfl⟩

theorem Candidate.reads {alphabet a : Alphabet} (h : Candidate alphabet a) : Reads alphabet a := by
  rcases h.2 with hauto | rfl
  · exact Or.inl hauto
  · exact Or.inr rfl

/-! ## Strings -/

theorem unpadded_cons_pad (cs : Bytes) : unpadded (pad :: cs) = [] := by
  rw [unpadded, List.takeWhile_cons_of_neg (by simp)]

theorem unpadded_cons {c : UInt8} (hc : c ≠ pad) (cs : Bytes) : unpadded (c :: cs) = c :: unpadded cs := by
  rw [unpadded, List.takeWhile_cons_of_pos (by simpa using hc)]
  rfl

/-- When the loop has accepted all characters, one alphabet has them all. -/
theorem decodeCharacters_letters {text out rest : Bytes} :
    ∀ {alphabet : Alphabet} {last : UInt8} {bits : Nat},
      decodeCharacters alphabet last bits text = .ok (out, rest) →
        ∃ a, Candidate alphabet a ∧ ∀ c ∈ unpadded text, c ∈ characters a := by
  induction text generalizing out with
  | nil =>
    intro alphabet last bits _
    obtain ⟨a, ha⟩ := Candidate.exists alphabet
    exact ⟨a, ha, fun c hc => absurd hc List.not_mem_nil⟩
  | cons c cs ih =>
    intro alphabet last bits h
    by_cases hc : c = pad
    · obtain ⟨a, ha⟩ := Candidate.exists alphabet
      refine ⟨a, ha, fun d hd => ?_⟩
      rw [hc, unpadded_cons_pad] at hd
      exact absurd hd List.not_mem_nil
    · rw [decodeCharacters, if_neg hc] at h
      cases hvalue : base64Value alphabet c with
      | error e => simp [hvalue] at h
      | ok found =>
        obtain ⟨part, found⟩ := found
        simp only [hvalue] at h
        -- the rest of the loop goes on with the alphabet found
        have hloop : ∃ a, Candidate found a ∧ ∀ d ∈ unpadded cs, d ∈ characters a := by
          split at h
          · cases hrest : decodeCharacters found part (bits - 2) cs with
            | error e => simp [hrest] at h
            | ok result =>
              obtain ⟨out', rest'⟩ := result
              simp only [hrest, Except.ok.injEq, Prod.mk.injEq] at h
              exact ih (h.2 ▸ hrest)
          · exact ih h
        obtain ⟨a, ha, hletters⟩ := hloop
        obtain ⟨hbefore, hletter⟩ := Candidate.of_value hvalue ha
        refine ⟨a, hbefore, fun d hd => ?_⟩
        rw [unpadded_cons hc] at hd
        rcases List.mem_cons.mp hd with rfl | hd
        · exact hletter
        · exact hletters d hd

/-- When one alphabet has all the characters, the loop writes what they mean. -/
theorem decodeCharacters_meaning {alphabet a : Alphabet} {text : Bytes} (ha : Candidate alphabet a)
    (hletters : ∀ c ∈ unpadded text, c ∈ characters a) :
    decodeCharacters alphabet 0 0 text = .ok (meaning text, (padded text).tail) := by
  have hvalues : ∀ group ∈ (unpadded text).map value, group < 64 := by
    intro group hgroup
    obtain ⟨c, hc, rfl⟩ := List.mem_map.mp hgroup
    exact value_lt (hletters c hc)
  have hwritten : ((unpadded text).map value).map (alpha a) = unpadded text := by
    rw [List.map_map]
    apply (List.map_congr_left fun c hc => alpha_value (hletters c hc)).trans
    exact List.map_id _
  have hloop := decodeCharacters_map (head_padded text) hvalues 0 ha.reads ⟨Nat.zero_le 6, rfl⟩
  rw [hwritten, unpadded_append_padded, UInt8.toNat_zero,
    Sextets.merge_eq_octets hvalues 0 ⟨Nat.zero_le 6, rfl⟩] at hloop
  exact hloop

/-- The padding check after the loop is one of everything from the first padding on. -/
theorem forall_tail_padded_iff (text : Bytes) :
    (∀ c ∈ (padded text).tail, c = pad) ↔ ∀ c ∈ padded text, c = pad := by
  have hhead := head_padded text
  cases hpadded : padded text with
  | nil => exact Iff.rfl
  | cons c cs =>
    rw [hpadded] at hhead
    simp [hhead c rfl]

/-- The decoder accepts a string exactly if it is base64, and returns what it means. -/
theorem decode_ok_iff (alphabet : Alphabet) (behavior : DecodingBehavior) (text out : Bytes) :
    decode alphabet behavior text = .ok out ↔ Accepts alphabet behavior text ∧ out = meaning text := by
  unfold decode
  constructor
  · intro h
    cases hloop : decodeCharacters alphabet 0 0 text with
    | error e => simp [hloop] at h
    | ok result =>
      obtain ⟨written, rest⟩ := result
      obtain ⟨a, ha, hletters⟩ := decodeCharacters_letters hloop
      rw [decodeCharacters_meaning ha hletters] at h
      simp only at h
      split at h
      · cases h
      · rename_i hpadding
        refine ⟨⟨⟨a, ha, hletters⟩, fun hmoderate => ?_⟩, (Except.ok.inj h).symm⟩
        rw [← forall_tail_padded_iff]
        intro c hc
        by_contra hne
        exact hpadding ⟨hmoderate, c, hc, hne⟩
  · rintro ⟨⟨⟨a, ha, hletters⟩, hpadding⟩, rfl⟩
    rw [decodeCharacters_meaning ha hletters]
    simp only
    rw [if_neg]
    rintro ⟨hmoderate, c, hc, hne⟩
    exact hne ((forall_tail_padded_iff text).mpr (hpadding hmoderate) c hc)

/-- The decoder accepts exactly its language: the characters before the first padding are in one of the
alphabets that can be meant, and unless the behaviour is loose, there is only padding from there on. It
returns the full bytes of the six bits of each of these characters, so whatever the alphabets and the
behaviours are, two decoders that accept a string agree on it. -/
theorem decode_language (alphabet : Alphabet) (behavior : DecodingBehavior) (text : Bytes) :
    ((∃ out, decode alphabet behavior text = .ok out) ↔ Accepts alphabet behavior text) ∧
      (∀ out, decode alphabet behavior text = .ok out →
        out = BitString.octets (Sextets.bits ((unpadded text).map value)) ∧
          out.length = 6 * (unpadded text).length / 8) ∧
      ∀ alphabet' behavior' out out', decode alphabet behavior text = .ok out →
        decode alphabet' behavior' text = .ok out' → out = out' := by
  refine ⟨?_, ?_, ?_⟩
  · constructor
    · rintro ⟨out, h⟩
      exact ((decode_ok_iff alphabet behavior text out).mp h).1
    · intro h
      exact ⟨meaning text, (decode_ok_iff alphabet behavior text _).mpr ⟨h, rfl⟩⟩
  · intro out h
    obtain ⟨-, rfl⟩ := (decode_ok_iff alphabet behavior text out).mp h
    exact ⟨rfl, length_meaning text⟩
  · intro alphabet' behavior' out out' h h'
    rw [((decode_ok_iff alphabet behavior text out).mp h).2,
      ((decode_ok_iff alphabet' behavior' text out').mp h').2]

theorem decode_language_man :
    cstr "Man?" = BitString.octets (Sextets.bits ((unpadded (cstr "TWFuPw==")).map value)) ∧
      (cstr "Man?").length = 6 * (unpadded (cstr "TWFuPw==")).length / 8 :=
  (decode_language .auto_ .moderate (cstr "TWFuPw==")).2.1 (cstr "Man?") (by decide +kernel)

end Ysqlite3.Base64
