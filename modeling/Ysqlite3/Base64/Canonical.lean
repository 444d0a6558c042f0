import Ysqlite3.Base64.Language

/-!
# What the encoder writes, and in pieces

Of the strings that the decoder accepts for some bytes, the encoder writes one: the bits of the last
character that no byte uses are zero, and the padding is as long as it has to be. Encoding and decoding can
be done piece by piece, as long as the pieces end where no bits are left over.
-/

namespace Ysqlite3.Base64

/-! ## Canonical strings -/

/-- The strings the encoder writes. -/
structure Canonical (alphabet : Alphabet) (text : Bytes) : Prop where
  letters : ∀ c ∈ unpadded text, c ∈ characters alphabet
  filled : Sextets.Filled ((unpadded text).map value)
  padding : padded text = List.replicate ((4 - (unpadded text).length % 4) % 4) pad

instance (alphabet : Alphabet) (text : Bytes) : Decidable (Canonical alphabet text) :=
  haveI := List.decidableBAll (· ∈ characters alphabet) (unpadded text)
  decidable_of_iff
    ((∀ c ∈ unpadded text, c ∈ characters alphabet) ∧
      Sextets.Filled ((unpadded text).map value) ∧
      padded text = List.replicate ((4 - (unpadded text).length % 4) % 4) pad)
    ⟨fun ⟨h, h', h''⟩ => ⟨h, h', h''⟩, fun h => ⟨h.letters, h.filled, h.padding⟩⟩

theorem unpadded_append {letters : Bytes} (h : pad ∉ letters) (text : Bytes) :
    unpadded (letters ++ text) = letters ++ unpadded text := by
  rw [unpadded, List.takeWhile_append_of_pos, unpadded]
  intro c hc
  exact decide_eq_true (fun hpad => h (hpad ▸ hc))

theorem padded_append {letters : Bytes} (h : pad ∉ letters) (text : Bytes) :
    padded (letters ++ text) = padded text := by
  rw [padded, List.dropWhile_append_of_pos, padded]
  intro c hc
  exact decide_eq_true (fun hpad => h (hpad ▸ hc))

theorem unpadded_of_head {text : Bytes} (h : ∀ c ∈ text.head?, c = pad) : unpadded text = [] := by
  cases text with
  | nil => rfl
  | cons c cs => rw [h c rfl, unpadded_cons_pad]

theorem padded_of_head {text : Bytes} (h : ∀ c ∈ text.head?, c = pad) : padded text = text := by
  have hsplit := unpadded_append_padded text
  rwa [unpadded_of_head h, List.nil_append] at hsplit

theorem unpadded_of_notMem {text : Bytes} (h : pad ∉ text) : unpadded text = text := by
  have hend := unpadded_append h []
  have hnil : unpadded [] = [] := rfl
  rwa [hnil, List.append_nil] at hend

theorem padded_of_notMem {text : Bytes} (h : pad ∉ text) : padded text = [] := by
  have hend := padded_append h []
  rwa [List.append_nil] at hend

theorem pad_notMem_characters (alphabet : Alphabet) : pad ∉ characters alphabet := by
  rw [characters_eq]
  cases alphabet <;> decide

/-- The place of a character is the one the encoder took it from. -/
theorem value_alpha (alphabet : Alphabet) {v : Nat} (hv : v < 64) : value (alpha alphabet v) = v := by
  have hlt : v < (characters alphabet).length := by rwa [length_characters]
  have halpha : alpha alphabet v = (characters alphabet)[v] := by
    rw [alpha, List.getD_eq_getElem?_getD, List.getElem?_eq_getElem hlt, Option.getD_some]
  have hnodup : (characters alphabet).Nodup := by
    rw [characters_eq]
    cases alphabet <;> decide +kernel
  rw [halpha, value_eq (List.getElem_mem hlt), List.Nodup.idxOf_getElem hnodup]

theorem alpha_mem (alphabet : Alphabet) {v : Nat} (hv : v < 64) :
    alpha alphabet v ∈ characters alphabet := by
  have hlt : v < (characters alphabet).length := by rwa [length_characters]
  rw [alpha, List.getD_eq_getElem?_getD, List.getElem?_eq_getElem hlt]
  exact List.getElem_mem hlt

/-- The letters that the encoder writes for the groups of six bits. -/
theorem letters_of_groups (alphabet : Alphabet) {groups : List Nat} (h : ∀ group ∈ groups, group < 64) :
    (∀ c ∈ groups.map (alpha alphabet), c ∈ characters alphabet) ∧
      (groups.map (alpha alphabet)).map value = groups := by
  constructor
  · intro c hc
    obtain ⟨group, hgroup, rfl⟩ := List.mem_map.mp hc
    exact alpha_mem alphabet (h group hgroup)
  · rw [List.map_map]
    exact (List.map_congr_left fun group hgroup => value_alpha alphabet (h group hgroup)).trans
      (List.map_id _)

theorem unpadded_encode (alphabet : Alphabet) (bytes : Bytes) :
    unpadded (encode alphabet bytes) = (Sextets.split bytes).map (alpha alphabet) := by
  have hletters := (letters_of_groups alphabet (Sextets.split_lt bytes)).1
  rw [encode_eq, unpadded_append fun h => pad_notMem_characters alphabet (hletters _ h),
    unpadded_of_head (head_padding _), List.append_nil]

theorem padded_encode (alphabet : Alphabet) (bytes : Bytes) :
    padded (encode alphabet bytes) = padding bytes.length := by
  have hletters := (letters_of_groups alphabet (Sextets.split_lt bytes)).1
  rw [encode_eq, padded_append fun h => pad_notMem_characters alphabet (hletters _ h),
    padded_of_head (head_padding _)]

/-- The length of the padding, told by the characters and by the bytes. -/
theorem padding_eq (bytes : Bytes) :
    padding bytes.length = List.replicate ((4 - (Sextets.split bytes).length % 4) % 4) pad := by
  rw [padding, Sextets.split_length]
  congr 1
  have hlast : bytes.length % 3 = 0 ∨ bytes.length % 3 = 1 ∨ bytes.length % 3 = 2 := by omega
  rcases hlast with hlast | hlast | hlast <;> omega

theorem canonical_encode (alphabet : Alphabet) (bytes : Bytes) :
    Canonical alphabet (encode alphabet bytes) := by
  obtain ⟨hletters, hvalues⟩ := letters_of_groups alphabet (Sextets.split_lt bytes)
  refine ⟨?_, ?_, ?_⟩
  · rwa [unpadded_encode]
  · rw [unpadded_encode, hvalues]
    exact Sextets.filled_split bytes
  · rw [unpadded_encode, padded_encode, List.length_map, padding_eq]

/-- The encoder writes a canonical string for the bytes that it means. -/
theorem Canonical.encode_meaning {alphabet : Alphabet} {text : Bytes} (h : Canonical alphabet text) :
    encode alphabet (meaning text) = text := by
  have hvalues : ∀ group ∈ (unpadded text).map value, group < 64 := by
    intro group hgroup
    obtain ⟨c, hc, rfl⟩ := List.mem_map.mp hgroup
    exact value_lt (h.letters c hc)
  have hwritten : ((unpadded text).map value).map (alpha alphabet) = unpadded text := by
    rw [List.map_map]
    exact (List.map_congr_left fun c hc => alpha_value (h.letters c hc)).trans (List.map_id _)
  have hmerge := Sextets.merge_eq_octets hvalues 0 ⟨Nat.zero_le 6, rfl⟩
  rw [BitString.lowBits, List.nil_append] at hmerge
  have hsplit : Sextets.split (meaning text) = (unpadded text).map value := by
    rw [meaning, ← hmerge, Sextets.split_merge hvalues h.filled]
  rw [encode_eq, padding_eq, hsplit, hwritten, List.length_map, ← h.padding, unpadded_append_padded]

/-- The encoder writes a string for some bytes exactly if the string is canonical and the decoder returns
these bytes for it. All other strings that the decoder accepts are another writing of the same bytes. -/
theorem encode_eq_iff (alphabet : Alphabet) (bytes text : Bytes) :
    encode alphabet bytes = text ↔
      Canonical alphabet text ∧ decode alphabet .moderate text = .ok bytes := by
  constructor
  · rintro rfl
    exact ⟨canonical_encode alphabet bytes, decode_of_reads (Or.inr rfl) .moderate bytes⟩
  · rintro ⟨hcanonical, hdecode⟩
    obtain ⟨-, rfl⟩ := (decode_ok_iff alphabet .moderate text bytes).mp hdecode
    exact hcanonical.encode_meaning

/-! ## Pieces -/

theorem encode_append_of_dvd (alphabet : Alphabet) {piece : Bytes} (h : 3 ∣ piece.length)
    (rest : Bytes) : encode alphabet (piece ++ rest) = encode alphabet piece ++ encode alphabet rest := by
  induction piece using encode.induct with
  | case1 => rfl
  | case2 i0 =>
    simp only [List.length_cons, List.length_nil] at h
    omega
  | case3 i0 i1 =>
    simp only [List.length_cons, List.length_nil] at h
    omega
  | case4 i0 i1 i2 piece ih =>
    have hrest : 3 ∣ piece.length := by
      simp only [List.length_cons] at h
      omega
    simp only [List.cons_append, encode, ih hrest]

theorem encode_eq_nil_iff (alphabet : Alphabet) (bytes : Bytes) :
    encode alphabet bytes = [] ↔ bytes = [] := by
  cases bytes using encode.fun_cases <;> simp [encode]

/-- What is encoded does not start with padding. -/
theorem head_encode (alphabet : Alphabet) (bytes : Bytes) : ∀ c ∈ (encode alphabet bytes).head?, c ≠ pad := by
  intro c hc hpad
  have hpadded : ∀ d ∈ (encode alphabet bytes).head?, d = pad := fun d hd => by
    rw [Option.mem_unique hd hc, hpad]
  have hempty := unpadded_of_head hpadded
  rw [unpadded_encode, List.map_eq_nil_iff] at hempty
  have hlength := Sextets.split_length bytes
  rw [hempty, List.length_nil] at hlength
  have hnil : bytes = [] := List.length_eq_zero_iff.mp (by omega)
  rw [hnil] at hc
  cases hc

/-- Behind padding there is no more text in what the encoder writes. -/
theorem dvd_of_encode_append {alphabet : Alphabet} {piece bytes text : Bytes}
    (h : encode alphabet bytes = encode alphabet piece ++ text) (hne : text ≠ [])
    (hhead : ∀ c ∈ text.head?, c ≠ pad) : 3 ∣ piece.length := by
  by_contra hlength
  have hpadding : padding piece.length ≠ [] := by
    rw [padding, ne_eq, List.replicate_eq_nil_iff]
    omega
  have hletters := (letters_of_groups alphabet (Sextets.split_lt piece)).1
  have hpadded : padded (encode alphabet bytes) = padding piece.length ++ text := by
    rw [h, encode_eq, List.append_assoc,
      padded_append fun hpad => pad_notMem_characters alphabet (hletters _ hpad)]
    apply padded_of_head
    rw [List.head?_append_of_ne_nil _ hpadding]
    exact head_padding piece.length
  obtain ⟨c, hc⟩ := Option.ne_none_iff_exists'.mp (mt List.head?_eq_none_iff.mp hne)
  refine hhead c hc ?_
  have hmem : c ∈ padding bytes.length := by
    rw [← padded_encode alphabet bytes, hpadded]
    exact List.mem_append_right _ (List.mem_of_mem_head? hc)
  exact List.eq_of_mem_replicate hmem

theorem flatten_encode_eq_nil {alphabet : Alphabet} {pieces : List Bytes}
    (h : ∀ piece ∈ pieces, piece = []) : (pieces.map (encode alphabet)).flatten = [] := by
  rw [List.flatten_eq_nil_iff]
  intro text htext
  obtain ⟨piece, hpiece, rfl⟩ := List.mem_map.mp htext
  exact (encode_eq_nil_iff alphabet piece).mpr (h piece hpiece)

theorem head_flatten_encode (alphabet : Alphabet) (pieces : List Bytes) :
    ∀ c ∈ ((pieces.map (encode alphabet)).flatten).head?, c ≠ pad := by
  induction pieces with
  | nil => exact fun c hc => nomatch hc
  | cons piece pieces ih =>
    rw [List.map_cons, List.flatten_cons]
    by_cases hpiece : encode alphabet piece = []
    · rwa [hpiece, List.nil_append]
    · rw [List.head?_append_of_ne_nil _ hpiece]
      exact head_encode alphabet piece

/-- Encoding piece by piece writes what encoding at once does exactly if every piece with a non-empty one
behind it is a multiple of three bytes long. -/
theorem encode_pieces_iff (alphabet : Alphabet) (pieces : List Bytes) :
    encode alphabet pieces.flatten = (pieces.map (encode alphabet)).flatten ↔
      pieces.Pairwise (fun piece later => later ≠ [] → 3 ∣ piece.length) := by
  induction pieces with
  | nil => exact ⟨fun _ => List.Pairwise.nil, fun _ => rfl⟩
  | cons piece pieces ih =>
    rw [List.flatten_cons, List.map_cons, List.flatten_cons, List.pairwise_cons]
    by_cases hdvd : 3 ∣ piece.length
    · rw [encode_append_of_dvd alphabet hdvd, List.append_right_inj, ih]
      exact ⟨fun h => ⟨fun _ _ _ => hdvd, h⟩, fun h => h.2⟩
    · constructor
      · intro h
        -- All pieces behind this one are empty.
        have hempty : ∀ later ∈ pieces, later = [] := by
          intro later hlater
          by_contra hne
          refine hdvd (dvd_of_encode_append h ?_ (head_flatten_encode alphabet pieces))
          intro hnil
          have htext := List.flatten_eq_nil_iff.mp hnil _ (List.mem_map_of_mem hlater)
          exact hne ((encode_eq_nil_iff alphabet later).mp htext)
        refine ⟨fun later hlater hne => absurd (hempty later hlater) hne, ?_⟩
        exact List.pairwise_of_forall_mem_list fun _ _ later hlater hne =>
          absurd (hempty later hlater) hne
      · rintro ⟨hlater, -⟩
        have hempty : ∀ later ∈ pieces, later = [] := fun later hmem => by
          by_contra hne
          exact hdvd (hlater later hmem hne)
        rw [List.flatten_eq_nil_iff.mpr hempty, flatten_encode_eq_nil hempty, List.append_nil,
          List.append_nil]

/-- The decoder with a fixed alphabet has that one. -/
theorem candidate_iff {a b : Alphabet} (h : a ≠ .auto_) : Candidate a b ↔ b = a := by
  constructor
  · exact fun hcandidate => (hcandidate.2.resolve_left h).symm
  · rintro rfl
    exact ⟨h, Or.inr rfl⟩

/-- Detecting the alphabet is decoding with one that can be meant. -/
theorem decode_iff_candidate (alphabet : Alphabet) (behavior : DecodingBehavior) (text out : Bytes) :
    decode alphabet behavior text = .ok out ↔
      ∃ a, Candidate alphabet a ∧ decode a behavior text = .ok out := by
  simp only [decode_ok_iff]
  constructor
  · rintro ⟨⟨⟨a, ha, hletters⟩, hpadding⟩, hout⟩
    exact ⟨a, ha, ⟨⟨a, (candidate_iff ha.1).mpr rfl, hletters⟩, hpadding⟩, hout⟩
  · rintro ⟨a, ha, ⟨⟨b, hb, hletters⟩, hpadding⟩, hout⟩
    obtain rfl := (candidate_iff ha.1).mp hb
    exact ⟨⟨⟨b, ha, hletters⟩, hpadding⟩, hout⟩

theorem meaning_append {piece : Bytes} (hdvd : 4 ∣ piece.length) (hpad : pad ∉ piece) (text : Bytes) :
    meaning (piece ++ text) = meaning piece ++ meaning text := by
  rw [meaning, unpadded_append hpad, List.map_append, Sextets.bits_append, BitString.octets_append_of_dvd,
    meaning, unpadded_of_notMem hpad, meaning]
  rw [Sextets.length_bits, List.length_map]
  omega

/-- One piece first, and then what is behind it. -/
theorem decode_append_iff {a : Alphabet} (ha : a ≠ .auto_) {piece : Bytes} (hdvd : 4 ∣ piece.length)
    (hpad : pad ∉ piece) (behavior : DecodingBehavior) (text out : Bytes) :
    decode a behavior (piece ++ text) = .ok out ↔
      ∃ first rest, decode a behavior piece = .ok first ∧ decode a behavior text = .ok rest ∧
        out = first ++ rest := by
  simp only [decode_ok_iff]
  constructor
  · rintro ⟨⟨⟨b, hb, hletters⟩, hpadding⟩, rfl⟩
    rw [unpadded_append hpad] at hletters
    rw [padded_append hpad] at hpadding
    refine ⟨meaning piece, meaning text, ⟨⟨⟨b, hb, ?_⟩, ?_⟩, rfl⟩, ⟨⟨⟨b, hb, ?_⟩, hpadding⟩, rfl⟩,
      meaning_append hdvd hpad text⟩
    · rw [unpadded_of_notMem hpad]
      exact fun c hc => hletters c (List.mem_append_left _ hc)
    · rw [padded_of_notMem hpad]
      exact fun _ c hc => absurd hc List.not_mem_nil
    · exact fun c hc => hletters c (List.mem_append_right _ hc)
  · rintro ⟨_, _, ⟨⟨⟨b, hb, hpiece⟩, -⟩, rfl⟩, ⟨⟨⟨b', hb', htext⟩, hpadding⟩, rfl⟩, rfl⟩
    obtain rfl := (candidate_iff ha).mp hb
    obtain rfl := (candidate_iff ha).mp hb'
    rw [unpadded_of_notMem hpad] at hpiece
    refine ⟨⟨⟨b', hb, ?_⟩, ?_⟩, (meaning_append hdvd hpad text).symm⟩
    · rw [unpadded_append hpad]
      exact fun c hc => (List.mem_append.mp hc).elim (hpiece c) (htext c)
    · rwa [padded_append hpad]

/-- Decoding at once is decoding all pieces with one of the alphabets that can be meant, when the pieces
before the last one have no padding and end at a multiple of four characters. -/
theorem decode_pieces_iff (alphabet : Alphabet) (behavior : DecodingBehavior) (pieces : List Bytes)
    (last out : Bytes) (h : ∀ piece ∈ pieces, 4 ∣ piece.length ∧ pad ∉ piece) :
    decode alphabet behavior (pieces.flatten ++ last) = .ok out ↔
      ∃ a, Candidate alphabet a ∧ ∃ outs rest,
        List.Forall₂ (fun piece bytes => decode a behavior piece = .ok bytes) pieces outs ∧
          decode a behavior last = .ok rest ∧ out = outs.flatten ++ rest := by
  rw [decode_iff_candidate]
  refine exists_congr fun a => and_congr_right fun ha => ?_
  induction pieces generalizing out with
  | nil =>
    constructor
    · exact fun hlast => ⟨[], out, List.Forall₂.nil, hlast, rfl⟩
    · rintro ⟨_, rest, ⟨⟩, hlast, rfl⟩
      exact hlast
  | cons piece pieces ih =>
    obtain ⟨⟨hdvd, hpad⟩, hpieces⟩ := List.forall_mem_cons.mp h
    rw [List.flatten_cons, List.append_assoc, decode_append_iff ha.1 hdvd hpad]
    constructor
    · rintro ⟨first, behind, hfirst, hbehind, rfl⟩
      obtain ⟨outs, rest, hall, hlast, rfl⟩ := (ih behind hpieces).mp hbehind
      exact ⟨first :: outs, rest, List.Forall₂.cons hfirst hall, hlast,
        by rw [List.flatten_cons, List.append_assoc]⟩
    · rintro ⟨_, rest, hall, hlast, rfl⟩
      cases hall with
      | cons hfirst hrest =>
        rename_i first outs
        exact ⟨first, outs.flatten ++ rest, hfirst, (ih _ hpieces).mpr ⟨outs, rest, hrest, hlast, rfl⟩,
          by rw [List.flatten_cons, List.append_assoc]⟩

theorem decode_pieces_man :
    decode .auto_ .moderate ([cstr "TWFu", cstr "TWFu"].flatten ++ cstr "Pw==") = .ok (cstr "ManMan?") ↔
      ∃ a, Candidate .auto_ a ∧ ∃ outs rest,
        List.Forall₂ (fun piece bytes => decode a .moderate piece = .ok bytes)
          [cstr "TWFu", cstr "TWFu"] outs ∧
        decode a .moderate (cstr "Pw==") = .ok rest ∧ cstr "ManMan?" = outs.flatten ++ rest :=
  decode_pieces_iff .auto_ .moderate [cstr "TWFu", cstr "TWFu"] (cstr "Pw==") (cstr "ManMan?")
    (by decide +kernel)

end Ysqlite3.Base64
