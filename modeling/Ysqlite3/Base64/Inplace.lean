import Ysqlite3.Base64
import Ysqlite3.Misc.ByteStore

/-!
# Decoding in place

`base64::decode_inplace` runs `base64::decode` with both iterators over one buffer, so every byte is written
over characters. Three quarters of a byte are read for each character, so the output stays behind the input
and only overwrites what has been read.
-/

namespace Ysqlite3.Base64

/-- The local variables of `decode`, with both iterators as distances from the beginning of the buffer. -/
structure Inplace where
  buffer : Bytes
  inBegin : Nat
  out : Nat
  alphabet : Alphabet
  last : UInt8
  bits : Nat
  deriving DecidableEq, Repr

namespace Inplace

/-- The state before the first round. -/
def start (alphabet : Alphabet) (text : Bytes) : Inplace where
  buffer := text
  inBegin := 0
  out := 0
  alphabet := alphabet
  last := 0
  bits := 0

/-- What a round of the first loop comes to. An access behind the buffer is undefined. -/
inductive Round where
  | goesOn (s : Inplace)
  | stops (s : Inplace)
  | throws (e : Base64Error) (s : Inplace)
  | undefined

/-- A round of the first loop. -/
def round (s : Inplace) : Round :=
  match s.buffer[s.inBegin]? with
  | none => .undefined
  | some c =>
    let s := { s with inBegin := s.inBegin + 1 }
    if c = pad then .stops s
    else match base64Value s.alphabet c with
      | .error e => .throws e s
      | .ok (part, alphabet) =>
        if s.bits + 6 ≥ 8 then
          if s.out < s.buffer.length then
            .goesOn { s with
              buffer := s.buffer.set s.out
                (UInt8.ofNat (s.last.toNat <<< (8 - s.bits) ||| part.toNat >>> (s.bits - 2)))
              out := s.out + 1
              alphabet := alphabet
              last := part
              bits := s.bits - 2 }
          else .undefined
        else .goesOn { s with alphabet := alphabet, last := part, bits := s.bits + 6 }

/-- The first loop, when `in_begin` is `n` characters before `in_end`. -/
def rounds : Nat → Inplace → Option (Except Base64Error Unit × Inplace)
  | 0, s => some (.ok (), s)
  | n + 1, s =>
    match s.round with
    | .goesOn s => rounds n s
    | .stops s => some (.ok (), s)
    | .throws e s => some (.error e, s)
    | .undefined => none

end Inplace

/-- `base64::decode_inplace` of a char array: the distance of the pointer that is returned, and the
array then. -/
def decodeInplace (alphabet : Alphabet) (behavior : DecodingBehavior) (str : Bytes) :
    Option (Except Base64Error Nat × Bytes) :=
  match Inplace.rounds str.length (.start alphabet str) with
  | none => none
  | some (.error e, s) => some (.error e, s.buffer)
  | some (.ok (), s) =>
    if behavior ≠ .loose ∧ ∃ c ∈ s.buffer.drop s.inBegin, c ≠ pad then
      some (.error invalidCharacter, s.buffer)
    else some (.ok s.out, s.buffer)

/-- `base64::decode_inplace` of a `std::string`. -/
def decodeInplaceString (alphabet : Alphabet) (behavior : DecodingBehavior) (str : Bytes) :
    Option (Except Base64Error Unit × Bytes) :=
  match decodeInplace alphabet behavior str with
  | none => none
  | some (.error e, str) => some (.error e, str)
  | some (.ok n, str) => some (.ok (), Store.resize 0 str n)

/-- `max_decode_size`, in `std::size_t`. -/
def maxDecodeSize (size : Nat) : Nat :=
  (size / 4 + (if size % 4 ≠ 0 then 1 else 0)) * 3 % 2 ^ 64

/-- What `decode` has written to `out` when its first loop ends or throws. -/
def written (alphabet : Alphabet) (last : UInt8) (bits : Nat) : Bytes → Bytes
  | [] => []
  | c :: cs =>
    if c = pad then []
    else match base64Value alphabet c with
      | .error _ => []
      | .ok (part, alphabet) =>
        if bits + 6 ≥ 8 then
          UInt8.ofNat (last.toNat <<< (8 - bits) ||| part.toNat >>> (bits - 2)) ::
            written alphabet part (bits - 2) cs
        else written alphabet part (bits + 6) cs

/-! ## The output stays behind the input -/

namespace Inplace

/-- The states that the first loop gets to. -/
inductive Reaches (alphabet : Alphabet) (text : Bytes) : Inplace → Prop
  | start : Reaches alphabet text (.start alphabet text)
  | round {s s' : Inplace} (h : Reaches alphabet text s) (hmore : s.inBegin ≠ text.length)
      (hround : s.round = .goesOn s') : Reaches alphabet text s'

/-- Of the bits read, all but those left over have been written, and what is still to be read is as it
was. -/
structure Behind (text : Bytes) (s : Inplace) : Prop where
  size : s.buffer.length = text.length
  inside : s.inBegin ≤ text.length
  written : 8 * s.out + s.bits = 6 * s.inBegin
  unread : s.buffer.drop s.inBegin = text.drop s.inBegin

variable {text : Bytes} {s s' : Inplace}

theorem start_behind (alphabet : Alphabet) (text : Bytes) : Behind text (.start alphabet text) where
  size := rfl
  inside := Nat.zero_le _
  written := rfl
  unread := rfl

namespace Behind

theorem out_le (h : Behind text s) : s.out ≤ s.inBegin := by
  have hwritten := h.written
  omega

/-- The character that is read next is the one of the text. -/
theorem next_char {c : UInt8} {cs : Bytes} (h : Behind text s) (hc : text.drop s.inBegin = c :: cs) :
    s.buffer[s.inBegin]? = some c := by
  have hhead : (s.buffer.drop s.inBegin)[0]? = some c := by rw [h.unread, hc]; rfl
  rwa [List.getElem?_drop, Nat.add_zero] at hhead

theorem inside_of_char {c : UInt8} {cs : Bytes} (hc : text.drop s.inBegin = c :: cs) :
    s.inBegin < text.length := by
  have hlength := congrArg List.length hc
  rw [List.length_drop, List.length_cons] at hlength
  omega

/-- What comes after the next character is as it was. -/
theorem unread_next (h : Behind text s) :
    s.buffer.drop (s.inBegin + 1) = text.drop (s.inBegin + 1) := by
  have htail := congrArg (List.drop 1) h.unread
  rwa [List.drop_drop, List.drop_drop] at htail

/-- There is room for what has been written. -/
theorem out_room (h : Behind text s) : s.out ≤ s.buffer.length := by
  rw [h.size]
  exact Nat.le_trans h.out_le h.inside

end Behind

section Rounds

variable {c part : UInt8} {cs : Bytes} {found : Alphabet}

/-- The bytes that a round writes. -/
def byteOf (s : Inplace) (part : UInt8) : Bytes :=
  if s.bits + 6 ≥ 8 then
    [UInt8.ofNat (s.last.toNat <<< (8 - s.bits) ||| part.toNat >>> (s.bits - 2))]
  else []

theorem round_pad (h : Behind text s) (hc : text.drop s.inBegin = c :: cs) (hpad : c = pad) :
    s.round = .stops { s with inBegin := s.inBegin + 1 } := by
  simp only [round, h.next_char hc, if_pos hpad]

theorem round_refused {e : Base64Error} (h : Behind text s) (hc : text.drop s.inBegin = c :: cs)
    (hpad : c ≠ pad) (hvalue : base64Value s.alphabet c = .error e) :
    s.round = .throws e { s with inBegin := s.inBegin + 1 } := by
  simp only [round, h.next_char hc, if_neg hpad, hvalue]

/-- A round that goes on writes its byte, if there is one, over characters that have been read. -/
theorem round_goesOn (h : Behind text s) (hc : text.drop s.inBegin = c :: cs) (hpad : c ≠ pad)
    (hvalue : base64Value s.alphabet c = .ok (part, found)) :
    ∃ s', s.round = .goesOn s' ∧ Behind text s' ∧ s'.inBegin = s.inBegin + 1 ∧ s'.alphabet = found ∧
      s'.last = part ∧ s'.bits = (if s.bits + 6 ≥ 8 then s.bits - 2 else s.bits + 6) ∧
      s'.buffer.take s'.out = s.buffer.take s.out ++ s.byteOf part := by
  have hinside := Behind.inside_of_char hc
  have hout := h.out_le
  have hsize := h.size
  have hwritten := h.written
  have hunread := h.unread_next
  by_cases henough : s.bits + 6 ≥ 8
  · have hroom : s.out < s.buffer.length := by omega
    simp only [round, h.next_char hc, if_neg hpad, hvalue, if_pos henough, if_pos hroom, byteOf]
    refine ⟨_, rfl, ?_, rfl, rfl, rfl, rfl, ?_⟩
    · constructor
      · rw [List.length_set]
        exact hsize
      · exact hinside
      · simp only
        omega
      · exact (List.drop_set_of_lt (Nat.lt_succ_of_le hout)).trans hunread
    · rw [List.take_add_one, List.take_set_of_le (Nat.le_refl _), List.getElem?_set_self hroom]
      rfl
  · simp only [round, h.next_char hc, if_neg hpad, hvalue, if_neg henough, byteOf, List.append_nil]
    refine ⟨_, rfl, ?_, rfl, rfl, rfl, rfl, rfl⟩
    constructor
    · exact hsize
    · exact hinside
    · simp only
      omega
    · exact hunread

/-- The step lemma. -/
theorem goesOn_behind (h : Behind text s) (hmore : s.inBegin ≠ text.length)
    (hround : s.round = .goesOn s') : Behind text s' := by
  have hinside := h.inside
  cases hc : text.drop s.inBegin with
  | nil =>
    rw [List.drop_eq_nil_iff] at hc
    omega
  | cons c cs =>
    by_cases hpad : c = pad
    · rw [round_pad h hc hpad] at hround
      cases hround
    · cases hvalue : base64Value s.alphabet c with
      | error e =>
        rw [round_refused h hc hpad hvalue] at hround
        cases hround
      | ok result =>
        obtain ⟨s'', hround', hbehind, -⟩ := round_goesOn h hc hpad hvalue
        rw [hround'] at hround
        cases hround
        exact hbehind

theorem Reaches.behind {alphabet : Alphabet} (h : Reaches alphabet text s) : Behind text s := by
  induction h with
  | start => exact start_behind alphabet text
  | round _ hmore hround ih => exact goesOn_behind ih hmore hround

/-! ## Both loops -/

/-- Both loops end in the same way: the one over the text leaves its output and the characters after the
padding, the one over the buffer leaves them around its two positions, after what was `before`. -/
inductive Agrees (before : Bytes) :
    Except Base64Error (Bytes × Bytes) → Option (Except Base64Error Unit × Inplace) → Prop
  | throws (e : Base64Error) (s : Inplace) : Agrees before (.error e) (some (.error e, s))
  | stops {out rest : Bytes} {s : Inplace} (hout : s.buffer.take s.out = before ++ out)
      (hrest : s.buffer.drop s.inBegin = rest) (hroom : s.out ≤ s.buffer.length) :
      Agrees before (.ok (out, rest)) (some (.ok (), s))

section Before

variable {before byte : Bytes} {r : Option (Except Base64Error Unit × Inplace)}

/-- A byte written before counts as output. -/
theorem Agrees.of_append {out rest : Bytes} (h : Agrees (before ++ byte) (.ok (out, rest)) r) :
    Agrees before (.ok (byte ++ out, rest)) r := by
  cases h with
  | stops hout hrest hroom =>
    rw [List.append_assoc] at hout
    exact .stops hout hrest hroom

theorem Agrees.of_append_error {e : Base64Error} (h : Agrees (before ++ byte) (.error e) r) :
    Agrees before (.error e) r := by
  cases h with
  | throws _ s => exact .throws e s

end Before

theorem rounds_agree {n : Nat} : ∀ {s : Inplace}, Behind text s → s.inBegin + n = text.length →
    Agrees (s.buffer.take s.out) (decodeCharacters s.alphabet s.last s.bits (text.drop s.inBegin))
      (rounds n s) := by
  induction n with
  | zero =>
    intro s h hlength
    have hnil : text.drop s.inBegin = [] := List.drop_eq_nil_iff.mpr (Nat.le_of_eq hlength.symm)
    rw [hnil, decodeCharacters, rounds]
    exact .stops (List.append_nil _).symm (h.unread.trans hnil) h.out_room
  | succ n ih =>
    intro s h hlength
    cases hc : text.drop s.inBegin with
    | nil =>
      rw [List.drop_eq_nil_iff] at hc
      omega
    | cons c cs =>
      have hcs : text.drop (s.inBegin + 1) = cs := by
        rw [← List.drop_drop, hc, List.drop_one, List.tail_cons]
      rw [decodeCharacters, rounds]
      by_cases hpad : c = pad
      · rw [if_pos hpad, round_pad h hc hpad]
        exact .stops (List.append_nil _).symm (h.unread_next.trans hcs) h.out_room
      · rw [if_neg hpad]
        cases hvalue : base64Value s.alphabet c with
        | error e =>
          rw [round_refused h hc hpad hvalue]
          exact .throws e _
        | ok result =>
          obtain ⟨s', hround, hbehind, hbegin, hfound, hlast, hbits, hwritten⟩ :=
            round_goesOn h hc hpad hvalue
          have hloop := ih hbehind (by omega)
          rw [hbegin, hcs, hfound, hlast, hbits, hwritten, byteOf] at hloop
          simp only [hround]
          by_cases henough : s.bits + 6 ≥ 8
          · simp only [if_pos henough] at hloop ⊢
            cases hrest : decodeCharacters result.2 result.1 (s.bits - 2) cs with
            | error e =>
              rw [hrest] at hloop
              exact hloop.of_append_error
            | ok outcome =>
              rw [hrest] at hloop
              exact hloop.of_append
          · simp only [if_neg henough, List.append_nil] at hloop ⊢
            exact hloop

end Rounds

end Inplace

/-! ## Decoding over the input -/

/-- `decode_inplace` of a char array throws what `decode` throws, and otherwise leaves its output before the
pointer it returns. -/
theorem decodeInplace_outcome (alphabet : Alphabet) (behavior : DecodingBehavior) (text : Bytes) :
    ∃ buffer : Bytes, decodeInplace alphabet behavior text =
        some ((decode alphabet behavior text).map List.length, buffer) ∧
      ∀ out, decode alphabet behavior text = .ok out → buffer.take out.length = out := by
  have hloop := Inplace.rounds_agree (Inplace.start_behind alphabet text) (Nat.zero_add text.length)
  rw [decode, decodeInplace]
  simp only [Inplace.start, List.take_zero, List.drop_zero] at hloop ⊢
  revert hloop
  generalize decodeCharacters alphabet 0 0 text = outcome
  generalize Inplace.rounds text.length _ = run
  intro hloop
  cases hloop with
  | throws e s =>
    refine ⟨s.buffer, rfl, ?_⟩
    intro out hout
    cases hout
  | @stops out rest s hout hrest hroom =>
    have hlength : s.out = out.length := by
      rw [List.nil_append] at hout
      rw [← hout, List.length_take, Nat.min_eq_left hroom]
    simp only [hrest]
    by_cases hrefused : behavior ≠ .loose ∧ ∃ c ∈ rest, c ≠ pad
    · rw [if_pos hrefused, if_pos hrefused]
      refine ⟨s.buffer, rfl, ?_⟩
      intro out hout
      cases hout
    · rw [if_neg hrefused, if_neg hrefused, hlength]
      refine ⟨s.buffer, rfl, ?_⟩
      intro out' hout'
      obtain rfl := Except.ok.inj hout'
      rw [← hlength]
      exact hout

/-- `decode_inplace` of a string does what `decode` does, to the string itself. -/
theorem decodeInplaceString_outcome (alphabet : Alphabet) (behavior : DecodingBehavior) (text : Bytes) :
    match decode alphabet behavior text with
    | .error e => ∃ str : Bytes, decodeInplaceString alphabet behavior text = some (.error e, str)
    | .ok out => decodeInplaceString alphabet behavior text = some (.ok (), out) := by
  obtain ⟨buffer, hinplace, hout⟩ := decodeInplace_outcome alphabet behavior text
  rw [decodeInplaceString, hinplace]
  cases hdecode : decode alphabet behavior text with
  | error e => exact ⟨buffer, rfl⟩
  | ok out =>
    have htake := hout out hdecode
    have hroom : out.length ≤ buffer.length := by
      rw [← htake, List.length_take]
      exact Nat.min_le_right _ _
    show some (Except.ok (), Store.resize 0 buffer out.length) = _
    rw [Store.resize, htake, Nat.sub_eq_zero_of_le hroom, List.replicate_zero, List.append_nil]

/-- Where the loop does not throw, it has written its output. -/
theorem decodeCharacters_written (alphabet : Alphabet) (last : UInt8) (bits : Nat) (text : Bytes) :
    ∀ {outcome : Bytes × Bytes}, decodeCharacters alphabet last bits text = .ok outcome →
      written alphabet last bits text = outcome.1 := by
  induction alphabet, last, bits, text using written.induct with
  | case1 alphabet last bits =>
    intro outcome h
    cases h
    rfl
  | case2 alphabet last bits cs =>
    intro outcome h
    rw [decodeCharacters, if_pos rfl] at h
    cases h
    rw [written, if_pos rfl]
  | case3 alphabet last bits c cs hpad e hvalue =>
    intro outcome h
    rw [decodeCharacters, if_neg hpad, hvalue] at h
    cases h
  | case4 alphabet last bits c cs hpad part found hvalue henough ih =>
    intro outcome h
    rw [decodeCharacters, if_neg hpad, hvalue] at h
    rw [written, if_neg hpad, hvalue]
    simp only [if_pos henough] at h ⊢
    cases hrest : decodeCharacters found part (bits - 2) cs with
    | error e =>
      rw [hrest] at h
      cases h
    | ok rest =>
      rw [hrest] at h
      rw [ih hrest]
      cases h
      rfl
  | case5 alphabet last bits c cs hpad part found hvalue henough ih =>
    intro outcome h
    rw [decodeCharacters, if_neg hpad, hvalue] at h
    rw [written, if_neg hpad, hvalue]
    simp only [if_neg henough] at h ⊢
    exact ih h

/-- Each character read brings six bits, and each byte written takes eight. -/
theorem length_written (alphabet : Alphabet) (last : UInt8) (bits : Nat) (text : Bytes) :
    8 * (written alphabet last bits text).length ≤ bits + 6 * text.length := by
  induction alphabet, last, bits, text using written.induct with
  | case1 alphabet last bits => exact Nat.zero_le _
  | case2 alphabet last bits cs =>
    rw [written, if_pos rfl]
    exact Nat.zero_le _
  | case3 alphabet last bits c cs hpad e hvalue =>
    rw [written, if_neg hpad, hvalue]
    exact Nat.zero_le _
  | case4 alphabet last bits c cs hpad part found hvalue henough ih =>
    rw [written, if_neg hpad, hvalue]
    simp only [if_pos henough, List.length_cons]
    omega
  | case5 alphabet last bits c cs hpad part found hvalue henough ih =>
    rw [written, if_neg hpad, hvalue]
    simp only [if_neg henough, List.length_cons]
    omega

/-- Three bytes for four characters are enough. -/
theorem le_maxDecodeSize {n size : Nat} (hsize : size < 2 ^ 64) (h : 8 * n ≤ 6 * size) :
    n ≤ maxDecodeSize size := by
  have hfits : (size / 4 + (if size % 4 ≠ 0 then 1 else 0)) * 3 < 2 ^ 64 := by
    split <;> omega
  rw [maxDecodeSize, Nat.mod_eq_of_lt hfits]
  split <;> omega

/-- Decoding in place is decoding: it throws when `decode` does, and otherwise leaves its output, as the
position written to never gets past the one read from. What is written fits the size announced. -/
theorem decode_inplace (alphabet : Alphabet) (behavior : DecodingBehavior) (text : Bytes) :
    (∀ s, Inplace.Reaches alphabet text s → s.out ≤ s.inBegin) ∧
      (∃ buffer : Bytes, decodeInplace alphabet behavior text =
          some ((decode alphabet behavior text).map List.length, buffer) ∧
        ∀ out, decode alphabet behavior text = .ok out → buffer.take out.length = out) ∧
      (match decode alphabet behavior text with
      | .error e => ∃ str : Bytes, decodeInplaceString alphabet behavior text = some (.error e, str)
      | .ok out => decodeInplaceString alphabet behavior text = some (.ok (), out)) ∧
      (∀ out, decode alphabet behavior text = .ok out → written alphabet 0 0 text = out) ∧
      (text.length < 2 ^ 64 →
        (written alphabet 0 0 text).length ≤ maxDecodeSize text.length ∧
          ∀ s, Inplace.Reaches alphabet text s → s.out ≤ maxDecodeSize text.length) := by
  refine ⟨fun s h => h.behind.out_le, decodeInplace_outcome alphabet behavior text,
    decodeInplaceString_outcome alphabet behavior text, ?_, ?_⟩
  · intro out hout
    rw [decode] at hout
    cases hloop : decodeCharacters alphabet 0 0 text with
    | error e =>
      rw [hloop] at hout
      cases hout
    | ok outcome =>
      simp only [hloop] at hout
      split at hout
      · cases hout
      · rw [decodeCharacters_written alphabet 0 0 text hloop]
        exact Except.ok.inj hout
  · intro hsize
    constructor
    · have hbits := length_written alphabet 0 0 text
      exact le_maxDecodeSize hsize (by omega)
    · intro s h
      have hwritten := h.behind.written
      have hinside := h.behind.inside
      exact le_maxDecodeSize hsize (by omega)

theorem decode_inplace_man : (written .standard 0 0 (cstr "TWFuPw==")).length ≤ maxDecodeSize 8 :=
  ((decode_inplace .standard .moderate (cstr "TWFuPw==")).2.2.2.2 (by decide)).1

end Ysqlite3.Base64
