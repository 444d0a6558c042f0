import Mathlib.Algebra.Group.Nat.Defs
import Mathlib.Data.List.Basic

/-!
# Hexadecimal text

Text made of hexadecimal digits of either case, the number it stands for, and the bytes of a number
in big-endian order. Two digits make a byte, so the bytes of a number can be read off its digits
pair by pair.
-/

namespace Hexadecimal

/-- A digit, or a letter from A to F in either case. -/
def IsDigit (c : UInt8) : Prop := 48 ≤ c ∧ c ≤ 57 ∨ 65 ≤ c ∧ c ≤ 70 ∨ 97 ≤ c ∧ c ≤ 102

instance (c : UInt8) : Decidable (IsDigit c) :=
  inferInstanceAs (Decidable (48 ≤ c ∧ c ≤ 57 ∨ 65 ≤ c ∧ c ≤ 70 ∨ 97 ≤ c ∧ c ≤ 102))

/-- The value of a digit. -/
def value (c : UInt8) : Nat :=
  if c ≤ 57 then c.toNat - 48 else if c ≤ 70 then c.toNat - 55 else c.toNat - 87

/-- The number a text stands for. -/
def number (text : List UInt8) : Nat := text.foldl (fun n c => n * 16 + value c) 0

/-- The lowest `k` bytes of a number, the highest of them first. -/
def bigEndian (n : Nat) : Nat → List UInt8
  | 0 => []
  | k + 1 => UInt8.ofNat (n / 256 ^ k) :: bigEndian n k

/-- The digit for a value, as a capital letter or a small one from ten on. -/
def digit (capital : Bool) (n : Nat) : UInt8 :=
  if n < 10 then UInt8.ofNat (48 + n)
  else if capital then UInt8.ofNat (55 + n) else UInt8.ofNat (87 + n)

/-- Bytes as text, two digits each. -/
def text (capital : Bool) : List UInt8 → List UInt8
  | [] => []
  | b :: bs => digit capital (b.toNat / 16) :: digit capital (b.toNat % 16) :: text capital bs

theorem value_lt {c : UInt8} (h : IsDigit c) : value c < 16 := by
  simp only [IsDigit, UInt8.le_iff_toNat_le, UInt8.reduceToNat] at h
  simp only [value, UInt8.le_iff_toNat_le, UInt8.reduceToNat]
  split
  · omega
  · split <;> omega

theorem isDigit_digit (capital : Bool) : ∀ n < 16, IsDigit (digit capital n) := by
  cases capital <;> decide

theorem value_digit (capital : Bool) : ∀ n < 16, value (digit capital n) = n := by
  cases capital <;> decide

/-! ## Numbers and their bytes -/

theorem number_foldl (text : List UInt8) : ∀ n,
    text.foldl (fun n c => n * 16 + value c) n = n * 16 ^ text.length + number text := by
  induction text with
  | nil => intro n; simp [number]
  | cons c text ih =>
    intro n
    have hnumber : number (c :: text) = value c * 16 ^ text.length + number text := by
      rw [number, List.foldl_cons, ih, Nat.zero_mul, Nat.zero_add]
    rw [List.foldl_cons, ih, hnumber, List.length_cons, Nat.pow_succ, Nat.add_mul, Nat.mul_assoc,
      Nat.mul_comm 16, Nat.add_assoc]

theorem number_cons (c : UInt8) (text : List UInt8) :
    number (c :: text) = value c * 16 ^ text.length + number text := by
  rw [number, List.foldl_cons, number_foldl, Nat.zero_mul, Nat.zero_add]

/-- A leading zero does not change the number. -/
theorem number_zero_cons (text : List UInt8) : number (48 :: text) = number text := by
  rw [number_cons, show value 48 = 0 from rfl, Nat.zero_mul, Nat.zero_add]

/-- Only the part of a number below `256 ^ k` shows in its lowest `k` bytes. -/
theorem bigEndian_add (a n : Nat) {k m : Nat} (h : k ≤ m) :
    bigEndian (a * 256 ^ m + n) k = bigEndian n k := by
  induction k with
  | zero => rfl
  | succ k ih =>
    have hsplit : (256 : Nat) ^ m = 256 ^ k * (256 * 256 ^ (m - k - 1)) := by
      rw [← Nat.pow_succ', ← Nat.pow_add]
      congr 1
      omega
    have hdiv : (a * 256 ^ m + n) / 256 ^ k = n / 256 ^ k + 256 * (a * 256 ^ (m - k - 1)) := by
      rw [hsplit, Nat.add_comm, Nat.mul_left_comm, Nat.add_mul_div_left _ _ (Nat.pow_pos (by decide)),
        Nat.mul_left_comm a]
    rw [bigEndian, bigEndian, ih (Nat.le_of_succ_le h), hdiv]
    congr 1
    apply UInt8.toNat_inj.mp
    rw [UInt8.toNat_ofNat', UInt8.toNat_ofNat', Nat.add_mul_mod_self_left]

theorem number_lt {text : List UInt8} (h : ∀ c ∈ text, IsDigit c) :
    number text < 16 ^ text.length := by
  induction text with
  | nil => decide
  | cons c text ih =>
    have hc : value c + 1 ≤ 16 := value_lt (h c (by simp))
    have htext := ih (fun d hd => h d (List.mem_cons_of_mem _ hd))
    have hmul := Nat.mul_le_mul_right (16 ^ text.length) hc
    rw [Nat.add_mul, Nat.one_mul] at hmul
    rw [number_cons, List.length_cons, Nat.pow_succ, Nat.mul_comm (16 ^ text.length)]
    omega

/-- The first two digits of an even number of them are its first byte. -/
theorem bigEndian_number {c d : UInt8} {text : List UInt8} {k : Nat} (hlength : text.length = k * 2)
    (htext : ∀ e ∈ text, IsDigit e) :
    bigEndian (number (c :: d :: text)) (k + 1) =
      UInt8.ofNat (value c * 16 + value d) :: bigEndian (number text) k := by
  have hpow : (16 : Nat) ^ text.length = 256 ^ k := by
    rw [hlength, Nat.mul_comm]
    exact Nat.pow_mul 16 2 k
  have hlow : number text < 256 ^ k := hpow ▸ number_lt htext
  have hnumber : number (c :: d :: text) = (value c * 16 + value d) * 256 ^ k + number text := by
    rw [number_cons, number_cons, List.length_cons, Nat.pow_succ, hpow, Nat.add_mul, Nat.mul_assoc,
      Nat.mul_comm 16, Nat.add_assoc]
  have hfirst : ((value c * 16 + value d) * 256 ^ k + number text) / 256 ^ k =
      value c * 16 + value d := by
    rw [Nat.add_comm, Nat.add_mul_div_right _ _ (Nat.pow_pos (by decide)), Nat.div_eq_of_lt hlow,
      Nat.zero_add]
  rw [hnumber, bigEndian, hfirst, bigEndian_add _ _ (Nat.le_refl k)]

/-! ## Text of bytes -/

theorem text_length (capital : Bool) (bytes : List UInt8) :
    (text capital bytes).length = bytes.length * 2 := by
  induction bytes with
  | nil => rfl
  | cons b bytes ih =>
    rw [text, List.length_cons, List.length_cons, ih, List.length_cons]
    omega

theorem isDigit_text (capital : Bool) (bytes : List UInt8) :
    ∀ c ∈ text capital bytes, IsDigit c := by
  induction bytes with
  | nil => simp [text]
  | cons b bytes ih =>
    have hb := b.toNat_lt
    simp only [text, List.mem_cons]
    rintro c (rfl | rfl | hc)
    · exact isDigit_digit capital _ (by omega)
    · exact isDigit_digit capital _ (by omega)
    · exact ih c hc

/-- The text of bytes stands for a number with these bytes. -/
theorem bigEndian_text (capital : Bool) (bytes : List UInt8) :
    bigEndian (number (text capital bytes)) bytes.length = bytes := by
  induction bytes with
  | nil => rfl
  | cons b bytes ih =>
    have hb := b.toNat_lt
    have hbyte : b.toNat / 16 * 16 + b.toNat % 16 = b.toNat := by omega
    rw [text, List.length_cons, bigEndian_number (text_length capital bytes)
      (isDigit_text capital bytes), ih, value_digit capital _ (by omega),
      value_digit capital _ (by omega), hbyte, UInt8.ofNat_toNat]

end Hexadecimal
