import Mathlib.Algebra.Group.Nat.Defs
import Mathlib.Data.List.Basic

/-!
# Strings of bits

The bits of a number and the number and the bytes that bits stand for, most significant bit first.
-/

namespace BitString

/-- The lowest `k` bits of a number. -/
def lowBits : Nat → Nat → List Bool
  | 0, _ => []
  | k + 1, n => n.testBit k :: lowBits k n

/-- The number that bits stand for. -/
def number : List Bool → Nat
  | [] => 0
  | b :: bits => b.toNat * 2 ^ bits.length + number bits

/-- The bytes of bits; what is left over after the last full byte does not count. -/
def octets : List Bool → List UInt8
  | b7 :: b6 :: b5 :: b4 :: b3 :: b2 :: b1 :: b0 :: bits =>
    UInt8.ofNat (number [b7, b6, b5, b4, b3, b2, b1, b0]) :: octets bits
  | _ => []

@[simp] theorem length_lowBits (k n : Nat) : (lowBits k n).length = k := by
  induction k with
  | zero => rfl
  | succ k ih => rw [lowBits, List.length_cons, ih]

/-- The upper bits are those of the number without its lower ones. -/
theorem lowBits_add (j k n : Nat) : lowBits (j + k) n = lowBits j (n / 2 ^ k) ++ lowBits k n := by
  induction j with
  | zero => rw [Nat.zero_add, lowBits, List.nil_append]
  | succ j ih =>
    have hsum : j + 1 + k = j + k + 1 := Nat.add_right_comm j 1 k
    rw [hsum, lowBits, lowBits, ih, Nat.testBit_div_two_pow, List.cons_append]

theorem number_append (bits bits' : List Bool) :
    number (bits ++ bits') = number bits * 2 ^ bits'.length + number bits' := by
  induction bits with
  | nil => simp [number]
  | cons b bits ih =>
    rw [List.cons_append, number, number, ih, List.length_append, Nat.pow_add, Nat.add_mul,
      Nat.mul_assoc, Nat.add_assoc]

/-- Only the bits above the lowest `k` are lost. -/
theorem number_lowBits (k n : Nat) : number (lowBits k n) = n % 2 ^ k := by
  induction k with
  | zero => rw [lowBits, number, Nat.pow_zero, Nat.mod_one]
  | succ k ih =>
    rw [lowBits, number, ih, length_lowBits, Nat.toNat_testBit, Nat.mod_pow_succ, Nat.mul_comm,
      Nat.add_comm]

/-- Eight bits make a byte. -/
theorem octets_append {byte : List Bool} (h : byte.length = 8) (bits : List Bool) :
    octets (byte ++ bits) = UInt8.ofNat (number byte) :: octets bits := by
  match byte, h with
  | [_, _, _, _, _, _, _, _], _ => rfl

/-- Less than eight do not. -/
theorem octets_short {bits : List Bool} (h : bits.length < 8) : octets bits = [] := by
  unfold octets
  split
  · simp only [List.length_cons] at h
    omega
  · rfl

/-- Bits that fill their bytes leave nothing for those behind them. -/
theorem octets_append_of_dvd {bits : List Bool} (h : 8 ∣ bits.length) (more : List Bool) :
    octets (bits ++ more) = octets bits ++ octets more := by
  obtain ⟨k, hk⟩ := h
  induction k generalizing bits with
  | zero =>
    have hnil : bits = [] := List.length_eq_zero_iff.mp hk
    rw [hnil]
    rfl
  | succ k ih =>
    have hbyte : (bits.take 8).length = 8 := by
      rw [List.length_take]
      omega
    have hrest : (bits.drop 8).length = 8 * k := by
      rw [List.length_drop]
      omega
    have hcut := List.take_append_drop 8 bits
    rw [← hcut, List.append_assoc, octets_append hbyte, octets_append hbyte, ih hrest, List.cons_append]

theorem length_octets (bits : List Bool) : (octets bits).length = bits.length / 8 := by
  induction hlength : bits.length using Nat.strongRecOn generalizing bits with
  | _ n ih =>
    by_cases hshort : n < 8
    · rw [octets_short (hlength ▸ hshort), Nat.div_eq_of_lt hshort]
      rfl
    · have hbyte : (bits.take 8).length = 8 := by
        rw [List.length_take]
        omega
      have hrest : (octets (bits.drop 8)).length = (n - 8) / 8 :=
        ih (n - 8) (by omega) (bits.drop 8) (by rw [List.length_drop, hlength])
      rw [← List.take_append_drop 8 bits, octets_append hbyte, List.length_cons, hrest]
      omega

end BitString
