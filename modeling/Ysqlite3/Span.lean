import Ysqlite3.Error
import Mathlib.Algebra.Group.Int.Defs
import Mathlib.Algebra.Group.Nat.Defs
import Mathlib.Data.List.Basic

/-!
# Spans and machine sizes

A `Span` is modelled by the bytes it covers. Sizes are `std::size_t`; where the code hands one to
a C interface it is narrowed to `int`.
-/

namespace Ysqlite3

abbrev Bytes := List UInt8

/-- The characters of a C string literal, without the terminator. -/
def cstr (s : String) : Bytes := s.toList.map (fun c => UInt8.ofNat c.toNat)

/-- What a C string is that is given as a pointer to `text`. -/
def cString (text : Bytes) : Bytes := text.takeWhile (· ≠ 0)

/-- `a - b` in `std::size_t`. -/
def sizeSub (a b : Nat) : Nat := (a + 2 ^ 64 - b) % 2 ^ 64

/-- `static_cast<int>(n)`. -/
def castInt (n : Nat) : Int := (BitVec.ofNat 32 n).toInt

theorem sizeSub_of_le {a b : Nat} (hba : b ≤ a) (ha : a < 2 ^ 64) : sizeSub a b = a - b := by
  unfold sizeSub
  omega

theorem castInt_of_lt {n : Nat} (h : n < 2 ^ 31) : castInt n = n := by
  rw [castInt, BitVec.toInt_eq_toNat_of_lt] <;> rw [BitVec.toNat_ofNat] <;> omega

namespace Span

/-- `dynamic_extent` -/
def dynamicExtent : Nat := 2 ^ 64 - 1

/-- `Span::subspan`; `count` is `dynamic_extent` where the source leaves it out. -/
def subspan (span : Bytes) (offset count : Nat) : Except Exception Bytes :=
  if span.length < offset then .error (.ysqlite3 .outOfBounds)
  else .ok ((span.drop offset).take (min count (span.length - offset)))

theorem subspan_ok {span : Bytes} {offset : Nat} (count : Nat) (h : offset ≤ span.length) :
    subspan span offset count = .ok ((span.drop offset).take count) := by
  rw [subspan, if_neg (by omega), ← List.length_drop, ← List.take_take, List.take_length]

end Span

end Ysqlite3
