import Ysqlite3.Misc.BitString
import Mathlib.Algebra.Group.Nat.Defs
import Mathlib.Data.List.Basic

/-!
# Bytes in groups of six bits

`split` cuts a sequence of bytes into groups of six bits, most significant bits first, and fills the
last group with zeros. `merge` gathers such groups into bytes again: it remembers the last group and
how many of its bits no byte has used yet. What `split` cuts `merge` gathers, and of any groups it gathers
the bytes that all their bits fill.
-/

namespace Sextets

/-- The bytes as groups of six bits. -/
def split : List UInt8 → List Nat
  | [] => []
  | [a] => [a.toNat / 4, a.toNat % 4 * 16]
  | [a, b] => [a.toNat / 4, a.toNat % 4 * 16 + b.toNat / 16, b.toNat % 16 * 4]
  | a :: b :: c :: rest =>
    a.toNat / 4 :: (a.toNat % 4 * 16 + b.toNat / 16) :: (b.toNat % 16 * 4 + c.toNat / 64) ::
      c.toNat % 64 :: split rest

/-- The bytes that the low `bits` bits of `last` and the groups after it fill. -/
def merge (last bits : Nat) : List Nat → List UInt8
  | [] => []
  | group :: groups =>
    if 8 ≤ bits + 6 then
      UInt8.ofNat (last * 2 ^ (8 - bits) + group / 2 ^ (bits - 2)) :: merge group (bits - 2) groups
    else merge group (bits + 6) groups

theorem split_lt (bytes : List UInt8) : ∀ group ∈ split bytes, group < 64 := by
  induction bytes using split.induct with
  | case1 => simp [split]
  | case2 a =>
    have ha := a.toNat_lt
    simp only [split, List.mem_cons, List.not_mem_nil, or_false]
    rintro group (rfl | rfl) <;> omega
  | case3 a b =>
    have ha := a.toNat_lt
    have hb := b.toNat_lt
    simp only [split, List.mem_cons, List.not_mem_nil, or_false]
    rintro group (rfl | rfl | rfl) <;> omega
  | case4 a b c rest ih =>
    have ha := a.toNat_lt
    have hb := b.toNat_lt
    have hc := c.toNat_lt
    simp only [split, List.mem_cons]
    rintro group (rfl | rfl | rfl | rfl | hrest)
    · omega
    · omega
    · omega
    · omega
    · exact ih group hrest

/-! ## One step of `merge` for each number of bits left over -/

theorem merge_empty (last group : Nat) (groups : List Nat) :
    merge last 0 (group :: groups) = merge group 6 groups := by
  rw [merge, if_neg (by decide)]

theorem merge_six (last group : Nat) (groups : List Nat) :
    merge last 6 (group :: groups) =
      UInt8.ofNat (last * 4 + group / 16) :: merge group 4 groups := by
  rw [merge, if_pos (by decide)]
  rfl

theorem merge_four (last group : Nat) (groups : List Nat) :
    merge last 4 (group :: groups) =
      UInt8.ofNat (last * 16 + group / 4) :: merge group 2 groups := by
  rw [merge, if_pos (by decide)]
  rfl

theorem merge_two (last group : Nat) (groups : List Nat) :
    merge last 2 (group :: groups) =
      UInt8.ofNat (last * 64 + group) :: merge group 0 groups := by
  rw [merge, if_pos (by decide), Nat.sub_self, Nat.pow_zero, Nat.div_one]
  rfl

private theorem ofNat_eq_of_mod {n : Nat} {a : UInt8} (h : n % 256 = a.toNat) : UInt8.ofNat n = a := by
  apply UInt8.toNat_inj.mp
  rw [UInt8.toNat_ofNat']
  exact h

private theorem gather_first (a b : UInt8) :
    UInt8.ofNat (a.toNat / 4 * 4 + (a.toNat % 4 * 16 + b.toNat / 16) / 16) = a := by
  have ha := a.toNat_lt
  have hb := b.toNat_lt
  apply ofNat_eq_of_mod
  omega

private theorem gather_second (a b c : UInt8) :
    UInt8.ofNat ((a.toNat % 4 * 16 + b.toNat / 16) * 16 + (b.toNat % 16 * 4 + c.toNat / 64) / 4) = b := by
  have hb := b.toNat_lt
  have hc := c.toNat_lt
  apply ofNat_eq_of_mod
  omega

private theorem gather_third (b c : UInt8) :
    UInt8.ofNat ((b.toNat % 16 * 4 + c.toNat / 64) * 64 + c.toNat % 64) = c := by
  have hc := c.toNat_lt
  apply ofNat_eq_of_mod
  omega

/-- The groups of a sequence of bytes give it back. No bit is left over between two full quadruples
of groups, so what was gathered before does not matter. -/
theorem merge_split (bytes : List UInt8) : ∀ last, merge last 0 (split bytes) = bytes := by
  induction bytes using split.induct with
  | case1 => intro last; rfl
  | case2 a =>
    intro last
    have hfirst := gather_first a 0
    simp only [UInt8.toNat_zero, Nat.zero_div, Nat.add_zero] at hfirst
    rw [split, merge_empty, merge_six, hfirst, merge]
  | case3 a b =>
    intro last
    have hsecond := gather_second a b 0
    simp only [UInt8.toNat_zero, Nat.zero_div, Nat.add_zero] at hsecond
    rw [split, merge_empty, merge_six, gather_first, merge_four, hsecond, merge]
  | case4 a b c rest ih =>
    intro last
    rw [split, merge_empty, merge_six, gather_first, merge_four, gather_second, merge_two,
      gather_third, ih]

theorem split_length (bytes : List UInt8) :
    (split bytes).length = (bytes.length * 8 + 5) / 6 := by
  induction bytes using split.induct with
  | case1 => rfl
  | case2 a => simp only [split, List.length_cons, List.length_nil]
  | case3 a b => simp only [split, List.length_cons, List.length_nil]
  | case4 a b c rest ih =>
    simp only [split, List.length_cons, ih]
    omega

/-! ## The groups that bytes are cut into -/

/-- There are no more groups than the bytes need, and the bits that no byte uses are zero. -/
def Filled : List Nat → Prop
  | [] => True
  | [_] => False
  | [_, second] => second % 16 = 0
  | [_, _, third] => third % 4 = 0
  | _ :: _ :: _ :: _ :: groups => Filled groups

instance decidableFilled : ∀ groups, Decidable (Filled groups)
  | [] => inferInstanceAs (Decidable True)
  | [_] => inferInstanceAs (Decidable False)
  | [_, second] => inferInstanceAs (Decidable (second % 16 = 0))
  | [_, _, third] => inferInstanceAs (Decidable (third % 4 = 0))
  | _ :: _ :: _ :: _ :: groups => decidableFilled groups

theorem filled_split (bytes : List UInt8) : Filled (split bytes) := by
  induction bytes using split.induct with
  | case1 => trivial
  | case2 a => exact Nat.mul_mod_left _ 16
  | case3 a b => exact Nat.mul_mod_left _ 4
  | case4 a b c rest ih => exact ih

private theorem toNat_ofNat_of_lt {n : Nat} (h : n < 256) : (UInt8.ofNat n).toNat = n := by
  rw [UInt8.toNat_ofNat', Nat.mod_eq_of_lt h]

/-- Cutting the bytes again that were gathered from such groups gives the groups back. -/
theorem split_merge {groups : List Nat} (hgroups : ∀ group ∈ groups, group < 64)
    (hfilled : Filled groups) : ∀ last, split (merge last 0 groups) = groups := by
  induction groups using Filled.induct with
  | case1 => exact fun _ => rfl
  | case2 => exact hfilled.elim
  | case3 first second =>
    intro last
    simp only [List.forall_mem_cons] at hgroups
    have hzero : second % 16 = 0 := hfilled
    rw [merge_empty, merge_six, merge, split, toNat_ofNat_of_lt (by omega)]
    congr 2
    · omega
    · omega
  | case4 first second third =>
    intro last
    simp only [List.forall_mem_cons] at hgroups
    have hzero : third % 4 = 0 := hfilled
    rw [merge_empty, merge_six, merge_four, merge, split, toNat_ofNat_of_lt (by omega),
      UInt8.toNat_ofNat']
    congr 2
    · omega
    · omega
    · congr 1
      omega
  | case5 first second third fourth groups ih =>
    intro last
    simp only [List.forall_mem_cons] at hgroups
    rw [merge_empty, merge_six, merge_four, merge_two, split, toNat_ofNat_of_lt (by omega),
      UInt8.toNat_ofNat', UInt8.toNat_ofNat', ih hgroups.2.2.2.2 hfilled]
    congr 2
    · omega
    · omega
    · congr 1
      · omega
      · congr 1
        omega

/-! ## The bits of the groups -/

/-- The bits of all groups, one after the other. -/
def bits (groups : List Nat) : List Bool := groups.flatMap (BitString.lowBits 6)

theorem bits_append (groups more : List Nat) : bits (groups ++ more) = bits groups ++ bits more :=
  List.flatMap_append

theorem length_bits (groups : List Nat) : (bits groups).length = 6 * groups.length := by
  induction groups with
  | nil => rfl
  | cons group groups ih =>
    have hsplit : bits (group :: groups) = BitString.lowBits 6 group ++ bits groups := rfl
    rw [hsplit, List.length_append, BitString.length_lowBits, ih, List.length_cons]
    omega

/-- The byte that the low `bits` bits of `last` and the high ones of `group` make. -/
private theorem byte_merged {last group used : Nat} (hgroup : group < 64) (hfew : 2 ≤ used)
    (hmany : used ≤ 6) :
    UInt8.ofNat (BitString.number
        (BitString.lowBits used last ++ BitString.lowBits (8 - used) (group / 2 ^ (used - 2)))) =
      UInt8.ofNat (last * 2 ^ (8 - used) + group / 2 ^ (used - 2)) := by
  have hpow : 2 ^ used * 2 ^ (8 - used) = 256 := by
    rw [← Nat.pow_add, Nat.add_sub_cancel' (by omega)]
  have hhigh : group / 2 ^ (used - 2) < 2 ^ (8 - used) := by
    rw [Nat.div_lt_iff_lt_mul (Nat.two_pow_pos _), ← Nat.pow_add]
    have hsum : 8 - used + (used - 2) = 6 := by omega
    rw [hsum]
    exact hgroup
  rw [BitString.number_append, BitString.number_lowBits, BitString.number_lowBits,
    BitString.length_lowBits, Nat.mod_eq_of_lt hhigh]
  apply UInt8.toNat_inj.mp
  rw [UInt8.toNat_ofNat', UInt8.toNat_ofNat']
  have hlast : last % 2 ^ used * 2 ^ (8 - used) % 256 = last * 2 ^ (8 - used) % 256 := by
    rw [← hpow, Nat.mul_mod_mul_right, Nat.mul_mod_mul_right, Nat.mod_mod]
  rw [Nat.add_mod, hlast, ← Nat.add_mod]

/-- `merge` gathers the bytes that the bits left over and those of the groups fill. -/
theorem merge_eq_octets {groups : List Nat} (hgroups : ∀ group ∈ groups, group < 64) :
    ∀ (last : Nat) {used : Nat}, used ≤ 6 ∧ used % 2 = 0 →
      merge last used groups = BitString.octets (BitString.lowBits used last ++ bits groups) := by
  induction groups with
  | nil =>
    intro last used hused
    rw [merge, bits, List.flatMap_nil, List.append_nil, BitString.octets_short]
    rw [BitString.length_lowBits]
    omega
  | cons group groups ih =>
    intro last used hused
    have hgroup : group < 64 := hgroups group List.mem_cons_self
    have hrest := ih fun g hg => hgroups g (List.mem_cons_of_mem _ hg)
    have hsplit : bits (group :: groups) = BitString.lowBits 6 group ++ bits groups := rfl
    rw [merge, hsplit]
    by_cases henough : 8 ≤ used + 6
    · have hsix : 8 - used + (used - 2) = 6 := by omega
      have hcut := BitString.lowBits_add (8 - used) (used - 2) group
      rw [hsix] at hcut
      have hbyte : (BitString.lowBits used last ++
          BitString.lowBits (8 - used) (group / 2 ^ (used - 2))).length = 8 := by
        rw [List.length_append, BitString.length_lowBits, BitString.length_lowBits]
        omega
      rw [if_pos henough, hcut, List.append_assoc, ← List.append_assoc, BitString.octets_append hbyte,
        byte_merged hgroup (by omega) hused.1, hrest group (by omega)]
    · -- nothing was left over, so these six bits are
      obtain rfl : used = 0 := by omega
      rw [if_neg henough, hrest group (by omega), BitString.lowBits, List.nil_append]

end Sextets
