import Mathlib.Data.List.Basic

/-!
# Stores addressed by position

A random access file as the list of its elements. Reading takes what is there, writing past
the end fills the hole with a fixed element, and resizing cuts the list or extends it with the
same element. The lemmas say what a read sees after each operation.
-/

namespace Store

variable {α : Type*}

/-- The elements of `s` at positions `off`, …, `off + n - 1`, as far as the store reaches. -/
def readAt (s : List α) (off n : Nat) : List α := (s.drop off).take n

/-- `s` cut or filled up to exactly `n` elements. -/
def resize (fill : α) (s : List α) (n : Nat) : List α :=
  s.take n ++ List.replicate (n - s.length) fill

/-- `s` after `b` was written at `off`. -/
def writeAt (fill : α) (s : List α) (off : Nat) (b : List α) : List α :=
  resize fill s off ++ b ++ s.drop (off + b.length)

/-- What a reader that asked for `n` elements at `off` finds in its buffer when the store zero-fills
the part past its end. -/
def readFilled (fill : α) (s : List α) (off n : Nat) : List α :=
  resize fill (readAt s off n) n

@[simp] theorem length_readAt (s : List α) (off n : Nat) :
    (readAt s off n).length = min n (s.length - off) := by
  simp [readAt]

@[simp] theorem length_resize (fill : α) (s : List α) (n : Nat) :
    (resize fill s n).length = n := by
  simp [resize]; omega

theorem length_writeAt (fill : α) (s : List α) (off : Nat) (b : List α) :
    (writeAt fill s off b).length = max s.length (off + b.length) := by
  simp [writeAt]; omega

theorem resize_of_length (fill : α) {s : List α} {n : Nat} (h : s.length = n) :
    resize fill s n = s := by
  simp [resize, ← h]

/-- A read of a range that lies inside the store has its full length. -/
theorem length_readAt_of_le {s : List α} {off n : Nat} (h : off + n ≤ s.length) :
    (readAt s off n).length = n := by
  simp; omega

theorem getElem?_readAt (s : List α) (off n i : Nat) :
    (readAt s off n)[i]? = if i < n then s[off + i]? else none := by
  simp [readAt, List.getElem?_take]

theorem getElem?_resize (fill : α) (s : List α) (n i : Nat) :
    (resize fill s n)[i]? = if i < n then some (s.getD i fill) else none := by
  by_cases hin : i < n
  · by_cases his : i < s.length
    · rw [resize, List.getElem?_append_left (by simp; omega)]
      simp [hin, his, List.getD]
    · rw [resize, List.getElem?_append_right (by simp; omega)]
      simp [List.getElem?_replicate, hin, List.getD, his]
      omega
  · rw [if_neg hin]
    exact List.getElem?_eq_none (by simp; omega)

theorem getElem?_writeAt (fill : α) (s : List α) (off : Nat) (b : List α) (i : Nat) :
    (writeAt fill s off b)[i]? =
      if i < off then some (s.getD i fill)
      else if i < off + b.length then b[i - off]? else s[i]? := by
  rw [writeAt, List.append_assoc]
  by_cases hi : i < off
  · rw [List.getElem?_append_left (by simpa using hi), getElem?_resize]
    simp [hi]
  · rw [List.getElem?_append_right (by simp; omega), length_resize, if_neg hi]
    by_cases hb : i < off + b.length
    · rw [List.getElem?_append_left (by omega), if_pos hb]
    · rw [List.getElem?_append_right (by omega), if_neg hb, List.getElem?_drop]
      congr 1
      omega

/-- A read that reaches past the end of the store finds the rest of it and the fill. -/
theorem readFilled_of_le (fill : α) {s : List α} {off n : Nat} (h : s.length ≤ off + n) :
    readFilled fill s off n = s.drop off ++ List.replicate (n - (s.length - off)) fill := by
  have hread : readAt s off n = s.drop off := List.take_of_length_le (by simp; omega)
  rw [readFilled, resize, hread, List.take_of_length_le (by simp; omega), List.length_drop]

/-- Reading the range just written gives the written elements. -/
theorem readAt_writeAt_same (fill : α) (s : List α) (off : Nat) (b : List α) :
    readAt (writeAt fill s off b) off b.length = b := by
  apply List.ext_getElem?
  intro i
  rw [getElem?_readAt, getElem?_writeAt]
  have hlow : ¬ off + i < off := by omega
  by_cases hi : i < b.length
  · simp [hi, hlow]
  · simp [hi]

/-- Reading a range of the store that the write does not touch gives what was there. -/
theorem readAt_writeAt_disjoint (fill : α) {s : List α} {off off' n : Nat} {b : List α}
    (hn : off' + n ≤ s.length) (hd : off' + n ≤ off ∨ off + b.length ≤ off') :
    readAt (writeAt fill s off b) off' n = readAt s off' n := by
  apply List.ext_getElem?
  intro i
  rw [getElem?_readAt, getElem?_readAt, getElem?_writeAt]
  by_cases hi : i < n
  · have his : off' + i < s.length := by omega
    rcases hd with hd | hd
    · have hlt : off' + i < off := by omega
      simp [hi, hlt, List.getD, his]
    · have h1 : ¬ off' + i < off := by omega
      have h2 : ¬ off' + i < off + b.length := by omega
      simp [hi, h1, h2]
  · simp [hi]

/-- Reading below the new end of a resized store gives what was there. -/
theorem readAt_resize (fill : α) {s : List α} {off n m : Nat} (hm : off + n ≤ m)
    (hn : off + n ≤ s.length) : readAt (resize fill s m) off n = readAt s off n := by
  apply List.ext_getElem?
  intro i
  rw [getElem?_readAt, getElem?_readAt, getElem?_resize]
  by_cases hi : i < n
  · have his : off + i < s.length := by omega
    have him : off + i < m := by omega
    simp [hi, him, List.getD, his]
  · simp [hi]

/-- A short read is a slice of any longer read that covers it. -/
theorem readAt_readAt {s : List α} {off n i m : Nat} (h : i + m ≤ n) :
    readAt (readAt s off n) i m = readAt s (off + i) m := by
  apply List.ext_getElem?
  intro j
  rw [getElem?_readAt, getElem?_readAt, getElem?_readAt]
  by_cases hj : j < m
  · have : i + j < n := by omega
    simp [hj, this, Nat.add_assoc]
  · simp [hj]

end Store
