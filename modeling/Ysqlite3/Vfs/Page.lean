import Ysqlite3.Vfs.PageTransformingFile

/-!
# Pages

SQLite passes the size of an access as an `int`, and the layer takes an access of at least 512
bytes for a page. `PageSize` is a size that meets both, `Page` a buffer of that size.
-/

namespace Ysqlite3.Vfs

/-- A buffer the entry points can pass: its size is an `int`. -/
abbrev Buffer := { b : Bytes // b.length < 2 ^ 31 }

/-- A size the entry points can pass that `_is_page` accepts. -/
structure PageSize where
  size : Nat
  isPage : 512 ≤ size
  isInt : size < 2 ^ 31

/-- A buffer of one page. -/
abbrev Page (p : PageSize) := { b : Bytes // b.length = p.size }

namespace PageSize

variable (p : PageSize)

/-- Where page `k` lies in the file, counting from 0. -/
def offset (k : Nat) : Nat := k * p.size

@[simp] theorem offset_zero : p.offset 0 = 0 := Nat.zero_mul _

theorem le_offset {k : Nat} (h : 0 < k) : 512 ≤ p.offset k :=
  Nat.le_trans p.isPage (Nat.le_mul_of_pos_left _ h)

theorem offset_mono {j k : Nat} (h : j < k) : p.offset j + p.size ≤ p.offset k := by
  have := Nat.mul_le_mul_right p.size h
  simpa [offset, Nat.succ_mul] using this

theorem offset_disjoint {j k : Nat} (h : j ≠ k) :
    p.offset j + p.size ≤ p.offset k ∨ p.offset k + p.size ≤ p.offset j := by
  rcases Nat.lt_or_gt_of_ne h with hlt | hgt
  · exact Or.inl (p.offset_mono hlt)
  · exact Or.inr (p.offset_mono hgt)

end PageSize

namespace Page

variable {p : PageSize} (page : Page p)

theorem le_length : 512 ≤ page.val.length := by
  rw [page.property]
  exact p.isPage

theorem length_lt : page.val.length < 2 ^ 31 := by
  rw [page.property]
  exact p.isInt

/-- A page is one of the buffers. -/
def toBuffer : Buffer := ⟨page.val, page.length_lt⟩

@[simp] theorem val_toBuffer : page.toBuffer.val = page.val := rfl

end Page

/-- Reading the page just written gives its bytes. -/
theorem readAt_writePage_same {p : PageSize} (s : Bytes) (k : Nat) {b : Bytes}
    (h : b.length = p.size) :
    Store.readAt (Store.writeAt 0 s (p.offset k) b) (p.offset k) p.size = b := by
  rw [← h]
  exact Store.readAt_writeAt_same 0 s _ b

/-- Reading another page gives what it held. -/
theorem readAt_writePage_ne {p : PageSize} {s b : Bytes} {j k : Nat} (hb : b.length = p.size)
    (hjk : j ≠ k) (hj : (Store.readAt s (p.offset j) p.size).length = p.size) :
    Store.readAt (Store.writeAt 0 s (p.offset k) b) (p.offset j) p.size =
      Store.readAt s (p.offset j) p.size := by
  have hin : p.offset j + p.size ≤ s.length := by
    have := p.isPage
    rw [Store.length_readAt] at hj
    omega
  refine Store.readAt_writeAt_disjoint 0 hin ?_
  rw [hb]
  exact p.offset_disjoint hjk

end Ysqlite3.Vfs
