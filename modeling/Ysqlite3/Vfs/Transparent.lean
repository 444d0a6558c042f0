import Ysqlite3.Vfs.Page
import Ysqlite3.Vfs.FileCalls
import Mathlib.Data.Set.Insert

/-!
# An invertible page transformation is invisible

A file behind a transformation that `decode_page` undoes answers every call as the plain file
does. The two files are related by what their stores have in common: the length, the clear header,
and, page by page, that the stored page decodes to the plain one.
-/

namespace Ysqlite3.Vfs

open PageTransformingFile

variable {ι τ σ : Type}

/-- `decode_page` undoes `encode_page`, whatever happened to the object in between, and every
reserve size is accepted. -/
structure PageTransformer.Invertible (T : PageTransformer ι τ) : Prop where
  encode : ∀ env page d, ∃ page' d', T.encodePage env page d = .returns () (page', d') ∧
    page'.length = page.length ∧
    ∀ env₂ d₂, ∃ d₃, T.decodePage env₂ page' d₂ = .returns () (page, d₃)
  accepts : ∀ size d, T.checkReserveSize size d = true

/-! ## The ROT13 example -/

/-- `Rot13_file`: every byte is moved by 13. -/
def rot13 : PageTransformer Unit Unit where
  encodePage _ page d := .returns () (page.map (· + 13), d)
  decodePage _ page d := .returns () (page.map (· - 13), d)
  checkReserveSize _ _ := true

theorem rot13_invertible : rot13.Invertible where
  encode _ page d := by
    refine ⟨_, _, rfl, by simp, fun _ _ => ⟨(), ?_⟩⟩
    simp [rot13, Function.comp_def]
  accepts _ _ := rfl

/-! ## Calls on a database -/

/-- The calls SQLite makes on a database with pages of size `p`: whole pages, short reads inside
the header, truncation to a number of pages. -/
inductive DatabaseCall (ι : Type) (p : PageSize) where
  | readPage (k : Nat) (buffer : Page p) (env : ι)
  | writePage (k : Nat) (page : Page p) (env : ι)
  | readHeader (buffer : Bytes) (offset : Nat) (inside : offset + buffer.length ≤ 100) (env : ι)
  | truncate (pages : Nat)
  | fileSize

variable {p : PageSize}

def DatabaseCall.toFileCall : DatabaseCall ι p → FileCall ι
  | .readPage k buffer env => .read buffer (p.offset k) env
  | .writePage k page env => .write page (p.offset k) env
  | .readHeader buffer offset _ env => .read buffer offset env
  | .truncate pages => .truncate (p.offset pages)
  | .fileSize => .fileSize

/-- Records which pages were written since they were last truncated away. -/
def pagesWritten (ι : Type) (p : PageSize) : Component (Set Nat) (DatabaseCall ι p) Unit where
  step written
    | .writePage k _ _ => ((), insert k written)
    | .truncate pages => ((), {k ∈ written | k < pages})
    | _ => ((), written)

/-- A page is read only while it is among the pages written. -/
def Readable (written : Set Nat) : DatabaseCall ι p → Prop
  | .readPage k _ _ => k ∈ written
  | _ => True

/-! ## The simulation -/

/-- The page `stored` is what the transformation makes of `page`. -/
def Decodes (T : PageTransformer ι τ) (clear : Nat) (stored page : Bytes) : Prop :=
  stored.take clear = page.take clear ∧
    ∀ env d, ∃ d', T.decodePage env (stored.drop clear) d = .returns () (page.drop clear, d')

/-- The stores below the transformed and the plain file, with the pages written so far. -/
structure SamePages (T : PageTransformer ι τ) (p : PageSize) (stored plain : Bytes)
    (written : Set Nat) : Prop where
  length_eq : stored.length = plain.length
  header : ∀ i < 100, stored[i]? = plain[i]?
  pages : ∀ k ∈ written, p.offset k + p.size ≤ plain.length ∧
    Decodes T (clearSize .mainDb (p.offset k)) (Store.readAt stored (p.offset k) p.size)
      (Store.readAt plain (p.offset k) p.size)

namespace SamePages

variable {T : PageTransformer ι τ} {stored plain : Bytes} {written : Set Nat}

theorem refl (s : Bytes) : SamePages T p s s ∅ :=
  ⟨rfl, fun _ _ => rfl, fun _ h => absurd h (Set.notMem_empty _)⟩

/-- A range inside the header reads the same on both sides. -/
theorem readAt_header (h : SamePages T p stored plain written) {offset n : Nat}
    (hin : offset + n ≤ 100) : Store.readAt stored offset n = Store.readAt plain offset n := by
  apply List.ext_getElem?
  intro i
  rw [Store.getElem?_readAt, Store.getElem?_readAt]
  by_cases hi : i < n
  · rw [if_pos hi, if_pos hi]
    exact h.header _ (by omega)
  · rw [if_neg hi, if_neg hi]

theorem write (h : SamePages T p stored plain written) {k : Nat} {page encoded : Bytes}
    (hpage : page.length = p.size) (hencoded : encoded.length = p.size)
    (hdec : Decodes T (clearSize .mainDb (p.offset k)) encoded page) :
    SamePages T p (Store.writeAt 0 stored (p.offset k) encoded)
      (Store.writeAt 0 plain (p.offset k) page) (insert k written) := by
  refine ⟨?_, ?_, ?_⟩
  · rw [Store.length_writeAt, Store.length_writeAt, h.length_eq, hpage, hencoded]
  · intro i hi
    rw [Store.getElem?_writeAt, Store.getElem?_writeAt, hpage, hencoded]
    by_cases hlow : i < p.offset k
    · simp only [hlow, if_true, List.getD_eq_getElem?_getD, h.header i hi]
    · have hk : k = 0 := by
        by_contra hk
        have := p.le_offset (Nat.pos_of_ne_zero hk)
        omega
      subst hk
      have hsize := p.isPage
      have hin : i < p.offset 0 + p.size := by omega
      simp only [p.offset_zero, Nat.not_lt_zero, if_false, Nat.zero_add, Nat.sub_zero] at hin ⊢
      rw [if_pos hin, if_pos hin]
      have htake : encoded.take 100 = page.take 100 := by simpa using hdec.1
      have := congrArg (·[i]?) htake
      simpa only [List.getElem?_take, hi, if_true] using this
  · intro j hj
    by_cases hjk : j = k
    · subst hjk
      rw [readAt_writePage_same _ _ hpage, readAt_writePage_same _ _ hencoded, Store.length_writeAt,
        hpage]
      exact ⟨Nat.le_max_right _ _, hdec⟩
    · obtain ⟨hin, hold⟩ := h.pages j (Set.mem_of_mem_insert_of_ne hj hjk)
      rw [readAt_writePage_ne hpage hjk (Store.length_readAt_of_le hin),
        readAt_writePage_ne hencoded hjk (Store.length_readAt_of_le (h.length_eq ▸ hin)),
        Store.length_writeAt]
      exact ⟨Nat.le_trans hin (Nat.le_max_left _ _), hold⟩

theorem truncate (h : SamePages T p stored plain written) (pages : Nat) :
    SamePages T p (Store.resize 0 stored (p.offset pages)) (Store.resize 0 plain (p.offset pages))
      {k ∈ written | k < pages} := by
  refine ⟨by simp, ?_, ?_⟩
  · intro i hi
    simp only [Store.getElem?_resize, List.getD_eq_getElem?_getD, h.header i hi]
  · rintro k ⟨hk, hlt⟩
    obtain ⟨hin, hold⟩ := h.pages k hk
    have hle := p.offset_mono hlt
    rw [Store.readAt_resize 0 hle hin, Store.readAt_resize 0 hle (h.length_eq ▸ hin),
      Store.length_resize]
    exact ⟨hle, hold⟩

end SamePages

section Simulation

variable {T : PageTransformer ι τ} {P : File σ} {content : σ → Bytes}
  {self : PageTransformingFile τ σ} {s : σ} {written : Set Nat}

/-- An accepted reserve size is never refused. -/
theorem PageTransformer.Invertible.reserveRejected (hT : T.Invertible) (buffer : Bytes)
    (offset : Nat) (d : τ) : reserveRejected T buffer offset d = false := by
  simp [PageTransformingFile.reserveRejected, hT.accepts]

theorem readPage_simulates (hT : T.Invertible) (hP : Faithful P content) (hf : P.format = .mainDb)
    (h : SamePages T p (content self.parent) (content s) written) {k : Nat} (hk : k ∈ written)
    (buffer : Page p) (env : ι) :
    ∃ self' s', read T P env buffer (p.offset k) self =
        .returns () (Store.readAt (content s) (p.offset k) p.size, self') ∧
      P.read buffer (p.offset k) s =
        .returns () (Store.readAt (content s) (p.offset k) p.size, s') ∧
      content self'.parent = content self.parent ∧ content s' = content s := by
  obtain ⟨hin, htake, hdec⟩ := h.pages k hk
  have hlen := buffer.property
  obtain ⟨s', hs', hplain⟩ := hP.read buffer (p.offset k) s buffer.length_lt
  obtain ⟨par', hpar', hread⟩ := hP.read buffer (p.offset k) self.parent buffer.length_lt
  rw [hlen, if_pos (Store.length_readAt_of_le hin)] at hplain
  rw [hlen, if_pos (Store.length_readAt_of_le (h.length_eq ▸ hin))] at hread
  obtain ⟨d', hd'⟩ := hdec env self.derived
  obtain ⟨size, hret⟩ := read_page hf buffer.le_length hread hd'
    (hT.reserveRejected _ _ _)
  rw [htake, List.take_append_drop] at hret
  exact ⟨_, s', hret, hplain, hpar', hs'⟩

theorem writePage_simulates (hT : T.Invertible) (hP : Faithful P content)
    (hf : P.format = .mainDb) (h : SamePages T p (content self.parent) (content s) written)
    (k : Nat) (page : Page p) (env : ι) :
    ∃ self' s', write T P env page (p.offset k) self = .returns () self' ∧
      P.write page (p.offset k) s = .returns () s' ∧
      SamePages T p (content self'.parent) (content s') (insert k written) := by
  have hlen := page.property
  generalize hclear : clearSize .mainDb (p.offset k) = clear
  obtain ⟨page', d', hencode, hlen', hdec⟩ := hT.encode env (page.val.drop clear) self.derived
  have hencoded : (page.val.take clear ++ page').length = p.size := by
    rw [List.length_append, hlen', ← List.length_append, List.take_append_drop, hlen]
  have hclear' : clear ≤ page.val.length := by
    have := clearSize_le .mainDb (p.offset k)
    have := p.isPage
    omega
  obtain ⟨s', hs', hplain⟩ := hP.write page (p.offset k) s page.length_lt
  obtain ⟨par', hpar', hwrite⟩ := hP.write (page.val.take clear ++ page') (p.offset k) self.parent
    (Page.length_lt ⟨_, hencoded⟩)
  subst hclear
  obtain ⟨tmp, size, hret⟩ := write_page hf page.le_length
    (hT.reserveRejected _ _ _) hencode hwrite
  refine ⟨_, s', hret, hplain, ?_⟩
  rw [hs', hpar']
  refine h.write hlen hencoded ⟨?_, ?_⟩
  · rw [List.take_append_of_le_length (by simp; omega), List.take_take, Nat.min_self]
  · intro env₂ d₂
    rw [List.drop_append_of_le_length (by simp; omega), List.drop_take_self, List.nil_append]
    exact hdec env₂ d₂

theorem readHeader_simulates (hP : Faithful P content)
    (h : SamePages T p (content self.parent) (content s) written) {buffer : Bytes} {offset : Nat}
    (hin : offset + buffer.length ≤ 100) (env : ι) :
    (FileReply.ofRead self (read T P env buffer offset self)).1 =
        (FileReply.ofRead s (P.read buffer offset s)).1 ∧
      content (FileReply.ofRead self (read T P env buffer offset self)).2.parent =
        content self.parent ∧
      content (FileReply.ofRead s (P.read buffer offset s)).2 = content s := by
  have hint : buffer.length < 2 ^ 31 := by omega
  obtain ⟨s', hs', hplain⟩ := hP.read buffer offset s hint
  obtain ⟨par', hpar', hread⟩ := hP.read buffer offset self.parent hint
  rw [read_of_not_isPage (isPage_of_lt (by omega)), hread, hplain, Store.readFilled,
    Store.readFilled, h.readAt_header hin]
  split <;> exact ⟨rfl, hpar', hs'⟩

/-- One call: the two files answer alike and stay related. -/
theorem databaseCall_simulates (hT : T.Invertible) (hP : Faithful P content)
    (hf : P.format = .mainDb) (self : PageTransformingFile τ σ) (s : σ) (written : Set Nat)
    (c : DatabaseCall ι p) (h : SamePages T p (content self.parent) (content s) written)
    (hc : Readable written c) :
    ((transformedFile T P).comap DatabaseCall.toFileCall).reply self c =
        ((plainFile P).comap DatabaseCall.toFileCall).reply s c ∧
      SamePages T p
        (content (((transformedFile T P).comap DatabaseCall.toFileCall).next self c).parent)
        (content (((plainFile P).comap DatabaseCall.toFileCall).next s c))
        ((pagesWritten ι p).next written c) := by
  cases c with
  | readPage k buffer env =>
    obtain ⟨self', s', hself, hs, hcself, hcs⟩ := readPage_simulates hT hP hf h hc buffer env
    simp only [Component.reply, Component.next, Component.comap, DatabaseCall.toFileCall,
      transformedFile, plainFile, hself, hs, FileReply.ofRead, pagesWritten, hcself, hcs]
    exact ⟨trivial, h⟩
  | writePage k page env =>
    obtain ⟨self', s', hself, hs, hrel⟩ := writePage_simulates hT hP hf h k page env
    simp only [Component.reply, Component.next, Component.comap, DatabaseCall.toFileCall,
      transformedFile, plainFile, hself, hs, FileReply.ofUnit, pagesWritten]
    exact ⟨trivial, hrel⟩
  | readHeader buffer offset inside env =>
    obtain ⟨hreply, hcself, hcs⟩ := readHeader_simulates hP h inside env
    simp only [Component.reply, Component.next, Component.comap, DatabaseCall.toFileCall,
      transformedFile, plainFile, pagesWritten, hcself, hcs]
    exact ⟨hreply, h⟩
  | truncate pages =>
    obtain ⟨s', hs', hplain⟩ := hP.truncate (p.offset pages) s
    obtain ⟨par', hpar', htrunc⟩ := hP.truncate (p.offset pages) self.parent
    simp only [Component.reply, Component.next, Component.comap, DatabaseCall.toFileCall,
      transformedFile, plainFile, PageTransformingFile.truncate, hplain, htrunc, FileReply.ofUnit,
      Outcome.mapState_returns, pagesWritten, hs', hpar']
    exact ⟨trivial, h.truncate pages⟩
  | fileSize =>
    obtain ⟨s', hs', hplain⟩ := hP.fileSize s
    obtain ⟨par', hpar', hsize⟩ := hP.fileSize self.parent
    simp only [Component.reply, Component.next, Component.comap, DatabaseCall.toFileCall,
      transformedFile, plainFile, PageTransformingFile.fileSize, hplain, hsize, FileReply.ofSize,
      Outcome.mapState_returns, pagesWritten, hs', hpar', h.length_eq]
    exact ⟨trivial, h⟩

end Simulation

/-- A page transformation that is undone by decoding is invisible: over a main database every
sequence of page accesses, header reads, truncations and size queries that reads only pages written
since they were last truncated away gets the replies of the plain file, and over a file of any
other format each access reaches the parent unchanged. -/
theorem pageTransformation_invisible (T : PageTransformer ι τ) (hT : T.Invertible) :
    (∀ (P : File σ) (content : σ → Bytes), Faithful P content → P.format = .mainDb →
      ∀ (p : PageSize) (calls : List (DatabaseCall ι p)) (self : PageTransformingFile τ σ),
        (pagesWritten ι p).Throughout Readable ∅ calls →
        (transformedFile T P).replies self (calls.map DatabaseCall.toFileCall) =
          (plainFile P).replies self.parent (calls.map DatabaseCall.toFileCall)) ∧
    (∀ P : File σ, P.format ≠ .mainDb →
      ∀ (env : ι) (buffer : Bytes) (offset : Nat) (self : PageTransformingFile τ σ),
        PageTransformingFile.read T P env buffer offset self =
          (P.read buffer offset self.parent).mapState
            (fun (b, parent) => (b, { self with parent })) ∧
        PageTransformingFile.write T P env buffer offset self =
          (P.write buffer offset self.parent).mapState (fun parent => { self with parent })) := by
  constructor
  · intro P content hP hf p calls self hcalls
    rw [Component.replies_map, Component.replies_map]
    have hsim := Component.replies_related (databaseCall_simulates hT hP hf)
      (SamePages.refl (content self.parent)) hcalls
    rwa [List.forall₂_eq_eq_eq] at hsim
  · intro P hf env buffer offset self
    have hpage : isPage P.format buffer.length = false := by simp [isPage, hf]
    exact ⟨read_of_not_isPage hpage, write_of_not_isPage hpage⟩

/-- ROT13 over a database file of SQLite: a page written and read back, with the header and the
size asked for in between. -/
theorem rot13_invisible :
    let P : File Bytes := SQLite3FileWrapper .mainDb storeMethods
    let page : Page ⟨512, by decide, by decide⟩ := ⟨List.replicate 512 7, List.length_replicate⟩
    let calls : List (DatabaseCall Unit _) :=
      [.writePage 1 page (), .readHeader [0, 0] 16 (by decide) (), .fileSize, .readPage 1 page ()]
    (transformedFile rot13 P).replies ⟨[], (), [], 0⟩ (calls.map DatabaseCall.toFileCall) =
      (plainFile P).replies [] (calls.map DatabaseCall.toFileCall) := by
  intro P page calls
  have hpermitted : (pagesWritten Unit _).Throughout Readable ∅ calls :=
    ⟨trivial, trivial, trivial, Set.mem_insert 1 ∅, trivial⟩
  exact (pageTransformation_invisible rot13 rot13_invertible).1 P _ (storeMethods_faithful .mainDb)
    rfl _ calls ⟨[], (), [], 0⟩ hpermitted

end Ysqlite3.Vfs
