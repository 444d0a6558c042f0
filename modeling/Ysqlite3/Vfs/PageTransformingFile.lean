import Ysqlite3.Vfs.File

/-!
# Page_transforming_file

`Page_transforming_file<Parent>` sends every page of a main database through `encode_page` on its
way to the parent and through `decode_page` on its way back. A class derived from it is a
`PageTransformer`: its members are the state `τ`, and what the calls out of the program come to
during one call is the input `ι`.
-/

namespace Ysqlite3.Vfs

/-- The virtual functions a class derived from `Page_transforming_file` provides. `encodePage` and
`decodePage` work in place on the span they are handed. -/
structure PageTransformer (ι τ : Type) where
  encodePage : ι → Bytes → τ → Outcome (Bytes × τ) Unit
  decodePage : ι → Bytes → τ → Outcome (Bytes × τ) Unit
  checkReserveSize : UInt8 → τ → Bool

/-- An object of a class derived from `Page_transforming_file`: the parent, the members of the
derived class, `_tmp_buffer` and `_page_size`. -/
structure PageTransformingFile (τ σ : Type) where
  parent : σ
  derived : τ
  tmpBuffer : Bytes
  pageSize : Nat
  deriving DecidableEq, Repr

namespace PageTransformingFile

variable {ι τ σ : Type} (T : PageTransformer ι τ) (P : File σ)

/-- `_is_page` -/
def isPage (format : FileFormat) (size : Nat) : Bool := format = .mainDb && 512 ≤ size

/-- How much of a page at `offset` stays clear: the 100 bytes of the database header. -/
def clearSize (format : FileFormat) (offset : Nat) : Nat :=
  if format = .mainDb ∧ offset = 0 then 100 else 0

/-- The page size in a big-endian pair of bytes; 1 stands for 65536. -/
def decodePageSize (hi lo : UInt8) : Nat :=
  let size := hi.toNat <<< 8 ||| lo.toNat
  if size = 1 then 65536 else size

/-- `_page_size` after `_parse_parameters`. -/
def parsedPageSize (buffer : Bytes) (offset pageSize : Nat) : Nat :=
  if offset ≤ 16 ∧ 18 ≤ offset + buffer.length then
    decodePageSize (buffer.getD (16 - offset) 0) (buffer.getD (17 - offset) 0)
  else pageSize

/-- The buffer covers the reserve byte and `check_reserve_size` refuses it. -/
def reserveRejected (buffer : Bytes) (offset : Nat) (derived : τ) : Bool :=
  offset ≤ 20 && 21 ≤ offset + buffer.length &&
    !T.checkReserveSize (buffer.getD (20 - offset) 0) derived

/-- `_parse_parameters` -/
def parseParameters (format : FileFormat) (buffer : Bytes) (offset : Nat)
    (self : PageTransformingFile τ σ) : Outcome (PageTransformingFile τ σ) Unit :=
  if format = .mainDb then
    let self := { self with pageSize := parsedPageSize buffer offset self.pageSize }
    if reserveRejected T buffer offset self.derived then
      .throws (.sqlite3 .generic "bad reserve size") self
    else .returns () self
  else .returns () self

/-- `Page_transforming_file::read` -/
def read (env : ι) (buffer : Bytes) (offset : Nat) (self : PageTransformingFile τ σ) :
    Outcome (Bytes × PageTransformingFile τ σ) Unit :=
  if isPage P.format buffer.length then
    match P.read buffer offset self.parent with
    | .undefined => .undefined
    | .throws e (buffer, parent) => .throws e (buffer, { self with parent })
    | .returns _ (buffer, parent) =>
      let clear := clearSize P.format offset
      match T.decodePage env (buffer.drop clear) self.derived with
      | .undefined => .undefined
      | .throws e (page, derived) =>
        .throws e (buffer.take clear ++ page, { self with parent, derived })
      | .returns _ (page, derived) =>
        (parseParameters T P.format (buffer.take clear ++ page) offset
          { self with parent, derived }).mapState (fun self => (buffer.take clear ++ page, self))
  else
    (P.read buffer offset self.parent).mapState
      (fun (buffer, parent) => (buffer, { self with parent }))

/-- `Page_transforming_file::write` -/
def write (env : ι) (buffer : Bytes) (offset : Nat) (self : PageTransformingFile τ σ) :
    Outcome (PageTransformingFile τ σ) Unit :=
  if isPage P.format buffer.length then
    match parseParameters T P.format buffer offset self with
    | .undefined => .undefined
    | .throws e self => .throws e self
    | .returns _ self =>
      let clear := clearSize P.format offset
      match T.encodePage env (buffer.drop clear) self.derived with
      | .undefined => .undefined
      | .throws e (page, derived) =>
        .throws e { self with derived, tmpBuffer := buffer.take clear ++ page }
      | .returns _ (page, derived) =>
        (P.write (buffer.take clear ++ page) offset self.parent).mapState
          (fun parent => { self with parent, derived, tmpBuffer := buffer.take clear ++ page })
  else
    (P.write buffer offset self.parent).mapState (fun parent => { self with parent })

/-- `truncate`, inherited from the parent. -/
def truncate (size : Nat) (self : PageTransformingFile τ σ) :
    Outcome (PageTransformingFile τ σ) Unit :=
  (P.truncate size self.parent).mapState (fun parent => { self with parent })

/-- `file_size`, inherited from the parent. -/
def fileSize (self : PageTransformingFile τ σ) : Outcome (PageTransformingFile τ σ) Nat :=
  (P.fileSize self.parent).mapState (fun parent => { self with parent })

/-- `fetch`, inherited from the parent. -/
def fetch (offset : Nat) (amount : Int) (self : PageTransformingFile τ σ) :
    Outcome (PageTransformingFile τ σ) (Option Bytes) :=
  (P.fetch offset amount self.parent).mapState (fun parent => { self with parent })

/-! ## What a page access does -/

section Pages

variable {T P} {env : ι} {buffer : Bytes} {offset : Nat} {self : PageTransformingFile τ σ}

theorem isPage_iff {format : FileFormat} {size : Nat} :
    isPage format size = true ↔ format = .mainDb ∧ 512 ≤ size := by
  simp [isPage]

theorem isPage_mainDb (hf : P.format = .mainDb) (hsize : 512 ≤ buffer.length) :
    isPage P.format buffer.length = true :=
  isPage_iff.mpr ⟨hf, hsize⟩

theorem isPage_of_lt {format : FileFormat} {size : Nat} (hsize : size < 512) :
    isPage format size = false := by
  simp [isPage]; omega

@[simp] theorem clearSize_mainDb_zero : clearSize .mainDb 0 = 100 := rfl

theorem clearSize_le (format : FileFormat) (offset : Nat) : clearSize format offset ≤ 100 := by
  unfold clearSize
  split <;> omega

/-- A page beyond the header does not cover the reserve byte. -/
theorem reserveRejected_of_lt {d : τ} (h : 20 < offset) :
    reserveRejected T buffer offset d = false := by
  simp [reserveRejected]; omega

/-- Where the reserve byte is not refused, the parameters are parsed without an exception. -/
theorem parseParameters_returns (format : FileFormat) (self : PageTransformingFile τ σ)
    (h : reserveRejected T buffer offset self.derived = false) :
    ∃ size, parseParameters T format buffer offset self =
      .returns () { self with pageSize := size } := by
  unfold parseParameters
  by_cases hf : format = .mainDb
  · exact ⟨_, by rw [if_pos hf]; simp only [h]; rfl⟩
  · exact ⟨self.pageSize, by rw [if_neg hf]⟩

/-- A page read is the parent's read, the decoding behind the clear part, and the reserve check. -/
theorem read_page {bytes page : Bytes} {parent : σ} {derived : τ} (hf : P.format = .mainDb)
    (hsize : 512 ≤ buffer.length)
    (hread : P.read buffer offset self.parent = .returns () (bytes, parent))
    (hdecode : T.decodePage env (bytes.drop (clearSize .mainDb offset)) self.derived =
      .returns () (page, derived))
    (hreserve : reserveRejected T (bytes.take (clearSize .mainDb offset) ++ page) offset derived =
      false) :
    ∃ size, read T P env buffer offset self =
      .returns () (bytes.take (clearSize .mainDb offset) ++ page,
        { self with parent, derived, pageSize := size }) := by
  have hpage : isPage P.format buffer.length = true := isPage_mainDb hf hsize
  obtain ⟨size, hparse⟩ := parseParameters_returns .mainDb
    { self with parent := parent, derived := derived } hreserve
  refine ⟨size, ?_⟩
  rw [hf] at hpage
  simp only [read, hf, hpage, if_true, hread, hdecode, hparse, Outcome.mapState_returns]

/-- A page the parent cannot read is left as the parent filled it. -/
theorem read_page_throws {bytes : Bytes} {parent : σ} {e : Exception} (hf : P.format = .mainDb)
    (hsize : 512 ≤ buffer.length)
    (hread : P.read buffer offset self.parent = .throws e (bytes, parent)) :
    read T P env buffer offset self = .throws e (bytes, { self with parent }) := by
  have hpage : isPage P.format buffer.length = true := isPage_mainDb hf hsize
  simp only [read, hpage, if_true, hread]

/-- A page that cannot be decoded. -/
theorem read_page_undecodable {bytes page : Bytes} {parent : σ} {derived : τ} {e : Exception}
    (hf : P.format = .mainDb) (hsize : 512 ≤ buffer.length)
    (hread : P.read buffer offset self.parent = .returns () (bytes, parent))
    (hdecode : T.decodePage env (bytes.drop (clearSize .mainDb offset)) self.derived =
      .throws e (page, derived)) :
    read T P env buffer offset self =
      .throws e (bytes.take (clearSize .mainDb offset) ++ page, { self with parent, derived }) := by
  have hpage : isPage P.format buffer.length = true := isPage_mainDb hf hsize
  rw [hf] at hpage
  simp only [read, hf, hpage, if_true, hread, hdecode]

/-- A page with a reserve byte that is refused is not read. -/
theorem read_page_rejected {bytes page : Bytes} {parent : σ} {derived : τ} (hf : P.format = .mainDb)
    (hsize : 512 ≤ buffer.length)
    (hread : P.read buffer offset self.parent = .returns () (bytes, parent))
    (hdecode : T.decodePage env (bytes.drop (clearSize .mainDb offset)) self.derived =
      .returns () (page, derived))
    (hreserve : reserveRejected T (bytes.take (clearSize .mainDb offset) ++ page) offset derived =
      true) :
    ∃ size, read T P env buffer offset self = .throws (.sqlite3 .generic "bad reserve size")
      (bytes.take (clearSize .mainDb offset) ++ page,
        { self with parent, derived, pageSize := size }) := by
  have hpage : isPage P.format buffer.length = true := isPage_mainDb hf hsize
  refine ⟨parsedPageSize (bytes.take (clearSize .mainDb offset) ++ page) offset self.pageSize, ?_⟩
  rw [hf] at hpage
  simp only [read, hf, hpage, if_true, hread, hdecode, parseParameters, hreserve,
    Outcome.mapState_throws]

/-- What a page read that returned has gone through. -/
theorem read_page_returns {bytes : Bytes} {self' : PageTransformingFile τ σ}
    (hf : P.format = .mainDb) (hsize : 512 ≤ buffer.length)
    (h : read T P env buffer offset self = .returns () (bytes, self')) :
    ∃ raw page parent, P.read buffer offset self.parent = .returns () (raw, parent) ∧
      T.decodePage env (raw.drop (clearSize .mainDb offset)) self.derived =
        .returns () (page, self'.derived) ∧
      bytes = raw.take (clearSize .mainDb offset) ++ page ∧ self'.parent = parent ∧
      reserveRejected T bytes offset self'.derived = false := by
  have hpage : isPage P.format buffer.length = true := isPage_mainDb hf hsize
  rw [hf] at hpage
  simp only [read, hf, hpage, if_true] at h
  cases hread : P.read buffer offset self.parent with
  | undefined => simp [hread] at h
  | throws e s => simp [hread] at h
  | returns u s =>
    obtain ⟨raw, parent⟩ := s
    simp only [hread] at h
    cases hdecode : T.decodePage env (raw.drop (clearSize .mainDb offset)) self.derived with
    | undefined => simp [hdecode] at h
    | throws e s => simp [hdecode] at h
    | returns u s =>
      obtain ⟨page, derived⟩ := s
      simp only [hdecode, parseParameters, if_true] at h
      split at h
      · simp at h
      · rename_i hreserve
        simp only [Outcome.mapState_returns, Outcome.returns.injEq, Prod.mk.injEq, true_and] at h
        obtain ⟨rfl, rfl⟩ := h
        exact ⟨raw, page, parent, rfl, hdecode, rfl, rfl, by simpa using hreserve⟩

/-- A page write is the reserve check, the encoding behind the clear part, and the parent's
write. -/
theorem write_page {page : Bytes} {parent : σ} {derived : τ} (hf : P.format = .mainDb)
    (hsize : 512 ≤ buffer.length)
    (hreserve : reserveRejected T buffer offset self.derived = false)
    (hencode : T.encodePage env (buffer.drop (clearSize .mainDb offset)) self.derived =
      .returns () (page, derived))
    (hwrite : P.write (buffer.take (clearSize .mainDb offset) ++ page) offset self.parent =
      .returns () parent) :
    ∃ tmp size, write T P env buffer offset self =
      .returns () { parent, derived, tmpBuffer := tmp, pageSize := size } := by
  have hpage : isPage P.format buffer.length = true := isPage_mainDb hf hsize
  obtain ⟨size, hparse⟩ := parseParameters_returns .mainDb self hreserve
  refine ⟨buffer.take (clearSize .mainDb offset) ++ page, size, ?_⟩
  rw [hf] at hpage
  simp only [write, hf, hpage, if_true, hparse, hencode, hwrite, Outcome.mapState_returns]

/-- A page with a reserve byte that is refused is not written. -/
theorem write_page_rejected (hf : P.format = .mainDb) (hsize : 512 ≤ buffer.length)
    (hreserve : reserveRejected T buffer offset self.derived = true) :
    ∃ size, write T P env buffer offset self =
      .throws (.sqlite3 .generic "bad reserve size") { self with pageSize := size } := by
  have hpage : isPage P.format buffer.length = true := isPage_mainDb hf hsize
  refine ⟨parsedPageSize buffer offset self.pageSize, ?_⟩
  rw [hf] at hpage
  simp only [write, hf, hpage, if_true, parseParameters, hreserve]

/-- What a page write that returned has gone through. -/
theorem write_page_returns {self' : PageTransformingFile τ σ} (hf : P.format = .mainDb)
    (hsize : 512 ≤ buffer.length) (h : write T P env buffer offset self = .returns () self') :
    reserveRejected T buffer offset self.derived = false ∧
    ∃ page, T.encodePage env (buffer.drop (clearSize .mainDb offset)) self.derived =
        .returns () (page, self'.derived) ∧
      P.write (buffer.take (clearSize .mainDb offset) ++ page) offset self.parent =
        .returns () self'.parent := by
  have hpage : isPage P.format buffer.length = true := isPage_mainDb hf hsize
  rw [hf] at hpage
  simp only [write, hf, hpage, if_true, parseParameters] at h
  cases hreserve : reserveRejected T buffer offset self.derived with
  | true => simp [hreserve] at h
  | false =>
    refine ⟨rfl, ?_⟩
    simp only [hreserve, Bool.false_eq_true, if_false] at h
    cases hencode : T.encodePage env (buffer.drop (clearSize .mainDb offset)) self.derived with
    | undefined => simp [hencode] at h
    | throws e s => simp [hencode] at h
    | returns u s =>
      obtain ⟨page, derived⟩ := s
      simp only [hencode] at h
      cases hwrite : P.write (buffer.take (clearSize .mainDb offset) ++ page) offset self.parent with
      | undefined => simp [hwrite] at h
      | throws e s => simp [hwrite] at h
      | returns u parent =>
        simp only [hwrite, Outcome.mapState_returns, Outcome.returns.injEq, true_and] at h
        subst h
        exact ⟨page, rfl, hwrite⟩

/-- A page write that threw has left the parent alone, unless the parent threw. -/
theorem write_page_throws {e : Exception} {self' : PageTransformingFile τ σ} (hf : P.format = .mainDb)
    (hsize : 512 ≤ buffer.length) (h : write T P env buffer offset self = .throws e self') :
    self'.parent = self.parent ∨
    ∃ page derived, T.encodePage env (buffer.drop (clearSize .mainDb offset)) self.derived =
        .returns () (page, derived) ∧
      P.write (buffer.take (clearSize .mainDb offset) ++ page) offset self.parent =
        .throws e self'.parent := by
  have hpage : isPage P.format buffer.length = true := isPage_mainDb hf hsize
  rw [hf] at hpage
  simp only [write, hf, hpage, if_true, parseParameters] at h
  cases hreserve : reserveRejected T buffer offset self.derived with
  | true =>
    simp only [hreserve, if_true, Outcome.throws.injEq] at h
    exact Or.inl (by rw [← h.2])
  | false =>
    simp only [hreserve, Bool.false_eq_true, if_false] at h
    cases hencode : T.encodePage env (buffer.drop (clearSize .mainDb offset)) self.derived with
    | undefined => simp [hencode] at h
    | throws e' s =>
      simp only [hencode, Outcome.throws.injEq] at h
      exact Or.inl (by rw [← h.2])
    | returns u s =>
      obtain ⟨page, derived⟩ := s
      simp only [hencode] at h
      refine Or.inr ⟨page, derived, rfl, ?_⟩
      cases hwrite : P.write (buffer.take (clearSize .mainDb offset) ++ page) offset self.parent with
      | undefined => simp [hwrite] at h
      | returns u parent => simp [hwrite] at h
      | throws e' parent =>
        simp only [hwrite, Outcome.mapState_throws, Outcome.throws.injEq] at h
        rw [h.1, ← h.2]

/-- An access that is no page reaches the parent unchanged. -/
theorem read_of_not_isPage (h : isPage P.format buffer.length = false) :
    read T P env buffer offset self =
      (P.read buffer offset self.parent).mapState (fun (b, parent) => (b, { self with parent })) := by
  simp [read, h]

theorem write_of_not_isPage (h : isPage P.format buffer.length = false) :
    write T P env buffer offset self =
      (P.write buffer offset self.parent).mapState (fun parent => { self with parent }) := by
  simp [write, h]

/-- A write that is no page leaves the members of the derived class alone. -/
theorem write_raw_derived {self' : PageTransformingFile τ σ}
    (hpage : isPage P.format buffer.length = false)
    (h : write T P env buffer offset self = .returns () self') : self'.derived = self.derived := by
  rw [write_of_not_isPage hpage] at h
  cases hparent : P.write buffer offset self.parent with
  | undefined => simp [hparent] at h
  | throws e parent => simp [hparent] at h
  | returns _ parent =>
    rw [hparent, Outcome.mapState_returns, Outcome.returns.injEq] at h
    rw [← h.2]

end Pages

end PageTransformingFile

end Ysqlite3.Vfs
