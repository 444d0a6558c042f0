import Ysqlite3.Vfs.Transparent

/-!
# The memory-mapped path

`Page_transforming_file` inherits `fetch`, so a mapped range shows the parent's bytes, while a
page read delivers them decoded.
-/

namespace Ysqlite3.Vfs

open PageTransformingFile

variable {ι τ σ : Type} {T : PageTransformer ι τ} {P : File σ}

/-- What the parent maps is what it reads for the same range. -/
def File.MapsFaithfully (P : File σ) : Prop :=
  ∀ offset (amount : Int) s b s', amount < 2 ^ 31 → P.fetch offset amount s = .returns (some b) s' →
    ∀ buffer : Bytes, buffer.length = amount.toNat →
      ∃ s'', P.read buffer offset s = .returns () (b, s'')

theorem storeMethods_mapsFaithfully (format : FileFormat) :
    (SQLite3FileWrapper format storeMethods).MapsFaithfully := by
  intro offset amount s b s' hint hfetch buffer hlen
  have hcast : (castInt buffer.length).toNat = amount.toNat := by
    rw [castInt_of_lt (by omega), hlen, Int.toNat_natCast]
  simp only [SQLite3FileWrapper, storeMethods, assertError, ne_eq, not_true, if_false,
    Outcome.returns.injEq, ite_eq_left_iff, Option.ite_none_right_eq_some, Option.some.injEq]
    at hfetch
  obtain ⟨⟨hin, rfl⟩, -⟩ := hfetch
  have hfull : (Store.readAt s offset amount.toNat).length = amount.toNat :=
    Store.length_readAt_of_le hin
  rw [← hlen] at hcast hfull ⊢
  refine ⟨s, ?_⟩
  simp only [SQLite3FileWrapper, storeMethods, hcast, hfull, if_true, assertError, ne_eq, not_true,
    if_false, Store.readFilled, Store.resize_of_length 0 hfull, List.drop_length, List.append_nil]

/-- When the range can be mapped, the mapped bytes are those a read of the range delivers. -/
def FetchAgrees (T : PageTransformer ι τ) (P : File σ) (env : ι) (offset : Nat) (amount : Int)
    (self : PageTransformingFile τ σ) : Prop :=
  ∀ b self', fetch P offset amount self = .returns (some b) self' →
    ∀ buffer : Bytes, buffer.length = amount.toNat →
      ∃ self'', read T P env buffer offset self = .returns () (b, self'')

/-- `decode_page` leaves the bytes `b` at `offset` as they are, and their reserve byte is
accepted. -/
def DecodesToItself (T : PageTransformer ι τ) (env : ι) (offset : Nat) (b : Bytes) (d : τ) : Prop :=
  ∃ d', T.decodePage env (b.drop (clearSize .mainDb offset)) d =
      .returns () (b.drop (clearSize .mainDb offset), d') ∧
    reserveRejected T b offset d' = false

theorem fetch_returns {offset : Nat} {amount : Int} {self self' : PageTransformingFile τ σ}
    {b : Option Bytes} (h : fetch P offset amount self = .returns b self') :
    ∃ s', P.fetch offset amount self.parent = .returns b s' := by
  unfold fetch at h
  cases hp : P.fetch offset amount self.parent with
  | undefined => simp [hp] at h
  | throws e s => simp [hp] at h
  | returns b' s' =>
    rw [hp, Outcome.mapState_returns, Outcome.returns.injEq] at h
    exact ⟨s', by rw [h.1]⟩

/-- A mapped range of a main database shows what a read of the range delivers exactly when the
range is too short to count as a page, or decoding does nothing to its bytes. -/
theorem fetchAgrees_iff (hP : P.MapsFaithfully) (hf : P.format = .mainDb) {env : ι} {offset : Nat}
    {amount : Int} (hint : amount < 2 ^ 31) {self self' : PageTransformingFile τ σ} {b : Bytes}
    (hfetch : fetch P offset amount self = .returns (some b) self') :
    FetchAgrees T P env offset amount self ↔
      amount < 512 ∨ DecodesToItself T env offset b self.derived := by
  obtain ⟨s', hpfetch⟩ := fetch_returns hfetch
  have hread : ∀ buffer : Bytes, buffer.length = amount.toNat →
      ∃ s'', P.read buffer offset self.parent = .returns () (b, s'') :=
    hP offset amount self.parent b s' hint hpfetch
  constructor
  · intro hagree
    by_cases hshort : amount < 512
    · exact Or.inl hshort
    · right
      have hlen : (List.replicate amount.toNat (0 : UInt8)).length = amount.toNat := by simp
      obtain ⟨self'', hpage⟩ := hagree b self' hfetch _ hlen
      obtain ⟨s'', hraw⟩ := hread _ hlen
      obtain ⟨raw, page, parent, hraw', hdec, hb, -, hres⟩ :=
        read_page_returns hf (by omega) hpage
      rw [hraw, Outcome.returns.injEq, Prod.mk.injEq] at hraw'
      obtain ⟨-, rfl, -⟩ := hraw'
      -- the clear part is common to both sides, so the decoded part is the mapped one
      have hpage' : page = b.drop (clearSize .mainDb offset) := by
        have := List.take_append_drop (clearSize .mainDb offset) b
        exact List.append_cancel_left (hb.symm.trans this.symm)
      subst hpage'
      exact ⟨_, hdec, hres⟩
  · intro hcond c self₂ hfetch₂ buffer hlen
    rw [hfetch, Outcome.returns.injEq, Option.some.injEq] at hfetch₂
    obtain ⟨rfl, -⟩ := hfetch₂
    obtain ⟨s'', hraw⟩ := hread buffer hlen
    by_cases hshort : amount < 512
    · rw [read_of_not_isPage (isPage_of_lt (by omega)), hraw]
      exact ⟨_, rfl⟩
    · obtain ⟨d', hdec, hres⟩ := hcond.resolve_left hshort
      rw [← List.take_append_drop (clearSize .mainDb offset) b] at hres
      have hsize : 512 ≤ buffer.length := by omega
      obtain ⟨size, hpage⟩ := read_page hf hsize hraw hdec hres
      rw [List.take_append_drop] at hpage
      exact ⟨_, hpage⟩

/-- A page of a ROT13 database, mapped and read. -/
def rot13Database : PageTransformingFile Unit Bytes :=
  (transformedFile rot13 (SQLite3FileWrapper .mainDb storeMethods)).run ⟨[], (), [], 0⟩
    [.write (List.replicate 512 0) 512 ()]

theorem rot13Database_fetch :
    fetch (SQLite3FileWrapper .mainDb storeMethods) 512 512 rot13Database =
      .returns (some (List.replicate 512 13)) rot13Database := by
  decide +kernel

theorem rot13Database_read :
    read rot13 (SQLite3FileWrapper .mainDb storeMethods) () (List.replicate 512 0) 512
        rot13Database =
      .returns () (List.replicate 512 0, rot13Database) := by
  decide +kernel

/-- A page written through ROT13 is mapped as 512 bytes of 13 and read as 512 zeros. -/
theorem rot13_fetch_disagrees :
    ¬ FetchAgrees rot13 (SQLite3FileWrapper .mainDb storeMethods) () 512 512 rot13Database := by
  intro h
  obtain ⟨self'', hread⟩ := h _ _ rot13Database_fetch (List.replicate 512 0) List.length_replicate
  rw [rot13Database_read, Outcome.returns.injEq, Prod.mk.injEq] at hread
  exact absurd hread.2.1 (by decide +kernel)

/-- The same page: mapping and reading it agree exactly if it decoded to itself. -/
theorem rot13Database_fetchAgrees_iff :
    FetchAgrees rot13 (SQLite3FileWrapper .mainDb storeMethods) () 512 512 rot13Database ↔
      (512 : Int) < 512 ∨
        DecodesToItself rot13 () 512 (List.replicate 512 13) rot13Database.derived :=
  fetchAgrees_iff (storeMethods_mapsFaithfully .mainDb) rfl (by decide) rot13Database_fetch

end Ysqlite3.Vfs
