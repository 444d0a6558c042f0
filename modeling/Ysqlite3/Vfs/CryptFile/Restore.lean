import Ysqlite3.Vfs.CryptFile.Connections

/-!
# Restored files

Pages keep opening when they are copied: from an earlier version of the file, to another place, or both. So a
file can be put together from pages of its earlier versions, by a backup as well as by an adversary, and all
connections take it for genuine.
-/

namespace Ysqlite3.Vfs

open PageTransformingFile Crypt

variable {σ : Type} {p : PageSize}

/-- A run of connections to one file. -/
abbrev ConnectionRun (σ : Type) (p : PageSize) :=
  List (InstanceCall Nat (PageTransformingFile Crypt σ) σ (ConnectionCall p) (Crash σ))

/-- A page of the file as it was after so many calls of a run. -/
structure Origin where
  time : Nat
  page : Nat
  deriving DecidableEq, Repr

/-- The page at `k` of one store is the page at `i` of another, byte by byte. The first page, whose header is
not encrypted, stays the first. -/
structure CopiedPage (p : PageSize) (s s' : Bytes) (i k : Nat) : Prop where
  first : i = 0 ↔ k = 0
  same : Store.readAt s' (p.offset k) p.size = Store.readAt s (p.offset i) p.size

/-- How far into the file a page reaches shows in what can be read. -/
theorem inFile_of_readAt {s : Bytes} {k : Nat} (h : (Store.readAt s (p.offset k) p.size).length = p.size) :
    p.offset k + p.size ≤ s.length := by
  have hsize := p.isPage
  rw [Store.readAt, List.length_take, List.length_drop] at h
  omega

theorem clearSize_copied {i k : Nat} (h : i = 0 ↔ k = 0) :
    clearSize .mainDb (p.offset i) = clearSize .mainDb (p.offset k) := by
  by_cases hi : i = 0
  · rw [hi, h.mp hi]
  · have hk : k ≠ 0 := fun hk => hi (h.mpr hk)
    have hi' := p.le_offset (Nat.pos_of_ne_zero hi)
    have hk' := p.le_offset (Nat.pos_of_ne_zero hk)
    unfold clearSize
    rw [if_neg (by simp; omega), if_neg (by simp; omega)]

/-- A copied page opens to the same page. -/
theorem CopiedPage.opens {ssl : OpenSsl} {encryptor : Encryptor} {s s' : Bytes} {i k : Nat} {page : Page p}
    (h : CopiedPage p s s' i k) (hopens : PageOpens ssl encryptor p s i page) :
    PageOpens ssl encryptor p s' k page := by
  have hlength := Store.length_readAt_of_le hopens.inFile
  refine ⟨inFile_of_readAt (by rw [h.same, hlength]), ?_⟩
  rw [h.same, ← clearSize_copied h.first]
  exact hopens.opens

theorem CopiedPage.fits {encryptor : Encryptor} {s s' : Bytes} {i k : Nat} {page : Page p}
    (h : CopiedPage p s s' i k) (hfits : ReserveFits encryptor i page) : ReserveFits encryptor k page :=
  fun hk => hfits (h.first.mpr hk)

/-- What the plain store is after the same has been done with its pages. -/
def restoredStore (calls : ConnectionRun σ p) (origin : Nat → Option Origin) : Nat → Option (Page p) :=
  fun k => (origin k).bind (fun o => (plainStores σ p).run (fun _ => none) (calls.take o.time) o.page)

/-- A file put together from pages of its earlier versions holds the pages that they held. -/
theorem holds_restored {content : σ → Bytes} (ssl : OpenSsl) {P : File σ} (hP : Faithful P content)
    (hf : P.format = .mainDb) {encryptor : Encryptor} {parent left : σ} {calls : ConnectionRun σ p}
    {origin : Nat → Option Origin}
    (hcalls : (connections ssl P p).Throughout
      (Component.Permits parentPart (UsesEncryptor encryptor) (TearsOnly content p))
      ⟨fun _ => none, parent⟩ calls)
    (hleft : ∀ k o, origin k = some o → CopiedPage p
      (content ((connections ssl P p).run ⟨fun _ => none, parent⟩ (calls.take o.time)).resource)
      (content left) o.page k) :
    Holds ssl content encryptor left (restoredStore calls origin) := by
  intro k page hk
  obtain ⟨o, horigin, hpage⟩ := Option.bind_eq_some_iff.mp hk
  -- The version the page is from held it.
  have hearlier : (connections ssl P p).Throughout
      (Component.Permits parentPart (UsesEncryptor encryptor) (TearsOnly content p))
      ⟨fun _ => none, parent⟩ (calls.take o.time) := by
    rw [← List.take_append_drop o.time calls, Component.throughout_append] at hcalls
    exact hcalls.1
  have hholds := (connections_related ssl hP hf (holds_none ssl content encryptor parent) hearlier).2
  obtain ⟨hfits, hopens⟩ := hholds o.page page hpage
  have hcopied := hleft k o horigin
  exact ⟨hcopied.fits hfits, hcopied.opens hopens⟩

/-- When the file is replaced by one put together from pages of its earlier versions, each in its old place or
in another, all that follows is answered as by a plain store whose pages were put together in the same way:
neither a restored backup nor an old or a moved page is noticed. -/
theorem restored_refines_plainStore {content : σ → Bytes} (ssl : OpenSsl) (P : File σ)
    (hP : Faithful P content) (hf : P.format = .mainDb) (encryptor : Encryptor) (parent left : σ)
    (calls after : ConnectionRun σ p) (origin : Nat → Option Origin)
    (hcalls : (connections ssl P p).Throughout
      (Component.Permits parentPart (UsesEncryptor encryptor) (TearsOnly content p))
      ⟨fun _ => none, parent⟩ calls)
    (hleft : ∀ k o, origin k = some o → CopiedPage p
      (content ((connections ssl P p).run ⟨fun _ => none, parent⟩ (calls.take o.time)).resource)
      (content left) o.page k)
    (hafter : (connections ssl P p).Throughout
      (Component.Permits parentPart (UsesEncryptor encryptor) (TearsOnly content p))
      { (connections ssl P p).run ⟨fun _ => none, parent⟩ calls with resource := left } after) :
    List.Forall₂ (Option.Rel (Answers encryptor))
      ((connections ssl P p).replies
        { (connections ssl P p).run ⟨fun _ => none, parent⟩ calls with resource := left } after)
      ((plainStores σ p).replies (restoredStore calls origin) after) :=
  (connections_related ssl hP hf (holds_restored ssl hP hf hcalls hleft) hafter).1

/-- Two writers, of which the second overwrites the page of the first. -/
def twoVersions : ConnectionRun Bytes smallPages :=
  [.opens 0 (openCrypt maskSsl .succeeds (some (cstr "r'ab'")) (some (cstr "aes-256-gcm"))),
    .opens 1 (openCrypt maskSsl .succeeds (some (cstr "r'ab'")) (some (cstr "aes-256-gcm"))),
    .call 0 (.page (.write 0 firstPage (Vector.replicate 8 1))),
    .call 1 (.page (.write 0 ⟨firstPage.val.set 200 7, List.length_set.trans firstPage.property⟩
      (Vector.replicate 8 2)))]

/-- Another connection, which reads the page. -/
def laterReader : ConnectionRun Bytes smallPages :=
  [.opens 2 (openCrypt maskSsl .succeeds (some (cstr "r'ab'")) (some (cstr "aes-256-gcm"))),
    .call 2 (.page (.read 0 plainPage (Vector.replicate 8 3)))]

theorem twoVersions_permitted :
    (connections maskSsl (SQLite3FileWrapper .mainDb storeMethods) smallPages).Throughout
      (Component.Permits parentPart (UsesEncryptor commonEncryptor)
        (TearsOnly (fun s => s) smallPages))
      ⟨fun _ => none, []⟩ twoVersions := by
  refine ⟨trivial, trivial, ⟨_, rfl, rfl, rfl, fun _ _ => rfl⟩,
    ⟨⟨[], ⟨false, commonEncryptor, Encryptor.initial, []⟩, [], 0⟩, ?_, rfl, rfl, fun _ _ => rfl⟩, trivial⟩
  -- The first write has left the second writer alone.
  exact (connections_call_ne _ _ _ (by decide) _).trans rfl

/-- The file as it was before the second write. -/
def firstVersion : Bytes :=
  ((connections maskSsl (SQLite3FileWrapper .mainDb storeMethods) smallPages).run
    ⟨fun _ => none, []⟩ (twoVersions.take 3)).resource

theorem firstVersion_refines_plainStore :
    List.Forall₂ (Option.Rel (Answers commonEncryptor))
      ((connections maskSsl (SQLite3FileWrapper .mainDb storeMethods) smallPages).replies
        { (connections maskSsl (SQLite3FileWrapper .mainDb storeMethods) smallPages).run
          ⟨fun _ => none, []⟩ twoVersions with resource := firstVersion } laterReader)
      ((plainStores Bytes smallPages).replies
        (restoredStore twoVersions (fun k => some ⟨3, k⟩)) laterReader) := by
  refine restored_refines_plainStore maskSsl (SQLite3FileWrapper .mainDb storeMethods)
    (storeMethods_faithful .mainDb) rfl commonEncryptor [] firstVersion twoVersions laterReader
    (fun k => some ⟨3, k⟩) twoVersions_permitted ?_ ?_
  · rintro k o ho
    cases ho
    exact ⟨Iff.rfl, rfl⟩
  · exact ⟨trivial, ⟨_, rfl, rfl, rfl, trivial⟩, trivial⟩

end Ysqlite3.Vfs
