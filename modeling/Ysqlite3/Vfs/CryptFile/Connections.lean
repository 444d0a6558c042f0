import Ysqlite3.Vfs.CryptFile.Rollback
import Ysqlite3.Misc.Sharing

/-!
# Connections to an encrypted file

Several connections have the same main database open, each through a Crypt_file of its own. They come and go,
set their keys by the URI or by pragmas, and read, write and truncate in any order. In between, a crash can
tear pages.
-/

namespace Ysqlite3.Vfs

open PageTransformingFile Crypt

variable {σ : Type} {p : PageSize}

/-- A call through one of the connections. -/
inductive ConnectionCall (p : PageSize) where
  | page (call : PageCall p)
  | pragma (pragma : Pragma) (value : Bytes) (kdf : KdfCall)
  | truncate (n : Nat)

/-- A Crypt_file as a connection uses it. -/
def connection (ssl : OpenSsl) (P : File σ) (p : PageSize) :
    Component (PageTransformingFile Crypt σ) (ConnectionCall p) FileReply where
  step self
    | .page call => (cryptFile ssl P).step self call.toCryptCall
    | .pragma pragma value kdf => (cryptFile ssl P).step self (.pragma pragma.name (some value) kdf)
    | .truncate n => FileReply.ofUnit self (PageTransformingFile.truncate P (p.offset n) self)

/-- What a Crypt_file shares with the others is the file of its parent. -/
def parentPart : StatePart (PageTransformingFile Crypt σ) σ where
  get self := self.parent
  set parent self := { self with parent }
  get_set _ _ := rfl

/-- A crash: the pages that were being written, and what it leaves. -/
structure Crash (σ : Type) where
  torn : List Nat
  left : σ

/-- The connections to one file. -/
def connections (ssl : OpenSsl) (P : File σ) (p : PageSize) :
    Component (Instances Nat (PageTransformingFile Crypt σ) σ)
      (InstanceCall Nat (PageTransformingFile Crypt σ) σ (ConnectionCall p) (Crash σ))
      (Option FileReply) :=
  (connection ssl P p).shared parentPart (fun _ crash => crash.left)

/-- The constructor of a Crypt_file over the open file of its parent. -/
def openCrypt (ssl : OpenSsl) (kdf : KdfCall) (uriKey uriCipher : Option Bytes) (parent : σ) :
    Option (PageTransformingFile Crypt σ) :=
  (Crypt.construct ssl kdf uriKey uriCipher).map
    (fun derived => { parent, derived, tmpBuffer := [], pageSize := 0 })

/-! ## The plain store -/

/-- The plain store; pragmas do not concern it. -/
def plainStore (p : PageSize) :
    Component (Nat → Option (Page p)) (ConnectionCall p) (PageReply p) where
  step store
    | .page call => (pageStore p).step store call
    | .pragma _ _ _ => (.page none, store)
    | .truncate n => (.written, fun k => if k < n then store k else none)

/-- There is no promise about a torn page. -/
def forget (store : Nat → Option (Page p)) (crash : Crash σ) : Nat → Option (Page p) :=
  fun k => if k ∈ crash.torn then none else store k

/-- One plain store for all connections. -/
def plainStores (σ : Type) (p : PageSize) :
    Component (Nat → Option (Page p))
      (InstanceCall Nat (PageTransformingFile Crypt σ) σ (ConnectionCall p) (Crash σ))
      (Option (PageReply p)) :=
  (plainStore p).merged Nat (PageTransformingFile Crypt σ) σ forget

theorem connections_call_ne (ssl : OpenSsl) (P : File σ)
    (s : Instances Nat (PageTransformingFile Crypt σ) σ) {id id' : Nat} (h : id' ≠ id)
    (c : ConnectionCall p) :
    ((connections ssl P p).next s (.call id c)).instances id' = s.instances id' :=
  Component.shared_call_ne _ _ _ s h c

/-! ## One call -/

section Calls

variable {ssl : OpenSsl} {P : File σ} {content : σ → Bytes} {encryptor : Encryptor}
  {self : PageTransformingFile Crypt σ} {store : Nat → Option (Page p)}

/-- The pages of the store open in the file. -/
def Holds (ssl : OpenSsl) (content : σ → Bytes) (encryptor : Encryptor) (parent : σ)
    (store : Nat → Option (Page p)) : Prop :=
  ∀ k page, store k = some page →
    ReserveFits encryptor k page ∧ PageOpens ssl encryptor p (content parent) k page

/-- Pages are accessed with the mode off and the key and the cipher of the database. -/
def UsesEncryptor (encryptor : Encryptor) (self : PageTransformingFile Crypt σ) :
    ConnectionCall p → Prop
  | .page call =>
    self.derived.transform = false ∧ self.derived.current = encryptor ∧ call.Fits encryptor
  | _ => True

/-- A crash leaves the pages as they are that it does not tear. -/
def TearsOnly (content : σ → Bytes) (p : PageSize) (parent : σ) (crash : Crash σ) : Prop :=
  ∀ k, k ∉ crash.torn → p.offset k + p.size ≤ (content parent).length →
    SamePage p (content parent) (content crash.left) k

theorem holds_crash {parent : σ} {crash : Crash σ} (h : Holds ssl content encryptor parent store)
    (hcrash : TearsOnly content p parent crash) :
    Holds ssl content encryptor crash.left (forget store crash) := by
  intro k page hk
  unfold forget at hk
  split at hk
  · cases hk
  · rename_i htorn
    obtain ⟨hfits, hopens⟩ := h k page hk
    exact ⟨hfits, (hcrash k htorn hopens.inFile).opens hopens⟩

/-- Cutting the file leaves the pages below the cut. -/
theorem holds_truncate (hP : Faithful P content) (h : Holds ssl content encryptor self.parent store)
    (n : Nat) :
    (connection ssl P p).reply self (.truncate n) = .done ∧
      Holds ssl content encryptor ((connection ssl P p).next self (.truncate n)).parent
        (fun k => if k < n then store k else none) := by
  obtain ⟨parent, hcontent, htruncate⟩ := hP.truncate (p.offset n) self.parent
  unfold Component.reply Component.next connection PageTransformingFile.truncate
  simp only [htruncate, Outcome.mapState_returns, FileReply.ofUnit]
  refine ⟨trivial, ?_⟩
  intro k page (hk : (if k < n then store k else none) = some page)
  by_cases hlt : k < n
  · rw [if_pos hlt] at hk
    obtain ⟨hfits, hopens⟩ := h k page hk
    have hbelow := p.offset_mono hlt
    have hin := hopens.inFile
    refine ⟨hfits, SamePage.opens ⟨?_, ?_⟩ hopens⟩
    · rw [hcontent, Store.length_resize]
      exact hbelow
    · rw [hcontent, Store.readAt_resize 0 hbelow hin]
  · rw [if_neg hlt] at hk
    cases hk

/-- Every call is answered as the plain store does, and the file still holds its pages. -/
theorem connection_simulates (hP : Faithful P content) (hf : P.format = .mainDb)
    (self : PageTransformingFile Crypt σ) (store : Nat → Option (Page p)) (call : ConnectionCall p)
    (h : Holds ssl content encryptor (parentPart.get self) store)
    (hcall : UsesEncryptor encryptor self call) :
    Answers encryptor ((connection ssl P p).reply self call) ((plainStore p).reply store call) ∧
      Holds ssl content encryptor (parentPart.get ((connection ssl P p).next self call))
        ((plainStore p).next store call) := by
  cases call with
  | page call =>
    obtain ⟨hoff, hcurrent, hfits⟩ := hcall
    have hrepresents : Represents ssl content encryptor self store := ⟨hoff, hcurrent, h⟩
    obtain ⟨hanswers, hnext⟩ := pageCall_simulates hP hf self store store call hrepresents hfits
    exact ⟨hanswers, hnext.pages⟩
  | pragma pragma value kdf =>
    constructor
    · show Answers encryptor _ (.page none)
      cases (connection ssl P p).reply self (.pragma pragma value kdf) <;> trivial
    · show Holds ssl content encryptor
        ((cryptFile ssl P).next self (.pragma pragma.name (some value) kdf)).parent store
      have hname : (Pragma.ofName pragma.name).isSome := by
        rw [Pragma.ofName_name]
        rfl
      rw [next_pragma_parent ssl P self hname]
      exact h
  | truncate n =>
    obtain ⟨hreply, hnext⟩ := holds_truncate hP h n
    rw [hreply]
    exact ⟨trivial, hnext⟩

end Calls

/-! ## Runs -/

theorem connections_related {content : σ → Bytes} (ssl : OpenSsl) {P : File σ} (hP : Faithful P content)
    (hf : P.format = .mainDb) {encryptor : Encryptor}
    {calls : List (InstanceCall Nat (PageTransformingFile Crypt σ) σ (ConnectionCall p) (Crash σ))}
    {s : Instances Nat (PageTransformingFile Crypt σ) σ} {store : Nat → Option (Page p)}
    (h : Holds ssl content encryptor s.resource store)
    (hcalls : (connections ssl P p).Throughout
      (Component.Permits parentPart (UsesEncryptor encryptor) (TearsOnly content p)) s calls) :
    List.Forall₂ (Option.Rel (Answers encryptor)) ((connections ssl P p).replies s calls)
        ((plainStores σ p).replies store calls) ∧
      Holds ssl content encryptor ((connections ssl P p).run s calls).resource
        ((plainStores σ p).run store calls) := by
  have hcrash : ∀ (parent : σ) (store : Nat → Option (Page p)) (crash : Crash σ),
      Holds ssl content encryptor parent store → TearsOnly content p parent crash →
        Holds ssl content encryptor crash.left (forget store crash) :=
    fun _ _ _ h htears => holds_crash h htears
  exact Component.shared_related (connection_simulates hP hf) hcrash h hcalls

theorem holds_none (ssl : OpenSsl) (content : σ → Bytes) (encryptor : Encryptor) (parent : σ) :
    Holds ssl content encryptor parent (fun _ => (none : Option (Page p))) :=
  fun k page hk => by cases hk

/-- In every run of any number of connections to one file, in which pages are accessed under one key and one
cipher, all connections together answer as one plain store of pages does: across closing and opening, however
each connection got its key, and after crashes for every page that was not torn. -/
theorem connections_refine_plainStore {content : σ → Bytes} (ssl : OpenSsl) (P : File σ)
    (hP : Faithful P content) (hf : P.format = .mainDb) (p : PageSize) (encryptor : Encryptor)
    (parent : σ)
    (calls : List (InstanceCall Nat (PageTransformingFile Crypt σ) σ (ConnectionCall p) (Crash σ)))
    (hcalls : (connections ssl P p).Throughout
      (Component.Permits parentPart (UsesEncryptor encryptor) (TearsOnly content p))
      ⟨fun _ => none, parent⟩ calls) :
    List.Forall₂ (Option.Rel (Answers encryptor))
      ((connections ssl P p).replies ⟨fun _ => none, parent⟩ calls)
      ((plainStores σ p).replies (fun _ => none) calls) :=
  (connections_related ssl hP hf (holds_none ssl content encryptor parent) hcalls).1

/-- A writer that has its key from the URI, and a reader that is given the same key by pragmas, in its other
spelling. -/
def writerAndReader : List (InstanceCall Nat (PageTransformingFile Crypt Bytes) Bytes
    (ConnectionCall smallPages) (Crash Bytes)) :=
  [.opens 0 (openCrypt maskSsl .succeeds (some (cstr "r'ab'")) (some (cstr "aes-256-gcm"))),
    .opens 1 (openCrypt maskSsl .succeeds none none),
    .call 1 (.pragma .key (cstr "x'6162'") .succeeds),
    .call 1 (.pragma .cipher (cstr "aes-256-gcm") .succeeds),
    .call 0 (.page (.write 0 firstPage (Vector.replicate 8 1))),
    .call 1 (.page (.read 0 plainPage (Vector.replicate 8 2)))]

/-- The key and the cipher of both. -/
def commonEncryptor : Encryptor := ⟨some .aes256Gcm, maskSsl.pbkdf2 (cstr "ab") 2⟩

theorem writerAndReader_permitted :
    (connections maskSsl (SQLite3FileWrapper .mainDb storeMethods) smallPages).Throughout
      (Component.Permits parentPart (UsesEncryptor commonEncryptor)
        (TearsOnly (fun s => s) smallPages))
      ⟨fun _ => none, []⟩ writerAndReader := by
  refine ⟨trivial, trivial, ⟨_, rfl, trivial⟩, ⟨_, rfl, trivial⟩, ⟨_, rfl, rfl, rfl, fun _ _ => rfl⟩,
    ⟨⟨[], ⟨false, commonEncryptor, Encryptor.initial, []⟩, [], 0⟩, ?_, rfl, rfl, trivial⟩, trivial⟩
  -- The write has left the reader alone.
  exact (connections_call_ne _ _ _ (by decide) _).trans rfl

theorem writerAndReader_refine_plainStore :
    List.Forall₂ (Option.Rel (Answers commonEncryptor))
      ((connections maskSsl (SQLite3FileWrapper .mainDb storeMethods) smallPages).replies
        ⟨fun _ => none, []⟩ writerAndReader)
      ((plainStores Bytes smallPages).replies (fun _ => none) writerAndReader) :=
  connections_refine_plainStore maskSsl (SQLite3FileWrapper .mainDb storeMethods)
    (storeMethods_faithful .mainDb) rfl smallPages commonEncryptor [] writerAndReader
    writerAndReader_permitted

/-! ## Recovery -/

/-- What a recovery may do to bring a store back: connect, read, write pages as they were, and cut the file
where there was nothing. -/
def Recovers (store : Nat → Option (Page p)) :
    InstanceCall Nat (PageTransformingFile Crypt σ) σ (ConnectionCall p) (Crash σ) → Prop
  | .opens _ _ => True
  | .closes _ => True
  | .call _ (.page (.read _ _ _)) => True
  | .call _ (.page (.write k page _)) => store k = some page
  | .call _ (.pragma _ _ _) => True
  | .call _ (.truncate n) => ∀ k, n ≤ k → store k = none
  | .changes _ => False

/-- The recovery writes page `k`. -/
def Rewrites (k : Nat)
    (recovery : List (InstanceCall Nat (PageTransformingFile Crypt σ) σ (ConnectionCall p) (Crash σ))) :
    Prop :=
  ∃ id page rand, .call id (.page (.write k page rand)) ∈ recovery

/-- One call of a recovery leaves the pages that are as they were. -/
theorem recovers_next {store current : Nat → Option (Page p)}
    {c : InstanceCall Nat (PageTransformingFile Crypt σ) σ (ConnectionCall p) (Crash σ)}
    (hc : Recovers store c) {k : Nat} (h : current k = store k ∨ Rewrites k [c]) :
    (plainStores σ p).next current c k = store k := by
  have hquiet (hne : ∀ id page rand, c ≠ .call id (.page (.write k page rand)))
      (hsame : (plainStores σ p).next current c k = current k) :
      (plainStores σ p).next current c k = store k := by
    rcases h with hk | ⟨id, page, rand, hmem⟩
    · exact hsame.trans hk
    · exact absurd (List.mem_singleton.mp hmem).symm (hne id page rand)
  cases c with
  | opens id construct => exact hquiet (fun _ _ _ h => by cases h) rfl
  | closes id => exact hquiet (fun _ _ _ h => by cases h) rfl
  | changes crash => exact absurd hc id
  | call id call =>
    cases call with
    | pragma pragma value kdf => exact hquiet (fun _ _ _ h => by cases h) rfl
    | truncate n =>
      have hcut : (plainStores σ p).next current (.call id (.truncate n)) k =
          if k < n then current k else none := rfl
      by_cases hlt : k < n
      · exact hquiet (fun _ _ _ h => by cases h) (hcut.trans (if_pos hlt))
      · exact (hcut.trans (if_neg hlt)).trans (hc k (Nat.le_of_not_lt hlt)).symm
    | page access =>
      cases access with
      | read j buffer rand => exact hquiet (fun _ _ _ h => by cases h) rfl
      | write j page rand =>
        have hwrite : (plainStores σ p).next current (.call id (.page (.write j page rand))) =
            Function.update current j (some page) := rfl
        by_cases hkj : k = j
        · subst hkj
          rw [hwrite, Function.update_self]
          exact hc.symm
        · refine hquiet (fun id' page' rand' h => ?_) ?_
          · cases h
            exact hkj rfl
          · rw [hwrite, Function.update_of_ne hkj]

/-- A recovery that rewrites what is missing brings the store back. -/
theorem recovers_run {store : Nat → Option (Page p)}
    {recovery : List (InstanceCall Nat (PageTransformingFile Crypt σ) σ (ConnectionCall p) (Crash σ))}
    (hrecovers : ∀ c ∈ recovery, Recovers store c) :
    ∀ {current : Nat → Option (Page p)}, (∀ k, current k = store k ∨ Rewrites k recovery) →
      (plainStores σ p).run current recovery = store := by
  induction recovery with
  | nil =>
    intro current h
    funext k
    rcases h k with hk | ⟨id, page, rand, hmem⟩
    · exact hk
    · cases hmem
  | cons c recovery ih =>
    intro current h
    obtain ⟨hc, hrest⟩ := List.forall_mem_cons.mp hrecovers
    refine ih hrest (fun k => ?_)
    rcases h k with hk | ⟨id, page, rand, hmem⟩
    · exact Or.inl (recovers_next hc (Or.inl hk))
    · rcases List.mem_cons.mp hmem with hhead | htail
      · exact Or.inl (recovers_next hc (Or.inr ⟨id, page, rand, List.mem_singleton.mpr hhead⟩))
      · exact Or.inr ⟨id, page, rand, htail⟩

/-- After a crash that tears pages, a recovery that writes them as they were, through whichever connections,
loses nothing: all that follows is answered as if there had been no crash. -/
theorem crash_recovers {content : σ → Bytes} (ssl : OpenSsl) (P : File σ) (hP : Faithful P content)
    (hf : P.format = .mainDb) (p : PageSize) (encryptor : Encryptor) (parent : σ)
    (before recovery after :
      List (InstanceCall Nat (PageTransformingFile Crypt σ) σ (ConnectionCall p) (Crash σ)))
    (crash : Crash σ)
    (hcalls : (connections ssl P p).Throughout
      (Component.Permits parentPart (UsesEncryptor encryptor) (TearsOnly content p))
      ⟨fun _ => none, parent⟩ (before ++ .changes crash :: (recovery ++ after)))
    (hrecovers : ∀ c ∈ recovery,
      Recovers ((plainStores σ p).run (fun _ => none) before) c)
    (hrewrites : ∀ k ∈ crash.torn, (plainStores σ p).run (fun _ => none) before k ≠ none →
      Rewrites k recovery) :
    List.Forall₂ (Option.Rel (Answers encryptor))
      ((connections ssl P p).replies ((connections ssl P p).run ⟨fun _ => none, parent⟩
        (before ++ .changes crash :: recovery)) after)
      ((plainStores σ p).replies ((plainStores σ p).run (fun _ => none) before) after) := by
  rw [List.append_cons, ← List.append_assoc, Component.throughout_append] at hcalls
  rw [List.append_cons]
  obtain ⟨hearlier, hlater⟩ := hcalls
  have hholds := (connections_related ssl hP hf (holds_none ssl content encryptor parent) hearlier).2
  -- The recovery brings the plain store back that the crash tore.
  have hback : (plainStores σ p).run (fun _ => none) (before ++ [.changes crash] ++ recovery) =
      (plainStores σ p).run (fun _ => none) before := by
    rw [Component.run_append, Component.run_snoc]
    refine recovers_run hrecovers (fun k => ?_)
    have hforget : (plainStores σ p).next ((plainStores σ p).run (fun _ => none) before)
        (.changes crash) k =
          if k ∈ crash.torn then none else (plainStores σ p).run (fun _ => none) before k := rfl
    rw [hforget]
    by_cases htorn : k ∈ crash.torn
    · rw [if_pos htorn]
      by_cases hnone : (plainStores σ p).run (fun _ => none) before k = none
      · exact Or.inl hnone.symm
      · exact Or.inr (hrewrites k htorn hnone)
    · rw [if_neg htorn]
      exact Or.inl rfl
  rw [hback] at hholds
  exact (connections_related ssl hP hf hholds hlater).1

/-- A connection with the key from the URI, and its first call. -/
def connectAnd (id : Nat) (access : PageCall smallPages) :
    List (InstanceCall Nat (PageTransformingFile Crypt Bytes) Bytes (ConnectionCall smallPages)
      (Crash Bytes)) :=
  [.opens id (openCrypt maskSsl .succeeds (some (cstr "r'ab'")) (some (cstr "aes-256-gcm"))),
    .call id (.page access)]

def firstWrite : PageCall smallPages :=
  .write 0 firstPage (Vector.replicate 8 1)

def firstRead : PageCall smallPages :=
  .read 0 plainPage (Vector.replicate 8 1)

/-- The first page was written, and a crash fills it with zeros. -/
def zeroedPage : Crash Bytes where
  torn := [0]
  left := Store.writeAt 0
    ((connections maskSsl (SQLite3FileWrapper .mainDb storeMethods) smallPages).run ⟨fun _ => none, []⟩
      (connectAnd 0 firstWrite)).resource (smallPages.offset 0) (List.replicate 512 0)

theorem zeroedPage_tears :
    TearsOnly (fun s => s) smallPages
      ((connections maskSsl (SQLite3FileWrapper .mainDb storeMethods) smallPages).run
        ⟨fun _ => none, []⟩ (connectAnd 0 firstWrite)).resource zeroedPage := by
  intro k hk hin
  have hlength : (List.replicate 512 (0 : UInt8)).length = smallPages.size := List.length_replicate
  have hne : k ≠ 0 := fun h => hk (List.mem_singleton.mpr h)
  unfold zeroedPage
  generalize ((connections maskSsl (SQLite3FileWrapper .mainDb storeMethods) smallPages).run
    ⟨fun _ => none, []⟩ (connectAnd 0 firstWrite)).resource = written at hin
  refine ⟨?_, readAt_writePage_ne hlength hne (Store.length_readAt_of_le hin)⟩
  rw [Store.length_writeAt]
  exact Nat.le_trans hin (Nat.le_max_left _ _)

theorem zeroedPage_recovered :
    List.Forall₂ (Option.Rel (Answers commonEncryptor))
      ((connections maskSsl (SQLite3FileWrapper .mainDb storeMethods) smallPages).replies
        ((connections maskSsl (SQLite3FileWrapper .mainDb storeMethods) smallPages).run
          ⟨fun _ => none, []⟩ (connectAnd 0 firstWrite ++ .changes zeroedPage :: connectAnd 1 firstWrite))
        (connectAnd 2 firstRead))
      ((plainStores Bytes smallPages).replies
        ((plainStores Bytes smallPages).run (fun _ => none) (connectAnd 0 firstWrite))
        (connectAnd 2 firstRead)) := by
  refine crash_recovers maskSsl (SQLite3FileWrapper .mainDb storeMethods)
    (storeMethods_faithful .mainDb) rfl smallPages commonEncryptor [] (connectAnd 0 firstWrite)
    (connectAnd 1 firstWrite) (connectAnd 2 firstRead) zeroedPage ?_ ?_ ?_
  · rw [Component.throughout_append]
    refine ⟨⟨trivial, ⟨_, rfl, rfl, rfl, fun _ _ => rfl⟩, trivial⟩, zeroedPage_tears, trivial, ?_,
      trivial, ?_, trivial⟩
    · exact ⟨_, rfl, rfl, rfl, fun _ _ => rfl⟩
    · exact ⟨_, rfl, rfl, rfl, trivial⟩
  · intro c hc
    simp only [connectAnd, List.mem_cons, List.not_mem_nil, or_false] at hc
    rcases hc with rfl | rfl
    · trivial
    · rfl
  · intro k hk _
    obtain rfl := List.mem_singleton.mp hk
    exact ⟨1, _, _, List.mem_cons_of_mem _ (List.mem_singleton_self _)⟩

end Ysqlite3.Vfs
