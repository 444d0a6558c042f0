import Ysqlite3.Error
import Ysqlite3.Misc.Component
import Mathlib.Data.List.Nodup
import Mathlib.Data.List.Range
import Mathlib.Logic.Function.Basic

/-!
# Registration of VFS objects

`register_vfs` and `unregister_vfs` over the list in which SQLite keeps the VFSes it knows. SQLite may
refuse either. An unregistered object still claims to be registered, since nothing resets the pointer
it has to itself.
-/

namespace Ysqlite3.Vfs

/-- A `sqlite3_vfs`: one that SQLite brings along, or the one inside an object. -/
inductive SQLite3Vfs where
  | builtin (number : Nat)
  | object (id : Nat)
  deriving DecidableEq, Repr

/-! ## SQLite's list -/

/-- `vfsUnlink` -/
def vfsUnlink (vfs : SQLite3Vfs) : List SQLite3Vfs → List SQLite3Vfs
  | [] => []
  | p :: next => if p = vfs then next else p :: vfsUnlink vfs next

/-- The body of `sqlite3_vfs_register`. -/
def vfsLink (vfs : SQLite3Vfs) (makeDflt : Bool) (vfsList : List SQLite3Vfs) : List SQLite3Vfs :=
  match makeDflt, vfsUnlink vfs vfsList with
  | false, head :: next => head :: vfs :: next
  | _, list => vfs :: list

theorem vfsUnlink_eq_erase (vfs : SQLite3Vfs) (list : List SQLite3Vfs) :
    vfsUnlink vfs list = list.erase vfs := by
  induction list with
  | nil => rfl
  | cons p next ih =>
    rw [vfsUnlink, ih, List.erase_cons]
    simp only [beq_iff_eq]

theorem vfsLink_perm (vfs : SQLite3Vfs) (makeDflt : Bool) (list : List SQLite3Vfs) :
    (vfsLink vfs makeDflt list).Perm (vfs :: list.erase vfs) := by
  rw [← vfsUnlink_eq_erase]
  unfold vfsLink
  cases makeDflt with
  | true => exact List.Perm.refl _
  | false =>
    cases vfsUnlink vfs list with
    | nil => exact List.Perm.refl _
    | cons head next => exact List.Perm.swap vfs head next

/-! ## Objects -/

/-- A `VFS` object: what `max_pathname()` answers, `_vfs.mxPathname`, and the object that `_registered`
points to. -/
structure VFS where
  maxPathname : Int
  mxPathname : Int
  registered : Option Nat
  deriving DecidableEq, Repr

namespace VFS

/-- A new object. -/
def new (maxPathname : Int) : VFS where
  maxPathname := maxPathname
  mxPathname := 0
  registered := none

/-- `VFS::is_registered` -/
def isRegistered (self : VFS) : Bool := self.registered.isSome

end VFS

/-- The objects of a program and SQLite's list. -/
structure Registry where
  objects : Nat → VFS
  vfsList : List SQLite3Vfs

/-- A call with what SQLite answers; the pointer given to `register_vfs` can be null. -/
inductive RegistryCall where
  | registerVfs (vfs : Option Nat) (makeDefault : Bool) (ec : SQLite3Code)
  | unregisterVfs (vfs : Nat) (ec : SQLite3Code)
  deriving DecidableEq

namespace Registry

/-- SQLite knows its own VFSes. -/
def initial (maxPathname : Nat → Int) (builtin : Nat) : Registry where
  objects id := VFS.new (maxPathname id)
  vfsList := (List.range builtin).map .builtin

def put (self : Registry) (id : Nat) (object : VFS) : Registry :=
  { self with objects := Function.update self.objects id object }

/-- `register_vfs` -/
def registerVfs (vfs : Option Nat) (makeDefault : Bool) (ec : SQLite3Code) (self : Registry) :
    Except Exception Unit × Registry :=
  match vfs with
  | none => (.error (.ysqlite3 .badArguments), self)
  | some id =>
    if (self.objects id).isRegistered then (.error (.ysqlite3 .vfsAlreadyRegistered), self)
    else
      let object := { self.objects id with mxPathname := (self.objects id).maxPathname }
      if ec ≠ 0 then (.error (.sqlite3 ec ""), self.put id object)
      else
        (.ok (), { self with vfsList := vfsLink (.object id) makeDefault self.vfsList }.put id
          { object with registered := some id })

/-- `unregister_vfs` -/
def unregisterVfs (id : Nat) (ec : SQLite3Code) (self : Registry) :
    Except Exception Unit × Registry :=
  if ec ≠ 0 then (.error (.sqlite3 ec ""), self)
  else (.ok (), { self with vfsList := vfsUnlink (.object id) self.vfsList })

def step (self : Registry) : RegistryCall → Except Exception Unit × Registry
  | .registerVfs vfs makeDefault ec => self.registerVfs vfs makeDefault ec
  | .unregisterVfs id ec => self.unregisterVfs id ec

end Registry

/-- Programs that register and unregister VFS objects. -/
def registry : Component Registry RegistryCall (Except Exception Unit) where
  step := Registry.step

namespace Registry

/-! ## What is promised, and when -/

/-- The objects know whether they are in SQLite's list: `is_registered()` says so, they keep themselves
alive just as long, and outside of the list they can be registered. -/
structure Truthful (s : Registry) : Prop where
  isRegistered_iff : ∀ id, (s.objects id).isRegistered = true ↔ .object id ∈ s.vfsList
  self_reference : ∀ id, (s.objects id).registered = some id ↔ .object id ∈ s.vfsList
  registrable : ∀ id makeDefault, .object id ∉ s.vfsList →
    (s.registerVfs (some id) makeDefault SQLite3Code.success).1 = .ok ()

/-- No VFS that is registered gets unregistered with success. -/
def KeepsRegistered (s : Registry) : RegistryCall → Prop
  | .registerVfs _ _ _ => True
  | .unregisterVfs id ec => ec = SQLite3Code.success → .object id ∉ s.vfsList

/-- The pointers of the objects agree with the list, which holds nothing twice. -/
structure Settled (s : Registry) : Prop where
  registered : ∀ id, (s.objects id).registered = if .object id ∈ s.vfsList then some id else none
  nodup : s.vfsList.Nodup

section Steps

variable {s : Registry} {id : Nat}

theorem Settled.isRegistered_iff (h : s.Settled) (id : Nat) :
    (s.objects id).isRegistered = true ↔ .object id ∈ s.vfsList := by
  rw [VFS.isRegistered, h.registered id]
  by_cases hin : SQLite3Vfs.object id ∈ s.vfsList
  · rw [if_pos hin]
    exact iff_of_true rfl hin
  · rw [if_neg hin]
    exact iff_of_false (by simp) hin

theorem registerVfs_of_registered (h : (s.objects id).isRegistered = true) (makeDefault : Bool)
    (ec : SQLite3Code) : s.registerVfs (some id) makeDefault ec =
      (.error (.ysqlite3 .vfsAlreadyRegistered), s) :=
  if_pos h

/-- The object learns its longest path name, and SQLite takes it into its list or refuses to. -/
theorem registerVfs_of_not_registered (h : ¬ (s.objects id).isRegistered = true) (makeDefault : Bool)
    (ec : SQLite3Code) : s.registerVfs (some id) makeDefault ec =
      if ec ≠ 0 then
        (.error (.sqlite3 ec ""),
          s.put id { s.objects id with mxPathname := (s.objects id).maxPathname })
      else
        (.ok (), { s with vfsList := vfsLink (.object id) makeDefault s.vfsList }.put id
          { s.objects id with mxPathname := (s.objects id).maxPathname, registered := some id }) :=
  if_neg h

theorem Settled.truthful (h : s.Settled) : s.Truthful where
  isRegistered_iff := h.isRegistered_iff
  self_reference id := by
    rw [h.registered id]
    by_cases hin : SQLite3Vfs.object id ∈ s.vfsList
    · rw [if_pos hin]
      exact iff_of_true rfl hin
    · rw [if_neg hin]
      exact iff_of_false (Option.some_ne_none id).symm hin
  registrable id makeDefault hout := by
    have hnot : ¬ (s.objects id).isRegistered = true := fun hreg => hout ((h.isRegistered_iff id).mp hreg)
    rw [registerVfs_of_not_registered hnot]
    rfl

theorem initial_settled (maxPathname : Nat → Int) (builtin : Nat) :
    (initial maxPathname builtin).Settled where
  registered id := by
    have hout : SQLite3Vfs.object id ∉ (initial maxPathname builtin).vfsList := by simp [initial]
    rw [if_neg hout]
    rfl
  nodup := List.Nodup.map (fun m n heq => by cases heq; rfl) List.nodup_range

/-- An object that only learns its longest path name. -/
theorem Settled.put (h : s.Settled) {object : VFS} (hsame : object.registered = (s.objects id).registered) :
    (s.put id object).Settled where
  registered id' := by
    have hold := h.registered id'
    by_cases hid : id' = id
    · subst hid
      simp only [Registry.put, Function.update_self, hsame]
      exact hold
    · simp only [Registry.put, Function.update_of_ne hid]
      exact hold
  nodup := h.nodup

/-- The object goes into the list and points to itself. -/
theorem Settled.link (h : s.Settled) (makeDefault : Bool) {object : VFS}
    (hself : object.registered = some id) :
    ({ s with vfsList := vfsLink (.object id) makeDefault s.vfsList }.put id object).Settled where
  registered id' := by
    have hmem : ∀ vfs, vfs ∈ vfsLink (.object id) makeDefault s.vfsList ↔
        vfs = .object id ∨ vfs ∈ s.vfsList := by
      intro vfs
      rw [(vfsLink_perm _ _ _).mem_iff, List.mem_cons, h.nodup.mem_erase_iff]
      tauto
    simp only [Registry.put, hmem]
    by_cases hid : id' = id
    · subst hid
      rw [Function.update_self, if_pos (Or.inl rfl), hself]
    · have hne : SQLite3Vfs.object id' ≠ .object id := fun heq => hid (by cases heq; rfl)
      simp only [Function.update_of_ne hid, hne, false_or]
      exact h.registered id'
  nodup := by
    have hnodup : (SQLite3Vfs.object id :: s.vfsList.erase (.object id)).Nodup :=
      List.nodup_cons.mpr ⟨h.nodup.not_mem_erase, h.nodup.erase _⟩
    exact (vfsLink_perm _ _ _).nodup_iff.mpr hnodup

theorem settled_registerVfs (h : s.Settled) (vfs : Option Nat) (makeDefault : Bool) (ec : SQLite3Code) :
    (s.registerVfs vfs makeDefault ec).2.Settled := by
  cases vfs with
  | none => exact h
  | some id =>
    by_cases hreg : (s.objects id).isRegistered = true
    · rw [registerVfs_of_registered hreg]
      exact h
    · rw [registerVfs_of_not_registered hreg]
      by_cases hec : ec ≠ 0
      · rw [if_pos hec]
        exact h.put rfl
      · rw [if_neg hec]
        exact h.link makeDefault rfl

/-- An unregistered object is gone from the list and no different otherwise. -/
theorem unregisterVfs_succeeds (id : Nat) :
    (s.unregisterVfs id SQLite3Code.success).2 = { s with vfsList := s.vfsList.erase (.object id) } := by
  rw [← vfsUnlink_eq_erase]
  rfl

theorem settled_unregisterVfs (h : s.Settled) {ec : SQLite3Code}
    (hkeeps : s.KeepsRegistered (.unregisterVfs id ec)) : (s.unregisterVfs id ec).2.Settled := by
  by_cases hec : ec = SQLite3Code.success
  · subst hec
    rw [unregisterVfs_succeeds, List.erase_of_not_mem (hkeeps rfl)]
    exact h
  · have hfails : ec ≠ 0 := hec
    unfold unregisterVfs
    rw [if_pos hfails]
    exact h

/-- A registered VFS that is unregistered goes on claiming to be registered. -/
theorem not_truthful_unregisterVfs (h : s.Settled) {ec : SQLite3Code}
    (hnot : ¬ s.KeepsRegistered (.unregisterVfs id ec)) : ¬ (s.unregisterVfs id ec).2.Truthful := by
  unfold KeepsRegistered at hnot
  push Not at hnot
  obtain ⟨rfl, hin⟩ := hnot
  intro htrue
  rw [unregisterVfs_succeeds] at htrue
  have hclaims := (h.isRegistered_iff id).mpr hin
  exact h.nodup.not_mem_erase ((htrue.isRegistered_iff id).mp hclaims)

end Steps

/-! ## Programs -/

/-- Registration is truthful all the way exactly when no registered VFS is unregistered. -/
theorem truthful_iff_keepsRegistered (maxPathname : Nat → Int) (builtin : Nat)
    (calls : List RegistryCall) :
    registry.Always Truthful (initial maxPathname builtin) calls ↔
      registry.Throughout KeepsRegistered (initial maxPathname builtin) calls := by
  apply registry.always_iff_throughout_of_invariant Settled
  · exact fun s h => h.truthful
  · intro s call h hkeeps
    cases call with
    | registerVfs vfs makeDefault ec => exact settled_registerVfs h vfs makeDefault ec
    | unregisterVfs id ec => exact settled_unregisterVfs h hkeeps
  · intro s call h hnot
    cases call with
    | registerVfs vfs makeDefault ec => exact absurd trivial hnot
    | unregisterVfs id ec => exact not_truthful_unregisterVfs h hnot
  · exact initial_settled maxPathname builtin

/-- A VFS is registered, unregistered, and refused when it is to be registered again. -/
theorem unregistered_stays_registered :
    ¬ registry.Always Truthful (initial (fun _ => 512) 1)
        [.registerVfs (some 0) true 0, .unregisterVfs 0 0] ∧
      registry.replies (initial (fun _ => 512) 1)
          [.registerVfs (some 0) true 0, .unregisterVfs 0 0, .registerVfs (some 0) true 0] =
        [.ok (), .ok (), .error (.ysqlite3 .vfsAlreadyRegistered)] := by
  refine ⟨?_, rfl⟩
  rintro ⟨-, -, hlast⟩
  have hclaims := (hlast.isRegistered_iff 0).mp rfl
  revert hclaims
  decide

end Registry

end Ysqlite3.Vfs
