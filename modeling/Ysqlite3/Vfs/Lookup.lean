import Ysqlite3.Span
import Ysqlite3.Vfs.Registration

/-!
# Which VFS is found

`find_vfs` walks through SQLite's list, whose first VFS is the default. A new VFS goes to the head of the list
or right behind it.
-/

namespace Ysqlite3.Vfs

/-- `sqlite3_vfs_find` of an SQLite that is initialised, as `sqlite3_initialize` can fail no more then; a null
pointer asks for the default. -/
def sqlite3VfsFind (zName : SQLite3Vfs → Bytes) (zVfs : Option Bytes) (vfsList : List SQLite3Vfs) :
    Option SQLite3Vfs :=
  match zVfs with
  | none => vfsList.head?
  | some zVfs => vfsList.find? (fun vfs => cString zVfs = cString (zName vfs))

theorem mem_vfsLink_iff (vfs : SQLite3Vfs) (makeDflt : Bool) (list : List SQLite3Vfs) (vfs' : SQLite3Vfs) :
    vfs' ∈ vfsLink vfs makeDflt list ↔ vfs' = vfs ∨ vfs' ∈ list := by
  rw [(vfsLink_perm vfs makeDflt list).mem_iff, List.mem_cons]
  constructor
  · exact Or.imp_right List.mem_of_mem_erase
  · rintro (heq | hmem)
    · exact Or.inl heq
    · by_cases heq : vfs' = vfs
      · exact Or.inl heq
      · exact Or.inr ((List.mem_erase_of_ne heq).mpr hmem)

theorem head?_vfsLink_true (vfs : SQLite3Vfs) (list : List SQLite3Vfs) :
    (vfsLink vfs true list).head? = some vfs := rfl

/-- A new VFS that is not to be the default leaves the one there is. -/
theorem head?_vfsLink_false {vfs : SQLite3Vfs} {list : List SQLite3Vfs} (hne : list ≠ []) (hnew : vfs ∉ list) :
    (vfsLink vfs false list).head? = list.head? := by
  unfold vfsLink
  rw [vfsUnlink_eq_erase, List.erase_of_not_mem hnew]
  cases list with
  | nil => exact absurd rfl hne
  | cons head next => rfl

theorem head?_erase {vfs : SQLite3Vfs} {list : List SQLite3Vfs} (hne : list.head? ≠ some vfs) :
    (list.erase vfs).head? = list.head? := by
  cases list with
  | nil => rfl
  | cons head next =>
    have hhead : head ≠ vfs := fun heq => hne (congrArg some heq)
    rw [List.erase_cons_tail (by simpa using hhead)]
    rfl

namespace Registry

/-- `find_vfs` -/
def findVfs (zName : SQLite3Vfs → Bytes) (name : Option Bytes) (self : Registry) : Option SQLite3Vfs :=
  sqlite3VfsFind zName name self.vfsList

/-! ## What a program knows -/

/-- What a call that succeeds has done to object `id`. -/
def registers (id : Nat) (call : RegistryCall) (reply : Except Exception Unit) : Option Bool :=
  match call, reply with
  | .registerVfs (some id') _ _, .ok () => if id' = id then some true else none
  | .unregisterVfs id' _, .ok () => if id' = id then some false else none
  | _, _ => none

/-- The VFS that a call has made the default. -/
def madeDefault (call : RegistryCall) (reply : Except Exception Unit) : Option SQLite3Vfs :=
  match call, reply with
  | .registerVfs (some id) true _, .ok () => some (.object id)
  | _, _ => none

/-- The VFSes that are registered, as the calls and the replies tell: those that SQLite brings along, and the
objects that were last registered and not unregistered. -/
def Known (builtin : Nat) (history : List (RegistryCall × Except Exception Unit)) : SQLite3Vfs → Prop
  | .builtin number => number < builtin
  | .object id => Component.lastOf (fun call => registers id call.1 call.2) false history = true

/-- The default is not unregistered. -/
def KeepsDefault (s : Registry) : RegistryCall → Prop
  | .registerVfs _ _ _ => True
  | .unregisterVfs id ec => ec = SQLite3Code.success → s.vfsList.head? ≠ some (.object id)

/-! ## Steps -/

/-- What is in the list claims to be registered, and SQLite's own VFSes stay. -/
structure Listed (builtin : Nat) (s : Registry) : Prop where
  nodup : s.vfsList.Nodup
  claims : ∀ id, .object id ∈ s.vfsList → (s.objects id).isRegistered = true
  own : ∀ number, .builtin number ∈ s.vfsList ↔ number < builtin

/-- What one call does to the list: nothing, or it puts an object in or takes one out. -/
inductive ListStep (s : Registry) : RegistryCall → Except Exception Unit → Registry → Prop
  | refused {call : RegistryCall} {e : Exception} {s' : Registry} (hlist : s'.vfsList = s.vfsList)
    (hclaims : ∀ id, (s.objects id).isRegistered = true → (s'.objects id).isRegistered = true) :
    ListStep s call (.error e) s'
  | linked {id : Nat} {makeDefault : Bool} {ec : SQLite3Code} {s' : Registry}
    (hnew : ¬ (s.objects id).isRegistered = true)
    (hlist : s'.vfsList = vfsLink (.object id) makeDefault s.vfsList)
    (hclaims : ∀ id', id' = id ∨ (s.objects id').isRegistered = true → (s'.objects id').isRegistered = true) :
    ListStep s (.registerVfs (some id) makeDefault ec) (.ok ()) s'
  | unlinked {id : Nat} {ec : SQLite3Code} (hec : ec = SQLite3Code.success) :
    ListStep s (.unregisterVfs id ec) (.ok ()) { s with vfsList := s.vfsList.erase (.object id) }

theorem isRegistered_put {s : Registry} {id : Nat} {object : VFS} {id' : Nat}
    (h : id' = id → object.isRegistered = true) (hother : id' ≠ id → (s.objects id').isRegistered = true) :
    ((s.put id object).objects id').isRegistered = true := by
  by_cases hid : id' = id
  · subst hid
    simp only [put, Function.update_self]
    exact h rfl
  · simp only [put, Function.update_of_ne hid]
    exact hother hid

theorem listStep (s : Registry) (call : RegistryCall) :
    ListStep s call (registry.reply s call) (registry.next s call) := by
  cases call with
  | registerVfs vfs makeDefault ec =>
    cases vfs with
    | none => exact .refused rfl (fun _ h => h)
    | some id =>
      unfold Component.reply Component.next registry step
      by_cases hreg : (s.objects id).isRegistered = true
      · simp only [registerVfs_of_registered hreg]
        exact .refused rfl (fun _ h => h)
      · simp only [registerVfs_of_not_registered hreg]
        by_cases hec : ec ≠ 0
        · simp only [if_pos hec]
          refine .refused rfl (fun id' h => isRegistered_put ?_ (fun _ => h))
          rintro rfl
          exact absurd h hreg
        · simp only [if_neg hec]
          exact .linked hreg rfl (fun id' h => isRegistered_put (fun _ => rfl) (fun hne => h.resolve_left hne))
  | unregisterVfs id ec =>
    by_cases hec : ec = SQLite3Code.success
    · have hnext := unregisterVfs_succeeds (s := s) id
      unfold Component.reply Component.next registry step
      subst hec
      rw [hnext]
      exact .unlinked rfl
    · have hfails : ec ≠ 0 := hec
      unfold Component.reply Component.next registry step unregisterVfs
      simp only [if_pos hfails]
      exact .refused rfl (fun _ h => h)

theorem listed_next {builtin : Nat} {s : Registry} (h : s.Listed builtin) (call : RegistryCall) :
    (registry.next s call).Listed builtin := by
  have hstep := listStep s call
  generalize registry.reply s call = reply at hstep
  generalize registry.next s call = s' at hstep ⊢
  cases hstep with
  | refused hlist hclaims =>
    refine ⟨hlist ▸ h.nodup, fun id hid => hclaims id (h.claims id (hlist ▸ hid)), ?_⟩
    rw [hlist]
    exact h.own
  | @linked id makeDefault _ _ hnew hlist hclaims =>
    have hout : SQLite3Vfs.object id ∉ s.vfsList := fun hin => hnew (h.claims id hin)
    refine ⟨?_, fun id' hid' => hclaims id' ?_, fun number => ?_⟩
    · rw [hlist, (vfsLink_perm _ _ _).nodup_iff, List.erase_of_not_mem hout]
      exact List.nodup_cons.mpr ⟨hout, h.nodup⟩
    · rw [hlist, mem_vfsLink_iff] at hid'
      refine hid'.imp (fun heq => ?_) (fun hmem => h.claims id' hmem)
      cases heq
      rfl
    · rw [hlist, mem_vfsLink_iff, ← h.own number]
      exact or_iff_right (fun heq => nomatch heq)
  | unlinked =>
    refine ⟨h.nodup.erase _, fun id' hid' => h.claims id' (List.mem_of_mem_erase hid'), fun number => ?_⟩
    rw [← h.own number]
    exact List.mem_erase_of_ne (fun heq => nomatch heq)

theorem listed_initial (maxPathname : Nat → Int) (builtin : Nat) :
    (initial maxPathname builtin).Listed builtin where
  nodup := (initial_settled maxPathname builtin).nodup
  claims id hid := by simp [initial] at hid
  own number := by simp [initial]

theorem object_ne {id id' : Nat} (h : ¬ id' = id) : SQLite3Vfs.object id ≠ .object id' := by
  rintro ⟨⟩
  exact h rfl

/-- The step lemma for an object. -/
theorem mem_next {builtin : Nat} {s : Registry} (h : s.Listed builtin) (call : RegistryCall) (id : Nat) :
    decide (.object id ∈ (registry.next s call).vfsList) =
      (registers id call (registry.reply s call)).getD (decide (.object id ∈ s.vfsList)) := by
  have hstep := listStep s call
  generalize registry.reply s call = reply at hstep ⊢
  generalize registry.next s call = s' at hstep ⊢
  cases hstep with
  | refused hlist _ =>
    rw [hlist]
    cases call with
    | registerVfs vfs makeDefault ec => cases vfs <;> rfl
    | unregisterVfs id ec => rfl
  | @linked id' makeDefault _ _ _ hlist _ =>
    rw [hlist]
    simp only [registers, mem_vfsLink_iff]
    by_cases hid : id' = id
    · subst hid
      simp
    · have hne := object_ne hid
      simp [hid, hne]
  | @unlinked id' _ _ =>
    simp only [registers]
    by_cases hid : id' = id
    · subst hid
      simp [h.nodup.not_mem_erase]
    · have hne := object_ne hid
      simp [hid, List.mem_erase_of_ne hne]

/-- The step lemma for the default. -/
theorem head?_next {builtin : Nat} {s : Registry} (h : s.Listed builtin) (hbuiltin : 0 < builtin)
    (call : RegistryCall) (hkeeps : s.KeepsDefault call) :
    (registry.next s call).vfsList.head? =
      ((madeDefault call (registry.reply s call)).map some).getD s.vfsList.head? := by
  have hstep := listStep s call
  generalize registry.reply s call = reply at hstep ⊢
  generalize registry.next s call = s' at hstep ⊢
  have hne : s.vfsList ≠ [] := List.ne_nil_of_mem ((h.own 0).mpr hbuiltin)
  cases hstep with
  | refused hlist _ =>
    rw [hlist]
    cases call with
    | registerVfs vfs makeDefault ec =>
      cases vfs with
      | none => rfl
      | some id => cases makeDefault <;> rfl
    | unregisterVfs id ec => rfl
  | @linked id makeDefault _ _ hnew hlist _ =>
    rw [hlist]
    cases makeDefault with
    | true => exact head?_vfsLink_true _ _
    | false => exact head?_vfsLink_false hne (fun hin => hnew (h.claims id hin))
  | @unlinked id ec hec => exact head?_erase (hkeeps hec)

/-! ## Programs -/

theorem anything_goes (maxPathname : Nat → Int) (builtin : Nat) (calls : List RegistryCall) :
    registry.Throughout (fun _ _ => True) (initial maxPathname builtin) calls :=
  registry.throughout_of_forall (fun _ _ _ => trivial) _

theorem listed_run (maxPathname : Nat → Int) (builtin : Nat) (calls : List RegistryCall) :
    (registry.run (initial maxPathname builtin) calls).Listed builtin := by
  have hstep : ∀ s call, s.Listed builtin → True → (registry.next s call).Listed builtin :=
    fun _ call h _ => listed_next h call
  exact registry.run_invariant hstep (listed_initial maxPathname builtin)
    (anything_goes maxPathname builtin calls)

/-- The list holds the VFSes that the program knows to be registered. -/
theorem mem_iff_known (maxPathname : Nat → Int) (builtin : Nat) (calls : List RegistryCall) (vfs : SQLite3Vfs) :
    vfs ∈ (registry.run (initial maxPathname builtin) calls).vfsList ↔
      Known builtin (calls.zip (registry.replies (initial maxPathname builtin) calls)) vfs := by
  cases vfs with
  | builtin number => exact (listed_run maxPathname builtin calls).own number
  | object id =>
    have hseen := registry.run_observed (Listed builtin) (fun s => decide (.object id ∈ s.vfsList))
      (registers id) (fun _ call h _ => listed_next h call) (fun _ call h _ => mem_next h call id)
      (listed_initial maxPathname builtin) (anything_goes maxPathname builtin calls)
    have hout : decide (SQLite3Vfs.object id ∈ (initial maxPathname builtin).vfsList) = false := by
      simp [initial]
    rw [hout] at hseen
    rw [Known, ← hseen, decide_eq_true_iff]

/-- After every program, whatever SQLite has refused, a VFS that is found by a name has this name and is
registered, and none is found only if no registered VFS has the name. -/
theorem findVfs_by_name (zName : SQLite3Vfs → Bytes) (name : Bytes) (maxPathname : Nat → Int) (builtin : Nat)
    (calls : List RegistryCall) :
    let found := (registry.run (initial maxPathname builtin) calls).findVfs zName (some name)
    let known := Known builtin (calls.zip (registry.replies (initial maxPathname builtin) calls))
    (∀ vfs, found = some vfs → known vfs ∧ cString name = cString (zName vfs)) ∧
      (found = none ↔ ∀ vfs, known vfs → cString name ≠ cString (zName vfs)) := by
  intro found known
  have hmem := mem_iff_known maxPathname builtin calls
  constructor
  · intro vfs hfound
    have hsome := List.find?_some hfound
    exact ⟨(hmem vfs).mp (List.mem_of_find?_eq_some hfound), by simpa using hsome⟩
  · show List.find? _ _ = none ↔ _
    rw [List.find?_eq_none]
    refine forall_congr' fun vfs => ?_
    rw [hmem vfs, decide_eq_true_iff]

/-- In every program that does not unregister the default, the default is the VFS that was last registered as
such. -/
theorem findVfs_default (zName : SQLite3Vfs → Bytes) (maxPathname : Nat → Int) (builtin : Nat)
    (hbuiltin : 0 < builtin) (calls : List RegistryCall)
    (hkeeps : registry.Throughout KeepsDefault (initial maxPathname builtin) calls) :
    (registry.run (initial maxPathname builtin) calls).findVfs zName none =
      some (Component.lastOf (fun call => madeDefault call.1 call.2) (.builtin 0)
        (calls.zip (registry.replies (initial maxPathname builtin) calls))) := by
  have hseen := registry.run_observed (Listed builtin) (fun s => s.vfsList.head?.getD (.builtin 0)) madeDefault
    (fun _ call h _ => listed_next h call)
    (fun s call h hkeeps => by
      rw [head?_next h hbuiltin call hkeeps]
      cases madeDefault call (registry.reply s call) <;> rfl)
    (listed_initial maxPathname builtin) hkeeps
  have hfirst : (initial maxPathname builtin).vfsList.head? = some (.builtin 0) := by
    simp [initial, List.head?_range, hbuiltin.ne']
  rw [hfirst, Option.getD_some] at hseen
  rw [← hseen]
  have hne := List.ne_nil_of_mem (((listed_run maxPathname builtin calls).own 0).mpr hbuiltin)
  unfold findVfs sqlite3VfsFind
  simp only
  rw [List.head?_eq_some_head hne, Option.getD_some]

/-- A VFS is registered as the default, another one behind it, and that one is unregistered. -/
theorem findVfs_default_kept :
    let calls : List RegistryCall := [.registerVfs (some 0) true 0, .registerVfs (some 1) false 0, .unregisterVfs 1 0]
    (registry.run (initial (fun _ => 512) 1) calls).findVfs (fun _ => []) none = some (.object 0) := by
  intro calls
  have hkeeps : registry.Throughout KeepsDefault (initial (fun _ => 512) 1) calls :=
    ⟨trivial, trivial, fun _ => by decide, trivial⟩
  exact findVfs_default (fun _ => []) (fun _ => 512) 1 (by decide) calls hkeeps

end Registry

end Ysqlite3.Vfs
