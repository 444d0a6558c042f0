import Mathlib.Data.Set.Insert
import Mathlib.Data.List.Count
import Mathlib.Data.List.Perm.Basic
import Mathlib.Data.List.Nodup
import Mathlib.Data.List.Range
import Mathlib.Logic.Equiv.Basic

/-!
# Accounting for resources

Resources are issued, held by holders that pass them on to each other, and given up. The books
balance when each resource issued is held by exactly one holder, or is held by none and was given up
exactly once; a resource that is lost or given up twice leaves them unbalanced.

A ledger is kept for resources numbered in the order they are issued, with a log of what happens to
them. It balances when each of them is held or was released, once in all, and nothing happens to a
resource after its release.
-/

namespace Ownership

variable {ι ω : Type*} [DecidableEq ι]

/-- The books over the resources `issued`, those given up so far and what each holder holds. -/
structure Balanced (issued : Set ι) (gone : List ι) (holds : ω → Option ι) : Prop where
  accounted : ∀ r ∈ issued,
    (∃! w, holds w = some r) ∧ gone.count r = 0 ∨ (∀ w, holds w ≠ some r) ∧ gone.count r = 1
  nothing_else : ∀ r, r ∉ issued → (∀ w, holds w ≠ some r) ∧ gone.count r = 0

namespace Balanced

variable {issued : Set ι} {gone : List ι} {holds : ω → Option ι} {r : ι} {w w' : ω}

theorem start : Balanced (∅ : Set ι) [] (fun _ : ω => none) where
  accounted r hr := absurd hr (Set.notMem_empty r)
  nothing_else r _ := ⟨fun _ => Option.some_ne_none r ∘ Eq.symm, rfl⟩

theorem held_issued (h : Balanced issued gone holds) (hw : holds w = some r) : r ∈ issued := by
  by_contra hr
  exact (h.nothing_else r hr).1 w hw

theorem held_once (h : Balanced issued gone holds) (hw : holds w = some r)
    (hw' : holds w' = some r) : w = w' := by
  rcases h.accounted r (h.held_issued hw) with ⟨hheld, -⟩ | ⟨hnone, -⟩
  · exact hheld.unique hw hw'
  · exact absurd hw (hnone w)

theorem held_not_gone (h : Balanced issued gone holds) (hw : holds w = some r) :
    gone.count r = 0 := by
  rcases h.accounted r (h.held_issued hw) with ⟨-, hcount⟩ | ⟨hnone, -⟩
  · exact hcount
  · exact absurd hw (hnone w)

/-- Only how often a resource was given up matters, not when. -/
theorem perm {gone' : List ι} (h : Balanced issued gone holds) (hperm : gone.Perm gone') :
    Balanced issued gone' holds where
  accounted r hr := by
    rw [← hperm.count_eq]
    exact h.accounted r hr
  nothing_else r hr := by
    rw [← hperm.count_eq]
    exact h.nothing_else r hr

/-- When nobody holds anything, each resource was given up exactly once. -/
theorem at_end (h : Balanced issued gone holds) (hnone : ∀ w, holds w = none) :
    ∀ r ∈ issued, gone.count r = 1 := by
  intro r hr
  rcases h.accounted r hr with ⟨⟨w, hw, -⟩, -⟩ | ⟨-, hcount⟩
  · exact absurd ((hnone w).symm.trans hw) (Option.some_ne_none r).symm
  · exact hcount

/-- A new resource that nobody takes leaves the books unbalanced. -/
theorem not_lost (h : Balanced issued gone holds) (hnew : r ∉ issued) :
    ¬ Balanced (insert r issued) gone holds := by
  intro hlost
  obtain ⟨hnone, hcount⟩ := h.nothing_else r hnew
  rcases hlost.accounted r (Set.mem_insert r issued) with ⟨⟨w, hw, -⟩, -⟩ | ⟨-, hone⟩
  · exact hnone w hw
  · omega

/-- Renaming the holders changes nothing. -/
theorem reindex (h : Balanced issued gone holds) (e : Equiv.Perm ω) :
    Balanced issued gone (holds ∘ e) where
  accounted r hr := by
    apply (h.accounted r hr).imp
    · exact fun hheld => ⟨e.bijective.existsUnique_iff.mp hheld.1, hheld.2⟩
    · exact fun hnone => ⟨fun w => hnone.1 (e w), hnone.2⟩
  nothing_else r hr := ⟨fun w => (h.nothing_else r hr).1 (e w), (h.nothing_else r hr).2⟩

section Update

variable [DecidableEq ω]

omit [DecidableEq ι] in
theorem update_eq_some_iff {x : Option ι} {v : ω} :
    Function.update holds w x v = some r ↔ v = w ∧ x = some r ∨ v ≠ w ∧ holds v = some r := by
  by_cases hv : v = w
  · subst hv
    simp
  · simp [hv]

/-- A new resource goes to a holder with empty hands. -/
theorem issue (h : Balanced issued gone holds) (hnew : r ∉ issued) (hempty : holds w = none) :
    Balanced (insert r issued) gone (Function.update holds w (some r)) where
  accounted r' hr' := by
    simp only [ne_eq, update_eq_some_iff, Option.some.injEq]
    rcases Set.mem_insert_iff.mp hr' with rfl | hissued
    · refine Or.inl ⟨⟨w, Or.inl ⟨rfl, rfl⟩, ?_⟩, (h.nothing_else r' hnew).2⟩
      rintro v (⟨hv, -⟩ | ⟨-, hv⟩)
      · exact hv
      · exact absurd hv ((h.nothing_else r' hnew).1 v)
    · have hne : r ≠ r' := fun heq => hnew (heq ▸ hissued)
      have hsame : ∀ v, v = w ∧ r = r' ∨ v ≠ w ∧ holds v = some r' ↔ holds v = some r' := by
        intro v
        constructor
        · rintro (⟨-, heq⟩ | ⟨-, hv⟩)
          · exact absurd heq hne
          · exact hv
        · intro hv
          refine Or.inr ⟨fun heq => ?_, hv⟩
          rw [heq, hempty] at hv
          exact absurd hv (Option.some_ne_none r').symm
      simp only [hsame]
      exact h.accounted r' hissued
  nothing_else r' hr' := by
    rw [Set.mem_insert_iff, not_or] at hr'
    simp only [ne_eq, update_eq_some_iff, Option.some.injEq]
    refine ⟨?_, (h.nothing_else r' hr'.2).2⟩
    rintro v (⟨-, heq⟩ | ⟨-, hv⟩)
    · exact hr'.1 heq.symm
    · exact (h.nothing_else r' hr'.2).1 v hv

/-- A holder gives up what it holds. -/
theorem give_up (h : Balanced issued gone holds) (hheld : holds w = some r) :
    Balanced issued (gone ++ [r]) (Function.update holds w none) where
  accounted r' hr' := by
    simp only [ne_eq, update_eq_some_iff, List.count_append]
    by_cases heq : r' = r
    · subst heq
      refine Or.inr ⟨?_, by rw [h.held_not_gone hheld, List.count_singleton_self]⟩
      rintro v (⟨-, hv⟩ | ⟨hne, hv⟩)
      · exact absurd hv (Option.some_ne_none r').symm
      · exact hne (h.held_once hv hheld)
    · have hsame : ∀ v, v = w ∧ none = some r' ∨ v ≠ w ∧ holds v = some r' ↔
          holds v = some r' := by
        intro v
        constructor
        · rintro (⟨-, hv⟩ | ⟨-, hv⟩)
          · exact absurd hv (Option.some_ne_none r').symm
          · exact hv
        · intro hv
          refine Or.inr ⟨fun hvw => heq ?_, hv⟩
          rw [hvw, hheld] at hv
          exact (Option.some.inj hv).symm
      rw [List.count_singleton, if_neg (by simpa using Ne.symm heq), Nat.add_zero]
      simp only [hsame]
      exact h.accounted r' hr'
  nothing_else r' hr' := by
    have hne : r ≠ r' := fun heq => hr' (heq ▸ h.held_issued hheld)
    rw [List.count_append, List.count_singleton, if_neg (by simpa using hne), Nat.add_zero]
    simp only [ne_eq, update_eq_some_iff]
    refine ⟨?_, (h.nothing_else r' hr').2⟩
    rintro v (⟨-, hv⟩ | ⟨-, hv⟩)
    · exact (Option.some_ne_none r').symm hv
    · exact (h.nothing_else r' hr').1 v hv

/-- A holder with empty hands takes over what another holds. -/
theorem move (h : Balanced issued gone holds) (w : ω) (hempty : holds w' = none) :
    Balanced issued gone (Function.update (Function.update holds w none) w' (holds w)) := by
  have hswap : Function.update (Function.update holds w none) w' (holds w) =
      holds ∘ Equiv.swap w' w := by
    funext v
    by_cases hv' : v = w'
    · subst hv'
      simp
    · by_cases hv : v = w
      · subst hv
        simp [Function.update_of_ne hv', hempty]
      · simp [Function.update_of_ne hv', Function.update_of_ne hv, Equiv.swap_apply_of_ne_of_ne hv' hv]
  rw [hswap]
  exact h.reindex (Equiv.swap w' w)

end Update

end Balanced

/-! ## Books kept from a trace -/

/-- The books into which the events of a trace are entered: some issue a resource, some give one up. -/
def Entered {ε : Type*} (issue release : ε → Option ι) (trace : List ε) (holds : ω → Option ι) :
    Prop :=
  Balanced {r | r ∈ trace.filterMap issue} (trace.filterMap release) holds

namespace Entered

variable {ε : Type*} {issue release : ε → Option ι} {trace added : List ε} {holds : ω → Option ι}
  {r : ι} {w : ω}

theorem start : Entered issue release [] (fun _ : ω => none) := by
  have hempty : {r | r ∈ ([] : List ε).filterMap issue} = ∅ :=
    Set.eq_empty_iff_forall_notMem.mpr fun r hr => List.not_mem_nil hr
  unfold Entered
  rw [hempty]
  exact Balanced.start

omit [DecidableEq ι] in
theorem issued_append (hissue : added.filterMap issue = [r]) :
    {r | r ∈ (trace ++ added).filterMap issue} = insert r {r | r ∈ trace.filterMap issue} := by
  ext r'
  change r' ∈ (trace ++ added).filterMap issue ↔ r' = r ∨ r' ∈ trace.filterMap issue
  rw [List.filterMap_append, hissue, List.mem_append, List.mem_singleton, or_comm]

/-- Events about other things. -/
theorem idle (h : Entered issue release trace holds) (hissue : added.filterMap issue = [])
    (hrelease : added.filterMap release = []) : Entered issue release (trace ++ added) holds := by
  unfold Entered
  rw [List.filterMap_append, List.filterMap_append, hissue, hrelease, List.append_nil, List.append_nil]
  exact h

/-- A new resource that nobody takes. -/
theorem not_lost (h : Entered issue release trace holds) (hnew : r ∉ trace.filterMap issue)
    (hissue : added.filterMap issue = [r]) (hrelease : added.filterMap release = []) :
    ¬ Entered issue release (trace ++ added) holds := by
  unfold Entered
  rw [issued_append hissue, List.filterMap_append, hrelease, List.append_nil]
  exact Balanced.not_lost h hnew

variable [DecidableEq ω]

/-- A new resource goes to a holder with empty hands. -/
theorem take (h : Entered issue release trace holds) (hnew : r ∉ trace.filterMap issue)
    (hempty : holds w = none) (hissue : added.filterMap issue = [r])
    (hrelease : added.filterMap release = []) :
    Entered issue release (trace ++ added) (Function.update holds w (some r)) := by
  unfold Entered
  rw [issued_append hissue, List.filterMap_append, hrelease, List.append_nil]
  exact Balanced.issue h hnew hempty

/-- A holder gives up what it holds. -/
theorem give_up (h : Entered issue release trace holds) (hheld : holds w = some r)
    (hissue : added.filterMap issue = []) (hrelease : added.filterMap release = [r]) :
    Entered issue release (trace ++ added) (Function.update holds w none) := by
  unfold Entered
  rw [List.filterMap_append, List.filterMap_append, hissue, hrelease, List.append_nil]
  exact Balanced.give_up h hheld

/-- A new resource is given up at once. -/
theorem pass (h : Entered issue release trace holds) (hnew : r ∉ trace.filterMap issue)
    (hempty : holds w = none) (hissue : added.filterMap issue = [r])
    (hrelease : added.filterMap release = [r]) : Entered issue release (trace ++ added) holds := by
  have htaken := Balanced.issue h hnew hempty
  have hgiven := htaken.give_up (Function.update_self w (some r) holds)
  rw [Function.update_idem, ← hempty, Function.update_eq_self] at hgiven
  unfold Entered
  rw [issued_append hissue, List.filterMap_append, hrelease]
  exact hgiven

end Entered

/-! ## Ledgers -/

/-- What can happen to a resource. -/
inductive Event (ι : Type*) where
  | used (r : ι)
  | released (r : ι)
  deriving DecidableEq, Repr

namespace Event

def resource {ι : Type*} : Event ι → ι
  | used r => r
  | released r => r

/-- The resource an event releases. -/
def release {ι : Type*} : Event ι → Option ι
  | used _ => none
  | released r => some r

end Event

/-- The releases of a log, in order. -/
def releases {ι : Type*} (log : List (Event ι)) : List ι := log.filterMap Event.release

/-- Nothing happens to a resource after its release. -/
def Silent {ι : Type*} (log : List (Event ι)) : Prop :=
  log.Pairwise (fun e e' => ∀ r, e = .released r → e'.resource ≠ r)

/-- Each of the first `n` resources is held or was released, once in all. -/
def Once (n : Nat) (log : List (Event Nat)) (held : List Nat) : Prop :=
  (releases log ++ held).Perm (List.range n)

/-- The ledger over the first `n` resources. -/
structure Ledger (n : Nat) (log : List (Event Nat)) (held : List Nat) : Prop where
  once : (releases log ++ held).Perm (List.range n)
  silent : Silent log

@[simp] theorem releases_append {ι : Type*} (log log' : List (Event ι)) :
    releases (log ++ log') = releases log ++ releases log' := List.filterMap_append

@[simp] theorem releases_map_released {ι : Type*} (rs : List ι) :
    releases (rs.map Event.released) = rs := by
  induction rs with
  | nil => rfl
  | cons r rs ih => exact congrArg (r :: ·) ih

theorem mem_releases {ι : Type*} {log : List (Event ι)} {r : ι} :
    r ∈ releases log ↔ .released r ∈ log := by
  rw [releases, List.mem_filterMap]
  constructor
  · rintro ⟨e, he, hr⟩
    cases e with
    | used r' => exact absurd hr (Option.some_ne_none r).symm
    | released r' => exact Option.some.inj hr ▸ he
  · intro he
    exact ⟨_, he, rfl⟩

/-- A log goes on with events of resources that are not released yet. -/
theorem silent_append_iff {ι : Type*} {log log' : List (Event ι)} :
    Silent (log ++ log') ↔
      Silent log ∧ Silent log' ∧ ∀ e ∈ log', e.resource ∉ releases log := by
  rw [Silent, List.pairwise_append]
  apply and_congr_right
  intro _
  apply and_congr_right
  intro _
  constructor
  · intro h e he hreleased
    exact h _ (mem_releases.mp hreleased) e he _ rfl rfl
  · rintro h e he e' he' r rfl hr
    exact h e' he' (hr ▸ mem_releases.mpr he)

theorem silent_used {ι : Type*} {log : List (Event ι)} (h : ∀ e ∈ log, ∃ r, e = .used r) :
    Silent log := by
  rw [Silent, List.pairwise_iff_forall_sublist]
  intro e e' hsub r hreleased
  obtain ⟨r', hused⟩ := h e (hsub.subset List.mem_cons_self)
  cases hused.symm.trans hreleased

theorem silent_released {ι : Type*} {rs : List ι} (h : rs.Nodup) :
    Silent (rs.map Event.released) := by
  rw [Silent, List.pairwise_map]
  apply h.imp
  rintro r r' hne r'' heq hr
  cases heq
  exact hne hr.symm

section Held

variable {n : Nat} {log : List (Event Nat)} {held held' rs : List Nat} {r : Nat}

namespace Once

theorem start : Once 0 [] [] := List.Perm.refl _

theorem nodup (h : Once n log held) : (releases log ++ held).Nodup :=
  (List.Perm.nodup_iff h).mpr List.nodup_range

theorem held_not_released (h : Once n log held) (hr : r ∈ held) : r ∉ releases log :=
  fun hreleased => (List.nodup_append.mp h.nodup).2.2 r hreleased r hr rfl

theorem perm (h : Once n log held) (hperm : held.Perm held') : Once n log held' :=
  (List.Perm.append_left _ hperm.symm).trans h

/-- The next resource is issued and held. -/
theorem issue (h : Once n log held) : Once (n + 1) log (n :: held) := by
  rw [Once, List.range_succ]
  have hmiddle : (releases log ++ n :: held).Perm (n :: (releases log ++ held)) :=
    List.perm_middle
  apply hmiddle.trans
  apply (List.Perm.cons n h).trans
  exact (List.perm_append_singleton n (List.range n)).symm

/-- Some of the resources held are released. -/
theorem release (h : Once n log (rs ++ held)) : Once n (log ++ rs.map .released) held := by
  rw [Once, releases_append, releases_map_released, List.append_assoc]
  exact h

/-- A use releases nothing. -/
theorem use (h : Once n log held) (r : Nat) : Once n (log ++ [.used r]) held := by
  have hnone : releases [Event.used r] = [] := rfl
  rw [Once, releases_append, hnone, List.append_nil]
  exact h

theorem count_le_one (h : Once n log held) (r : Nat) : (releases log).count r ≤ 1 :=
  List.nodup_iff_count_le_one.mp (List.nodup_append.mp h.nodup).1 r

/-- When nothing is held, each resource was released exactly once. -/
theorem at_end (h : Once n log []) : ∀ r < n, (releases log).count r = 1 := by
  intro r hr
  rw [Once, List.append_nil] at h
  rw [h.count_eq]
  exact List.count_eq_one_of_mem List.nodup_range (List.mem_range.mpr hr)

end Once

/-- Resources that are held are released in silence. -/
theorem silent_release_iff (h : Once n log (rs ++ held)) :
    Silent (log ++ rs.map .released) ↔ Silent log := by
  rw [silent_append_iff]
  apply and_iff_left
  have hnodup := (List.nodup_append.mp h.nodup).2.1
  refine ⟨silent_released (List.nodup_append.mp hnodup).1, ?_⟩
  intro e he
  obtain ⟨r, hr, rfl⟩ := List.mem_map.mp he
  exact h.held_not_released (List.mem_append_left _ hr)

/-- A use is in order as long as the resource is not released. -/
theorem silent_use_iff : Silent (log ++ [.used r]) ↔ Silent log ∧ r ∉ releases log := by
  rw [silent_append_iff]
  apply and_congr_right
  intro _
  constructor
  · exact fun h => h.2 _ (List.mem_singleton.mpr rfl)
  · intro hr
    refine ⟨List.pairwise_singleton _ _, ?_⟩
    intro e he
    obtain rfl := List.mem_singleton.mp he
    exact hr

namespace Ledger

theorem start : Ledger 0 [] [] where
  once := Once.start
  silent := List.Pairwise.nil

theorem perm (h : Ledger n log held) (hperm : held.Perm held') : Ledger n log held' where
  once := Once.perm h.once hperm
  silent := h.silent

/-- The next resource is issued and held. -/
theorem issue (h : Ledger n log held) : Ledger (n + 1) log (n :: held) where
  once := Once.issue h.once
  silent := h.silent

/-- Some of the resources held are released. -/
theorem release (h : Ledger n log (rs ++ held)) : Ledger n (log ++ rs.map .released) held where
  once := Once.release h.once
  silent := (silent_release_iff h.once).mpr h.silent

/-- A resource that is held is used. -/
theorem use (h : Ledger n log held) (hr : r ∈ held) : Ledger n (log ++ [.used r]) held where
  once := Once.use h.once r
  silent := silent_use_iff.mpr ⟨h.silent, Once.held_not_released h.once hr⟩

/-- Releasing one resource twice leaves no ledger. -/
theorem not_twice : ¬ Ledger n (log ++ [.released r, .released r]) held := by
  intro h
  have hsilent := (silent_append_iff.mp h.silent).2.1
  exact List.rel_of_pairwise_cons hsilent (List.mem_singleton.mpr rfl) r rfl rfl

/-- When nothing is held, each resource was released exactly once. -/
theorem at_end (h : Ledger n log []) : ∀ r < n, (releases log).count r = 1 := Once.at_end h.once

end Ledger

end Held

end Ownership
