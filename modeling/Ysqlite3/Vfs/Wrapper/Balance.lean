import Ysqlite3.Misc.Ownership
import Ysqlite3.Misc.Places
import Ysqlite3.Vfs.Wrapper.Calls

/-!
# Files are opened and closed in balance

Each file the parent opens is closed once, its memory is freed and the `File` object is deleted once, as
long as no object fails to be constructed for a file that the parent has opened already. Such a file
stays open: only its memory is freed.
-/

namespace Ysqlite3.Vfs.Wrapper

open Ownership Places

variable {σ : Type}

/-! ## Books -/

namespace Event

def allocation : Event → Option Nat
  | allocated block => some block
  | _ => none

def release : Event → Option Nat
  | freed block => some block
  | _ => none

def construction : Event → Option Nat
  | constructed block => some block
  | _ => none

def deletion : Event → Option Nat
  | deleted block => some block
  | _ => none

def opening : Event → Option Nat
  | opened block => some block
  | _ => none

def closing : Event → Option Nat
  | xClose block => some block
  | _ => none

/-- Calls on the parent's files, of which `xClose` is the last. -/
def onParentFile : Event → Option (Ownership.Event Nat)
  | file block _ _ => some (.used block)
  | xClose block => some (.released block)
  | _ => none

/-- The block an event is about. -/
def block : Event → Option Nat
  | allocated block | freed block | constructed block | deleted block => some block
  | xOpen _ block _ | opened block | xClose block | file block _ _ => some block
  | vfs _ _ => none

end Event

/-- The blocks behind the files of SQLite. -/
def blocksOf (s : Process σ) : Nat → Option Nat :=
  held (fun self => some self.block) s.files

/-- The parent's files, their memory and the `File` objects are there for the files of SQLite or were
released exactly once, and a file that is closed is not called any more. -/
structure Accounted (s : Process σ) : Prop where
  parentFiles : Entered Event.opening Event.closing s.trace (blocksOf s)
  memory : Entered Event.allocation Event.release s.trace (blocksOf s)
  objects : Entered Event.construction Event.deletion s.trace (blocksOf s)
  silent : Silent (s.trace.filterMap Event.onParentFile)

/-- An `xOpen` that reports failure leaves a file without methods. -/
def FailsClean (P : Parent σ) (s : Process σ) : WrapperCall → Prop
  | .xOpen file name flags allocations => s.files file = none →
      ∃ reply s', VFSMethods.open P allocations name file flags s = .returns reply s' ∧
        (reply.code ≠ SQLite3Code.success → reply.pMethods = none ∧ s'.files file = none)
  | _ => True

/-- The object for a file that the parent has opened is constructed. -/
def ConstructsOpened (P : Parent σ) (s : Process σ) : WrapperCall → Prop
  | .xOpen file name flags allocations => s.crashed = false → s.files file = none →
      formatOf flags ≠ none → allocations.memory = true → ∀ pMethods,
        (P.xOpen name s.blocks flags s.parent).1.1 = .opened pMethods → allocations.file = none
  | _ => True

/-- The books balance, and nothing has happened yet to blocks that are not allocated. -/
structure Settled (s : Process σ) : Prop where
  accounted : Accounted s
  fresh : ∀ e ∈ s.trace, ∀ block, e.block = some block → block < s.blocks

theorem initial_settled (parent : σ) : Settled (Process.initial parent) where
  accounted := ⟨Entered.start, Entered.start, Entered.start, List.Pairwise.nil⟩
  fresh _ he := absurd he List.not_mem_nil

section Steps

variable {P : Parent σ} {s s' : Process σ} {self : SQLite3FileWrapper} {file : Nat}

/-! ### What the books say -/

theorem blocksOf_eq_some (hself : s.files file = some self) : blocksOf s file = some self.block :=
  held_of_some _ hself

theorem blocksOf_eq_none (hfree : s.files file = none) : blocksOf s file = none :=
  held_of_none _ hfree

theorem releases_onParentFile (trace : List Event) :
    releases (trace.filterMap Event.onParentFile) = trace.filterMap Event.closing := by
  rw [releases, List.filterMap_filterMap]
  congr 1
  funext e
  cases e <;> rfl

/-- A block behind a file has not been closed. -/
theorem Settled.not_closed (h : Settled s) {block : Nat} (hheld : blocksOf s file = some block) :
    block ∉ releases (s.trace.filterMap Event.onParentFile) := by
  rw [releases_onParentFile]
  exact List.count_eq_zero.mp (Balanced.held_not_gone h.accounted.parentFiles hheld)

/-- A block behind a file was allocated before. -/
theorem Settled.held_lt (h : Settled s) {block : Nat} (hheld : blocksOf s file = some block) :
    block < s.blocks := by
  have hissued := Balanced.held_issued h.accounted.memory hheld
  obtain ⟨e, he, hblock⟩ := List.mem_filterMap.mp hissued
  refine h.fresh e he block ?_
  cases e with
  | allocated => exact hblock
  | _ => cases hblock

theorem Settled.not_mem (h : Settled s) {f : Event → Option Nat}
    (hf : ∀ e block, f e = some block → e.block = some block) : s.blocks ∉ s.trace.filterMap f := by
  intro hmem
  obtain ⟨e, he, hblock⟩ := List.mem_filterMap.mp hmem
  exact Nat.lt_irrefl _ (h.fresh e he _ (hf e _ hblock))

theorem Settled.new_memory (h : Settled s) : s.blocks ∉ s.trace.filterMap Event.allocation :=
  h.not_mem fun e block hblock => by
    cases e with
    | allocated => exact hblock
    | _ => cases hblock

theorem Settled.new_parentFile (h : Settled s) : s.blocks ∉ s.trace.filterMap Event.opening :=
  h.not_mem fun e block hblock => by
    cases e with
    | opened => exact hblock
    | _ => cases hblock

theorem Settled.new_object (h : Settled s) : s.blocks ∉ s.trace.filterMap Event.construction :=
  h.not_mem fun e block hblock => by
    cases e with
    | constructed => exact hblock
    | _ => cases hblock

/-- Nothing has happened that concerns the files. -/
theorem Settled.unchanged (h : Settled s) (htrace : s'.trace = s.trace)
    (hblocksOf : blocksOf s' = blocksOf s) (hblocks : s'.blocks = s.blocks) : Settled s' := by
  obtain ⟨⟨hparent, hmemory, hobjects, hsilent⟩, hfresh⟩ := h
  rw [← htrace, ← hblocksOf] at hparent hmemory hobjects
  rw [← htrace] at hsilent hfresh
  rw [← hblocks] at hfresh
  exact ⟨⟨hparent, hmemory, hobjects, hsilent⟩, hfresh⟩

/-! ### Calls that open and close nothing -/

/-- A call on the parent VFS or on the parent's file behind one of SQLite's. -/
def Event.Uses (s : Process σ) : Event → Prop
  | .vfs _ _ => True
  | .file block _ _ => ∃ file, blocksOf s file = some block
  | _ => False

theorem Adds.mono {p q : Event → Prop} (h : Adds p s s') (himp : ∀ e, p e → q e) : Adds q s s' := by
  obtain ⟨added, hadded, heq⟩ := h
  exact ⟨added, fun e he => himp e (hadded e he), heq⟩

/-- Such calls issue nothing and give nothing up. -/
theorem filterMap_uses {added : List Event} (huses : ∀ e ∈ added, e.Uses s) {f : Event → Option Nat}
    (hvfs : ∀ m args, f (.vfs m args) = none) (hfile : ∀ block m args, f (.file block m args) = none) :
    added.filterMap f = [] := by
  apply List.filterMap_eq_nil_iff.mpr
  intro e he
  cases e with
  | vfs m args => exact hvfs m args
  | file block m args => exact hfile block m args
  | _ => exact absurd (huses _ he) id

theorem Settled.uses (h : Settled s) (hadds : Adds (Event.Uses s) s s') : Settled s' := by
  obtain ⟨added, huses, heq⟩ := hadds
  have hsilent : Silent ((s.trace ++ added).filterMap Event.onParentFile) := by
    rw [List.filterMap_append]
    refine silent_append_iff.mpr ⟨h.accounted.silent, silent_used ?_, ?_⟩
    · intro used hused
      obtain ⟨e, he, heq⟩ := List.mem_filterMap.mp hused
      cases e with
      | file block m args => exact ⟨block, (Option.some.inj heq).symm⟩
      | vfs m args => cases heq
      | _ => exact absurd (huses _ he) id
    · intro used hused
      obtain ⟨e, he, heq⟩ := List.mem_filterMap.mp hused
      cases e with
      | file block m args =>
        obtain ⟨file, hheld⟩ := huses _ he
        rw [← Option.some.inj heq]
        exact h.not_closed hheld
      | vfs m args => cases heq
      | _ => exact absurd (huses _ he) id
  have hfresh : ∀ e ∈ s.trace ++ added, ∀ block, e.block = some block → block < s.blocks := by
    intro e he block hblock
    rcases List.mem_append.mp he with hold | hadded
    · exact h.fresh e hold block hblock
    · cases e with
      | file block' m args =>
        obtain ⟨file, hheld⟩ := huses _ hadded
        rw [← Option.some.inj hblock]
        exact h.held_lt hheld
      | vfs m args => cases hblock
      | _ => exact absurd (huses _ hadded) id
  rw [heq]
  exact ⟨⟨h.accounted.parentFiles.idle (filterMap_uses huses (fun _ _ => rfl) (fun _ _ _ => rfl))
        (filterMap_uses huses (fun _ _ => rfl) (fun _ _ _ => rfl)),
      h.accounted.memory.idle (filterMap_uses huses (fun _ _ => rfl) (fun _ _ _ => rfl))
        (filterMap_uses huses (fun _ _ => rfl) (fun _ _ _ => rfl)),
      h.accounted.objects.idle (filterMap_uses huses (fun _ _ => rfl) (fun _ _ _ => rfl))
        (filterMap_uses huses (fun _ _ => rfl) (fun _ _ _ => rfl)), hsilent⟩, hfresh⟩

/-- Whatever becomes of a function that only makes such calls. -/
theorem Settled.settle (h : Settled s) {α : Type} {outcome : Outcome (Process σ) α}
    (hends : outcome.Ends (Adds (Event.Uses s) s)) : Settled (s.settle outcome) := by
  cases outcome with
  | returns a s' => exact h.uses hends
  | throws e s' => exact (h.uses hends).unchanged rfl rfl rfl
  | undefined => exact h.unchanged rfl rfl rfl

/-! ### Opening and closing -/

theorem blocksOf_place (file : Nat) (object : Option SQLite3FileWrapper) (s : Process σ) :
    blocksOf (s.place file object) =
      Function.update (blocksOf s) file (object.bind fun self => some self.block) :=
  held_update _ _ _ _

theorem blocksOf_place_none (hfree : s.files file = none) :
    Function.update (blocksOf s) file none = blocksOf s := by
  rw [← blocksOf_eq_none hfree, Function.update_eq_self]

/-- Fresh blocks after an `xOpen` that took one. -/
theorem Settled.fresh_asked (h : Settled s) {added : List Event}
    (hadded : ∀ e ∈ added, e.block = some s.blocks) :
    ∀ e ∈ s.trace ++ added, ∀ block, e.block = some block → block < s.blocks + 1 := by
  intro e he block hblock
  rcases List.mem_append.mp he with hold | hnew
  · exact Nat.lt_succ_of_lt (h.fresh e hold block hblock)
  · rw [← Option.some.inj ((hadded e hnew).symm.trans hblock)]
    exact Nat.lt_succ_self s.blocks

section Opened

variable {allocations : Allocations} {name : Option Bytes} {flags : Int32} {reply : OpenReply}

/-- Events on a block that concern no call on a file leave those calls as they are. -/
theorem silent_append {added : List Event} (h : Settled s)
    (hadded : added.filterMap Event.onParentFile = []) :
    Silent ((s.trace ++ added).filterMap Event.onParentFile) := by
  rw [List.filterMap_append, hadded, List.append_nil]
  exact h.accounted.silent

theorem Settled.opening (h : Settled s) (hfree : s.files file = none)
    (hopening : Opening P allocations name file flags s reply s')
    (hconstructs : formatOf flags ≠ none → allocations.memory = true → ∀ pMethods,
      (P.xOpen name s.blocks flags s.parent).1.1 = .opened pMethods → allocations.file = none) :
    Settled s' := by
  have hempty := blocksOf_eq_none hfree
  have hcleared : blocksOf (s.place file none) = blocksOf s :=
    (blocksOf_place file none s).trans (blocksOf_place_none hfree)
  cases hopening with
  | badFormat | noMemory => exact h.unchanged rfl hcleared rfl
  | refused =>
    refine ⟨⟨?_, ?_, ?_, silent_append h rfl⟩, h.fresh_asked (by simp [Event.block])⟩
    · exact hcleared ▸ h.accounted.parentFiles.idle rfl rfl
    · exact hcleared ▸ h.accounted.memory.pass h.new_memory hempty rfl rfl
    · exact hcleared ▸ h.accounted.objects.idle rfl rfl
  | throws hformat hmemory hopen hfile =>
    have hnone := hconstructs (by rw [hformat]; exact Option.some_ne_none _) hmemory _ (by rw [hopen])
    exact absurd (hfile.symm.trans hnone) (Option.some_ne_none _)
  | @opened format pMethods outFlags parent =>
    have hplaced : blocksOf (Process.place file (some ⟨name, format, s.blocks, pMethods⟩)
        (asked name file flags outFlags parent [.opened s.blocks, .constructed s.blocks] s)) =
        Function.update (blocksOf s) file (some s.blocks) := by
      rw [blocksOf_place, ← hcleared]
      rfl
    refine ⟨⟨?_, ?_, ?_, silent_append h rfl⟩, h.fresh_asked (by simp [Event.block])⟩
    · exact hplaced ▸ h.accounted.parentFiles.take h.new_parentFile hempty rfl rfl
    · exact hplaced ▸ h.accounted.memory.take h.new_memory hempty rfl rfl
    · exact hplaced ▸ h.accounted.objects.take h.new_object hempty rfl rfl

/-- A file that the parent has opened and that gets no object stays open. -/
theorem not_accounted_throws (h : Settled s) (hfree : s.files file = none)
    (hopening : Opening P allocations name file flags s reply s') (hformat : formatOf flags ≠ none)
    (hmemory : allocations.memory = true) {pMethods : IoTable}
    (hopen : (P.xOpen name s.blocks flags s.parent).1.1 = .opened pMethods)
    (hfile : allocations.file ≠ none) : ¬ Accounted s' := by
  have hcleared : blocksOf (s.place file none) = blocksOf s :=
    (blocksOf_place file none s).trans (blocksOf_place_none hfree)
  cases hopening with
  | badFormat hbad => exact absurd hbad hformat
  | noMemory _ hnot => exact absurd hmemory hnot
  | refused _ _ hrefused =>
    rw [hrefused] at hopen
    cases hopen
  | throws =>
    intro haccounted
    have hparentFiles := haccounted.parentFiles
    exact h.accounted.parentFiles.not_lost h.new_parentFile rfl rfl (hcleared ▸ hparentFiles)
  | opened _ _ _ hnone => exact absurd hnone hfile

end Opened

/-- The parent's file, its memory and the object behind a file are released together. -/
theorem Settled.closing (h : Settled s) (hself : s.files file = some self) {parent : σ} :
    Settled (Process.place file none { s with
      parent
      trace := s.trace ++ [.xClose self.block, .freed self.block, .deleted self.block] }) := by
  have hheld := blocksOf_eq_some hself
  have hreleased : blocksOf (s.place file none) = Function.update (blocksOf s) file none :=
    blocksOf_place file none s
  refine ⟨⟨?_, ?_, ?_, ?_⟩, ?_⟩
  · exact hreleased ▸ h.accounted.parentFiles.give_up hheld rfl rfl
  · exact hreleased ▸ h.accounted.memory.give_up hheld rfl rfl
  · exact hreleased ▸ h.accounted.objects.give_up hheld rfl rfl
  · change Silent (List.filterMap _ (s.trace ++ _))
    rw [List.filterMap_append]
    refine silent_append_iff.mpr ⟨h.accounted.silent, List.pairwise_singleton _ _, ?_⟩
    intro e he
    obtain rfl := List.mem_singleton.mp he
    exact h.not_closed hheld
  · intro e he block hblock
    rcases List.mem_append.mp he with hold | hnew
    · exact h.fresh e hold block hblock
    · have hblock' : block = self.block := by
        simp only [List.mem_cons, List.not_mem_nil, or_false] at hnew
        rcases hnew with rfl | rfl | rfl <;> exact (Option.some.inj hblock).symm
      rw [hblock']
      exact h.held_lt hheld

/-! ### Steps -/

variable {D : DerivedFile σ}

theorem uses_onVfs {e : Event} (h : e.OnVfs) : e.Uses s := by
  cases e with
  | vfs m args => trivial
  | _ => exact absurd h id

theorem uses_onFile (hself : s.files file = some self) {e : Event} (h : e.OnFile self.block) :
    e.Uses s := by
  cases e with
  | file block m args => exact ⟨file, h ▸ blocksOf_eq_some hself⟩
  | _ => exact absurd h id

theorem settled_next (h : Settled s) {call : WrapperCall} (hok : ConstructsOpened P s call) :
    Settled ((process P D).next s call) := by
  have hstep := next_step (P := P) (D := D) s call
  generalize (process P D).next s call = s' at hstep ⊢
  cases hstep with
  | idle => exact h
  | opening hruns hfree hopening => exact h.opening hfree hopening (hok hruns hfree)
  | closing hself => exact h.closing hself
  | vfs m args =>
    exact h.settle ((VFSMethods.adds P m args s).mono fun s' hadds => hadds.mono fun e => uses_onVfs)
  | @file file self hself m args =>
    exact h.settle ((D.adds self m args s).mono fun s' hadds =>
      hadds.mono fun e => uses_onFile hself)

theorem not_accounted_next (h : Settled s) {call : WrapperCall} (hnot : ¬ ConstructsOpened P s call) :
    ¬ Accounted ((process P D).next s call) := by
  cases call with
  | xOpen file name flags allocations =>
    unfold ConstructsOpened at hnot
    push Not at hnot
    obtain ⟨hruns, hfree, hformat, hmemory, pMethods, hopen, hfile⟩ := hnot
    obtain ⟨reply, s', hnext, hopening⟩ :=
      next_xOpen (P := P) (D := D) hruns hfree name flags allocations
    rw [hnext]
    exact not_accounted_throws h hfree hopening hformat hmemory hopen hfile
  | _ => exact absurd trivial hnot

/-- Only an `xOpen` that succeeds leaves methods behind. -/
theorem failsClean (call : WrapperCall) : FailsClean P s call := by
  cases call with
  | xOpen file name flags allocations =>
    intro hfree
    obtain ⟨reply, s', hopen, hopening⟩ := open_spec P allocations name file flags s
    refine ⟨reply, s', hopen, ?_⟩
    intro hcode
    have hplaced : (s.place file none).files file = none := by simp [Process.place]
    cases hopening with
    | badFormat | noMemory | refused | throws => exact ⟨rfl, hplaced⟩
    | opened => exact absurd rfl hcode
  | _ => trivial

end Steps

/-! ## Runs -/

/-- For every derived class the books balance all the way, and a failed `xOpen` leaves no methods,
exactly when no object fails to be constructed for a file that the parent has opened. -/
theorem accounted_iff_constructsOpened (P : Parent σ) (D : DerivedFile σ) (parent : σ)
    (calls : List WrapperCall) :
    (process P D).Always Accounted (.initial parent) calls ∧
        (process P D).Throughout (FailsClean P) (.initial parent) calls ↔
      (process P D).Throughout (ConstructsOpened P) (.initial parent) calls := by
  have hiff : (process P D).Always Accounted (.initial parent) calls ↔
      (process P D).Throughout (ConstructsOpened P) (.initial parent) calls := by
    apply (process P D).always_iff_throughout_of_invariant Settled
    · exact fun s h => h.accounted
    · exact fun s call h hok => settled_next h hok
    · exact fun s call h hnot => not_accounted_next h hnot
    · exact initial_settled parent
  rw [hiff]
  apply and_iff_left
  exact (process P D).throughout_of_forall (fun call _ s => failsClean call) _

/-- There is no memory for the object: the file that the parent has opened is never closed. -/
theorem failedConstruction_leaks :
    ¬ ((process .bare (plain .bare)).Always Accounted (.initial ())
          [.xOpen 0 none 0x100 ⟨true, some .other⟩] ∧
        (process .bare (plain .bare)).Throughout (FailsClean .bare) (.initial ())
          [.xOpen 0 none 0x100 ⟨true, some .other⟩]) := by
  rintro ⟨⟨-, hlast⟩, -⟩
  refine not_accounted_next (initial_settled ()) ?_ hlast
  intro hok
  exact absurd (hok rfl rfl (by decide) rfl _ rfl) (Option.some_ne_none _)

end Ysqlite3.Vfs.Wrapper
