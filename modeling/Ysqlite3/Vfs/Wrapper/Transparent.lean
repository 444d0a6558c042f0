import Ysqlite3.Vfs.Wrapper.Calls

/-!
# The wrapper is invisible

Over a parent with all methods each call of SQLite reaches the parent once, unchanged, and the parent's
answer comes back, save for the flags of `xSync` that `Sync_flag` has no name for.
-/

namespace Ysqlite3.Vfs

/-! ## The contract of SQLite -/

/-- The arguments SQLite calls a method of a file with: a lock of the five there are, a sync that is
normal or full and may be restricted to the data. -/
def IoMethod.Permitted : (m : IoMethod) → m.Args → Prop
  | .xSync, flags => flags ∈ [2, 3, 0x12, 0x13]
  | .xLock, lock | .xUnlock, lock => lock ∈ [0, 1, 2, 3, 4]
  | _, _ => True

/-- The arguments SQLite calls a method of the VFS with: one of the three questions to `xAccess`, a
handle that `xDlOpen` produced. `xCurrentTime` of a table of version 3 stays unused. -/
def VfsMethod.Permitted : (m : VfsMethod) → m.Args → Prop
  | .xAccess, (_, flags) => flags ∈ [0, 1, 2]
  | .xDlSym, (handle, _) => handle ≠ 0
  | .xDlClose, handle => handle ≠ 0
  | .xCurrentTime, _ => False
  | _, _ => True

/-- The flags of which SQLite opens each file with exactly one. -/
def openTypes : List Int32 := [0x100, 0x200, 0x400, 0x800, 0x1000, 0x2000, 0x4000, 0x80000]

/-- A parent without gaps in its tables. -/
structure Parent.Complete {σ : Type} (P : Parent σ) : Prop where
  vfs : ∀ m, P.table.has m = true
  file : ∀ name block flags s pMethods, (P.xOpen name block flags s).1.1 = .opened pMethods →
    ∀ m, pMethods.has m = true

def OpenResult.code : OpenResult → SQLite3Code
  | .opened _ => .success
  | .refused code _ => code

namespace Wrapper

variable {σ : Type} {P : Parent σ}

def WrapperCall.Permitted : WrapperCall → Prop
  | .xOpen _ _ flags _ => flags &&& openMask ∈ openTypes
  | .xClose _ => True
  | .vfs m args => m.Permitted args
  | .file _ m args => m.Permitted args

/-! ## What is promised, and when -/

/-- Calls on the parent, among all events. -/
def Event.onParent : Event → Bool
  | .xOpen _ _ _ | .xClose _ | .vfs _ _ | .file _ _ _ => true
  | _ => false

/-- The parent is called once from `s` to `s'`, which leaves it in the state `parent`. -/
def Relays (s s' : Process σ) (e : Event) (parent : σ) : Prop :=
  s'.parent = parent ∧ ∃ added, s'.trace = s.trace ++ added ∧ added.filter Event.onParent = [e]

/-- The code of the parent and, with success, its flags; the methods are those of the wrapper. -/
def OpenAgrees (answer : OpenResult × Option Int32) (reply : OpenReply) : Prop :=
  reply.code = answer.1.code ∧
    (reply.code = SQLite3Code.success → reply.outFlags = answer.2 ∧ reply.pMethods.isSome = true)

/-- The call is made on the parent once, with the same arguments, and the parent's reply is the reply. -/
def Transparent (P : Parent σ) (s : Process σ) : WrapperCall → Prop
  | .xOpen file name flags allocations => s.files file = none →
      ∃ reply s', VFSMethods.open P allocations name file flags s = .returns reply s' ∧
        Relays s s' (.xOpen name s.blocks flags) (P.xOpen name s.blocks flags s.parent).2 ∧
        OpenAgrees (P.xOpen name s.blocks flags s.parent).1 reply
  | .xClose file => ∀ self, s.files file = some self →
      ∃ rc s', FileMethods.close P self s = .returns rc s' ∧
        Relays s s' (.xClose self.block) (P.xClose self.block s.parent).2 ∧
        rc = (P.xClose self.block s.parent).1
  | .vfs m args =>
      ∃ reply s', VFSMethods.call P m args s = .returns reply s' ∧
        Relays s s' (.vfs m (m.truth args)) (P.vfs m (m.truth args) s.parent).2 ∧
        m.Agrees (P.vfs m (m.truth args) s.parent).1 reply
  | .file file m args => ∀ self, s.files file = some self →
      ∃ reply s', FileMethods.call P self m args s = .returns reply s' ∧
        Relays s s' (.file self.block m (m.truth args))
          (P.file self.block m (m.truth args) s.parent).2 ∧
        m.Agrees (P.file self.block m (m.truth args) s.parent).1 reply

/-- A sync is not restricted to the data, and there is memory for each file that is opened. -/
def Accepted (P : Parent σ) (s : Process σ) : WrapperCall → Prop
  | .xOpen file name flags allocations => s.files file = none →
      allocations.memory = true ∧
        ((P.xOpen name s.blocks flags s.parent).1.1.code = SQLite3Code.success → allocations.file = none)
  | .file file .xSync flags => s.files file ≠ none → flags ≠ 0x12 ∧ flags ≠ 0x13
  | _ => True

/-! ## Replies -/

theorem not_relays_self {s : Process σ} {e : Event} {parent : σ} : ¬ Relays s s e parent := by
  rintro ⟨-, added, htrace, hcalls⟩
  rw [List.self_eq_append_right.mp htrace] at hcalls
  cases hcalls

theorem arrives_eq (reply : SQLite3Code × Option Int64) :
    Arrives Eq reply
      (reply.1, if reply.1 = SQLite3Code.success then some (reply.2.getD 0) else none) := by
  refine ⟨rfl, ?_⟩
  intro hsuccess n hn
  refine ⟨n, ?_, rfl⟩
  rw [if_pos hsuccess, hn]
  rfl

theorem arrives_sameTruth (reply : SQLite3Code × Option Int32) :
    Arrives SameTruth reply (reply.1, if reply.1 = SQLite3Code.success
      then some (ofBool (castBool (reply.2.getD 0))) else none) := by
  refine ⟨rfl, ?_⟩
  intro hsuccess n hn
  refine ⟨ofBool (castBool n), ?_, sameTruth_castBool n⟩
  rw [if_pos hsuccess, hn]
  rfl

theorem FileMethods.agrees_delivered (m : IoMethod) (reply : m.Reply) :
    m.Agrees reply (FileMethods.delivered m reply) := by
  cases m with
  | xFileSize => exact arrives_eq reply
  | xCheckReservedLock =>
    refine ⟨rfl, ?_⟩
    intro hsuccess n hn
    refine ⟨ofBool (castBool n), ?_, sameTruth_castBool n⟩
    simp only [FileMethods.delivered, if_pos hsuccess, hn, Option.getD_some]
  | _ => rfl

/-! ## Flags -/

/-- `lock_flag` accepts all locks. -/
theorem LockFlag.ofInt_of_permitted {lock : Int32} (h : lock ∈ [0, 1, 2, 3, 4]) :
    ∃ flag, LockFlag.ofInt lock = some flag := by
  simp only [List.mem_cons, List.not_mem_nil, or_false] at h
  rcases h with rfl | rfl | rfl | rfl | rfl <;> exact ⟨_, rfl⟩

theorem AccessFlag.ofInt_of_permitted {flags : Int32} (h : flags ∈ [0, 1, 2]) :
    ∃ flag, AccessFlag.ofInt flags = some flag := by
  simp only [List.mem_cons, List.not_mem_nil, or_false] at h
  rcases h with rfl | rfl | rfl <;> exact ⟨_, rfl⟩

/-- The syncs that are not restricted to the data. -/
theorem SyncFlag.ofInt_of_permitted {flags : Int32} (h : flags ∈ [2, 3, 0x12, 0x13]) :
    (∃ flag, SyncFlag.ofInt flags = some flag) ∧ flags ≠ 0x12 ∧ flags ≠ 0x13 ∨
      SyncFlag.ofInt flags = none ∧ ¬ (flags ≠ 0x12 ∧ flags ≠ 0x13) := by
  simp only [List.mem_cons, List.not_mem_nil, or_false] at h
  rcases h with rfl | rfl | rfl | rfl
  · exact Or.inl ⟨⟨_, rfl⟩, by decide⟩
  · exact Or.inl ⟨⟨_, rfl⟩, by decide⟩
  · exact Or.inr ⟨rfl, by decide⟩
  · exact Or.inr ⟨rfl, by decide⟩

theorem formatOf_of_permitted {flags : Int32} (h : flags &&& openMask ∈ openTypes) :
    ∃ format, formatOf flags = some format := by
  unfold formatOf
  simp only [openTypes, List.mem_cons, List.not_mem_nil, or_false] at h
  rcases h with h | h | h | h | h | h | h | h <;> rw [h] <;> exact ⟨_, rfl⟩

/-! ## Calls -/

namespace FileMethods

variable {self : SQLite3FileWrapper} {m : IoMethod} {args : m.Args}

/-- The flags of `xSync` aside, what SQLite permits is handed on as it is. -/
theorem request_of_permitted (hhas : ∀ m, self.pMethods.has m = true) (hpermitted : m.Permitted args)
    (hsync : m ≠ .xSync) : request self m args = some (m.truth args) := by
  cases m with
  | xSync => exact absurd rfl hsync
  | xLock | xUnlock =>
    obtain ⟨flag, hflag⟩ := LockFlag.ofInt_of_permitted hpermitted
    have hvalue := LockFlag.value_of_ofInt hflag
    simp only [request, hflag, Option.map_some, hvalue]
    rfl
  | xSectorSize => exact if_pos (hhas .xSectorSize)
  | _ => rfl

theorem request_sync {flags : Int32} (hplain : ∃ flag, SyncFlag.ofInt flags = some flag) :
    request self .xSync flags = some (IoMethod.truth .xSync flags) := by
  obtain ⟨flag, hflag⟩ := hplain
  have hvalue := SyncFlag.value_of_ofInt hflag
  simp only [request, hflag, Option.map_some, hvalue]
  rfl

theorem transparent_of_request (hhas : self.pMethods.has m = true)
    (hrequest : request self m args = some (m.truth args)) (s : Process σ) :
    ∃ reply s', call P self m args s = .returns reply s' ∧
      Relays s s' (.file self.block m (m.truth args))
        (P.file self.block m (m.truth args) s.parent).2 ∧
      m.Agrees (P.file self.block m (m.truth args) s.parent).1 reply := by
  obtain ⟨memory, hcall⟩ := call_of_request (P := P) hrequest hhas s
  exact ⟨_, _, hcall, ⟨rfl, _, rfl, rfl⟩, agrees_delivered m _⟩

/-- A call that is not handed on is not transparent. -/
theorem not_transparent_of_no_request (hrequest : request self m args = none) {s : Process σ}
    {e : Event} {parent : σ} {p : m.Reply → Prop} :
    ¬ ∃ reply s', call P self m args s = .returns reply s' ∧ Relays s s' e parent ∧ p reply := by
  obtain ⟨reply, hcall, -⟩ := call_of_no_request (P := P) hrequest s
  rintro ⟨reply', s', hcall', hrelays, -⟩
  rw [hcall] at hcall'
  cases hcall'
  exact not_relays_self hrelays

end FileMethods

theorem VFSMethods.transparent (hhas : ∀ m, P.table.has m = true) {m : VfsMethod} {args : m.Args}
    (hpermitted : m.Permitted args) (s : Process σ) :
    ∃ reply s', VFSMethods.call P m args s = .returns reply s' ∧
      Relays s s' (.vfs m (m.truth args)) (P.vfs m (m.truth args) s.parent).2 ∧
      m.Agrees (P.vfs m (m.truth args) s.parent).1 reply := by
  cases m with
  | xCurrentTime => exact absurd hpermitted id
  | xAccess =>
    obtain ⟨flag, hflag⟩ := AccessFlag.ofInt_of_permitted hpermitted
    have hvalue := AccessFlag.value_of_ofInt hflag
    have hrequest : request .xAccess args = some args := by
      simp only [request, hflag, Option.map_some, hvalue]
    obtain ⟨memory, hcall⟩ := call_of_request hrequest (hhas .xAccess) s
    exact ⟨_, _, hcall, ⟨rfl, _, rfl, rfl⟩, arrives_sameTruth _⟩
  | xDlSym =>
    have hrequest : request .xDlSym args = some args := if_pos hpermitted
    obtain ⟨memory, hcall⟩ := call_of_request hrequest (hhas .xDlSym) s
    exact ⟨_, _, hcall, ⟨rfl, _, rfl, rfl⟩, rfl⟩
  | xDlClose =>
    have hrequest : request .xDlClose args = some args := if_pos hpermitted
    obtain ⟨memory, hcall⟩ := call_of_request hrequest (hhas .xDlClose) s
    exact ⟨_, _, hcall, ⟨rfl, _, rfl, rfl⟩, rfl⟩
  | xCurrentTimeInt64 =>
    have hrequest : request .xCurrentTimeInt64 args = some args := rfl
    obtain ⟨memory, hcall⟩ := call_of_request hrequest (hhas .xCurrentTimeInt64) s
    exact ⟨_, _, hcall, ⟨rfl, _, rfl, rfl⟩, arrives_eq _⟩
  | xDelete | xFullPathname | xDlOpen | xDlError | xRandomness | xSleep | xGetLastError
  | xSetSystemCall | xGetSystemCall | xNextSystemCall =>
    have hrequest : request _ args = some (VfsMethod.truth _ args) := rfl
    obtain ⟨memory, hcall⟩ := call_of_request hrequest (hhas _) s
    exact ⟨_, _, hcall, ⟨rfl, _, rfl, rfl⟩, rfl⟩

/-! ## Steps -/

/-- `open` reaches the parent and repeats its answer exactly when the wrapper has the memory for it. -/
theorem transparent_open_iff {name : Option Bytes} {file : Nat} {flags : Int32} {allocations : Allocations}
    (hflags : flags &&& openMask ∈ openTypes) (s : Process σ) :
    (∃ reply s', VFSMethods.open P allocations name file flags s = .returns reply s' ∧
        Relays s s' (.xOpen name s.blocks flags) (P.xOpen name s.blocks flags s.parent).2 ∧
        OpenAgrees (P.xOpen name s.blocks flags s.parent).1 reply) ↔
      allocations.memory = true ∧
        ((P.xOpen name s.blocks flags s.parent).1.1.code = SQLite3Code.success →
          allocations.file = none) := by
  obtain ⟨format, hformat⟩ := formatOf_of_permitted hflags
  obtain ⟨reply, s', hopen, hopening⟩ := open_spec P allocations name file flags s
  rw [hopen]
  have hiff : (∃ reply₁ s₁, Outcome.returns reply s' = .returns reply₁ s₁ ∧
      Relays s s₁ (.xOpen name s.blocks flags) (P.xOpen name s.blocks flags s.parent).2 ∧
      OpenAgrees (P.xOpen name s.blocks flags s.parent).1 reply₁) ↔
      Relays s s' (.xOpen name s.blocks flags) (P.xOpen name s.blocks flags s.parent).2 ∧
      OpenAgrees (P.xOpen name s.blocks flags s.parent).1 reply := by
    constructor
    · rintro ⟨reply₁, s₁, heq, hrelays⟩
      cases heq
      exact hrelays
    · exact fun hrelays => ⟨reply, s', rfl, hrelays⟩
  rw [hiff]
  cases hopening with
  | badFormat hbad => exact absurd (hbad.symm.trans hformat) (Option.some_ne_none format).symm
  | noMemory _ hmemory =>
    refine iff_of_false ?_ (fun h => hmemory h.1)
    rintro ⟨⟨-, added, htrace, hcalls⟩, -⟩
    rw [List.self_eq_append_right.mp htrace] at hcalls
    cases hcalls
  | @refused _ code _ _ _ _ hmemory hanswer =>
    rw [hanswer]
    refine iff_of_true ⟨⟨rfl, _, rfl, rfl⟩, rfl, ?_⟩ ⟨hmemory, ?_⟩
    · exact fun hcode => absurd hcode code.2
    · exact fun hcode => absurd hcode code.2
  | throws _ _ hanswer hfile =>
    rw [hanswer]
    refine iff_of_false ?_ ?_
    · rintro ⟨-, hcode, hsuccess⟩
      exact Bool.noConfusion (hsuccess hcode).2
    · rintro ⟨-, hnone⟩
      exact absurd (hfile.symm.trans (hnone rfl)) (Option.some_ne_none _)
  | opened _ hmemory hanswer hfile =>
    rw [hanswer]
    exact iff_of_true ⟨⟨rfl, _, rfl, rfl⟩, rfl, fun _ => ⟨rfl, rfl⟩⟩ ⟨hmemory, fun _ => hfile⟩

/-- What one call needs to be transparent. -/
theorem transparent_call_iff {s : Process σ} {call : WrapperCall} (hP : P.Complete)
    (hfiles : ∀ file self, s.files file = some self → ∀ m, self.pMethods.has m = true)
    (hpermitted : call.Permitted) : Transparent P s call ↔ Accepted P s call := by
  cases call with
  | xOpen file name flags allocations =>
    exact imp_congr_right fun _ => transparent_open_iff hpermitted s
  | xClose file =>
    refine iff_of_true ?_ trivial
    intro self hself
    exact ⟨_, _, close_eq self, ⟨rfl, _, rfl, rfl⟩, rfl⟩
  | vfs m args => exact iff_of_true (VFSMethods.transparent hP.vfs hpermitted s) trivial
  | file file m args =>
    by_cases hsync : m = .xSync
    · subst hsync
      rcases SyncFlag.ofInt_of_permitted hpermitted with ⟨hplain, hflags⟩ | ⟨hnone, hflags⟩
      · refine iff_of_true ?_ (fun _ => hflags)
        intro self hself
        exact FileMethods.transparent_of_request (hfiles file self hself .xSync)
          (FileMethods.request_sync hplain) s
      · rcases hself : s.files file with - | self
        · refine iff_of_true ?_ (fun hopen => absurd hself hopen)
          intro self hself'
          exact absurd (hself'.symm.trans hself) (Option.some_ne_none self)
        · have hrequest : FileMethods.request self .xSync args = none := by
            simp only [FileMethods.request, hnone, Option.map_none]
          refine iff_of_false ?_ ?_
          · exact fun h => FileMethods.not_transparent_of_no_request hrequest (h self hself)
          · exact fun h => hflags (h (by rw [hself]; exact Option.some_ne_none self))
    · refine iff_of_true ?_ ?_
      · intro self hself
        have hhas := hfiles file self hself
        exact FileMethods.transparent_of_request (hhas m)
          (FileMethods.request_of_permitted hhas hpermitted hsync) s
      · cases m with
        | xSync => exact absurd rfl hsync
        | _ => trivial

/-- The files that are open have all methods. -/
def FilesComplete (s : Process σ) : Prop :=
  ∀ file self, s.files file = some self → ∀ m, self.pMethods.has m = true

theorem filesComplete_place {s s' : Process σ} (h : FilesComplete s) {file : Nat}
    {object : Option SQLite3FileWrapper} (hfiles : s'.files = Function.update s.files file object)
    (hobject : ∀ self, object = some self → ∀ m, self.pMethods.has m = true) : FilesComplete s' := by
  intro file' self hself
  rw [hfiles] at hself
  by_cases heq : file' = file
  · rw [heq, Function.update_self] at hself
    exact hobject self hself
  · rw [Function.update_of_ne heq] at hself
    exact h file' self hself

theorem filesComplete_settle {s : Process σ} (h : FilesComplete s) {α : Type} {p : Event → Prop}
    {outcome : Outcome (Process σ) α} (hends : outcome.Ends (Adds p s)) :
    FilesComplete (s.settle outcome) := by
  intro file self hself
  rw [files_settle hends] at hself
  exact h file self hself

theorem filesComplete_next {s : Process σ} (hP : P.Complete) (h : FilesComplete s) (call : WrapperCall) :
    FilesComplete ((process P (plain P)).next s call) := by
  have hnone : ∀ self, (none : Option SQLite3FileWrapper) = some self → ∀ m,
      self.pMethods.has m = true :=
    fun self hself => absurd hself.symm (Option.some_ne_none self)
  have hstep := next_step (P := P) (D := plain P) s call
  generalize (process P (plain P)).next s call = s' at hstep ⊢
  cases hstep with
  | idle => exact h
  | opening _ _ hopening =>
    cases hopening with
    | badFormat | noMemory | refused | throws => exact filesComplete_place h rfl hnone
    | opened _ _ hopen =>
      refine filesComplete_place (filesComplete_place h rfl hnone) rfl ?_
      rintro self ⟨rfl⟩
      exact hP.file _ _ _ _ _ (by rw [hopen])
  | closing => exact filesComplete_place h rfl hnone
  | vfs m args => exact filesComplete_settle h (VFSMethods.adds P m args s)
  | @file _ self _ m args => exact filesComplete_settle h ((plain P).adds self m args s)

/-! ## Runs -/

/-- Over a parent with all methods and for calls that SQLite makes, the wrapper is invisible in a run
exactly when it has the memory to open each file and no sync is restricted to the data. -/
theorem transparent_iff_accepted (hP : P.Complete) (parent : σ) (calls : List WrapperCall)
    (hpermitted : ∀ call ∈ calls, call.Permitted) :
    (process P (plain P)).Throughout (Transparent P) (.initial parent) calls ↔
      (process P (plain P)).Throughout (Accepted P) (.initial parent) calls := by
  apply (process P (plain P)).throughout_iff_throughout FilesComplete
  · exact fun call hcall s h => transparent_call_iff hP h (hpermitted call hcall)
  · exact fun call _ s h _ => filesComplete_next hP h call
  · exact fun file self hself => absurd hself.symm (Option.some_ne_none self)

/-- A parent with all methods that answers every call with success. -/
def quietParent : Parent Unit := .quiet .full .full

theorem quietParent_complete : quietParent.Complete where
  vfs _ := rfl
  file _ _ _ _ _ hopen m := by
    cases hopen
    rfl

theorem transparent_iff_accepted_quietParent :
    (process quietParent (plain quietParent)).Throughout (Transparent quietParent) (.initial ())
      [.xOpen 0 none 0x100 ⟨true, none⟩, .file 0 .xSync 3, .xClose 0] := by
  apply (transparent_iff_accepted quietParent_complete () _ _).mpr
  · exact ⟨fun _ => ⟨rfl, fun _ => rfl⟩, fun _ => by decide, trivial, trivial⟩
  · intro call hcall
    simp only [List.mem_cons, List.not_mem_nil, or_false] at hcall
    rcases hcall with rfl | rfl | rfl
    · exact List.mem_cons_self
    · exact List.mem_cons_of_mem _ List.mem_cons_self
    · trivial

/-- A full sync of the data alone is refused, and the parent does not see it. -/
theorem dataOnlySync_refused : quietParent.Complete ∧
    (∀ call ∈ [.xOpen 0 none 0x100 ⟨true, none⟩, .file 0 .xSync 0x13], WrapperCall.Permitted call) ∧
    ¬ (process quietParent (plain quietParent)).Throughout (Transparent quietParent) (.initial ())
      [.xOpen 0 none 0x100 ⟨true, none⟩, .file 0 .xSync 0x13] := by
  refine ⟨quietParent_complete, ?_, ?_⟩
  · intro call hcall
    simp only [List.mem_cons, List.not_mem_nil, or_false] at hcall
    rcases hcall with rfl | rfl
    · exact List.mem_cons_self
    · simp [WrapperCall.Permitted, IoMethod.Permitted]
  · rintro ⟨-, hsync, -⟩
    exact FileMethods.not_transparent_of_no_request rfl (hsync _ rfl)

end Wrapper

end Ysqlite3.Vfs
