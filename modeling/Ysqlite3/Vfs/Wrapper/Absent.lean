import Ysqlite3.Vfs.Wrapper.Calls

/-!
# Methods that the parent lacks

The tables of the wrapper have every method, whatever the parent's have. A method that the parent lacks
is called all the same, except `xSectorSize`.
-/

namespace Ysqlite3.Vfs.Wrapper

variable {σ : Type} {P : Parent σ}

/-! ## What is promised, and when -/

/-- The call returns. If the parent lacks the method for it, the reply is an error or a default. -/
def Served (P : Parent σ) (s : Process σ) : WrapperCall → Prop
  | .xOpen _ _ _ _ => True
  | .xClose _ => True
  | .vfs m args => ∃ reply s', VFSMethods.call P m args s = .returns reply s' ∧
      (¬ P.table.has m.target = true → m.Declined reply)
  | .file file m args => ∀ self, s.files file = some self →
      ∃ reply s', FileMethods.call P self m args s = .returns reply s' ∧
        (¬ self.pMethods.has m = true → m.Declined reply)

/-- The parent has the method that answers the call, unless it is `xSectorSize` of a file. -/
def HasMethods (P : Parent σ) (s : Process σ) : WrapperCall → Prop
  | .xOpen _ _ _ _ => True
  | .xClose _ => True
  | .vfs m _ => P.table.has m.target = true
  | .file file m _ => ∀ self, s.files file = some self →
      m = .xSectorSize ∨ self.pMethods.has m = true

/-! ## Calls -/

/-- Only a method that every table has, or `xSectorSize`, is not asked for. -/
theorem FileMethods.has_of_no_request {self : SQLite3FileWrapper} {m : IoMethod} {args : m.Args}
    (hrequest : FileMethods.request self m args = none) :
    m = .xSectorSize ∨ self.pMethods.has m = true := by
  cases m with
  | xSectorSize => exact Or.inl rfl
  | xSync | xLock | xUnlock => exact Or.inr (self.pMethods.has_of_required rfl rfl)
  | _ => exact absurd hrequest (Option.some_ne_none _)

theorem VFSMethods.has_of_no_request {m : VfsMethod} {args : m.Args}
    (hrequest : VFSMethods.request m args = none) : P.table.has m.target = true := by
  cases m with
  | xAccess | xDlSym | xDlClose => exact P.table.has_of_required rfl rfl
  | _ => exact absurd hrequest (Option.some_ne_none _)

/-- A function of a file returns, and stands in for a method that is missing, exactly when the parent
has the method or it is `xSectorSize`. -/
theorem FileMethods.served_iff {self : SQLite3FileWrapper} {m : IoMethod} {args : m.Args}
    {s : Process σ} :
    (∃ reply s', FileMethods.call P self m args s = .returns reply s' ∧
      (¬ self.pMethods.has m = true → m.Declined reply)) ↔
      m = .xSectorSize ∨ self.pMethods.has m = true := by
  rcases hrequest : FileMethods.request self m args with - | args'
  · obtain ⟨reply, hcall, hdeclined⟩ := FileMethods.call_of_no_request (P := P) hrequest s
    exact iff_of_true ⟨reply, s, hcall, fun _ => hdeclined⟩ (FileMethods.has_of_no_request hrequest)
  · by_cases hhas : self.pMethods.has m = true
    · obtain ⟨memory, hcall⟩ := FileMethods.call_of_request (P := P) hrequest hhas s
      exact iff_of_true ⟨_, _, hcall, fun habsent => absurd hhas habsent⟩ (Or.inr hhas)
    · rw [FileMethods.call_of_absent hrequest hhas]
      refine iff_of_false ?_ ?_
      · rintro ⟨reply, s', hcall, -⟩
        cases hcall
      · rintro (rfl | hhas')
        · exact absurd hrequest (by simp [FileMethods.request, hhas])
        · exact hhas hhas'

/-- A function of the VFS returns exactly when the parent has the method that answers it. -/
theorem VFSMethods.served_iff {m : VfsMethod} {args : m.Args} {s : Process σ} :
    (∃ reply s', VFSMethods.call P m args s = .returns reply s' ∧
      (¬ P.table.has m.target = true → m.Declined reply)) ↔ P.table.has m.target = true := by
  rcases hrequest : VFSMethods.request m args with - | args'
  · obtain ⟨reply, hcall, hdeclined⟩ := VFSMethods.call_of_no_request (P := P) hrequest s
    exact iff_of_true ⟨reply, s, hcall, fun _ => hdeclined⟩ (VFSMethods.has_of_no_request hrequest)
  · by_cases hhas : P.table.has m.target = true
    · obtain ⟨memory, hcall⟩ := VFSMethods.call_of_request hrequest hhas s
      exact iff_of_true ⟨_, _, hcall, fun habsent => absurd hhas habsent⟩ hhas
    · rw [VFSMethods.call_of_absent hrequest hhas]
      refine iff_of_false ?_ hhas
      rintro ⟨reply, s', hcall, -⟩
      cases hcall

theorem served_iff_hasMethods {s : Process σ} (call : WrapperCall) :
    Served P s call ↔ HasMethods P s call := by
  cases call with
  | xOpen file name flags allocations => exact Iff.rfl
  | xClose file => exact Iff.rfl
  | vfs m args => exact VFSMethods.served_iff
  | file file m args => exact forall_congr' fun self => imp_congr_right fun _ => FileMethods.served_iff

/-- Nothing that is recorded in between ends the process. -/
theorem Adds.crashed {p : Event → Prop} {s s' : Process σ} (h : Adds p s s') : s'.crashed = s.crashed := by
  obtain ⟨added, -, heq⟩ := h
  rw [heq]

theorem crashed_next {s : Process σ} (hruns : s.crashed = false) {call : WrapperCall}
    (hserved : Served P s call) : ((process P (plain P)).next s call).crashed = false := by
  have hstep := next_step (P := P) (D := plain P) s call
  generalize (process P (plain P)).next s call = s' at hstep ⊢
  cases hstep with
  | idle => exact hruns
  | opening _ _ hopening =>
    cases hopening with
    | badFormat | noMemory | refused | throws | opened => exact hruns
  | closing => exact hruns
  | vfs m args =>
    obtain ⟨reply, s', hcall, -⟩ := hserved
    have hadds := VFSMethods.adds P m args s
    rw [hcall] at hadds ⊢
    exact (Adds.crashed hadds).trans hruns
  | @file file self hself m args =>
    obtain ⟨reply, s', hcall, -⟩ := hserved self hself
    have hadds := FileMethods.adds P self m args s
    simp only [plain]
    rw [hcall] at hadds ⊢
    exact (Adds.crashed hadds).trans hruns

/-! ## Runs -/

/-- No null pointer is called, and what the parent lacks has its stand-in. -/
def CallsOnlyPresent (P : Parent σ) (s : Process σ) (call : WrapperCall) : Prop :=
  ((process P (plain P)).next s call).crashed = false ∧ Served P s call

/-- In every run the wrapper calls nothing that is missing, and answers in place of it, exactly when the
parent has the method behind each call, `xSectorSize` apart. -/
theorem callsOnlyPresent_iff_hasMethods (P : Parent σ) (parent : σ) (calls : List WrapperCall) :
    (process P (plain P)).Throughout (CallsOnlyPresent P) (.initial parent) calls ↔
      (process P (plain P)).Throughout (HasMethods P) (.initial parent) calls := by
  apply (process P (plain P)).throughout_iff_throughout fun s => s.crashed = false
  · intro call _ s hruns
    rw [← served_iff_hasMethods]
    exact ⟨fun h => h.2, fun hserved => ⟨crashed_next hruns hserved, hserved⟩⟩
  · exact fun call _ s _ h => h.1
  · rfl

/-- The file offers `xFetch`, which the parent's file does not have. -/
theorem bareParent_crashes :
    ¬ (process .bare (plain .bare)).Throughout (CallsOnlyPresent .bare) (.initial ())
      [.xOpen 0 none 0x100 ⟨true, none⟩, .file 0 .xFetch (0, 4096, [])] := by
  rintro ⟨-, ⟨hruns, -⟩, -⟩
  exact Bool.noConfusion hruns

end Ysqlite3.Vfs.Wrapper
