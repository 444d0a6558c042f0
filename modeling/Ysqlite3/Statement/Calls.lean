import Ysqlite3.Statement.Cursor

/-!
# The calls on a statement

What each call of a program does to the statement. `Statement` resets a statement that has come to its end,
so between two calls it is ready or on a row, and each `step` goes on where the last one stopped.
-/

namespace Ysqlite3

namespace Vdbe

variable (compiled : Compiled) {vdbe : Vdbe} {left : Execution}

/-- Between two calls of `Statement` the program has not halted, and an error code is there for a row only
that could not be converted. -/
structure Settled (vdbe : Vdbe) : Prop where
  stage : vdbe.stage ≠ .halted
  rc : vdbe.rc = 0 ∨ ∃ row left, vdbe.stage = .onRow row left ∧ vdbe.rc = SQLite3Code.nomem

/-- What a step finds before it: the rest of the run, or a new one. -/
def ahead (vdbe : Vdbe) : Execution :=
  match vdbe.stage with
  | .onRow _ left =>
    if vdbe.rc = SQLite3Code.nomem then ⟨[], SQLite3Code.nomem, "out of memory", by decide⟩ else left
  | _ => compiled.program vdbe.starts vdbe.aVar

/-- The statement in a run. -/
def started (vdbe : Vdbe) : Vdbe :=
  match vdbe.stage with
  | .onRow _ _ => vdbe
  | _ => { vdbe with starts := vdbe.starts + 1, rc := 0 }

/-- The statement at the end of a run. -/
def ended (left : Execution) (vdbe : Vdbe) : Vdbe :=
  { vdbe with
    stage := .halted
    rc := if left.ends = SQLite3Code.done then 0 else left.ends
    errCode := left.ends
    errMsg := left.message }

@[simp] theorem aVar_started (vdbe : Vdbe) : vdbe.started.aVar = vdbe.aVar := by
  unfold started
  split <;> rfl

theorem exec_nil (h : left.rows = []) : vdbe.exec left = (left.ends, vdbe.ended left) := by
  unfold exec
  rw [h]
  rfl

theorem exec_cons {row : Row} {rows : List Row} (h : left.rows = row :: rows) :
    vdbe.exec left =
      (SQLite3Code.row,
        { vdbe with stage := .onRow row { left with rows }, errCode := SQLite3Code.row }) := by
  unfold exec
  rw [h]

theorem ready_settled (hstage : vdbe.stage = .ready) (hrc : vdbe.rc = 0) : vdbe.Settled where
  stage := by rw [hstage]; decide
  rc := Or.inl hrc

/-- Whether a statement is settled shows in its stage and its error code. -/
theorem Settled.congr {vdbe' : Vdbe} (h : vdbe.Settled) (hstage : vdbe'.stage = vdbe.stage)
    (hrc : vdbe'.rc = vdbe.rc) : vdbe'.Settled where
  stage := hstage ▸ h.stage
  rc := by
    rw [hstage, hrc]
    exact h.rc

/-- Each step of a settled statement executes what is ahead of it. -/
theorem step_eq (h : vdbe.Settled) :
    vdbe.step compiled = vdbe.started.exec (vdbe.ahead compiled) := by
  unfold step started ahead
  cases hstage : vdbe.stage with
  | ready => rfl
  | halted => exact absurd hstage h.stage
  | onRow row left =>
    simp only
    by_cases hrc : vdbe.rc = SQLite3Code.nomem
    · rw [if_pos hrc, if_pos hrc, exec_nil rfl]
      have hne : SQLite3Code.nomem ≠ SQLite3Code.done := by decide
      rw [ended, if_neg hne, hrc]
    · rw [if_neg hrc, if_neg hrc]

/-- A statement in a run has no error, unless nothing is ahead of it. -/
theorem rc_started (h : vdbe.Settled) {row : Row} {rows : List Row}
    (hrows : (vdbe.ahead compiled).rows = row :: rows) : vdbe.started.rc = 0 := by
  unfold started
  unfold ahead at hrows
  rcases h.rc with hrc | ⟨row', left, hstage, hrc⟩
  · split
    · exact hrc
    · rfl
  · simp only [hstage, if_pos hrc] at hrows
    cases hrows

section OnRow

variable {row : Row} {rows : List Row} {code : SQLite3Code}

/-- The statement on the row it has come to. -/
def onRow (row : Row) (left : Execution) (vdbe : Vdbe) : Vdbe :=
  { vdbe with stage := .onRow row left, errCode := SQLite3Code.row }

theorem onRow_settled (hrc : vdbe.rc = 0) : (vdbe.onRow row left).Settled where
  stage := fun h => by cases h
  rc := Or.inl hrc

theorem ahead_onRow (hrc : vdbe.rc = 0) : (vdbe.onRow row left).ahead compiled = left := by
  have hne : vdbe.rc ≠ SQLite3Code.nomem := by
    rw [hrc]
    decide
  unfold ahead onRow
  exact if_neg hne

/-- A step to the next row. -/
theorem step_row (h : vdbe.Settled) (hrows : (vdbe.ahead compiled).rows = row :: rows) :
    vdbe.step compiled =
      (SQLite3Code.row, vdbe.started.onRow row { vdbe.ahead compiled with rows }) := by
  rw [step_eq compiled h]
  exact exec_cons hrows

/-- A step to the end. -/
theorem step_end (h : vdbe.Settled) (hrows : (vdbe.ahead compiled).rows = []) :
    vdbe.step compiled =
      ((vdbe.ahead compiled).ends, vdbe.started.ended (vdbe.ahead compiled)) := by
  rw [step_eq compiled h, exec_nil hrows]

end OnRow

/-- The loop of `finish` goes to the end of the run, with its result code and the statement at its end. -/
theorem stepToEnd_eq (h : vdbe.Settled) :
    Cursor.stepToEnd compiled vdbe =
      ((vdbe.ahead compiled).ends, vdbe.started.ended (vdbe.ahead compiled)) := by
  generalize hahead : vdbe.ahead compiled = e
  obtain ⟨rows, ends, message, hends⟩ := e
  induction rows generalizing vdbe with
  | nil =>
    have hstep := step_end compiled h (congrArg Execution.rows hahead)
    rw [Cursor.stepToEnd, hstep, hahead]
    exact dif_neg hends
  | cons row rows ih =>
    have hrows := congrArg Execution.rows hahead
    have hrc := rc_started compiled h hrows
    have hstep := step_row compiled h hrows
    rw [Cursor.stepToEnd, hstep, dif_pos rfl, hahead]
    rw [ih (onRow_settled hrc) (ahead_onRow compiled hrc)]
    rfl

theorem reset_settled (halts : SQLite3Code) (vdbe : Vdbe) : (vdbe.reset halts).2.Settled := by
  unfold reset
  cases vdbe.stage with
  | ready => exact ready_settled rfl rfl
  | onRow row left => exact ready_settled rfl rfl
  | halted => exact ready_settled rfl rfl

end Vdbe

namespace Cursor

variable {compiled : Compiled} {self : Cursor}

/-! ## One call -/

/-- The statement behind the object is settled. -/
def Settled (self : Cursor) : Prop := self.vdbe.Settled

/-- A step to the next row, whose results the program gets. -/
theorem step_row (h : self.Settled) {handle : StatementHandle} (hopen : self.statement = some handle)
    {row : Row} {rows : List Row} (hrows : (self.vdbe.ahead compiled).rows = row :: rows) :
    ∃ sqlite, self.step compiled =
      (.ok { statement := some handle, database := some self.database },
        { self with
          sqlite
          vdbe := self.vdbe.started.onRow row { self.vdbe.ahead compiled with rows }
          results := { statement := some handle, database := some self.database } }) := by
  refine ⟨self.sqlite.reportOn handle (self.vdbe.step compiled).2.errMsg, ?_⟩
  unfold step
  rw [hopen]
  simp only [Vdbe.step_row compiled h hrows, Statement.step, object, hopen]
  rfl

/-- A step at the end: the program gets empty results or an exception, and the statement is reset. -/
theorem step_end (h : self.Settled) {handle : StatementHandle} (hopen : self.statement = some handle)
    (hrows : (self.vdbe.ahead compiled).rows = []) :
    ∃ sqlite what,
      self.step compiled =
        (if (self.vdbe.ahead compiled).ends = SQLite3Code.done then .ok .empty
          else .error (.sqlite3 (self.vdbe.ahead compiled).ends what),
        { self with
          sqlite
          vdbe := ((self.vdbe.started.ended (self.vdbe.ahead compiled)).reset 0).2
          results := if (self.vdbe.ahead compiled).ends = SQLite3Code.done then .empty
            else self.results }) := by
  have hstep := Vdbe.step_end compiled h hrows
  generalize self.vdbe.ahead compiled = left at hstep
  refine ⟨self.sqlite.reportOn handle left.message,
    (self.sqlite.reportOn handle left.message).errmsg (some self.database), ?_⟩
  unfold step
  rw [hopen]
  simp only [hstep, Statement.step, object, hopen, if_neg left.ends_ne, Vdbe.ended]
  by_cases hdone : left.ends = SQLite3Code.done
  · simp only [if_pos hdone]
    rfl
  · simp only [if_neg hdone]
    rfl

/-- `finish` goes to the end of the run. -/
theorem finish_open (compiled : Compiled) (h : self.Settled) {handle : StatementHandle}
    (hopen : self.statement = some handle) :
    self.finish compiled =
      (if (self.vdbe.ahead compiled).ends = SQLite3Code.done then .ok ()
        else .error (.sqlite3 (self.vdbe.ahead compiled).ends ""),
      { self with
        vdbe := ((self.vdbe.started.ended (self.vdbe.ahead compiled)).reset 0).2 }) := by
  unfold finish
  rw [hopen]
  simp only [Vdbe.stepToEnd_eq compiled h, Statement.finish, object, hopen]
  rfl

/-! ## Calls that do not run the program -/

end Cursor

namespace Vdbe

variable {compiled : Compiled} {vdbe : Vdbe} {left : Execution} {i : Int}

/-- What binding to parameter `i` can change: its value, and the error of the connection. -/
structure Binds (i : Int) (before after : Vdbe) : Prop where
  stage : after.stage = before.stage
  rc : after.rc = before.rc
  starts : after.starts = before.starts
  others : ∀ j ≠ i.toNat, after.aVar j = before.aVar j

theorem Binds.refl (i : Int) (vdbe : Vdbe) : Binds i vdbe vdbe := ⟨rfl, rfl, rfl, fun _ _ => rfl⟩

theorem Binds.setVar {before after : Vdbe} (h : Binds i before after) (value : Mem) :
    Binds i before (after.setVar i value) where
  stage := h.stage
  rc := h.rc
  starts := h.starts
  others j hj := by
    rw [← h.others j hj]
    exact Function.update_of_ne hj _ _

theorem unbind_binds (compiled : Compiled) (i : Int) (vdbe : Vdbe) :
    Binds i vdbe (vdbe.unbind compiled i).2 := by
  unfold unbind
  by_cases hstage : vdbe.stage ≠ .ready
  · rw [if_pos hstage]
    exact ⟨rfl, rfl, rfl, fun _ _ => rfl⟩
  · rw [if_neg hstage]
    by_cases hrange : i < 1 ∨ compiled.parameters.count < i
    · rw [if_pos hrange]
      exact ⟨rfl, rfl, rfl, fun _ _ => rfl⟩
    · rw [if_neg hrange]
      exact ⟨rfl, rfl, rfl, fun j hj => Function.update_of_ne hj _ _⟩

theorem bindMem_binds (compiled : Compiled) (value : Mem) (i : Int) (vdbe : Vdbe) :
    Binds i vdbe (vdbe.bindMem compiled value i).2 := by
  have hunbind := unbind_binds compiled i vdbe
  unfold bindMem
  by_cases hrc : (vdbe.unbind compiled i).1 = 0
  · simp only [if_pos hrc]
    exact hunbind.setVar value
  · simp only [if_neg hrc]
    exact hunbind

theorem bindZeroblob64_binds (compiled : Compiled) (n : UInt64) (i : Int) (vdbe : Vdbe) :
    Binds i vdbe (vdbe.bindZeroblob64 compiled n i).2 := by
  unfold bindZeroblob64
  by_cases hlimit : compiled.limit < n.toNat
  · rw [if_pos hlimit]
    exact .refl i vdbe
  · rw [if_neg hlimit]
    exact bindMem_binds compiled _ i vdbe

theorem bindBytes_binds (compiled : Compiled) (value : Bytes → Mem) (transient memory : Bool)
    (data : Option Bytes) (i : Int) (vdbe : Vdbe) :
    Binds i vdbe (vdbe.bindBytes compiled value transient memory data i).2 := by
  have hunbind := unbind_binds compiled i vdbe
  have herror : ∀ code message,
      Binds i vdbe { (vdbe.unbind compiled i).2 with errCode := code, errMsg := message } :=
    fun _ _ => ⟨hunbind.stage, hunbind.rc, hunbind.starts, hunbind.others⟩
  unfold bindBytes
  cases data with
  | none => exact hunbind
  | some z =>
    by_cases hrc : (vdbe.unbind compiled i).1 ≠ 0
    · simp only [if_pos hrc]
      exact hunbind
    · simp only [if_neg hrc]
      by_cases hlimit : compiled.limit < z.length
      · simp only [if_pos hlimit]
        cases transient with
        | true => exact herror _ _
        | false => exact (herror _ _).setVar _
      · simp only [if_neg hlimit]
        by_cases hmemory : (transient && !memory) = true
        · simp only [if_pos hmemory]
          exact herror _ _
        · simp only [if_neg hmemory]
          exact hunbind.setVar _

/-- What reading a column can change: a blob that was read as a text is a text from then on; a value that
could not be converted is lost from the row, and the statement has an error then. -/
structure Reads (before after : Vdbe) : Prop where
  aVar : after.aVar = before.aVar
  starts : after.starts = before.starts
  stage : after.stage = before.stage ∨
    ∃ row row' left, before.stage = .onRow row left ∧ after.stage = .onRow row' left ∧
      row'.length = row.length
  rc : after.rc = before.rc ∨
    after.rc = SQLite3Code.nomem ∧ ∃ row left, after.stage = .onRow row left

theorem Reads.refl (vdbe : Vdbe) : Reads vdbe vdbe := ⟨rfl, rfl, Or.inl rfl, Or.inl rfl⟩

/-- On a row before, on a row of the same run afterwards. -/
theorem Reads.onRow {before after : Vdbe} (h : Reads before after) {row : Row} {left : Execution}
    (hstage : before.stage = .onRow row left) :
    ∃ row', after.stage = .onRow row' left ∧ row'.length = row.length := by
  rcases h.stage with hsame | ⟨row₁, row₂, left', hbefore, hafter, hlength⟩
  · exact ⟨row, hsame.trans hstage, rfl⟩
  · obtain ⟨rfl, rfl⟩ := Stage.onRow.inj (hbefore.symm.trans hstage)
    exact ⟨row₂, hafter, hlength⟩

theorem Reads.trans {a b c : Vdbe} (hab : Reads a b) (hbc : Reads b c) : Reads a c where
  aVar := hbc.aVar.trans hab.aVar
  starts := hbc.starts.trans hab.starts
  stage := by
    rcases hab.stage with hsame | ⟨row, row', left, ha, hb, hlength⟩
    · rw [← hsame]
      exact hbc.stage
    · obtain ⟨row'', hc, hlength'⟩ := hbc.onRow hb
      exact Or.inr ⟨row, row'', left, ha, hc, hlength'.trans hlength⟩
  rc := by
    rcases hbc.rc with hsame | hlost
    · rcases hab.rc with hsame' | ⟨hrc, row, left, hstage⟩
      · exact Or.inl (hsame.trans hsame')
      · obtain ⟨row', hc, -⟩ := hbc.onRow hstage
        exact Or.inr ⟨hsame.trans hrc, row', left, hc⟩
    · exact Or.inr hlost

theorem Reads.settled {before after : Vdbe} (h : Reads before after) (hbefore : before.Settled) :
    after.Settled where
  stage := by
    rcases h.stage with hsame | ⟨row, row', left, -, hafter, -⟩
    · rw [hsame]
      exact hbefore.stage
    · rw [hafter]
      exact fun hhalted => by cases hhalted
  rc := by
    rcases h.rc with hsame | ⟨hrc, row, left, hstage⟩
    · rcases hbefore.rc with hzero | ⟨row, left, hstage, hrc⟩
      · exact Or.inl (hsame.trans hzero)
      · obtain ⟨row', hafter, -⟩ := h.onRow hstage
        exact Or.inr ⟨row', left, hafter, hsame.trans hrc⟩
    · exact Or.inr ⟨row, left, hstage, hrc⟩

theorem column_reads {α : Type} (read : Mem → α) (memory : Bool) (i : Int) (vdbe : Vdbe) :
    Reads vdbe (vdbe.column read memory i).2 := by
  unfold column
  cases hmem : vdbe.columnMem i with
  | none => exact ⟨rfl, rfl, Or.inl rfl, Or.inl rfl⟩
  | some value =>
    by_cases hplain : (value = .null || memory) = true
    · simp only [if_pos hplain]
      exact .refl vdbe
    · simp only [if_neg hplain]
      unfold columnMem at hmem
      unfold loseColumn
      cases hstage : vdbe.stage with
      | onRow row left =>
        exact ⟨rfl, rfl, Or.inr ⟨row, _, left, hstage, rfl, List.length_set⟩,
          Or.inr ⟨rfl, _, left, rfl⟩⟩
      | ready => simp [hstage] at hmem
      | halted => simp [hstage] at hmem

/-- On a row the columns are those of the row. -/
theorem columnMem_eq {row : Row} (hstage : vdbe.stage = .onRow row left) (hi : 0 ≤ i) :
    vdbe.columnMem i = row[i.toNat]? := by
  unfold columnMem
  rw [hstage]
  exact if_neg (by omega)

theorem columnMem_natCast {row : Row} (hstage : vdbe.stage = .onRow row left) (i : Nat) :
    vdbe.columnMem i = row[i]? := by
  rw [columnMem_eq hstage (Int.natCast_nonneg i), Int.toNat_natCast]

/-- On a row only the value of the column is changed. -/
theorem textColumn_onRow {row : Row} (hstage : vdbe.stage = .onRow row left) (hi : 0 ≤ i) :
    vdbe.textColumn i = { vdbe with stage := .onRow (row.modify i.toNat Mem.asText) left } := by
  unfold textColumn
  rw [hstage]
  exact if_neg (by omega)

theorem textColumn_reads (i : Int) (vdbe : Vdbe) : Reads vdbe (vdbe.textColumn i) := by
  unfold textColumn
  split
  · rename_i row left hstage
    split
    · exact .refl vdbe
    · exact ⟨rfl, rfl, Or.inr ⟨row, _, left, hstage, rfl, List.length_modify _ _ _⟩, Or.inl rfl⟩
  · exact .refl vdbe

theorem columnText_reads (compiled : Compiled) (memory : Bool) (i : Int) (vdbe : Vdbe) :
    Reads vdbe (vdbe.columnText compiled memory i).2 :=
  (column_reads _ memory i vdbe).trans (textColumn_reads i _)

end Vdbe

namespace Cursor

variable {compiled : Compiled} {self : Cursor}

/-- Binding is the binder for the index, if the statement is open and has the parameter. -/
theorem bindWith_cases (binder : Int → Vdbe → SQLite3Code × Vdbe) (index : Index) (self : Cursor) :
    (self.bindWith compiled binder index).2 = self ∨
      ∃ i, Statement.toParameterIndex compiled.parameters index = .ok i ∧
        (self.bindWith compiled binder index).2 = { self with vdbe := (binder i self.vdbe).2 } := by
  unfold bindWith
  cases self.statement with
  | none => exact Or.inl rfl
  | some handle =>
    cases hindex : Statement.toParameterIndex compiled.parameters index with
    | error e => exact Or.inl rfl
    | ok i => exact Or.inr ⟨i, rfl, rfl⟩

/-- The binder for an argument, by the 64 bit of an integer. -/
def binder (compiled : Compiled) (memory : Bool) : Argument → Int → Vdbe → SQLite3Code × Vdbe
  | .cString transient value => Vdbe.bindText compiled transient memory value (-1)
  | .string transient value => Vdbe.bindText compiled transient memory (some value) (castInt value.length)
  | .span blob => Vdbe.bindBlob64 compiled false memory blob
  | .nullptr => Vdbe.bindNull compiled
  | .double bits => Vdbe.bindDouble compiled bits
  | .int64 value => Vdbe.bindInt64 compiled value
  | .zeros size =>
    if size ≤ 2147483647 then Vdbe.bindMem compiled (.zeroblob size.toNat)
    else Vdbe.bindZeroblob64 compiled size

/-- An integer that is an `int` survives as one. -/
theorem toInt64_toInt32 {value : Int64}
    (h : Int32.minValue.toInt64 ≤ value ∧ value ≤ Int32.maxValue.toInt64) :
    value.toInt32.toInt64 = value := by
  obtain ⟨hmin, hmax⟩ := h
  rw [Int64.le_iff_toInt_le] at hmin hmax
  have hlow : Int32.minValue.toInt64.toInt = -2147483648 := by decide
  have hhigh : Int32.maxValue.toInt64.toInt = 2147483647 := by decide
  apply Int64.toInt_inj.mp
  rw [Int32.toInt_toInt64, Int64.toInt_toInt32]
  exact Int.bmod_eq_of_le (by omega) (by omega)

/-- The overloads differ in their binders. -/
theorem bind_eq (compiled : Compiled) (memory : Bool) (index : Index) (argument : Argument) :
    bind compiled memory index argument = bindWith compiled (binder compiled memory argument) index := by
  cases argument with
  | cString transient value => rfl
  | string transient value => rfl
  | span blob => rfl
  | nullptr => rfl
  | double bits => rfl
  | int64 value =>
    show bindInt64 compiled value index = _
    unfold bindInt64
    by_cases hint : Int32.minValue.toInt64 ≤ value ∧ value ≤ Int32.maxValue.toInt64
    · rw [if_pos hint, Vdbe.bindInt, toInt64_toInt32 hint]
      rfl
    · rw [if_neg hint]
      rfl
  | zeros size =>
    show bindZeros compiled size index = _
    unfold bindZeros binder
    by_cases hint : size ≤ 2147483647
    · have hlt : size.toNat < 2 ^ 31 := by
        have hle := UInt64.le_iff_toNat_le.mp hint
        have hmax : (2147483647 : UInt64).toNat = 2147483647 := rfl
        omega
      simp only [if_pos hint, Vdbe.bindZeroblob, castInt_of_lt hlt, Int.toNat_natCast]
    · simp only [if_neg hint]

theorem binder_binds (compiled : Compiled) (memory : Bool) (argument : Argument) (i : Int)
    (vdbe : Vdbe) : Vdbe.Binds i vdbe (binder compiled memory argument i vdbe).2 := by
  cases argument with
  | cString transient value => exact Vdbe.bindBytes_binds compiled _ _ _ _ i vdbe
  | string transient value => exact Vdbe.bindBytes_binds compiled _ _ _ _ i vdbe
  | span blob => exact Vdbe.bindBytes_binds compiled _ _ _ _ i vdbe
  | nullptr => exact Vdbe.bindMem_binds compiled _ i vdbe
  | double bits => exact Vdbe.bindMem_binds compiled _ i vdbe
  | int64 value => exact Vdbe.bindMem_binds compiled _ i vdbe
  | zeros size =>
    unfold binder
    by_cases hint : size ≤ 2147483647
    · simp only [if_pos hint]
      exact Vdbe.bindMem_binds compiled _ i vdbe
    · simp only [if_neg hint]
      exact Vdbe.bindZeroblob64_binds compiled size i vdbe

/-- A call that binds a value changes at most the parameter of its index. -/
theorem bind_cases (memory : Bool) (index : Index) (argument : Argument) (self : Cursor) :
    (self.bind compiled memory index argument).2 = self ∨
      ∃ i, Statement.toParameterIndex compiled.parameters index = .ok i ∧
        (self.bind compiled memory index argument).2 =
          { self with vdbe := (binder compiled memory argument i self.vdbe).2 } := by
  rw [bind_eq]
  exact bindWith_cases _ index self

/-! ## Reading columns -/

/-- What an accessor leaves: the row may have lost a value, or have a text for a blob. -/
def KeepsRun (self : Cursor) (next : Cursor) : Prop :=
  ∃ vdbe, Vdbe.Reads self.vdbe vdbe ∧ next = { self with vdbe }

theorem keepsRun_refl (self : Cursor) : KeepsRun self self := ⟨self.vdbe, .refl _, rfl⟩

/-- An action after which, however it ends, the statement has only been read. -/
def ReadsOnly {α : Type} (action : Action Cursor α) : Prop :=
  ∀ self, (action self).Ends (KeepsRun self)

theorem readsOnly_bind {α β : Type} {x : Action Cursor α} {f : α → Action Cursor β} (hx : ReadsOnly x)
    (hf : ∀ a, ReadsOnly (f a)) : ReadsOnly (x >>= f) := by
  intro self
  have hself := hx self
  rw [Action.bind_apply]
  cases hends : x self with
  | undefined => trivial
  | throws e next =>
    rw [hends] at hself
    exact hself
  | returns a next =>
    rw [hends] at hself
    obtain ⟨vdbe, hreads, rfl⟩ := hself
    refine (hf a _).mono ?_
    rintro last ⟨vdbe', hreads', rfl⟩
    exact ⟨vdbe', hreads.trans hreads', rfl⟩

theorem readsOnly_pure {α : Type} (a : α) : ReadsOnly (pure a) := keepsRun_refl

theorem readsOnly_column {α : Type} (read : Mem → α) (memory : Bool) (i : Int) :
    ReadsOnly (ofVdbe (Vdbe.column read memory i)) :=
  fun self => ⟨_, Vdbe.column_reads read memory i self.vdbe, rfl⟩

theorem readsOnly_columnText (memory : Bool) (i : Int) :
    ReadsOnly (ofVdbe (Vdbe.columnText compiled memory i)) :=
  fun self => ⟨_, Vdbe.columnText_reads compiled memory i self.vdbe, rfl⟩

theorem readsOnly_check (missing : Bool) (old : SQLite3Code) (what : Cursor → String) :
    ReadsOnly (check missing old what) := by
  intro self
  unfold check errcode
  simp only [Action.bind_apply, Action.get_apply, Outcome.andThen_returns]
  split
  · exact keepsRun_refl self
  · exact keepsRun_refl self

theorem readsOnly_atColumn {α : Type} {index : Index} {locale current : UInt8 → UInt8}
    {read : Int → Action Cursor α} (h : ∀ i, ReadsOnly (read i)) :
    ReadsOnly (atColumn compiled index locale current read) := by
  intro self
  unfold atColumn
  cases self.results.statement with
  | none => exact keepsRun_refl self
  | some handle =>
    simp only
    split
    · trivial
    · cases Results.toColumnIndex current locale compiled.columns index with
      | none => trivial
      | some column =>
        cases column with
        | error e => exact keepsRun_refl self
        | ok i => exact h i self

theorem readsOnly_errcode : ReadsOnly errcode := keepsRun_refl

theorem readsOnly_typeOf (index : Index) (locale current : UInt8 → UInt8) :
    ReadsOnly (typeOf compiled index locale current) := by
  apply readsOnly_atColumn
  intro i
  apply readsOnly_bind (readsOnly_column _ _ i)
  intro value
  cases value <;> exact readsOnly_pure _

/-- The accessors only read. -/
theorem ofAccess_keepsRun {α : Type} {f : α → CursorReply} {action : Action Cursor α}
    (h : ReadsOnly action) (self : Cursor) :
    KeepsRun self (CursorReply.ofAccess f self (action self)).2 := by
  have hself := h self
  cases hends : action self with
  | undefined => exact keepsRun_refl self
  | throws e next =>
    rw [hends] at hself
    exact hself
  | returns a next =>
    rw [hends] at hself
    exact hself

theorem access_keepsRun (compiled : Compiled) (access : Access) (index : Index) (locale current : UInt8 → UInt8)
    (memory : Bool) (self : Cursor) :
    KeepsRun self (self.access compiled access index locale current memory).2 := by
  cases access with
  | integer => exact ofAccess_keepsRun (readsOnly_atColumn (readsOnly_column _ _)) self
  | real => exact ofAccess_keepsRun (readsOnly_atColumn (readsOnly_column _ _)) self
  | blob =>
    refine ofAccess_keepsRun (readsOnly_atColumn ?_) self
    intro i
    apply readsOnly_bind readsOnly_errcode
    intro old
    apply readsOnly_bind (readsOnly_column _ _ i)
    intro pointer
    apply readsOnly_bind (readsOnly_check _ _ _)
    intro _
    apply readsOnly_bind (readsOnly_column _ _ i)
    exact fun _ => readsOnly_pure _
  | text =>
    refine ofAccess_keepsRun (readsOnly_atColumn ?_) self
    intro i
    apply readsOnly_bind readsOnly_errcode
    intro old
    apply readsOnly_bind (readsOnly_columnText _ i)
    intro pointer
    apply readsOnly_bind (readsOnly_check _ _ _)
    exact fun _ => readsOnly_pure _
  | sizeOf =>
    refine ofAccess_keepsRun (readsOnly_atColumn ?_) self
    intro i
    apply readsOnly_bind readsOnly_errcode
    intro old
    apply readsOnly_bind (readsOnly_column _ _ i)
    intro size
    apply readsOnly_bind (readsOnly_check _ _ _)
    exact fun _ => readsOnly_pure _
  | typeOf => exact ofAccess_keepsRun (readsOnly_typeOf index locale current) self
  | isNull =>
    refine ofAccess_keepsRun (readsOnly_bind (readsOnly_typeOf index locale current) ?_) self
    exact fun _ => readsOnly_pure _

/-! ## Every call -/

theorem settled_prepared (statement : StatementHandle) (database : Handle) (sqlite : Prepared) :
    (prepared statement database sqlite).Settled := Vdbe.ready_settled rfl rfl

/-- Every call leaves the statement settled. -/
theorem settled_next (h : self.Settled) (call : CursorCall) :
    ((cursor compiled).next self call).Settled := by
  cases call with
  | bind memory index argument =>
    show (self.bind compiled memory index argument).2.Settled
    rcases bind_cases memory index argument self with hsame | ⟨i, -, hbind⟩
    · rw [hsame]
      exact h
    · have hbinds := binder_binds compiled memory argument i self.vdbe
      rw [hbind]
      exact Vdbe.Settled.congr h hbinds.stage hbinds.rc
  | clearBindings =>
    show self.clearBindings.Settled
    unfold clearBindings
    cases self.statement with
    | none => exact h
    | some handle => exact Vdbe.Settled.congr h rfl rfl
  | step =>
    show (self.step compiled).2.Settled
    cases hopen : self.statement with
    | none =>
      unfold step
      rw [hopen]
      exact h
    | some handle =>
      cases hrows : (self.vdbe.ahead compiled).rows with
      | nil =>
        obtain ⟨sqlite, what, hstep⟩ := step_end h hopen hrows
        rw [hstep]
        exact Vdbe.reset_settled 0 _
      | cons row rows =>
        obtain ⟨sqlite, hstep⟩ := step_row h hopen hrows
        rw [hstep]
        exact Vdbe.onRow_settled (Vdbe.rc_started compiled h hrows)
  | finish =>
    show (self.finish compiled).2.Settled
    cases hopen : self.statement with
    | none =>
      unfold finish
      rw [hopen]
      exact h
    | some handle =>
      rw [finish_open compiled h hopen]
      exact Vdbe.reset_settled 0 _
  | reset halts =>
    show (self.reset halts).2.Settled
    unfold reset
    cases self.statement with
    | none => exact h
    | some handle => exact Vdbe.reset_settled halts _
  | close ec => exact h
  | access access index locale current memory =>
    obtain ⟨vdbe, hreads, hnext⟩ := access_keepsRun compiled access index locale current memory self
    show (self.access compiled access index locale current memory).2.Settled
    rw [hnext]
    exact hreads.settled h
  | elsewhere errCode errMsg => exact Vdbe.Settled.congr h rfl rfl

/-- So in every program the statement is settled between the calls. -/
theorem settled_run (h : self.Settled) (calls : List CursorCall) :
    ((cursor compiled).run self calls).Settled := by
  have hstep : ∀ (s : Cursor) c, s.Settled → True → ((cursor compiled).next s c).Settled :=
    fun s c hs _ => settled_next hs c
  exact (cursor compiled).run_invariant hstep h
    ((cursor compiled).throughout_of_forall (fun _ _ _ => trivial) self)

end Cursor

end Ysqlite3
