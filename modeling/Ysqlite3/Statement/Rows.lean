import Ysqlite3.Statement.Calls

/-!
# Rows

What a program sees of the runs of a statement: each `step` that returns something stands on the next row,
and nothing is returned behind the last one only. `finish` does what stepping to the end does.
-/

namespace Ysqlite3

/-- What a program sees: a run begins that has these rows, a row is there, or the rows are over. -/
inductive RowEvent where
  | begins (rows : List Row)
  | row (row : Row)
  | ends
  deriving DecidableEq

/-- Rows come in a run only, each is the next one of the run, and they are over when there is none left.
The argument is what is left of a run that has begun; runs need not be seen to their end. -/
def Orderly : Option (List Row) → List RowEvent → Prop
  | _, [] => True
  | _, .begins rows :: events => Orderly (some rows) events
  | some (next :: rows), .row row :: events => row = next ∧ Orderly (some rows) events
  | some [], .ends :: events => Orderly none events
  | _, _ => False

namespace Cursor

variable {compiled : Compiled} {self : Cursor}

/-- The row the accessors read. -/
def currentRow (self : Cursor) : Row :=
  match self.vdbe.stage with
  | .onRow row _ => row
  | _ => []

/-- What is left of the run. -/
def rowsToCome (self : Cursor) : Option (List Row) :=
  match self.vdbe.stage with
  | .onRow _ left => some left.rows
  | _ => none

/-- What a call shows of the rows. -/
def rowEvents (compiled : Compiled) (self : Cursor) (call : CursorCall) : List RowEvent :=
  let next := (cursor compiled).next self call
  let begun := if next.vdbe.starts ≠ self.vdbe.starts then
    [.begins (compiled.program self.vdbe.starts self.vdbe.aVar).rows] else []
  match call, (cursor compiled).reply self call with
  | .step, .row => begun ++ [.row next.currentRow]
  | .step, .noRow => begun ++ [.ends]
  | _, _ => begun

/-- A program that is about to begin a run can as well leave one unfinished. -/
theorem orderly_of_none {events : List RowEvent} (h : Orderly none events) (rows : Option (List Row)) :
    Orderly rows events := by
  cases events with
  | nil => cases rows <;> trivial
  | cons event events =>
    cases event with
    | begins rows' =>
      cases rows with
      | none => exact h
      | some rows => exact h
    | row row => exact absurd h id
    | ends => exact absurd h id

/-- What a call that is no step shows, if no run begins with it. -/
theorem rowEvents_quiet {call : CursorCall} (hcall : call ≠ .step)
    (hstarts : ((cursor compiled).next self call).vdbe.starts = self.vdbe.starts) :
    rowEvents compiled self call = [] := by
  have hsame : ¬ ((cursor compiled).next self call).vdbe.starts ≠ self.vdbe.starts :=
    fun hne => hne hstarts
  unfold rowEvents
  simp only [if_neg hsame]
  cases call with
  | step => exact absurd rfl hcall
  | _ => rfl

/-- A call that is no step, begins no run and leaves what is left of the run. -/
theorem orderly_quiet {call : CursorCall} {events : List RowEvent} (hcall : call ≠ .step)
    (hstarts : ((cursor compiled).next self call).vdbe.starts = self.vdbe.starts)
    (hrows : ((cursor compiled).next self call).rowsToCome = none ∨
      ((cursor compiled).next self call).rowsToCome = self.rowsToCome)
    (h : Orderly ((cursor compiled).next self call).rowsToCome events) :
    Orderly self.rowsToCome (rowEvents compiled self call ++ events) := by
  rw [rowEvents_quiet hcall hstarts, List.nil_append]
  rcases hrows with hnone | hsame
  · rw [hnone] at h
    exact orderly_of_none h _
  · rw [hsame] at h
    exact h

/-- Before a call the statement is ready for a run, or in one. -/
inductive Position (compiled : Compiled) (self : Cursor) : Prop
  | ready (hrows : self.rowsToCome = none)
      (hstarts : self.vdbe.started.starts = self.vdbe.starts + 1)
      (hahead : self.vdbe.ahead compiled = compiled.program self.vdbe.starts self.vdbe.aVar)
  | onRow (left : Execution) (hrows : self.rowsToCome = some left.rows)
      (hstarts : self.vdbe.started.starts = self.vdbe.starts)
      (hahead : self.vdbe.ahead compiled = left ∨
        (self.vdbe.ahead compiled).rows = [] ∧ (self.vdbe.ahead compiled).ends = SQLite3Code.nomem)

theorem position (compiled : Compiled) (self : Cursor) : Position compiled self := by
  cases hstage : self.vdbe.stage with
  | ready =>
    apply Position.ready
    · rw [rowsToCome, hstage]
    · rw [Vdbe.started, hstage]
    · rw [Vdbe.ahead, hstage]
  | halted =>
    apply Position.ready
    · rw [rowsToCome, hstage]
    · rw [Vdbe.started, hstage]
    · rw [Vdbe.ahead, hstage]
  | onRow row left =>
    apply Position.onRow left
    · rw [rowsToCome, hstage]
    · rw [Vdbe.started, hstage]
    · rw [Vdbe.ahead, hstage]
      by_cases hrc : self.vdbe.rc = SQLite3Code.nomem
      · exact Or.inr (by simp [hrc])
      · exact Or.inl (if_neg hrc)

/-- A step that runs the program, by the two things it can come to. -/
theorem orderly_step (h : self.Settled) {handle : StatementHandle}
    (hopen : self.statement = some handle) {events : List RowEvent}
    (hrest : Orderly ((cursor compiled).next self .step).rowsToCome events) :
    Orderly self.rowsToCome (rowEvents compiled self .step ++ events) := by
  cases hrows : (self.vdbe.ahead compiled).rows with
  | cons row rows =>
    obtain ⟨sqlite, hstep⟩ := step_row h hopen hrows
    have hnext : Orderly (some rows) events := by
      have hto : ((cursor compiled).next self .step).rowsToCome = some rows := by
        show (self.step compiled).2.rowsToCome = some rows
        rw [hstep]
        rfl
      rw [hto] at hrest
      exact hrest
    have hevents : rowEvents compiled self .step =
        (if self.vdbe.started.starts ≠ self.vdbe.starts then
          [.begins (compiled.program self.vdbe.starts self.vdbe.aVar).rows] else []) ++ [.row row] := by
      unfold rowEvents
      simp only [Component.next, Component.reply, cursor, hstep]
      rfl
    rw [hevents]
    cases position compiled self with
    | ready hnone hstarts hahead =>
      rw [if_pos (by omega), ← hahead, hrows, hnone]
      exact ⟨rfl, hnext⟩
    | onRow left hsome hstarts hahead =>
      rcases hahead with hleft | ⟨hnil, -⟩
      · rw [if_neg (by omega), hsome, ← hleft, hrows]
        exact ⟨rfl, hnext⟩
      · rw [hnil] at hrows
        cases hrows
  | nil =>
    obtain ⟨sqlite, what, hstep⟩ := step_end h hopen hrows
    have hnext : Orderly none events := by
      have hto : ((cursor compiled).next self .step).rowsToCome = none := by
        show (self.step compiled).2.rowsToCome = none
        rw [hstep]
        rfl
      rw [hto] at hrest
      exact hrest
    have hevents : rowEvents compiled self .step =
        (if self.vdbe.started.starts ≠ self.vdbe.starts then
          [.begins (compiled.program self.vdbe.starts self.vdbe.aVar).rows] else []) ++
          (if (self.vdbe.ahead compiled).ends = SQLite3Code.done then [.ends] else []) := by
      unfold rowEvents
      simp only [Component.next, Component.reply, cursor, hstep]
      by_cases hdone : (self.vdbe.ahead compiled).ends = SQLite3Code.done
      · simp only [if_pos hdone]
        rfl
      · simp only [if_neg hdone, List.append_nil]
        rfl
    rw [hevents]
    by_cases hdone : (self.vdbe.ahead compiled).ends = SQLite3Code.done
    · rw [if_pos hdone]
      cases position compiled self with
      | ready hnone hstarts hahead =>
        rw [if_pos (by omega), ← hahead, hrows, hnone]
        exact hnext
      | onRow left hsome hstarts hahead =>
        rcases hahead with hleft | ⟨-, hnomem⟩
        · rw [if_neg (by omega), hsome, ← hleft, hrows]
          exact hnext
        · rw [hnomem] at hdone
          exact absurd hdone (by decide)
    · rw [if_neg hdone, List.append_nil]
      cases position compiled self with
      | ready hnone hstarts hahead =>
        rw [if_pos (by omega), hnone]
        exact orderly_of_none hnext _
      | onRow left hsome hstarts hahead =>
        rw [if_neg (by omega)]
        exact orderly_of_none hnext _

/-- `finish` discards the rows of a run, which may begin with it. -/
theorem orderly_finish (h : self.Settled) {handle : StatementHandle}
    (hopen : self.statement = some handle) {events : List RowEvent}
    (hrest : Orderly ((cursor compiled).next self .finish).rowsToCome events) :
    Orderly self.rowsToCome (rowEvents compiled self .finish ++ events) := by
  have hfinish := finish_open compiled h hopen
  have hnext : Orderly none events := by
    have hto : ((cursor compiled).next self .finish).rowsToCome = none := by
      show (self.finish compiled).2.rowsToCome = none
      rw [hfinish]
      rfl
    rw [hto] at hrest
    exact hrest
  have hevents : rowEvents compiled self .finish =
      if self.vdbe.started.starts ≠ self.vdbe.starts then
        [.begins (compiled.program self.vdbe.starts self.vdbe.aVar).rows] else [] := by
    unfold rowEvents
    simp only [Component.next, cursor, hfinish]
    rfl
  rw [hevents]
  cases position compiled self with
  | ready hnone hstarts hahead =>
    rw [if_pos (by omega), hnone]
    exact orderly_of_none hnext _
  | onRow left hsome hstarts hahead =>
    rw [if_neg (by omega)]
    exact orderly_of_none hnext _

/-- What a call shows fits before what the rest of the program shows. -/
theorem orderly_call (h : self.Settled) (call : CursorCall) {events : List RowEvent}
    (hrest : Orderly ((cursor compiled).next self call).rowsToCome events) :
    Orderly self.rowsToCome (rowEvents compiled self call ++ events) := by
  cases call with
  | step =>
    cases hopen : self.statement with
    | none =>
      have hsame : self.step compiled = (.error (.ysqlite3 .statementIsClosed), self) := by
        unfold step Statement.step object
        rw [hopen]
      have hevents : rowEvents compiled self .step = [] := by
        unfold rowEvents
        simp only [Component.next, Component.reply, cursor, hsame]
        exact if_neg (fun hne => hne rfl)
      rw [hevents]
      have hto : (cursor compiled).next self .step = self := congrArg Prod.snd hsame
      rw [hto] at hrest
      exact hrest
    | some handle => exact orderly_step h hopen hrest
  | finish =>
    cases hopen : self.statement with
    | none =>
      have hto : (cursor compiled).next self .finish = self := by
        show (self.finish compiled).2 = self
        unfold finish
        rw [hopen]
      refine orderly_quiet (by simp) ?_ (Or.inr ?_) hrest
      · rw [hto]
      · rw [hto]
    | some handle => exact orderly_finish h hopen hrest
  | bind memory index argument =>
    rcases bind_cases memory index argument self with hsame | ⟨i, -, hbind⟩
    · refine orderly_quiet (by simp) ?_ (Or.inr ?_) hrest
      · exact congrArg (fun next : Cursor => next.vdbe.starts) hsame
      · exact congrArg rowsToCome hsame
    · have hbinds := binder_binds compiled memory argument i self.vdbe
      refine orderly_quiet (by simp) ?_ (Or.inr ?_) hrest
      · exact (congrArg (fun next : Cursor => next.vdbe.starts) hbind).trans hbinds.starts
      · refine (congrArg rowsToCome hbind).trans ?_
        unfold rowsToCome
        rw [hbinds.stage]
  | clearBindings =>
    have hstage : self.clearBindings.vdbe.stage = self.vdbe.stage ∧
        self.clearBindings.vdbe.starts = self.vdbe.starts := by
      unfold clearBindings
      cases self.statement with
      | none => exact ⟨rfl, rfl⟩
      | some handle => exact ⟨rfl, rfl⟩
    refine orderly_quiet (by simp) hstage.2 (Or.inr ?_) hrest
    show self.clearBindings.rowsToCome = self.rowsToCome
    unfold rowsToCome
    rw [hstage.1]
  | reset halts =>
    have hreset : (self.reset halts).2 = self ∨ (self.reset halts).2.vdbe.starts = self.vdbe.starts ∧
        (self.reset halts).2.rowsToCome = none := by
      unfold reset
      cases self.statement with
      | none => exact Or.inl rfl
      | some handle =>
        unfold Vdbe.reset rowsToCome
        cases self.vdbe.stage with
        | ready => exact Or.inr ⟨rfl, rfl⟩
        | onRow row left => exact Or.inr ⟨rfl, rfl⟩
        | halted => exact Or.inr ⟨rfl, rfl⟩
    rcases hreset with hsame | ⟨hstarts, hnone⟩
    · refine orderly_quiet (by simp) ?_ (Or.inr ?_) hrest
      · exact congrArg (fun next : Cursor => next.vdbe.starts) hsame
      · exact congrArg rowsToCome hsame
    · exact orderly_quiet (by simp) hstarts (Or.inl hnone) hrest
  | close ec => exact orderly_quiet (by simp) rfl (Or.inr rfl) hrest
  | access access index locale current memory =>
    obtain ⟨vdbe, hreads, hnext⟩ := access_keepsRun compiled access index locale current memory self
    refine orderly_quiet (by simp) ?_ (Or.inr ?_) hrest
    · exact (congrArg (fun next : Cursor => next.vdbe.starts) hnext).trans hreads.starts
    · refine (congrArg rowsToCome hnext).trans ?_
      unfold rowsToCome
      rcases hreads.stage with hsame | ⟨row, row', left, hbefore, hafter, -⟩
      · rw [hsame]
      · rw [hbefore, hafter]
  | elsewhere errCode errMsg => exact orderly_quiet (by simp) rfl (Or.inr rfl) hrest

theorem orderly_run {calls : List CursorCall} : ∀ {self : Cursor}, self.Settled →
    Orderly self.rowsToCome ((cursor compiled).collect (rowEvents compiled) self calls) := by
  induction calls with
  | nil =>
    intro self _
    have hnone : Orderly none [] := trivial
    exact orderly_of_none hnone _
  | cons call calls ih =>
    intro self h
    exact orderly_call h call (ih (settled_next h call))

/-! ## Programs -/

/-- In every program, each row of a run is returned once and in order, and `step` returns nothing behind the
last row only; whatever is bound, read, reset, finished or closed in between. -/
theorem rows_in_order (compiled : Compiled) (statement : StatementHandle) (database : Handle)
    (sqlite : Prepared) (calls : List CursorCall) :
    Orderly none
      ((cursor compiled).collect (rowEvents compiled) (prepared statement database sqlite) calls) :=
  orderly_run (settled_prepared statement database sqlite)

/-! ## `finish` and `step` -/

/-- How stepping and `finish` end alike: without an exception, or with the same code. -/
def SameEnd : CursorReply → CursorReply → Prop
  | .noRow, .done => True
  | .throws (.systemError category value _), .throws (.systemError category' value' _) =>
    category = category' ∧ value = value'
  | _, _ => False

/-- Stepping through the rows that are left: the statement is at the end of the same run. -/
theorem steps_through {rows : List Row} : ∀ {self : Cursor}, self.Settled →
    ∀ {handle : StatementHandle}, self.statement = some handle →
    (self.vdbe.ahead compiled).rows = rows →
      let last := (cursor compiled).run self (List.replicate rows.length .step)
      (cursor compiled).replies self (List.replicate rows.length .step) =
          List.replicate rows.length .row ∧
        last.Settled ∧ last.statement = some handle ∧
        last.vdbe.ahead compiled = { self.vdbe.ahead compiled with rows := [] } ∧
        ∀ left, (last.vdbe.started.ended left).reset 0 = (self.vdbe.started.ended left).reset 0 := by
  induction rows with
  | nil =>
    intro self h handle hopen hrows
    refine ⟨rfl, h, hopen, ?_, fun _ => rfl⟩
    show self.vdbe.ahead compiled = _
    generalize self.vdbe.ahead compiled = left at hrows
    obtain ⟨rows, ends, message, hends⟩ := left
    obtain rfl : rows = [] := hrows
    rfl
  | cons row rows ih =>
    intro self h handle hopen hrows
    obtain ⟨sqlite, hstep⟩ := step_row h hopen hrows
    have hrc := Vdbe.rc_started compiled h hrows
    have hreply : (cursor compiled).reply self .step = .row := by
      show CursorReply.ofStep (self.step compiled).1 = .row
      rw [hstep]
      rfl
    have hnext : (cursor compiled).next self .step = (self.step compiled).2 := rfl
    rw [hstep] at hnext
    have hahead : (self.vdbe.started.onRow row { self.vdbe.ahead compiled with rows }).ahead compiled =
        { self.vdbe.ahead compiled with rows } := Vdbe.ahead_onRow compiled hrc
    have hopen' : ((cursor compiled).next self .step).statement = some handle := by
      rw [hnext]
      exact hopen
    have hrows' : (((cursor compiled).next self .step).vdbe.ahead compiled).rows = rows := by
      rw [hnext]
      exact congrArg Execution.rows hahead
    obtain ⟨hreplies, hsettled, hstatement, hlast, hended⟩ := ih (settled_next h .step) hopen' hrows'
    refine ⟨?_, hsettled, hstatement, ?_, ?_⟩
    · show (cursor compiled).reply self .step :: _ = _
      rw [hreply, hreplies]
      rfl
    · refine hlast.trans ?_
      rw [hnext]
      show { (Vdbe.onRow row _ self.vdbe.started).ahead compiled with rows := [] } = _
      rw [hahead]
    · intro left
      refine (hended left).trans ?_
      rw [hnext]
      rfl

/-- In every program whose runs come to an end, `finish` does what stepping until there is no row does: as many
steps as there are rows left return one, and the step behind them leaves the statement as `finish` does and
ends like it. -/
theorem finish_eq_steps (compiled : Compiled) (statement : StatementHandle) (database : Handle)
    (sqlite : Prepared) (calls : List CursorCall) :
    let self := (cursor compiled).run (prepared statement database sqlite) calls
    ∃ n,
      let last := (cursor compiled).run self (List.replicate n .step)
      (cursor compiled).replies self (List.replicate n .step) = List.replicate n .row ∧
        ((cursor compiled).next last .step).vdbe = ((cursor compiled).next self .finish).vdbe ∧
        SameEnd ((cursor compiled).reply last .step) ((cursor compiled).reply self .finish) := by
  intro self
  have hsettled : self.Settled := settled_run (settled_prepared statement database sqlite) calls
  cases hopen : self.statement with
  | none =>
    have hstep : self.step compiled = (.error (.ysqlite3 .statementIsClosed), self) := by
      unfold step Statement.step object
      rw [hopen]
    have hfinish : self.finish compiled = (.error (.ysqlite3 .statementIsClosed), self) := by
      unfold finish Statement.finish object
      rw [hopen]
      rfl
    refine ⟨0, rfl, ?_, ?_⟩
    · show (self.step compiled).2.vdbe = (self.finish compiled).2.vdbe
      rw [hstep, hfinish]
    · show SameEnd (.ofStep (self.step compiled).1) (.ofUnit (self.finish compiled).1)
      rw [hstep, hfinish]
      exact ⟨rfl, rfl⟩
  | some handle =>
    obtain ⟨hreplies, hlast, hlastOpen, hahead, hended⟩ := steps_through hsettled hopen
      (rfl : (self.vdbe.ahead compiled).rows = _)
    refine ⟨(self.vdbe.ahead compiled).rows.length, hreplies, ?_⟩
    generalize (cursor compiled).run self
      (List.replicate (self.vdbe.ahead compiled).rows.length .step) = last at hlast hlastOpen hahead hended
    obtain ⟨sqlite', what, hstep⟩ := step_end hlast hlastOpen (congrArg Execution.rows hahead)
    have hfinish := finish_open compiled hsettled hopen
    rw [hahead] at hstep
    constructor
    · show (last.step compiled).2.vdbe = (self.finish compiled).2.vdbe
      rw [hstep, hfinish]
      exact congrArg Prod.snd (hended _)
    · show SameEnd (.ofStep (last.step compiled).1) (.ofUnit (self.finish compiled).1)
      rw [hstep, hfinish]
      by_cases hdone : (self.vdbe.ahead compiled).ends = SQLite3Code.done
      · simp only [if_pos hdone]
        trivial
      · simp only [if_neg hdone]
        exact ⟨rfl, rfl⟩

/-! ## Binding on a row -/

/-- A size that `sqlite3_bind_zeroblob64` refuses. -/
def Oversized (limit : Nat) : Argument → Prop
  | .zeros size => 2147483647 < size ∧ limit < size.toNat
  | _ => False

/-- The last step returned a row, as far as the caller can tell; `finish`, `reset` and `close` leave it. -/
def stepped : CursorCall → CursorReply → Option Bool
  | .step, reply => some (reply = .row)
  | .finish, _ => some false
  | .reset _, _ => some false
  | .close _, _ => some false
  | _, _ => none

/-- The statement is open and on a row. -/
def isOnRow (self : Cursor) : Bool :=
  match self.statement, self.vdbe.stage with
  | some _, .onRow _ _ => true
  | _, _ => false

end Cursor

namespace Vdbe

variable {compiled : Compiled} {vdbe : Vdbe} {i : Int}

theorem unbind_busy (compiled : Compiled) (i : Int) (h : vdbe.stage ≠ .ready) :
    (vdbe.unbind compiled i).1 = SQLite3Code.misuse := by
  unfold unbind
  rw [if_pos h]

theorem unbind_ready (compiled : Compiled) (i : Int) (h : vdbe.stage = .ready) :
    (vdbe.unbind compiled i).1 = SQLite3Code.range ∨ (vdbe.unbind compiled i).1 = 0 := by
  unfold unbind
  rw [if_neg (fun hne => hne h)]
  split
  · exact Or.inl rfl
  · exact Or.inr rfl

theorem unbind_ready_ne (compiled : Compiled) (i : Int) (h : vdbe.stage = .ready) :
    (vdbe.unbind compiled i).1 ≠ SQLite3Code.misuse := by
  rcases unbind_ready compiled i h with hrange | hzero
  · rw [hrange]
    decide
  · rw [hzero]
    decide

theorem bindMem_rc (compiled : Compiled) (value : Mem) (i : Int) (vdbe : Vdbe) :
    (vdbe.bindMem compiled value i).1 = (vdbe.unbind compiled i).1 := by
  unfold bindMem
  by_cases hrc : (vdbe.unbind compiled i).1 = 0
  · simp only [if_pos hrc]
  · simp only [if_neg hrc]

theorem bindMem_misuse (compiled : Compiled) (value : Mem) (i : Int) (vdbe : Vdbe) :
    (vdbe.bindMem compiled value i).1 = SQLite3Code.misuse ↔ vdbe.stage ≠ .ready := by
  rw [bindMem_rc]
  constructor
  · exact fun hmisuse hready => unbind_ready_ne compiled i hready hmisuse
  · exact unbind_busy compiled i

theorem bindBytes_misuse (compiled : Compiled) (value : Bytes → Mem) (transient memory : Bool)
    (data : Option Bytes) (i : Int) (vdbe : Vdbe) :
    (vdbe.bindBytes compiled value transient memory data i).1 = SQLite3Code.misuse ↔
      vdbe.stage ≠ .ready := by
  have hmisuse : SQLite3Code.misuse ≠ 0 := by decide
  by_cases hstage : vdbe.stage = .ready
  · refine iff_of_false ?_ (fun hne => hne hstage)
    have hunbind := unbind_ready_ne compiled i hstage
    unfold bindBytes
    cases data with
    | none => exact hunbind
    | some z =>
      simp only
      split
      · exact hunbind
      · split
        · show SQLite3Code.tooBig ≠ SQLite3Code.misuse
          decide
        · split
          · show SQLite3Code.nomem ≠ SQLite3Code.misuse
            decide
          · exact hmisuse.symm
  · refine iff_of_true ?_ hstage
    have hunbind := unbind_busy compiled i hstage
    unfold bindBytes
    cases data with
    | none => exact hunbind
    | some z =>
      simp only [hunbind, if_pos hmisuse]

end Vdbe

namespace Cursor

variable {compiled : Compiled} {self : Cursor}

/-- A binder complains about misuse where the statement is not ready, if it gets to look at it. -/
theorem binder_misuse (compiled : Compiled) (memory : Bool) (argument : Argument) (i : Int)
    (vdbe : Vdbe) :
    (binder compiled memory argument i vdbe).1 = SQLite3Code.misuse ↔
      vdbe.stage ≠ .ready ∧ ¬ Oversized compiled.limit argument := by
  have hother : ∀ {p : Prop}, (p ↔ vdbe.stage ≠ .ready) →
      (p ↔ vdbe.stage ≠ .ready ∧ ¬ False) := fun h => h.trans (and_iff_left id).symm
  cases argument with
  | cString transient value => exact hother (Vdbe.bindBytes_misuse compiled _ _ _ _ i vdbe)
  | string transient value => exact hother (Vdbe.bindBytes_misuse compiled _ _ _ _ i vdbe)
  | span blob => exact hother (Vdbe.bindBytes_misuse compiled _ _ _ _ i vdbe)
  | nullptr => exact hother (Vdbe.bindMem_misuse compiled _ i vdbe)
  | double bits => exact hother (Vdbe.bindMem_misuse compiled _ i vdbe)
  | int64 value => exact hother (Vdbe.bindMem_misuse compiled _ i vdbe)
  | zeros size =>
    unfold binder Oversized
    by_cases hint : size ≤ 2147483647
    · simp only [if_pos hint]
      have hfits : ¬ (2147483647 < size ∧ compiled.limit < size.toNat) :=
        fun h => absurd hint (UInt64.not_le.mpr h.1)
      rw [Vdbe.bindMem_misuse]
      exact (and_iff_left hfits).symm
    · simp only [if_neg hint]
      unfold Vdbe.bindZeroblob64
      by_cases hlimit : compiled.limit < size.toNat
      · simp only [if_pos hlimit]
        refine iff_of_false (by decide) ?_
        exact fun h => h.2 ⟨UInt64.not_le.mp hint, hlimit⟩
      · simp only [if_neg hlimit]
        refine (Vdbe.bindMem_misuse compiled _ i vdbe).trans ?_
        exact (and_iff_left (fun h => hlimit h.2)).symm

theorem toParameterIndex_error {parameters : Parameters} {index : Index} {e : Exception}
    (h : Statement.toParameterIndex parameters index = .error e) : ∃ code, e = .ysqlite3 code := by
  unfold Statement.toParameterIndex at h
  cases index with
  | name name =>
    simp only at h
    split at h
    · exact ⟨_, (Except.error.inj h).symm⟩
    · cases h
  | value value =>
    simp only at h
    split at h
    · exact ⟨_, (Except.error.inj h).symm⟩
    · cases h

/-- What `bind` replies, by the result of the binder. -/
theorem reply_bind (compiled : Compiled) (memory : Bool) (index : Index) (argument : Argument) (self : Cursor) :
    (cursor compiled).reply self (.bind memory index argument) =
      .ofUnit (self.object.bind compiled.parameters index
        (fun i => (binder compiled memory argument i self.vdbe).1)) := by
  show CursorReply.ofUnit (self.bind compiled memory index argument).1 = _
  rw [bind_eq]
  rfl

theorem isOnRow_iff (h : self.Settled) {handle : StatementHandle}
    (hopen : self.statement = some handle) : self.isOnRow = true ↔ self.vdbe.stage ≠ .ready := by
  unfold isOnRow
  rw [hopen]
  cases hstage : self.vdbe.stage with
  | ready => simp
  | halted => exact absurd hstage h.stage
  | onRow row left => simp

theorem isOnRow_closed (hclosed : self.statement = none) : self.isOnRow = false := by
  unfold isOnRow
  rw [hclosed]

/-- Whether the statement is on a row changes as the caller sees. -/
theorem isOnRow_next (h : self.Settled) (call : CursorCall) :
    ((cursor compiled).next self call).isOnRow =
      (stepped call ((cursor compiled).reply self call)).getD self.isOnRow := by
  cases call with
  | step =>
    show (self.step compiled).2.isOnRow = decide (CursorReply.ofStep (self.step compiled).1 = .row)
    cases hopen : self.statement with
    | none =>
      have hstep : self.step compiled = (.error (.ysqlite3 .statementIsClosed), self) := by
        unfold step Statement.step object
        rw [hopen]
      rw [hstep]
      exact isOnRow_closed hopen
    | some handle =>
      cases hrows : (self.vdbe.ahead compiled).rows with
      | nil =>
        obtain ⟨sqlite, what, hstep⟩ := step_end h hopen hrows
        rw [hstep]
        have hready : ∀ next : Cursor, next.vdbe.stage = .ready → next.isOnRow = false := by
          intro next hstage
          unfold isOnRow
          rw [hstage]
          cases next.statement <;> rfl
        rw [hready _ rfl]
        by_cases hdone : (self.vdbe.ahead compiled).ends = SQLite3Code.done
        · simp only [if_pos hdone]
          rfl
        · simp only [if_neg hdone]
          rfl
      | cons row rows =>
        obtain ⟨sqlite, hstep⟩ := step_row h hopen hrows
        rw [hstep]
        unfold isOnRow
        simp only [hopen]
        rfl
  | finish =>
    show (self.finish compiled).2.isOnRow = false
    cases hopen : self.statement with
    | none =>
      unfold finish
      rw [hopen]
      exact isOnRow_closed hopen
    | some handle =>
      rw [finish_open compiled h hopen]
      unfold isOnRow
      simp only [hopen]
      rfl
  | reset halts =>
    show (self.reset halts).2.isOnRow = false
    cases hopen : self.statement with
    | none =>
      unfold reset
      rw [hopen]
      exact isOnRow_closed hopen
    | some handle =>
      unfold reset isOnRow Vdbe.reset
      simp only [hopen]
      cases self.vdbe.stage <;> rfl
  | close ec =>
    show (self.close ec).2.isOnRow = false
    apply isOnRow_closed
    unfold close Statement.close
    simp only
    split <;> rfl
  | bind memory index argument =>
    show (self.bind compiled memory index argument).2.isOnRow = self.isOnRow
    rcases bind_cases memory index argument self with hsame | ⟨i, -, hbind⟩
    · rw [hsame]
    · rw [hbind]
      unfold isOnRow
      simp only [(binder_binds compiled memory argument i self.vdbe).stage]
  | clearBindings =>
    show self.clearBindings.isOnRow = self.isOnRow
    unfold clearBindings
    cases hopen : self.statement with
    | none => rfl
    | some handle =>
      unfold isOnRow
      rw [hopen]
      rfl
  | access access index locale current memory =>
    show (self.access compiled access index locale current memory).2.isOnRow = self.isOnRow
    obtain ⟨vdbe, hreads, hnext⟩ := access_keepsRun compiled access index locale current memory self
    rw [hnext]
    unfold isOnRow
    rcases hreads.stage with hsame | ⟨row, row', left, hbefore, hafter, -⟩
    · simp only [hsame]
    · simp only [hbefore, hafter]
      cases self.statement <;> rfl
  | elsewhere errCode errMsg => rfl

/-- Where the caller is on a row, exactly the calls that bind a value to a parameter are refused as misuse;
where it is not, resetting throws nothing. -/
structure RefusesOnRow (compiled : Compiled) (self : Cursor) (onRow : Prop) : Prop where
  bind : ∀ memory index argument,
    (cursor compiled).reply self (.bind memory index argument) = .throws (.sqlite3 .misuse "") ↔
      onRow ∧ (∃ i, Statement.toParameterIndex compiled.parameters index = .ok i) ∧
        ¬ Oversized compiled.limit argument
  reset : ¬ onRow → ∀ halts, (cursor compiled).reply self (.reset halts) = .done

theorem refusesOnRow (h : self.Settled) : RefusesOnRow compiled self (self.isOnRow = true) where
  bind := by
    intro memory index argument
    have hmisuse : SQLite3Code.misuse ≠ 0 := by decide
    rw [reply_bind]
    unfold Statement.bind
    cases hopen : self.statement with
    | none =>
      have hclosed : self.object.statement.isNone = true := by
        rw [object, hopen]
        rfl
      rw [if_pos hclosed, isOnRow_closed hopen]
      exact iff_of_false (by decide) (fun hfalse => by cases hfalse.1)
    | some handle =>
      have hnot : ¬ self.object.statement.isNone = true := by
        rw [object, hopen]
        exact Bool.false_ne_true
      rw [if_neg hnot, isOnRow_iff h hopen]
      cases hindex : Statement.toParameterIndex compiled.parameters index with
      | error e =>
        obtain ⟨code, rfl⟩ := toParameterIndex_error hindex
        refine iff_of_false (fun hreply => by cases hreply) ?_
        rintro ⟨-, ⟨i, hi⟩, -⟩
        cases hi
      | ok i =>
        have hbinder := binder_misuse compiled memory argument i self.vdbe
        simp only
        constructor
        · intro hreply
          have hrc : (binder compiled memory argument i self.vdbe).1 = SQLite3Code.misuse := by
            by_cases hzero : (binder compiled memory argument i self.vdbe).1 ≠ 0
            · rw [if_pos hzero] at hreply
              exact (Exception.systemError.inj (CursorReply.throws.inj hreply)).2.1
            · rw [if_neg hzero] at hreply
              cases hreply
          exact ⟨(hbinder.mp hrc).1, ⟨i, rfl⟩, (hbinder.mp hrc).2⟩
        · rintro ⟨hstage, -, hsize⟩
          rw [hbinder.mpr ⟨hstage, hsize⟩, if_pos hmisuse]
          rfl
  reset := by
    intro hrow halts
    show CursorReply.ofUnit (self.reset halts).1 = .done
    unfold reset
    cases hopen : self.statement with
    | none =>
      unfold Statement.reset object
      rw [hopen]
      rfl
    | some handle =>
      have hready : self.vdbe.stage = .ready :=
        not_not.mp ((isOnRow_iff h hopen).not.mp hrow)
      have hrc : self.vdbe.rc = 0 := by
        rcases h.rc with hzero | ⟨row, left, hstage, -⟩
        · exact hzero
        · rw [hready] at hstage
          cases hstage
      unfold Vdbe.reset Statement.reset
      simp only [hready, hrc, ne_eq, not_true_eq_false, and_false, if_false]
      rfl

/-- In every program, binding a value to a parameter is refused as misuse exactly while the last step has
returned a row, and only then can resetting the statement fail. -/
theorem refused_iff_onRow (compiled : Compiled) (statement : StatementHandle) (database : Handle)
    (sqlite : Prepared) (calls : List CursorCall) :
    RefusesOnRow compiled ((cursor compiled).run (prepared statement database sqlite) calls)
      (Component.lastOf (fun call => stepped call.1 call.2) false
        (calls.zip ((cursor compiled).replies (prepared statement database sqlite) calls)) = true) := by
  have hprepared := settled_prepared statement database sqlite
  have hseen : ((cursor compiled).run (prepared statement database sqlite) calls).isOnRow =
      Component.lastOf (fun call => stepped call.1 call.2)
        (prepared statement database sqlite).isOnRow
        (calls.zip ((cursor compiled).replies (prepared statement database sqlite) calls)) :=
    (cursor compiled).run_observed Settled isOnRow stepped
      (fun _ call hself _ => settled_next hself call) (fun _ call hself _ => isOnRow_next hself call)
      hprepared ((cursor compiled).throughout_of_forall (fun _ _ _ => trivial) _)
  have hinitial : (prepared statement database sqlite).isOnRow = false := rfl
  rw [← hinitial, ← hseen]
  exact refusesOnRow (settled_run hprepared calls)

end Cursor

end Ysqlite3
