import Ysqlite3.Statement.Connection
import Ysqlite3.Statement.Rows

/-!
# `Database::execute`

The loop of `sqlite3_exec` over the statements of a text, with the callback of `execute`, which counts. What
SQLite compiles of a text is a parameter, as far as its statements come to their end, and so is whether there is
memory. `execute` does what stepping through the statements one after the other does, but for what it counts
where there are no rows, and says so when memory ran out on the way.
-/

namespace Ysqlite3

/-- What `sqlite3_prepare_v2` comes to. `tail` is the text behind what was compiled, and `leaves` the
database after a run that has come to so many rows and was ended with this code. -/
inductive Preparation (σ : Type) where
  | fails (code : FailureCode) (message : String) (left : σ)
  | nothing (tail : Bytes) (left : σ)
  | statement (compiled : Compiled) (tail : Bytes) (leaves : Nat → SQLite3Code → σ)

def Preparation.tail {σ : Type} : Preparation σ → Bytes
  | fails _ _ _ => []
  | nothing tail _ => tail
  | statement _ tail _ => tail

/-- The compiler, on a database in the state `σ`, and `SQLITE_NullCallback`. A text that is not empty is not
left as it is, and no run ends with `SQLITE_OK`. -/
structure Engine (σ : Type) where
  prepare : Bytes → σ → Preparation σ
  nullCallback : σ → Bool
  tail_lt : ∀ c cs s, (prepare (c :: cs) s).tail.length < (c :: cs).length
  ends_ne : ∀ {sql s compiled tail leaves}, prepare sql s = .statement compiled tail leaves →
    ∀ n aVar, (compiled.program n aVar).ends ≠ SQLite3Code.success

instance {σ : Type} : Inhabited (Engine σ) where
  default :=
    { prepare := fun _ s => .nothing [] s
      nullCallback := fun _ => false
      tail_lt := fun _ _ _ => Nat.zero_lt_succ _
      ends_ne := fun h => by cases h }

/-- What `sqlite3_exec` asks for memory: the array `azCols` and the texts of a row of the statement with this
number, and the message. -/
inductive Request where
  | columns (statement : Nat)
  | text (statement row column : Nat)
  | message
  deriving DecidableEq

/-- `sqlite3Isspace` -/
def isSpace (c : UInt8) : Bool := 9 ≤ c && c ≤ 13 || c = 32

namespace Vdbe

variable (compiled : Compiled)

/-- The loop over the columns of a row, which can go to `exec_out`. -/
def readColumns (memory : Nat → Bool) : List Nat → Vdbe → Bool × Vdbe
  | [], vdbe => (true, vdbe)
  | i :: columns, vdbe =>
    match vdbe.columnText compiled (memory i) i with
    | (some _, vdbe) => readColumns memory columns vdbe
    | (none, vdbe) =>
      let (type, vdbe) := vdbe.columnType i
      if type ≠ .null then (false, vdbe) else readColumns memory columns vdbe

/-- Behind the first column there are only more columns to read. -/
theorem readColumns_cons_reads {memory : Nat → Bool} {columns : List Nat}
    (hrest : ∀ vdbe : Vdbe, vdbe.Reads (vdbe.readColumns compiled memory columns).2) (i : Nat) (vdbe : Vdbe) :
    (vdbe.columnText compiled (memory i) i).2.Reads (vdbe.readColumns compiled memory (i :: columns)).2 := by
  unfold readColumns
  generalize vdbe.columnText compiled (memory i) i = read
  obtain ⟨_ | bytes, read⟩ := read
  · have htype : read.Reads (read.columnType i).2 := column_reads _ _ _ _
    simp only
    by_cases hnull : (read.columnType i).1 = .null
    · rw [if_neg (not_not_intro hnull)]
      exact htype.trans (hrest _)
    · rw [if_pos hnull]
      exact htype
  · exact hrest read

theorem readColumns_reads (memory : Nat → Bool) (columns : List Nat) : ∀ vdbe : Vdbe,
    vdbe.Reads (vdbe.readColumns compiled memory columns).2 := by
  induction columns with
  | nil => exact Reads.refl
  | cons i columns ih =>
    intro vdbe
    exact (columnText_reads _ _ _ _).trans (readColumns_cons_reads compiled ih i vdbe)

theorem Reads.rowsLeft_eq {before after : Vdbe} (h : Reads before after) :
    Cursor.rowsLeft compiled after = Cursor.rowsLeft compiled before := by
  unfold Cursor.rowsLeft
  rcases h.stage with hsame | ⟨row, row', left, hbefore, hafter, -⟩
  · rw [hsame, h.starts, h.aVar]
  · rw [hbefore, hafter]

end Vdbe

namespace Database

/-- How a statement leaves the inner loop: for `exec_out`, or finalized, with its result, what the callback
has added, and the message. The callback was called for the rows. -/
inductive Ran where
  | exhausted (rows : Nat)
  | ended (rc : SQLite3Code) (result rows : Nat) (message : String)
  deriving DecidableEq

/-- The inner loop of `sqlite3_exec`, after `rows` rows; `callbackIsInit` is set from the first one on. -/
def runStatement (compiled : Compiled) (nullCallback columns : Bool) (texts : Nat → Nat → Bool)
    (rows : Nat) (vdbe : Vdbe) : Ran :=
  if _h : (vdbe.step compiled).1 = SQLite3Code.row then
    let read := (vdbe.step compiled).2.readColumns compiled (texts rows) (List.range compiled.columns.length)
    if (rows = 0 && !columns) || !read.1 then .exhausted rows
    else runStatement compiled nullCallback columns texts (rows + 1) read.2
  else
    let (rc, finalized) := (vdbe.step compiled).2.reset 0
    if (vdbe.step compiled).1 = SQLite3Code.done && rows = 0 && nullCallback then
      if columns then .ended rc 1 rows finalized.errMsg else .exhausted rows
    else .ended rc rows rows finalized.errMsg
termination_by Cursor.rowsLeft compiled vdbe
decreasing_by
  rw [(Vdbe.readColumns_reads compiled _ _ _).rowsLeft_eq]
  exact Cursor.rowsLeft_step compiled _h

section Exec

variable {σ : Type} (engine : Engine σ) (memory : Request → Bool)

/-- The outer loop of `sqlite3_exec` from the statement with the number `k` on: the result with its message,
what the callback has counted, and the database. -/
def execLoop (k : Nat) (sql : Bytes) (result : Nat) (s : σ) : SQLite3Code × String × Nat × σ :=
  match sql with
  | [] => (0, "not an error", result, s)
  | c :: cs =>
    match h : engine.prepare (c :: cs) s with
    | .fails code message left => (code, message, result, left)
    | .nothing tail left => execLoop (k + 1) tail result left
    | .statement compiled tail leaves =>
      match runStatement compiled (engine.nullCallback (leaves 0 0)) (memory (.columns k))
          (fun row i => memory (.text k row i)) 0 .prepared with
      | .exhausted rows =>
        (SQLite3Code.nomem, "out of memory", result, leaves rows SQLite3Code.nomem)
      | .ended rc counted rows message =>
        if rc ≠ 0 then (rc, message, result + counted, leaves rows rc)
        else execLoop (k + 1) (tail.dropWhile isSpace) (result + counted) (leaves rows rc)
termination_by sql.length
decreasing_by
  · have hlt := engine.tail_lt c cs s
    rwa [h] at hlt
  · have hlt := engine.tail_lt c cs s
    rw [h] at hlt
    exact lt_of_le_of_lt (List.dropWhile_sublist isSpace).length_le hlt

/-- `sqlite3_exec`; the message is null if it could not be copied. -/
def sqlite3Exec (sql : Option Bytes) (s : σ) : SQLite3Code × Option String × Nat × σ :=
  let (rc, message, result, s) := execLoop engine memory 0 (sql.getD []) 0 s
  if rc = 0 then (rc, none, result, s)
  else if memory .message then (rc, some message, result, s)
  else (SQLite3Code.nomem, none, result, s)

/-- `Database::execute` -/
def execute (sql : Option Bytes) (self : Database) (s : σ) : Except Exception Nat × σ :=
  match self.database with
  | none => (.error (.ysqlite3 .databaseIsClosed), s)
  | some _ =>
    let (ec, message, result, s) := sqlite3Exec engine memory sql s
    if ec ≠ 0 then (.error (.sqlite3 ec (message.getD "")), s)
    else (.ok (result % 2 ^ 64), s)

end Exec

end Database

/-! ## One statement -/

namespace Vdbe

variable (compiled : Compiled)

theorem rc_of_reads {before after : Vdbe} (h : Reads before after) (hrc : before.rc = SQLite3Code.nomem) :
    after.rc = SQLite3Code.nomem := by
  rcases h.rc with hsame | ⟨hnomem, -⟩
  · rw [hsame, hrc]
  · exact hnomem

/-- A value that can be converted, or is NULL, is read, and the loop goes on. -/
theorem readColumns_cons (memory : Nat → Bool) {row : Row} {left : Execution} {i : Nat} (hi : i < row.length)
    {vdbe : Vdbe} (hstage : vdbe.stage = .onRow row left) (hplain : (row[i] = .null || memory i) = true)
    (columns : List Nat) :
    vdbe.readColumns compiled memory (i :: columns) =
      { vdbe with stage := .onRow (row.modify i Mem.asText) left }.readColumns compiled memory columns := by
  have hmem : vdbe.columnMem i = some row[i] := by
    rw [columnMem_natCast hstage, List.getElem?_eq_getElem hi]
  have htext : vdbe.columnText compiled (memory i) i =
      (row[i].toText compiled.conversions,
        { vdbe with stage := .onRow (row.modify i Mem.asText) left }) := by
    unfold columnText column
    rw [hmem]
    simp only [if_pos hplain, textColumn_onRow hstage (Int.natCast_nonneg i), Int.toNat_natCast]
  generalize hafter : { vdbe with stage := .onRow (row.modify i Mem.asText) left } = after at htext
  have htype : row[i] = .null → after.columnType i = (.null, after) := by
    intro hnull
    have hread : after.columnMem i = some .null := by
      rw [← hafter, columnMem_natCast rfl, List.getElem?_modify_eq, List.getElem?_eq_getElem hi, hnull]
      rfl
    unfold columnType column
    rw [hread]
    rfl
  rw [readColumns, htext]
  cases hvalue : row[i] with
  | null =>
    simp only [Mem.toText, htype hvalue]
    rfl
  | _ => rfl

/-- Without memory for it, the value is lost. -/
theorem columnText_lost {row : Row} {left : Execution} {i : Nat} (hi : i < row.length) {vdbe : Vdbe}
    (hstage : vdbe.stage = .onRow row left) (hvalue : row[i] ≠ .null) :
    (vdbe.columnText compiled false i).2.rc = SQLite3Code.nomem := by
  have hmem : vdbe.columnMem i = some row[i] := by
    rw [columnMem_natCast hstage, List.getElem?_eq_getElem hi]
  unfold columnText column
  rw [hmem]
  simp only [hvalue, decide_false, Bool.or_false, Bool.false_eq_true, if_false]
  exact rc_of_reads (textColumn_reads i _) rfl

/-- Reading columns that are there changes at most the types of their values, unless memory runs out for one
of them. -/
theorem readColumns_cases (memory : Nat → Bool) {left : Execution} {columns : List Nat} :
    ∀ {row : Row} {vdbe : Vdbe}, (∀ i ∈ columns, i < row.length) → vdbe.stage = .onRow row left →
      (∃ row', vdbe.readColumns compiled memory columns =
          (true, { vdbe with stage := .onRow row' left })) ∨
        (∃ i ∈ columns, memory i = false) ∧
          (vdbe.readColumns compiled memory columns).2.rc = SQLite3Code.nomem := by
  induction columns with
  | nil =>
    intro row vdbe _ hstage
    exact Or.inl ⟨row, by rw [readColumns, ← hstage]⟩
  | cons i columns ih =>
    intro row vdbe hcolumns hstage
    obtain ⟨hi, hrest⟩ := List.forall_mem_cons.mp hcolumns
    by_cases hplain : (row[i] = .null || memory i) = true
    · have hlength : ∀ j ∈ columns, j < (row.modify i Mem.asText).length := by
        rwa [List.length_modify]
      have hgo := @ih _ { vdbe with stage := .onRow (row.modify i Mem.asText) left } hlength rfl
      rw [readColumns_cons compiled memory hi hstage hplain]
      exact hgo.imp_right fun ⟨⟨j, hj, hfalse⟩, hrc⟩ => ⟨⟨j, List.mem_cons_of_mem _ hj, hfalse⟩, hrc⟩
    · rw [Bool.or_eq_true, not_or, decide_eq_true_eq, Bool.not_eq_true] at hplain
      obtain ⟨hvalue, hfalse⟩ := hplain
      have hlost := columnText_lost compiled hi hstage hvalue
      rw [← hfalse] at hlost
      refine Or.inr ⟨⟨i, List.mem_cons_self, hfalse⟩, ?_⟩
      exact rc_of_reads (readColumns_cons_reads compiled (readColumns_reads compiled memory columns) i vdbe) hlost

end Vdbe

namespace Database

/-- How a run with this execution ahead of it ends, when there is memory. -/
def endOf (left : Execution) (nullCallback : Bool) (rows : Nat) : Ran :=
  let all := rows + left.rows.length
  .ended (if left.ends = SQLite3Code.done then 0 else left.ends)
    (if left.ends = SQLite3Code.done && all = 0 && nullCallback then 1 else all) all left.message

theorem endOf_cons (row : Row) {rows : List Row} {ends : SQLite3Code} {message : String}
    {hends : ends ≠ SQLite3Code.row} (nullCallback : Bool) (n : Nat) :
    endOf ⟨row :: rows, ends, message, hends⟩ nullCallback n =
      endOf ⟨rows, ends, message, hends⟩ nullCallback (n + 1) := by
  have hlength : n + (rows.length + 1) = n + 1 + rows.length := by omega
  unfold endOf
  rw [List.length_cons, hlength]

/-- A statement whose values ran out of memory ends with the next step. -/
theorem runStatement_lost (compiled : Compiled) (nullCallback columns : Bool) (texts : Nat → Nat → Bool)
    (rows : Nat) {vdbe : Vdbe} {row : Row} {left : Execution} (hstage : vdbe.stage = .onRow row left)
    (hrc : vdbe.rc = SQLite3Code.nomem) :
    runStatement compiled nullCallback columns texts rows vdbe =
      .ended SQLite3Code.nomem rows rows "out of memory" := by
  have hrow : SQLite3Code.nomem ≠ SQLite3Code.row := by decide
  have hdone : SQLite3Code.nomem ≠ SQLite3Code.done := by decide
  have hstep : vdbe.step compiled = (SQLite3Code.nomem, { vdbe with
      stage := .halted, errCode := SQLite3Code.nomem, errMsg := "out of memory" }) := by
    unfold Vdbe.step
    rw [hstage]
    exact if_pos hrc
  rw [runStatement, hstep, dif_neg hrow]
  simp only [decide_eq_false hdone, Bool.false_and, Vdbe.reset, hrc]
  rfl

/-- The inner loop at its end. -/
theorem runStatement_end (compiled : Compiled) (nullCallback columns : Bool) (texts : Nat → Nat → Bool)
    (rows : Nat) {vdbe : Vdbe} (h : vdbe.Settled) (hrows : (vdbe.ahead compiled).rows = []) :
    runStatement compiled nullCallback columns texts rows vdbe = endOf (vdbe.ahead compiled) nullCallback rows ∨
      runStatement compiled nullCallback columns texts rows vdbe = .exhausted rows ∧ columns = false := by
  have hstep := Vdbe.step_end compiled h hrows
  generalize vdbe.ahead compiled = left at hrows hstep
  rw [runStatement, hstep, dif_neg left.ends_ne]
  unfold endOf
  rw [hrows, List.length_nil, Nat.add_zero]
  simp only [Vdbe.ended, Vdbe.reset]
  by_cases hcallback : (decide (left.ends = SQLite3Code.done) && decide (rows = 0) && nullCallback) = true
  · rw [if_pos hcallback, if_pos hcallback]
    cases columns with
    | true => exact Or.inl rfl
    | false => exact Or.inr ⟨rfl, rfl⟩
  · rw [if_neg hcallback, if_neg hcallback]
    exact Or.inl rfl

/-- The inner loop ends as the execution ahead does, or for want of memory. -/
theorem runStatement_cases (compiled : Compiled) (nullCallback columns : Bool) (texts : Nat → Nat → Bool)
    {left : Execution} (hlength : ∀ row ∈ left.rows, row.length = compiled.columns.length) :
    ∀ (rows : Nat) {vdbe : Vdbe}, vdbe.Settled → vdbe.ahead compiled = left →
      runStatement compiled nullCallback columns texts rows vdbe = endOf left nullCallback rows ∨
        (columns = false ∨ ∃ row i, texts row i = false) ∧
          ((∃ n, runStatement compiled nullCallback columns texts rows vdbe = .exhausted n) ∨
            ∃ counted n message, runStatement compiled nullCallback columns texts rows vdbe =
              .ended SQLite3Code.nomem counted n message) := by
  obtain ⟨ahead, ends, message, hends⟩ := left
  induction ahead with
  | nil =>
    intro rows vdbe h hahead
    have hend := runStatement_end compiled nullCallback columns texts rows h (congrArg Execution.rows hahead)
    rw [hahead] at hend
    exact hend.imp_right fun ⟨hexhausted, hfalse⟩ => ⟨Or.inl hfalse, Or.inl ⟨rows, hexhausted⟩⟩
  | cons row ahead ih =>
    intro rows vdbe h hahead
    obtain ⟨hrow, hrest⟩ := List.forall_mem_cons.mp hlength
    have hrows := congrArg Execution.rows hahead
    have hrc := Vdbe.rc_started compiled h hrows
    have hstep := Vdbe.step_row compiled h hrows
    rw [hahead] at hstep
    rw [runStatement, hstep, dif_pos rfl]
    generalize hnext : Vdbe.onRow row ⟨ahead, ends, message, hends⟩ vdbe.started = next
    have hstage : next.stage = .onRow row ⟨ahead, ends, message, hends⟩ := by
      rw [← hnext]
      rfl
    have hindices : ∀ i ∈ List.range compiled.columns.length, i < row.length :=
      fun i hi => hrow ▸ List.mem_range.mp hi
    have hcases := Vdbe.readColumns_cases compiled (texts rows) hindices hstage
    have hreads := Vdbe.readColumns_reads compiled (texts rows) (List.range compiled.columns.length) next
    generalize next.readColumns compiled (texts rows) (List.range compiled.columns.length) = read
      at hcases hreads
    by_cases hout : (decide (rows = 0) && !columns || !read.1) = true
    · simp only [if_pos hout]
      refine Or.inr ⟨?_, Or.inl ⟨rows, rfl⟩⟩
      rcases hcases with ⟨row', rfl⟩ | ⟨⟨i, -, hfalse⟩, -⟩
      · simp at hout
        exact Or.inl hout.2
      · exact Or.inr ⟨rows, i, hfalse⟩
    · simp only [if_neg hout]
      rcases hcases with ⟨row', rfl⟩ | ⟨⟨i, -, hfalse⟩, hlost⟩
      · have hrow' : { next with stage := .onRow row' ⟨ahead, ends, message, hends⟩ } =
            Vdbe.onRow row' ⟨ahead, ends, message, hends⟩ vdbe.started := by
          rw [← hnext]
          rfl
        have hgo := ih hrest (rows + 1) (hrow' ▸ Vdbe.onRow_settled hrc)
          (hrow' ▸ Vdbe.ahead_onRow compiled hrc)
        rwa [← endOf_cons row] at hgo
      · obtain ⟨row', hafter, -⟩ := hreads.onRow hstage
        exact Or.inr ⟨Or.inr ⟨rows, i, hfalse⟩, Or.inr ⟨_, _, _,
          runStatement_lost compiled nullCallback columns texts (rows + 1) hafter hlost⟩⟩

theorem runStatement_plenty (compiled : Compiled) (nullCallback : Bool) :
    runStatement compiled nullCallback true (fun _ _ => true) 0 .prepared =
      endOf (compiled.program 0 (fun _ => .null)) nullCallback 0 := by
  have hcases := runStatement_cases compiled nullCallback true (fun _ _ => true)
    (compiled.length_row 0 (fun _ => .null)) 0 (Vdbe.ready_settled rfl rfl : Vdbe.prepared.Settled) rfl
  rcases hcases with hend | ⟨hfalse | ⟨_, _, hfalse⟩, -⟩
  · exact hend
  · cases hfalse
  · cases hfalse

/-! ## Running out of memory -/

section Memory

variable {σ : Type} (engine : Engine σ) (memory : Request → Bool)

/-- The loop ends as it does with memory, or says that there was none. -/
theorem execLoop_cases (sql : Bytes) : ∀ (k result : Nat) (s : σ),
    execLoop engine memory k sql result s = execLoop engine (fun _ => true) k sql result s ∨
      (execLoop engine memory k sql result s).1 = SQLite3Code.nomem := by
  induction hlength : sql.length using Nat.strongRecOn generalizing sql with
  | _ n ih =>
    intro k result s
    cases sql with
    | nil => exact Or.inl (by rw [execLoop, execLoop])
    | cons c cs =>
      have hlt := engine.tail_lt c cs s
      rw [hlength] at hlt
      rw [execLoop, execLoop]
      split
      · exact Or.inl rfl
      · rename_i tail left hprepare
        rw [hprepare] at hlt
        exact ih tail.length hlt tail rfl (k + 1) result left
      · rename_i compiled tail leaves hprepare
        rw [hprepare] at hlt
        have hcases := runStatement_cases compiled (engine.nullCallback (leaves 0 0)) (memory (.columns k))
          (fun row i => memory (.text k row i)) (compiled.length_row 0 (fun _ => .null)) 0
          (Vdbe.ready_settled rfl rfl : Vdbe.prepared.Settled) rfl
        rw [runStatement_plenty]
        rcases hcases with hend | ⟨-, ⟨rows, hout⟩ | ⟨counted, rows, message, hout⟩⟩
        · rw [hend]
          obtain ⟨rc, counted, rows, message, hran⟩ : ∃ rc counted rows message,
            endOf (compiled.program 0 (fun _ => .null)) (engine.nullCallback (leaves 0 0)) 0 =
              .ended rc counted rows message := ⟨_, _, _, _, rfl⟩
          rw [hran]
          simp only
          by_cases hrc : rc ≠ 0
          · rw [if_pos hrc, if_pos hrc]
            exact Or.inl rfl
          · rw [if_neg hrc, if_neg hrc]
            refine ih _ ?_ _ rfl _ _ _
            exact lt_of_le_of_lt (List.dropWhile_sublist isSpace).length_le hlt
        · rw [hout]
          exact Or.inr rfl
        · rw [hout]
          exact Or.inr rfl

/-- Wherever memory runs out, `execute` throws that there is none, or does exactly what it does with memory:
it never returns another count, throws another exception or leaves another database. -/
theorem execute_outOfMemory (sql : Option Bytes) (self : Database) (s : σ) :
    self.execute engine memory sql s = self.execute engine (fun _ => true) sql s ∨
      ∃ what, (self.execute engine memory sql s).1 = .error (.sqlite3 SQLite3Code.nomem what) := by
  unfold execute
  cases self.database with
  | none => exact Or.inl rfl
  | some handle =>
    have hne : SQLite3Code.nomem ≠ 0 := by decide
    unfold sqlite3Exec
    rcases execLoop_cases engine memory (sql.getD []) 0 0 s with hsame | hnomem
    · rw [hsame]
      generalize execLoop engine (fun _ => true) 0 (sql.getD []) 0 s = ran
      obtain ⟨rc, message, result, s'⟩ := ran
      simp only
      by_cases hrc : rc = 0
      · subst hrc
        exact Or.inl rfl
      · cases hmessage : memory .message with
        | true => exact Or.inl (by simp [hrc])
        | false => exact Or.inr ⟨"", by simp [hrc, hne]⟩
    · generalize execLoop engine memory 0 (sql.getD []) 0 s = ran at hnomem
      obtain ⟨rc, message, result, s'⟩ := ran
      obtain rfl : rc = SQLite3Code.nomem := hnomem
      cases hmessage : memory .message with
      | true => exact Or.inr ⟨message, by simp [hne]⟩
      | false => exact Or.inr ⟨"", by simp [hne]⟩

end Memory

end Database

/-! ## Stepping through the statements -/

namespace Cursor

variable (compiled : Compiled)

theorem rowsLeft_next {self : Cursor} (h : (cursor compiled).reply self .step = .row) :
    rowsLeft compiled ((cursor compiled).next self .step).vdbe < rowsLeft compiled self.vdbe := by
  have hresult : CursorReply.ofStep (self.step compiled).1 = .row := h
  show rowsLeft compiled (self.step compiled).2.vdbe < _
  unfold step Statement.step object at hresult ⊢
  cases hopen : self.statement with
  | none =>
    rw [hopen] at hresult
    cases hresult
  | some handle =>
    simp only [hopen] at hresult ⊢
    by_cases hrow : (self.vdbe.step compiled).1 = SQLite3Code.row
    · rw [if_pos hrow]
      exact rowsLeft_step compiled hrow
    · rw [if_neg hrow] at hresult
      by_cases hdone : (self.vdbe.step compiled).1 = SQLite3Code.done
      · rw [if_pos hdone] at hresult
        cases hresult
      · rw [if_neg hdone] at hresult
        cases hresult

/-- Stepping as long as there is a row: the rows, what the last step returns, and the object after it. -/
def stepRows (self : Cursor) : Nat × CursorReply × Cursor :=
  if _h : (cursor compiled).reply self .step = .row then
    let (rows, last, self) := stepRows ((cursor compiled).next self .step)
    (rows + 1, last, self)
  else (0, (cursor compiled).reply self .step, (cursor compiled).next self .step)
termination_by rowsLeft compiled self.vdbe
decreasing_by exact rowsLeft_next compiled _h

variable {compiled}

/-- The last step of a run throws the message of the run. -/
theorem reply_step_end {self : Cursor} (h : self.Settled) {handle : StatementHandle}
    (hopen : self.statement = some handle)
    (htied : self.sqlite.preparedOn[handle]? = some self.database)
    (hrows : (self.vdbe.ahead compiled).rows = []) :
    (cursor compiled).reply self .step =
      if (self.vdbe.ahead compiled).ends = SQLite3Code.done then .noRow
      else .throws (.sqlite3 (self.vdbe.ahead compiled).ends (self.vdbe.ahead compiled).message) := by
  have hstep := Vdbe.step_end compiled h hrows
  generalize self.vdbe.ahead compiled = left at hstep
  have hmessage : (self.sqlite.reportOn handle left.message).errmsg (some self.database) = left.message := by
    unfold Prepared.reportOn
    rw [htied]
    exact Function.update_self _ _ _
  show CursorReply.ofStep (self.step compiled).1 = _
  unfold step
  rw [hopen]
  simp only [hstep, Statement.step, object, hopen, if_neg left.ends_ne, Vdbe.ended, hmessage]
  by_cases hdone : left.ends = SQLite3Code.done
  · rw [if_pos hdone, if_pos hdone]
    rfl
  · rw [if_neg hdone, if_neg hdone]
    rfl

/-- Stepping comes to the rows of the run and then to its end. -/
theorem stepRows_eq {left : Execution} : ∀ {self : Cursor}, self.Settled →
    ∀ {handle : StatementHandle}, self.statement = some handle →
    self.sqlite.preparedOn[handle]? = some self.database → self.vdbe.ahead compiled = left →
      (self.stepRows compiled).1 = left.rows.length ∧
        (self.stepRows compiled).2.1 =
          if left.ends = SQLite3Code.done then .noRow else .throws (.sqlite3 left.ends left.message) := by
  obtain ⟨rows, ends, message, hends⟩ := left
  induction rows with
  | nil =>
    intro self h handle hopen htied hahead
    have hreply := reply_step_end h hopen htied (congrArg Execution.rows hahead)
    rw [hahead] at hreply
    have hne : (cursor compiled).reply self .step ≠ .row := by
      rw [hreply]
      simp only
      split <;> exact fun h => nomatch h
    rw [stepRows, dif_neg hne]
    exact ⟨rfl, hreply⟩
  | cons row rows ih =>
    intro self h handle hopen htied hahead
    have hrows := congrArg Execution.rows hahead
    have hrc := Vdbe.rc_started compiled h hrows
    have hprepared : (self.step compiled).2.sqlite.preparedOn = self.sqlite.preparedOn := by
      unfold step
      rw [hopen]
      exact Statements.step_preparedOn _ _ _ _
    obtain ⟨sqlite, hstep⟩ := step_row h hopen hrows
    rw [hstep] at hprepared
    have hreply : (cursor compiled).reply self .step = .row := by
      show CursorReply.ofStep (self.step compiled).1 = .row
      rw [hstep]
      rfl
    have hnext : (cursor compiled).next self .step = (self.step compiled).2 := rfl
    rw [hstep, hahead] at hnext
    have hopen' : ((cursor compiled).next self .step).statement = some handle := by
      rw [hnext]
      exact hopen
    have hgo := ih (settled_next h .step) hopen' (by rw [hnext]; exact hprepared ▸ htied)
      (by rw [hnext]; exact Vdbe.ahead_onRow compiled hrc)
    rw [stepRows, dif_pos hreply]
    exact ⟨congrArg (· + 1) hgo.1, hgo.2⟩

end Cursor

/-- The value of the error code. -/
def Exception.value : Exception → Int
  | .systemError _ value _ => value
  | .other => 0

namespace Database

section Statements

variable {σ : Type} (engine : Engine σ)

/-- A statement of a text, prepared with `prepare_statement` and stepped through. -/
def stepStatement (connection : Handle) (compiled : Compiled) (sqlite : Prepared) : Nat × CursorReply × Prepared :=
  match Statement.prepareStatement (some connection) (.succeeds true) sqlite with
  | (.error e, sqlite) => (0, .throws e, sqlite)
  | (.ok object, sqlite) =>
    let start := { Cursor.prepared 0 connection sqlite with statement := object.statement }
    let (rows, last, self) := start.stepRows compiled
    (rows, last, self.sqlite)

/-- The rows that were stepped over, and how many statements ended without a row while `SQLITE_NullCallback`
was set. -/
structure Counts where
  rows : Nat
  empty : Nat
  deriving DecidableEq, Repr

/-- What a program comes to that prepares the statements of a text one after the other, steps until there is
no row, and counts. -/
def byStatements (connection : Handle) (sql : Bytes) (sqlite : Prepared) (s : σ) : Except Exception Counts × σ :=
  match sql with
  | [] => (.ok ⟨0, 0⟩, s)
  | c :: cs =>
    match _h : engine.prepare (c :: cs) s with
    | .fails code message left =>
      ((Statement.prepareStatement (some connection) (.fails code message) sqlite).1.map (fun _ => ⟨0, 0⟩), left)
    | .nothing tail left => byStatements connection tail sqlite left
    | .statement compiled tail leaves =>
      let (rows, last, sqlite) := stepStatement connection compiled sqlite
      match last with
      | .throws e => (.error e, leaves rows e.value)
      | _ =>
        let empty := if rows = 0 && engine.nullCallback (leaves 0 0) then 1 else 0
        let (result, s) := byStatements connection (tail.dropWhile isSpace) sqlite (leaves rows 0)
        (result.map (fun counts => ⟨rows + counts.rows, empty + counts.empty⟩), s)
termination_by sql.length
decreasing_by
  · have hlt := engine.tail_lt c cs s
    rwa [_h] at hlt
  · have hlt := engine.tail_lt c cs s
    rw [_h] at hlt
    exact lt_of_le_of_lt (List.dropWhile_sublist isSpace).length_le hlt

theorem stepStatement_eq (connection : Handle) (compiled : Compiled) (sqlite : Prepared) :
    let left := compiled.program 0 (fun _ => .null)
    ∃ sqlite', stepStatement connection compiled sqlite =
      (left.rows.length,
        if left.ends = SQLite3Code.done then .noRow else .throws (.sqlite3 left.ends left.message), sqlite') := by
  intro left
  have htied : (sqlite.preparedOn ++ [connection])[sqlite.preparedOn.length]? = some connection := by simp
  let self := Cursor.prepared sqlite.preparedOn.length connection
    { sqlite with preparedOn := sqlite.preparedOn ++ [connection] }
  have hsettled : self.Settled := Vdbe.ready_settled rfl rfl
  have hahead : self.vdbe.ahead compiled = left := rfl
  have hrun := Cursor.stepRows_eq hsettled rfl htied hahead
  exact ⟨_, Prod.ext hrun.1 (Prod.ext hrun.2 rfl)⟩

/-- What the loop has counted or thrown, as the reply of `execute` before the count overflows. -/
def answerOf (ran : SQLite3Code × String × Nat × σ) : Except Exception Nat × σ :=
  if ran.1 ≠ 0 then (.error (.sqlite3 ran.1 ran.2.1), ran.2.2.2) else (.ok ran.2.2.1, ran.2.2.2)

theorem execLoop_eq_byStatements (connection : Handle) (sql : Bytes) :
    ∀ (k result : Nat) (sqlite : Prepared) (s : σ),
      answerOf (execLoop engine (fun _ => true) k sql result s) =
        ((byStatements engine connection sql sqlite s).1.map (fun counts => result + (counts.rows + counts.empty)),
          (byStatements engine connection sql sqlite s).2) := by
  induction hlength : sql.length using Nat.strongRecOn generalizing sql with
  | _ n ih =>
    intro k result sqlite s
    cases sql with
    | nil =>
      rw [execLoop, byStatements]
      rfl
    | cons c cs =>
      have hlt := engine.tail_lt c cs s
      rw [hlength] at hlt
      rw [execLoop, byStatements]
      generalize hprepare : engine.prepare (c :: cs) s = prepared at hlt
      cases prepared with
      | fails code message left =>
        have hmessage : (sqlite.report connection message).errmsg (some connection) = message :=
          Function.update_self _ _ _
        simp only [answerOf, Statement.prepareStatement, hmessage, if_pos code.2]
        rfl
      | nothing tail left => exact ih tail.length hlt tail rfl (k + 1) result sqlite left
      | statement compiled tail leaves =>
        obtain ⟨sqlite', hsteps⟩ := stepStatement_eq connection compiled sqlite
        have hne : (compiled.program 0 (fun _ => .null)).ends ≠ 0 := engine.ends_ne hprepare 0 _
        simp only [hsteps, runStatement_plenty]
        generalize compiled.program 0 (fun _ => .null) = run at hne
        unfold endOf
        simp only [Nat.zero_add]
        by_cases hdone : run.ends = SQLite3Code.done
        · simp only [if_pos hdone, decide_eq_true hdone, Bool.true_and, ne_eq, not_true, if_false]
          have hshort : (tail.dropWhile isSpace).length < n :=
            lt_of_le_of_lt (List.dropWhile_sublist isSpace).length_le hlt
          rw [ih _ hshort _ rfl _ _ sqlite']
          refine Prod.ext ?_ rfl
          simp only
          cases (byStatements engine connection (tail.dropWhile isSpace) sqlite'
            (leaves run.rows.length 0)).1 with
          | error e => rfl
          | ok more =>
            refine congrArg Except.ok ?_
            by_cases hempty : (decide (run.rows.length = 0) && engine.nullCallback (leaves 0 0)) = true
            · have hzero : run.rows.length = 0 := of_decide_eq_true (Bool.and_eq_true_iff.mp hempty).1
              simp only [if_pos hempty]
              omega
            · simp only [if_neg hempty]
              omega
        · simp only [if_neg hdone]
          rw [if_pos hne, answerOf, if_pos hne]
          rfl

/-- As long as there is memory, `execute` does what a program does that prepares the statements of the text one
after the other with `prepare_statement` and steps through each: it stops at the same statement, throws the
same exception and leaves the same database. It returns, in 64 bit, the number of rows that were stepped over,
and one more for each statement that ended without a row while `SQLITE_NullCallback` was set. -/
theorem execute_eq_byStatements (connection : Handle) (sql : Option Bytes) (sqlite : Prepared) (s : σ) :
    execute engine (fun _ => true) sql { database := some connection } s =
      ((byStatements engine connection (sql.getD []) sqlite s).1.map
          (fun counts => (counts.rows + counts.empty) % 2 ^ 64),
        (byStatements engine connection (sql.getD []) sqlite s).2) := by
  have hloop := execLoop_eq_byStatements engine connection (sql.getD []) 0 0 sqlite s
  unfold execute sqlite3Exec
  simp only
  generalize execLoop engine (fun _ => true) 0 (sql.getD []) 0 s = ran at hloop
  generalize byStatements engine connection (sql.getD []) sqlite s = counted at hloop
  obtain ⟨rc, message, result, left⟩ := ran
  obtain ⟨answer, left'⟩ := counted
  unfold answerOf at hloop
  by_cases hrc : rc = 0
  · subst hrc
    cases answer with
    | error e => cases hloop
    | ok more =>
      simp [Except.map] at hloop ⊢
      exact ⟨congrArg (· % 18446744073709551616) hloop.1, hloop.2⟩
  · cases answer with
    | error e => simpa [hrc, Except.map] using hloop
    | ok more => simp [hrc, Except.map] at hloop

end Statements

/-- `VALUES(0),(0)` -/
def twoRows : Compiled where
  parameters := noParameters
  columns := [[99, 111, 108, 117, 109, 110, 49]]
  program _ _ := ⟨[[.int 0], [.int 0]], SQLite3Code.done, "no more rows available", SQLite3Code.done_ne_row⟩
  conversions := zeroConversions
  limit := 1000000000
  count_ge := noParameters_count
  length_row n aVar row h := by
    simp only [List.mem_cons, List.not_mem_nil, or_false, or_self] at h
    rw [h]
    rfl
  indexOf_mem := noParameters_indexOf

/-- `PRAGMA empty_result_callbacks=1`, or another statement without rows. -/
def noRows : Compiled where
  parameters := noParameters
  columns := []
  program _ _ := ⟨[], SQLite3Code.done, "no more rows available", SQLite3Code.done_ne_row⟩
  conversions := zeroConversions
  limit := 1000000000
  count_ge := noParameters_count
  length_row n aVar row h := by cases h
  indexOf_mem := noParameters_indexOf

/-- A compiler that knows these two by their first letters and takes the rest for a comment, for a database that
is only its `SQLITE_NullCallback`. -/
def smallEngine : Engine Bool where
  prepare sql s :=
    -- 59 is the semicolon
    let tail := (sql.dropWhile (· ≠ 59)).tail
    match sql with
    | 86 :: _ => .statement twoRows tail (fun _ _ => s)
    | 80 :: _ => .statement noRows tail (fun _ _ => true)
    | _ => .nothing [] s
  nullCallback s := s
  tail_lt c cs s := by
    have htail : ((c :: cs).dropWhile (· ≠ 59)).tail.length < (c :: cs).length := by
      have hle := (List.dropWhile_sublist (l := c :: cs) (· ≠ (59 : UInt8))).length_le
      rw [List.length_tail]
      simp only [List.length_cons] at hle ⊢
      omega
    split
    · exact htail
    · exact htail
    · exact Nat.zero_lt_succ _
  ends_ne := by
    intro sql s compiled tail leaves h n aVar
    have hne : SQLite3Code.done ≠ SQLite3Code.success := by decide
    simp only at h
    split at h
    · cases h
      exact hne
    · cases h
      exact hne
    · cases h

/-- Two statements with two rows each, and between them the one that makes SQLite count statements without
rows. -/
example :
    (execute smallEngine (fun _ => true) (some (cstr "V;P;V")) { database := some 0 } false).1.toOption =
        some 5 ∧
      (byStatements smallEngine 0 (cstr "V;P;V") ⟨[], fun _ => ""⟩ false).1.toOption = some ⟨4, 1⟩ := by
  decide +kernel

end Database

end Ysqlite3
