import Ysqlite3.Statement.Accessors
import Ysqlite3.Statement.Rows

/-!
# What is bound

The values of the parameters in any program: what the last call that bound a parameter left there, by its
position or by its name, until the bindings are cleared. A statement that returns its parameters gives them
back.
-/

namespace Ysqlite3

/-! ## The values a call leaves -/

namespace Argument

/-- The value for a call that succeeds. -/
def value : Argument → Mem
  | .cString _ none => .null
  | .cString _ (some z) => .str (textOf z (-1))
  | .string _ z => .str (textOf z (castInt z.length))
  | .span none => .null
  | .span (some z) => .blob z
  | .nullptr => .null
  | .double bits => if isNaN bits then .null else .real bits
  | .int64 value => .int value
  | .zeros size => .zeroblob size.toNat

/-- As much of bytes that are too many as an `int` can count. -/
def cut (z : Bytes) : Bytes := z.take (z.length % 2 ^ 31)

/-- The value for a call that is refused because there are too many bytes: those that were to be copied are
not bound, the others are. -/
def left : Argument → Mem
  | .cString false (some z) => .str (cut (textOf z (-1)))
  | .string false z => .str (cut (textOf z (castInt z.length)))
  | .span (some z) => .blob (cut z)
  | _ => .null

/-- What a call with the result code `rc` leaves in its parameter, if it changes it. -/
def leaves (argument : Argument) (rc : SQLite3Code) : Option Mem :=
  if rc = 0 then some argument.value
  else match argument with
    | .zeros _ => none
    | argument =>
      if rc = SQLite3Code.tooBig then some argument.left
      else if rc = SQLite3Code.nomem then some .null
      else none

theorem leaves_success (argument : Argument) : argument.leaves 0 = some argument.value := by
  cases argument <;> rfl

theorem leaves_misuse (argument : Argument) : argument.leaves SQLite3Code.misuse = none := by
  cases argument <;> rfl

end Argument

namespace Vdbe

variable {compiled : Compiled} {vdbe : Vdbe} {i : Int}

theorem unbind_eq (compiled : Compiled) (h : vdbe.stage = .ready)
    (hi : 1 ≤ i ∧ i ≤ compiled.parameters.count) :
    vdbe.unbind compiled i = (0, { vdbe.setVar i .null with errCode := 0 }) := by
  have hrange : ¬ (i < 1 ∨ compiled.parameters.count < i) := by omega
  unfold unbind
  rw [if_neg (fun hne => hne h), if_neg hrange]

@[simp] theorem aVar_setVar (i : Int) (value : Mem) (vdbe : Vdbe) :
    (vdbe.setVar i value).aVar i.toNat = value := by
  unfold setVar
  exact Function.update_self i.toNat value vdbe.aVar

theorem unbind_busy_aVar (compiled : Compiled) (i : Int) (h : vdbe.stage ≠ .ready) :
    (vdbe.unbind compiled i).2.aVar = vdbe.aVar := by
  unfold unbind
  rw [if_pos h]

/-- A value without bytes of its own. -/
theorem bindMem_aVar (compiled : Compiled) (value : Mem) (vdbe : Vdbe)
    (hi : 1 ≤ i ∧ i ≤ compiled.parameters.count) :
    (vdbe.bindMem compiled value i).1 = 0 ∧
        (vdbe.bindMem compiled value i).2.aVar i.toNat = value ∨
      (vdbe.bindMem compiled value i).1 = SQLite3Code.misuse ∧
        (vdbe.bindMem compiled value i).2.aVar i.toNat = vdbe.aVar i.toNat := by
  have hmisuse : SQLite3Code.misuse ≠ 0 := by decide
  by_cases hstage : vdbe.stage = .ready
  · left
    rw [bindMem, unbind_eq compiled hstage hi]
    exact ⟨rfl, aVar_setVar i value _⟩
  · right
    have hrc := unbind_busy compiled i hstage
    unfold bindMem
    simp only [hrc, if_neg hmisuse]
    exact ⟨trivial, congrFun (unbind_busy_aVar compiled i hstage) _⟩

/-- What `bindText` leaves in the parameter, by its result code. -/
theorem bindBytes_aVar (compiled : Compiled) (value : Bytes → Mem) (transient memory : Bool)
    (data : Option Bytes) (vdbe : Vdbe) (hi : 1 ≤ i ∧ i ≤ compiled.parameters.count) :
    let outcome := vdbe.bindBytes compiled value transient memory data i
    outcome.1 = 0 ∧ outcome.2.aVar i.toNat = (data.map value).getD .null ∨
      outcome.1 = SQLite3Code.misuse ∧ outcome.2.aVar i.toNat = vdbe.aVar i.toNat ∨
      (∃ z, data = some z ∧ outcome.1 = SQLite3Code.tooBig ∧
        outcome.2.aVar i.toNat = if transient then .null else value (Argument.cut z)) ∨
      outcome.1 = SQLite3Code.nomem ∧ outcome.2.aVar i.toNat = .null := by
  intro outcome
  by_cases hstage : vdbe.stage = .ready
  · have houtcome : outcome = vdbe.bindBytes compiled value transient memory data i := rfl
    rw [bindBytes, unbind_eq compiled hstage hi] at houtcome
    cases data with
    | none =>
      rw [houtcome]
      exact Or.inl ⟨rfl, aVar_setVar i .null _⟩
    | some z =>
      simp only [ne_eq, not_true_eq_false, if_false] at houtcome
      by_cases hlimit : compiled.limit < z.length
      · rw [if_pos hlimit] at houtcome
        rw [houtcome]
        refine Or.inr (Or.inr (Or.inl ⟨z, rfl, rfl, ?_⟩))
        cases transient with
        | true => exact aVar_setVar i .null _
        | false => exact aVar_setVar i _ _
      · rw [if_neg hlimit] at houtcome
        by_cases hmemory : (transient && !memory) = true
        · rw [if_pos hmemory] at houtcome
          rw [houtcome]
          exact Or.inr (Or.inr (Or.inr ⟨rfl, aVar_setVar i .null _⟩))
        · rw [if_neg hmemory] at houtcome
          rw [houtcome]
          exact Or.inl ⟨rfl, aVar_setVar i _ _⟩
  · refine Or.inr (Or.inl ⟨(bindBytes_misuse compiled value transient memory data i vdbe).mpr hstage, ?_⟩)
    have hmisuse : SQLite3Code.misuse ≠ 0 := by decide
    have hrc := unbind_busy compiled i hstage
    have hkept := congrFun (unbind_busy_aVar compiled i hstage) i.toNat
    show (vdbe.bindBytes compiled value transient memory data i).2.aVar i.toNat = _
    unfold bindBytes
    cases data with
    | none => exact hkept
    | some z =>
      simp only [hrc, if_pos hmisuse]
      exact hkept

end Vdbe

namespace Cursor

variable {compiled : Compiled} {self : Cursor}

/-- The binder of an argument leaves what its result code tells. -/
theorem binder_aVar (compiled : Compiled) (memory : Bool) (argument : Argument) {i : Int} (vdbe : Vdbe)
    (hi : 1 ≤ i ∧ i ≤ compiled.parameters.count) :
    (binder compiled memory argument i vdbe).2.aVar i.toNat =
      (argument.leaves (binder compiled memory argument i vdbe).1).getD (vdbe.aVar i.toNat) := by
  have hmem : ∀ value, argument.value = value → binder compiled memory argument =
      Vdbe.bindMem compiled value → (binder compiled memory argument i vdbe).2.aVar i.toNat =
        (argument.leaves (binder compiled memory argument i vdbe).1).getD (vdbe.aVar i.toNat) := by
    intro value hvalue hbinder
    rw [hbinder]
    rcases Vdbe.bindMem_aVar compiled value vdbe hi with ⟨hrc, haVar⟩ | ⟨hrc, haVar⟩
    · rw [hrc, haVar, Argument.leaves_success, hvalue]
      rfl
    · rw [hrc, haVar, Argument.leaves_misuse]
      rfl
  have hbytes : ∀ (value : Bytes → Mem) (transient : Bool) (data : Option Bytes),
      (∀ size, argument ≠ .zeros size) → argument.value = (data.map value).getD .null →
      (∀ z, data = some z → argument.left = if transient then .null else value (Argument.cut z)) →
      binder compiled memory argument = Vdbe.bindBytes compiled value transient memory data →
      (binder compiled memory argument i vdbe).2.aVar i.toNat =
        (argument.leaves (binder compiled memory argument i vdbe).1).getD (vdbe.aVar i.toNat) := by
    intro value transient data hzeros hvalue hleft hbinder
    have hbig : argument.leaves SQLite3Code.tooBig = some argument.left := by
      cases argument with
      | zeros size => exact absurd rfl (hzeros size)
      | _ => rfl
    have hnomem : argument.leaves SQLite3Code.nomem = some .null := by
      cases argument with
      | zeros size => exact absurd rfl (hzeros size)
      | _ => rfl
    rw [hbinder]
    rcases Vdbe.bindBytes_aVar compiled value transient memory data vdbe hi with
      ⟨hrc, haVar⟩ | ⟨hrc, haVar⟩ | ⟨z, hdata, hrc, haVar⟩ | ⟨hrc, haVar⟩
    · rw [hrc, haVar, Argument.leaves_success, hvalue]
      rfl
    · rw [hrc, haVar, Argument.leaves_misuse]
      rfl
    · rw [hrc, haVar, hbig, hleft z hdata]
      rfl
    · rw [hrc, haVar, hnomem]
      rfl
  cases argument with
  | cString transient data =>
    refine hbytes .str transient (data.map (fun z => textOf z (-1))) (by simp) ?_ ?_ rfl
    · cases data <;> rfl
    · intro z hz
      cases data with
      | none => cases hz
      | some z' =>
        obtain rfl := Option.some.inj hz
        cases transient <;> rfl
  | string transient z =>
    refine hbytes .str transient (some (textOf z (castInt z.length))) (by simp) rfl ?_ rfl
    intro z' hz
    obtain rfl := Option.some.inj hz
    cases transient <;> rfl
  | span data =>
    refine hbytes .blob false data (by simp) ?_ ?_ rfl
    · cases data <;> rfl
    · rintro z rfl
      rfl
  | nullptr => exact hmem .null rfl rfl
  | double bits => exact hmem _ rfl rfl
  | int64 value => exact hmem _ rfl rfl
  | zeros size =>
    by_cases hint : size ≤ 2147483647
    · refine hmem (.zeroblob size.toNat) rfl ?_
      unfold binder
      simp only [if_pos hint]
    · have hbinder : binder compiled memory (.zeros size) = Vdbe.bindZeroblob64 compiled size := by
        unfold binder
        simp only [if_neg hint]
      by_cases hlimit : compiled.limit < size.toNat
      · rw [hbinder, Vdbe.bindZeroblob64, if_pos hlimit]
        rfl
      · have hplain : binder compiled memory (.zeros size) i vdbe =
            Vdbe.bindMem compiled (.zeroblob size.toNat) i vdbe := by
          rw [hbinder, Vdbe.bindZeroblob64, if_neg hlimit]
          rfl
        rw [hplain]
        rcases Vdbe.bindMem_aVar compiled (.zeroblob size.toNat) vdbe hi with
          ⟨hrc, haVar⟩ | ⟨hrc, haVar⟩
        · rw [hrc, haVar]
          rfl
        · rw [hrc, haVar]
          rfl

theorem toParameterIndex_mem {index : Index} {i : Int}
    (h : Statement.toParameterIndex compiled.parameters index = .ok i) :
    1 ≤ i ∧ i ≤ compiled.parameters.count := by
  unfold Statement.toParameterIndex at h
  cases index with
  | name name =>
    have hname := compiled.indexOf_mem name
    simp only at h
    split at h
    · cases h
    · rename_i hne
      obtain rfl := Except.ok.inj h
      omega
  | value value =>
    simp only at h
    split at h
    · cases h
    · rename_i hin
      obtain rfl := Except.ok.inj h
      omega

/-! ## What a program has bound -/

/-- What the caller knows to be bound from the reply. -/
def leavesFor (argument : Argument) : CursorReply → Option Mem
  | .done => argument.leaves 0
  | .throws (.systemError .sqlite3 rc _) => argument.leaves rc
  | _ => none

/-- What a call binds to parameter `i`, as far as the caller can tell. -/
def boundBy (compiled : Compiled) (i : Int) : CursorCall → CursorReply → Option Mem
  | .bind _ index argument, reply =>
    if (Statement.toParameterIndex compiled.parameters index).toOption = some i then
      leavesFor argument reply
    else none
  | .clearBindings, _ => some .null
  | .close _, _ => some .null
  | _, _ => none

/-- The value of parameter `i`, as long as there is a statement. -/
def bound (i : Int) (self : Cursor) : Mem :=
  match self.statement with
  | none => .null
  | some _ => self.vdbe.aVar i.toNat

theorem bound_congr {next : Cursor} (hstatement : next.statement = self.statement)
    (haVar : next.vdbe.aVar = self.vdbe.aVar) (i : Int) : next.bound i = self.bound i := by
  unfold bound
  rw [hstatement, haVar]

theorem bound_bind {i : Int} (hi : 1 ≤ i ∧ i ≤ compiled.parameters.count) (memory : Bool)
    (index : Index) (argument : Argument) (self : Cursor) :
    ((cursor compiled).next self (.bind memory index argument)).bound i =
      (boundBy compiled i (.bind memory index argument)
        ((cursor compiled).reply self (.bind memory index argument))).getD (self.bound i) := by
  have hreply := reply_bind compiled memory index argument self
  have hnext : (cursor compiled).next self (.bind memory index argument) =
      (self.bindWith compiled (binder compiled memory argument) index).2 := by
    show (self.bind compiled memory index argument).2 = _
    rw [bind_eq]
  rw [hreply, hnext]
  simp only [bindWith, Statement.bind, boundBy]
  cases hopen : self.statement with
  | none =>
    have hclosed : self.object.statement.isNone = true := by
      rw [object, hopen]
      rfl
    rw [if_pos hclosed]
    show self.bound i = _
    by_cases hindex : (Statement.toParameterIndex compiled.parameters index).toOption = some i
    · rw [if_pos hindex]
      rfl
    · rw [if_neg hindex]
      rfl
  | some handle =>
    have hnot : ¬ self.object.statement.isNone = true := by
      rw [object, hopen]
      exact Bool.false_ne_true
    rw [if_neg hnot]
    cases hindex : Statement.toParameterIndex compiled.parameters index with
    | error e => rfl
    | ok j =>
      have hj := toParameterIndex_mem hindex
      have hself : self.bound i = self.vdbe.aVar i.toNat := by
        unfold bound
        rw [hopen]
      show (binder compiled memory argument j self.vdbe).2.aVar i.toNat = _
      by_cases hsame : j = i
      · subst hsame
        have hindex' : (Except.ok j : Except Exception Int).toOption = some j := rfl
        rw [if_pos hindex', binder_aVar compiled memory argument self.vdbe hj, hself]
        by_cases hrc : (binder compiled memory argument j self.vdbe).1 ≠ 0
        · simp only [if_pos hrc]
          rfl
        · simp only [not_not.mp hrc]
          rfl
      · have hindex' : ¬ (Except.ok j : Except Exception Int).toOption = some i :=
          fun hj' => hsame (Option.some.inj hj')
        rw [if_neg hindex']
        have hne : i.toNat ≠ j.toNat := by omega
        exact ((binder_binds compiled memory argument j self.vdbe).others _ hne).trans hself.symm

/-- The value of a parameter changes as the caller sees. -/
theorem bound_next {i : Int} (hi : 1 ≤ i ∧ i ≤ compiled.parameters.count) (h : self.Settled)
    (call : CursorCall) :
    ((cursor compiled).next self call).bound i =
      (boundBy compiled i call ((cursor compiled).reply self call)).getD (self.bound i) := by
  cases call with
  | bind memory index argument => exact bound_bind hi memory index argument self
  | clearBindings =>
    show self.clearBindings.bound i = .null
    unfold clearBindings bound
    cases hopen : self.statement with
    | none => simp only [hopen]
    | some handle => rfl
  | step =>
    show (self.step compiled).2.bound i = self.bound i
    cases hopen : self.statement with
    | none =>
      unfold step
      rw [hopen]
    | some handle =>
      cases hrows : (self.vdbe.ahead compiled).rows with
      | nil =>
        obtain ⟨sqlite, what, hstep⟩ := step_end h hopen hrows
        rw [hstep]
        refine bound_congr ?_ ?_ i
        · rfl
        · exact Vdbe.aVar_started self.vdbe
      | cons row rows =>
        obtain ⟨sqlite, hstep⟩ := step_row h hopen hrows
        rw [hstep]
        refine bound_congr ?_ ?_ i
        · rfl
        · exact Vdbe.aVar_started self.vdbe
  | finish =>
    show (self.finish compiled).2.bound i = self.bound i
    cases hopen : self.statement with
    | none =>
      unfold finish
      rw [hopen]
    | some handle =>
      rw [finish_open compiled h hopen]
      refine bound_congr ?_ ?_ i
      · rfl
      · exact Vdbe.aVar_started self.vdbe
  | reset halts =>
    show (self.reset halts).2.bound i = self.bound i
    unfold reset
    cases hopen : self.statement with
    | none => rfl
    | some handle =>
      refine bound_congr ?_ ?_ i
      · exact hopen.symm
      · simp only [Vdbe.reset]
        cases self.vdbe.stage <;> rfl
  | close ec =>
    show (self.close ec).2.bound i = .null
    have hclosed : (self.close ec).2.statement = none := by
      unfold close Statement.close
      simp only
      split <;> rfl
    unfold bound
    rw [hclosed]
  | access access index locale current memory =>
    show (self.access compiled access index locale current memory).2.bound i = self.bound i
    obtain ⟨vdbe, hreads, hnext⟩ := access_keepsRun compiled access index locale current memory self
    rw [hnext]
    refine bound_congr ?_ ?_ i
    · rfl
    · exact hreads.aVar
  | elsewhere errCode errMsg => rfl

/-- What the caller knows to be bound to parameter `i`. -/
def lastBound (compiled : Compiled) (i : Int) : List (CursorCall × CursorReply) → Mem :=
  Component.lastOf (fun call => boundBy compiled i call.1 call.2) .null

theorem bound_last (compiled : Compiled) (statement : StatementHandle) (database : Handle)
    (sqlite : Prepared) (calls : List CursorCall) {i : Int}
    (hi : 1 ≤ i ∧ i ≤ compiled.parameters.count) :
    ((cursor compiled).run (prepared statement database sqlite) calls).bound i =
      lastBound compiled i
        (calls.zip ((cursor compiled).replies (prepared statement database sqlite) calls)) :=
  (cursor compiled).run_observed Settled (bound i) (boundBy compiled i)
    (fun _ call hself _ => settled_next hself call) (fun _ call hself _ => bound_next hi hself call)
    (settled_prepared statement database sqlite)
    ((cursor compiled).throughout_of_forall (fun _ _ _ => trivial) _)

/-! ## Values that come back -/

/-- The parameters as a row. -/
def parameterRow (compiled : Compiled) (aVar : Nat → Mem) : Row :=
  (List.range compiled.parameters.count.toNat).map (fun i => aVar (i + 1))

/-- The statement `SELECT ?1, ?2, …`, which has a column for each parameter and fails if one of the values is
above the limit. -/
structure Echoes (compiled : Compiled) : Prop where
  columns : compiled.columns.length = compiled.parameters.count
  fits : ∀ n aVar, (∀ value ∈ parameterRow compiled aVar, value.tooBig compiled.limit = false) →
    (compiled.program n aVar).rows = [parameterRow compiled aVar]
  fails : ∀ n aVar, (∃ value ∈ parameterRow compiled aVar, value.tooBig compiled.limit = true) →
    (compiled.program n aVar).rows = [] ∧ (compiled.program n aVar).ends = SQLite3Code.tooBig

theorem getElem?_parameterRow {aVar : Nat → Mem} {i : Nat} (hi : i < compiled.parameters.count) :
    (parameterRow compiled aVar)[i]? = some (aVar (i + 1)) := by
  have hrange : i < compiled.parameters.count.toNat := by omega
  simp [parameterRow, List.getElem?_range hrange]

theorem mem_parameterRow {aVar : Nat → Mem} {value : Mem} :
    value ∈ parameterRow compiled aVar ↔
      ∃ i : Nat, i < compiled.parameters.count ∧ aVar (i + 1) = value := by
  have hcount := compiled.count_ge
  simp only [parameterRow, List.mem_map, List.mem_range]
  refine exists_congr (fun i => and_congr_left (fun _ => ?_))
  omega

/-- The values in the columns after an accessor has read one of them. -/
def valuesAfter (read : Access × Nat) (values : Nat → Mem) (i : Nat) : Mem :=
  if read.1 = .text ∧ read.2 = i then (values i).asText else values i

/-- What accessors called one after the other answer, where column `i` holds `values i` at first. -/
def answers (conversions : Conversions) : (Nat → Mem) → List (Access × Nat) → List CursorReply
  | _, [] => []
  | values, read :: reads =>
    answer conversions (values read.2) read.1 :: answers conversions (valuesAfter read values) reads

theorem answers_congr (conversions : Conversions) {reads : List (Access × Nat)} :
    ∀ {values values' : Nat → Mem}, (∀ read ∈ reads, values read.2 = values' read.2) →
      answers conversions values reads = answers conversions values' reads := by
  induction reads with
  | nil => exact fun _ => rfl
  | cons read reads ih =>
    intro values values' h
    obtain ⟨hread, hrest⟩ := List.forall_mem_cons.mp h
    rw [answers, answers, hread]
    refine congrArg (_ :: ·) (ih (fun read' hread' => ?_))
    unfold valuesAfter
    rw [hrest read' hread']

/-- Only `type_of` can tell what was read before. -/
theorem answers_eq_map (conversions : Conversions) {reads : List (Access × Nat)}
    (htype : ∀ read ∈ reads, read.1 ≠ .typeOf) : ∀ values : Nat → Mem,
      answers conversions values reads =
        reads.map (fun read => answer conversions (values read.2) read.1) := by
  induction reads with
  | nil => exact fun _ => rfl
  | cons read reads ih =>
    intro values
    obtain ⟨-, hrest⟩ := List.forall_mem_cons.mp htype
    rw [answers, ih hrest, List.map_cons]
    refine congrArg (_ :: ·) (List.map_congr_left (fun read' hread' => ?_))
    unfold valuesAfter
    split
    · exact answer_asText conversions _ (hrest read' hread')
    · rfl

/-- After an accessor the columns hold the values they are to hold. -/
theorem columnMem_afterRead {vdbe : Vdbe} {values : Nat → Mem} {read : Access × Nat} {i : Nat}
    (hvalue : vdbe.columnMem i = some (values i)) :
    (afterRead read.1 read.2 vdbe).columnMem i = some (valuesAfter read values i) := by
  obtain ⟨row, left, hstage⟩ := exists_onRow hvalue
  rw [Vdbe.columnMem_natCast hstage] at hvalue
  obtain ⟨access, j⟩ := read
  cases access with
  | text =>
    show (vdbe.textColumn j).columnMem i = _
    rw [Vdbe.textColumn_onRow hstage (Int.natCast_nonneg j), Vdbe.columnMem_natCast rfl, Int.toNat_natCast,
      List.getElem?_modify, hvalue]
    by_cases hij : j = i
    · simp [valuesAfter, hij]
    · simp [valuesAfter, hij]
  | _ => exact (Vdbe.columnMem_natCast hstage i).trans hvalue

/-- The accessors leave the cursor on its row, so each answers for its own column. -/
theorem replies_reads (handle : StatementHandle) (locale current : UInt8 → UInt8)
    {reads : List (Access × Nat)} (hreads : ∀ read ∈ reads, read.2 < compiled.columns.length) :
    ∀ {self : Cursor} {values : Nat → Mem}, self.statement = some handle →
      self.results.statement = some handle →
      (∀ i : Nat, i < compiled.columns.length → self.vdbe.columnMem i = some (values i)) →
      (cursor compiled).replies self
          (reads.map (fun read => .access read.1 (.value read.2) locale current true)) =
        answers compiled.conversions values reads := by
  induction reads with
  | nil => exact fun _ _ _ => rfl
  | cons read reads ih =>
    intro self values hopen hresults hvalues
    obtain ⟨hi, hrest⟩ := List.forall_mem_cons.mp hreads
    have hindex : Results.toColumnIndex current locale compiled.columns (.value read.2) =
        some (.ok read.2) := if_neg (by omega)
    have hstep := step_access hopen hresults hindex (hvalues read.2 hi) read.1 (Or.inr (Or.inl rfl))
    rw [List.map_cons, Component.replies_cons, Component.reply, Component.next, hstep]
    refine congrArg (_ :: ·) (ih hrest ?_ ?_ (fun i hi => columnMem_afterRead (hvalues i hi)))
    · exact hopen
    · exact hresults

/-- A statement that is ready and returns its parameters gives back what is bound. -/
theorem replies_echo (hechoes : Echoes compiled) (h : self.Settled) {handle : StatementHandle}
    (hopen : self.statement = some handle) (hready : self.vdbe.stage = .ready)
    (hfit : ∀ i : Nat, i < compiled.parameters.count →
      (self.bound (i + 1)).tooBig compiled.limit = false)
    (locale current : UInt8 → UInt8) {reads : List (Access × Nat)}
    (hreads : ∀ read ∈ reads, read.2 < compiled.parameters.count) :
    (cursor compiled).replies self
        (.step :: reads.map (fun read => .access read.1 (.value read.2) locale current true)) =
      .row :: answers compiled.conversions (fun i => self.bound (i + 1)) reads := by
  have hbound : ∀ i : Nat, self.bound (i + 1) = self.vdbe.aVar (i + 1) := by
    intro i
    unfold bound
    rw [hopen]
    rfl
  have hahead : self.vdbe.ahead compiled = compiled.program self.vdbe.starts self.vdbe.aVar := by
    rw [Vdbe.ahead, hready]
  have hrows : (self.vdbe.ahead compiled).rows = [parameterRow compiled self.vdbe.aVar] := by
    rw [hahead]
    refine hechoes.fits _ _ (fun value hvalue => ?_)
    obtain ⟨i, hi, rfl⟩ := mem_parameterRow.mp hvalue
    rw [← hbound]
    exact hfit i hi
  obtain ⟨sqlite, hstep⟩ := step_row h hopen hrows
  have hreply : (cursor compiled).reply self .step = .row :=
    congrArg (fun result => CursorReply.ofStep (Prod.fst result)) hstep
  have hnext : (cursor compiled).next self .step = (self.step compiled).2 := rfl
  rw [Component.replies_cons, hreply, hnext, hstep]
  refine congrArg (CursorReply.row :: ·) ?_
  have hcolumns := hechoes.columns
  refine replies_reads handle locale current (fun read hread => ?_) ?_ ?_ (fun i hi => ?_)
  · have hi := hreads read hread
    omega
  · exact hopen
  · rfl
  · rw [hbound, Vdbe.columnMem_natCast rfl]
    exact getElem?_parameterRow (by omega)

/-- A value above the limit fails the statement instead. -/
theorem reply_echo_tooBig (hechoes : Echoes compiled) (h : self.Settled) {handle : StatementHandle}
    (hopen : self.statement = some handle) (hready : self.vdbe.stage = .ready) {i : Nat}
    (hi : i < compiled.parameters.count) (hbig : (self.bound (i + 1)).tooBig compiled.limit = true) :
    ∃ what, (cursor compiled).reply self .step = .throws (.sqlite3 SQLite3Code.tooBig what) := by
  have hbound : self.bound (i + 1) = self.vdbe.aVar (i + 1) := by
    unfold bound
    rw [hopen]
    rfl
  rw [hbound] at hbig
  have hahead : self.vdbe.ahead compiled = compiled.program self.vdbe.starts self.vdbe.aVar := by
    rw [Vdbe.ahead, hready]
  obtain ⟨hrows, hends⟩ := hechoes.fails self.vdbe.starts self.vdbe.aVar
    ⟨_, mem_parameterRow.mpr ⟨i, hi, rfl⟩, hbig⟩
  rw [← hahead] at hrows hends
  obtain ⟨sqlite, what, hstep⟩ := step_end h hopen hrows
  have hnot : SQLite3Code.tooBig ≠ SQLite3Code.done := by decide
  rw [hends, if_neg hnot] at hstep
  exact ⟨what, congrArg (fun result => CursorReply.ofStep (Prod.fst result)) hstep⟩

/-- What a statement that returns its parameters replies to a step and to accessors after it, when
`values i` is bound to parameter `i + 1`. A blob that `text` has read has the type of a text then. -/
structure GivesBack (compiled : Compiled) (self : Cursor) (values : Nat → Mem) : Prop where
  fits : (∀ i : Nat, i < compiled.parameters.count → (values i).tooBig compiled.limit = false) →
    ∀ (locale current : UInt8 → UInt8) (reads : List (Access × Nat)),
      (∀ read ∈ reads, read.2 < compiled.parameters.count) →
      (cursor compiled).replies self
          (.step :: reads.map (fun read => .access read.1 (.value read.2) locale current true)) =
        .row :: answers compiled.conversions values reads
  fails : ∀ i : Nat, i < compiled.parameters.count → (values i).tooBig compiled.limit = true →
    ∃ what, (cursor compiled).reply self .step = .throws (.sqlite3 SQLite3Code.tooBig what)

/-- Whatever is read in between, all accessors but `type_of` answer for the values that are bound. -/
theorem GivesBack.replies_values {values : Nat → Mem} (h : GivesBack compiled self values)
    (hfits : ∀ i : Nat, i < compiled.parameters.count → (values i).tooBig compiled.limit = false)
    (locale current : UInt8 → UInt8) {reads : List (Access × Nat)}
    (hreads : ∀ read ∈ reads, read.2 < compiled.parameters.count)
    (htype : ∀ read ∈ reads, read.1 ≠ .typeOf) :
    (cursor compiled).replies self
        (.step :: reads.map (fun read => .access read.1 (.value read.2) locale current true)) =
      .row :: reads.map (fun read => answer compiled.conversions (values read.2) read.1) := by
  obtain ⟨hreplies, -⟩ := h
  rw [hreplies hfits locale current reads hreads, answers_eq_map _ htype]

/-- In a database in UTF-8, a statement that returns its parameters, is open and is not on a row gives back,
after any program, the values that were last bound, each converted as the accessor asks; if one of them is above
the limit, it fails with `SQLITE_TOOBIG`. -/
theorem gives_back_lastBound (compiled : Compiled) (hechoes : Echoes compiled)
    (statement : StatementHandle) (database : Handle) (sqlite : Prepared) (calls : List CursorCall)
    (hopen : ((cursor compiled).run (prepared statement database sqlite) calls).statement.isSome)
    (hready : ((cursor compiled).run (prepared statement database sqlite) calls).isOnRow = false) :
    GivesBack compiled ((cursor compiled).run (prepared statement database sqlite) calls)
      (fun i => lastBound compiled (i + 1)
        (calls.zip ((cursor compiled).replies (prepared statement database sqlite) calls))) := by
  have hprepared := settled_prepared statement database sqlite
  have hsettled : ((cursor compiled).run (prepared statement database sqlite) calls).Settled :=
    settled_run hprepared calls
  have hlast : ∀ i : Nat, i < compiled.parameters.count →
      ((cursor compiled).run (prepared statement database sqlite) calls).bound (i + 1) =
        lastBound compiled (i + 1)
          (calls.zip ((cursor compiled).replies (prepared statement database sqlite) calls)) :=
    fun i hi => bound_last compiled statement database sqlite calls ⟨by omega, by omega⟩
  obtain ⟨handle, hhandle⟩ := Option.isSome_iff_exists.mp hopen
  have hstage := not_not.mp ((isOnRow_iff hsettled hhandle).not.mp (by rw [hready]; decide))
  constructor
  · intro hfit locale current reads hreads
    rw [replies_echo hechoes hsettled hhandle hstage
      (fun i hi => (congrArg (Mem.tooBig compiled.limit) (hlast i hi)).trans (hfit i hi)) locale current
      hreads]
    refine congrArg (CursorReply.row :: ·) (answers_congr _ (fun read hread => ?_))
    exact hlast read.2 (hreads read hread)
  · intro i hi hbig
    exact reply_echo_tooBig hechoes hsettled hhandle hstage hi
      ((congrArg (Mem.tooBig compiled.limit) (hlast i hi)).trans hbig)

/-- `SELECT ?`, at the default limit. -/
def selectParameter : Compiled where
  parameters := { count := 1, indexOf _ := 0 }
  columns := [[63]]
  program _ aVar :=
    if (aVar 1).tooBig 1000000000 then ⟨[], SQLite3Code.tooBig, "string or blob too big", by decide⟩
    else ⟨[[aVar 1]], SQLite3Code.done, "no more rows available", SQLite3Code.done_ne_row⟩
  conversions := zeroConversions
  limit := 1000000000
  count_ge := by decide
  length_row n aVar row h := by
    split at h
    · cases h
    · rw [List.mem_singleton.mp h]
      rfl
  indexOf_mem _ := ⟨Int.le_refl 0, Int.one_nonneg⟩

theorem selectParameter_echoes : Echoes selectParameter where
  columns := rfl
  fits n aVar h := by
    have hfits : (aVar 1).tooBig 1000000000 = false := h _ (List.mem_singleton_self _)
    simp [selectParameter, parameterRow, hfits]
  fails n aVar h := by
    obtain ⟨value, hmem, hbig⟩ := h
    obtain rfl := List.mem_singleton.mp hmem
    have hbig' : (aVar 1).tooBig 1000000000 = true := hbig
    simp [selectParameter, hbig']

theorem gives_back_text :
    GivesBack selectParameter
      ((cursor selectParameter).run (prepared 0 0 ⟨[0], fun _ => ""⟩)
        [.bind true (.value 0) (.string true [97])])
      (fun i => lastBound selectParameter (i + 1)
        ([CursorCall.bind true (.value 0) (.string true [97])].zip
          ((cursor selectParameter).replies (prepared 0 0 ⟨[0], fun _ => ""⟩)
            [.bind true (.value 0) (.string true [97])]))) :=
  gives_back_lastBound selectParameter selectParameter_echoes 0 0 ⟨[0], fun _ => ""⟩
    [.bind true (.value 0) (.string true [97])] rfl rfl

/-- A blob that was read as a text has the type of one. -/
example :
    (cursor selectParameter).replies
        ((cursor selectParameter).run (prepared 0 0 ⟨[0], fun _ => ""⟩)
          [.bind true (.value 0) (.span (some [97]))])
        [.step, .access .typeOf (.value 0) id id true, .access .text (.value 0) id id true,
          .access .typeOf (.value 0) id id true] =
      [.row, .type .blob, .text (some [97]), .type .text] := by
  decide

end Cursor

end Ysqlite3
