import Ysqlite3.Statement.Rows

/-!
# Reading a row

What the accessors of `Results` answer. `blob`, `text` and `size_of` can lack the memory to convert a value:
the value is lost then, and `blob`, `text` and `size_of` notice by the error code of the connection. What was
misread in a row is reported at the latest by the call that leaves the row. A blob that `text` has read is a
text for the accessors that come after it.
-/

namespace Ysqlite3

namespace Vdbe

variable {vdbe : Vdbe} {i : Int} {value : Mem}

/-- With memory, a column function returns the value of the column. -/
theorem column_of_memory {α : Type} {read : Mem → α} {memory : Bool}
    (h : vdbe.columnMem i = some value) (hmemory : value = .null ∨ memory = true) :
    vdbe.column read memory i = (read value, vdbe) := by
  unfold column
  rw [h]
  simp [hmemory]

/-- The value of column `i` is lost for want of memory. -/
def lost (i : Int) (vdbe : Vdbe) : Vdbe :=
  { vdbe.loseColumn i with
    rc := SQLite3Code.nomem, errCode := SQLite3Code.nomem, errMsg := "out of memory" }

theorem column_without_memory {α : Type} {read : Mem → α} (h : vdbe.columnMem i = some value)
    (hvalue : value ≠ .null) : vdbe.column read false i = (read .null, vdbe.lost i) := by
  unfold column
  rw [h]
  simp [hvalue, lost]

/-- A column that was lost reads as NULL. -/
theorem columnMem_lost (h : vdbe.columnMem i = some value) :
    (vdbe.lost i).columnMem i = some .null := by
  unfold columnMem at h ⊢
  unfold lost loseColumn
  cases hstage : vdbe.stage with
  | ready => simp [hstage] at h
  | halted => simp [hstage] at h
  | onRow row left =>
    simp only [hstage] at h ⊢
    by_cases hi : i < 0
    · simp [hi] at h
    · rw [if_neg hi] at h ⊢
      obtain ⟨hlt, -⟩ := List.getElem?_eq_some_iff.mp h
      rw [List.getElem?_set_self hlt]

/-- There is no column to read. -/
def outOfRange (vdbe : Vdbe) : Vdbe :=
  { vdbe with errCode := SQLite3Code.range, errMsg := "column index out of range" }

theorem column_outOfRange {α : Type} {read : Mem → α} {memory : Bool} (h : vdbe.columnMem i = none) :
    vdbe.column read memory i = (read .null, vdbe.outOfRange) := by
  unfold column
  rw [h]
  rfl

@[simp] theorem errCode_textColumn (i : Int) (vdbe : Vdbe) :
    (vdbe.textColumn i).errCode = vdbe.errCode := by
  unfold textColumn
  split
  · split <;> rfl
  · rfl

@[simp] theorem errMsg_textColumn (i : Int) (vdbe : Vdbe) : (vdbe.textColumn i).errMsg = vdbe.errMsg := by
  unfold textColumn
  split
  · split <;> rfl
  · rfl

/-- A value that is no blob stays what it is. -/
theorem textColumn_eq_self (h : ∀ value, vdbe.columnMem i = some value → value.asText = value) :
    vdbe.textColumn i = vdbe := by
  unfold columnMem at h
  unfold textColumn
  cases hstage : vdbe.stage with
  | ready => rfl
  | halted => rfl
  | onRow row left =>
    simp only [hstage] at h
    by_cases hi : i < 0
    · exact if_pos hi
    · have hrow : row.modify i.toNat Mem.asText = row := by
        apply List.ext_getElem?
        intro j
        rw [List.getElem?_modify]
        by_cases hj : i.toNat = j
        · subst hj
          rw [if_neg hi] at h
          cases hvalue : row[i.toNat]? with
          | none => rfl
          | some value => simp [h value hvalue]
        · simp [hj]
      simp only [if_neg hi, hrow, ← hstage]

end Vdbe

namespace Cursor

variable {compiled : Compiled} {self : Cursor}

/-! ## One accessor -/

/-- What a column function leaves behind that has answered: `text` makes a text of a blob. -/
def afterRead (access : Access) (i : Int) (vdbe : Vdbe) : Vdbe :=
  match access with
  | .text => vdbe.textColumn i
  | _ => vdbe

theorem afterRead_eq_self {vdbe : Vdbe} {i : Int}
    (h : ∀ value, vdbe.columnMem i = some value → value.asText = value) (access : Access) :
    afterRead access i vdbe = vdbe := by
  cases access with
  | text => exact Vdbe.textColumn_eq_self h
  | _ => rfl

theorem afterRead_errCode (access : Access) (i : Int) (vdbe : Vdbe) :
    (afterRead access i vdbe).errCode = vdbe.errCode := by
  cases access with
  | text => exact Vdbe.errCode_textColumn i vdbe
  | _ => rfl

/-- The type of a value. -/
def columnType : Mem → ColumnType
  | .int _ => .integer
  | .real _ => .real
  | .str _ => .text
  | .blob _ | .zeroblob _ => .blob
  | .null => .null

/-- What an accessor answers for a value. -/
def answer (conversions : Conversions) (value : Mem) : Access → CursorReply
  | .integer => .integer (value.toInt64 conversions)
  | .real => .real (value.toDouble conversions)
  | .blob => .blob (value.toBlob conversions) (value.bytes conversions)
  | .text => .text ((value.toText conversions).map cString)
  | .sizeOf => .size (value.bytes conversions)
  | .typeOf => .type (columnType value)
  | .isNull => .isNull (columnType value = .null)

/-- The accessors that can need memory. -/
def converts : Access → Bool
  | .blob | .text | .sizeOf => true
  | _ => false

/-- The message of the exception of an accessor. -/
def message (errMsg : String) : Access → String
  | .text => errMsg
  | _ => ""

section OnColumn

variable {handle handle' : StatementHandle} {index : Index} {locale current : UInt8 → UInt8} {i : Int}
  {memory : Bool}

theorem atColumn_ok {α : Type} (read : Int → Action Cursor α) (hopen : self.statement = some handle)
    (hresults : self.results.statement = some handle')
    (hindex : Results.toColumnIndex current locale compiled.columns index = some (.ok i)) :
    atColumn compiled index locale current read self = read i self := by
  unfold atColumn
  simp only [hresults, hopen, hindex]
  rfl

theorem ofVdbe_apply {α : Type} {read : Vdbe → α × Vdbe} {a : α} {vdbe : Vdbe}
    (h : read self.vdbe = (a, vdbe)) : ofVdbe read self = .returns a { self with vdbe } := by
  unfold ofVdbe
  rw [h]

theorem errcode_apply (self : Cursor) : errcode self = .returns self.vdbe.errCode self := rfl

theorem check_apply (missing : Bool) (old : SQLite3Code) (what : Cursor → String) (self : Cursor) :
    check missing old what self =
      if missing ∧ self.vdbe.errCode ≠ SQLite3Code.success ∧ self.vdbe.errCode ≠ old then
        .throws (.sqlite3 self.vdbe.errCode (what self)) self
      else .returns () self := by
  unfold check
  simp only [Action.bind_apply, errcode_apply, Outcome.andThen_returns]
  by_cases h : missing = true ∧ self.vdbe.errCode ≠ SQLite3Code.success ∧ self.vdbe.errCode ≠ old
  · rw [if_pos h, if_pos h]
    rfl
  · rw [if_neg h, if_neg h]
    rfl

/-- All accessors but `type_of` answer for a blob that has become a text as before. -/
theorem answer_asText (conversions : Conversions) (value : Mem) {access : Access} (h : access ≠ .typeOf) :
    answer conversions value.asText access = answer conversions value access := by
  cases access with
  | typeOf => exact absurd rfl h
  | _ => cases value <;> rfl

/-- An accessor whose column function finds `value` and leaves the statement as `vdbe`, where the function
finds `value` again. An error that was not there before is thrown, if there is nothing to return. -/
theorem access_eq (value : Mem) (vdbe : Vdbe) (hopen : self.statement = some handle)
    (hresults : self.results.statement = some handle')
    (hindex : Results.toColumnIndex current locale compiled.columns index = some (.ok i))
    (access : Access)
    (hplain : ∀ {α : Type} (read : Mem → α), converts access = false →
      Vdbe.column read true i self.vdbe = (read value, vdbe))
    (hfirst : ∀ {α : Type} (read : Mem → α), converts access = true →
      Vdbe.column read memory i self.vdbe = (read value, vdbe))
    (hagain : ∀ {α : Type} (read : Mem → α), converts access = true →
      Vdbe.column read memory i vdbe = (read value, vdbe))
    (hnull : value = .null ∨ vdbe = self.vdbe) :
    (cursor compiled).step self (.access access index locale current memory) =
      (if converts access ∧ vdbe.errCode ≠ SQLite3Code.success ∧
            vdbe.errCode ≠ self.vdbe.errCode then
          .throws (.sqlite3 vdbe.errCode (message vdbe.errMsg access))
        else answer compiled.conversions value access,
        { self with vdbe := afterRead access i vdbe }) := by
  show self.access compiled access index locale current memory = _
  have htype (h : converts access = false) : typeOf compiled index locale current self =
      .returns (columnType value) { self with vdbe } := by
    unfold typeOf
    rw [atColumn_ok _ hopen hresults hindex, Action.bind_apply, Vdbe.columnType,
      ofVdbe_apply (hplain _ h)]
    cases value <;> rfl
  -- Where nothing is there to be returned, the error code decides.
  have hcheck (missing : Bool) (what : Cursor → String) (h : value = .null → missing = true)
      {read : Vdbe} (hread : read.errCode = vdbe.errCode) :
      check missing self.vdbe.errCode what { self with vdbe := read } =
        if vdbe.errCode ≠ SQLite3Code.success ∧ vdbe.errCode ≠ self.vdbe.errCode then
          .throws (.sqlite3 vdbe.errCode (what { self with vdbe := read })) { self with vdbe := read }
        else .returns () { self with vdbe := read } := by
    rw [check_apply]
    simp only [hread]
    refine if_congr ?_ rfl rfl
    rcases hnull with hvalue | rfl
    · simp [h hvalue]
    · simp
  cases access with
  | integer =>
    simp only [Cursor.access, integer, atColumn_ok _ hopen hresults hindex, Vdbe.columnInt64,
      ofVdbe_apply (hplain _ rfl)]
    rfl
  | real =>
    simp only [Cursor.access, real, atColumn_ok _ hopen hresults hindex, Vdbe.columnDouble,
      ofVdbe_apply (hplain _ rfl)]
    rfl
  | blob =>
    simp only [Cursor.access, blob, atColumn_ok _ hopen hresults hindex, Action.bind_apply,
      errcode_apply, Outcome.andThen_returns, Vdbe.columnBlob, ofVdbe_apply (hfirst _ rfl),
      Vdbe.columnBytes]
    rw [hcheck _ _ (by rintro rfl; rfl) rfl]
    by_cases hnew : vdbe.errCode ≠ SQLite3Code.success ∧ vdbe.errCode ≠ self.vdbe.errCode
    · rw [if_pos hnew, if_pos ⟨rfl, hnew⟩]
      rfl
    · have hbytes : ofVdbe (Vdbe.column (Mem.bytes compiled.conversions) memory i)
          { self with vdbe } = .returns (value.bytes compiled.conversions) { self with vdbe } :=
        ofVdbe_apply (hagain _ rfl)
      rw [if_neg hnew, if_neg (fun h => hnew h.2)]
      simp only [Outcome.andThen_returns, Action.bind_apply, hbytes]
      rfl
  | text =>
    have htext : Vdbe.columnText compiled memory i self.vdbe =
        (value.toText compiled.conversions, vdbe.textColumn i) := by
      unfold Vdbe.columnText
      rw [hfirst _ rfl]
    simp only [Cursor.access, text, atColumn_ok _ hopen hresults hindex, Action.bind_apply,
      errcode_apply, Outcome.andThen_returns, ofVdbe_apply htext]
    rw [hcheck _ _ (by rintro rfl; rfl) (Vdbe.errCode_textColumn i vdbe)]
    by_cases hnew : vdbe.errCode ≠ SQLite3Code.success ∧ vdbe.errCode ≠ self.vdbe.errCode
    · rw [if_pos hnew, if_pos ⟨rfl, hnew⟩, Vdbe.errMsg_textColumn]
      rfl
    · rw [if_neg hnew, if_neg (fun h => hnew h.2)]
      rfl
  | sizeOf =>
    simp only [Cursor.access, sizeOf, atColumn_ok _ hopen hresults hindex, Action.bind_apply,
      errcode_apply, Outcome.andThen_returns, Vdbe.columnBytes, ofVdbe_apply (hfirst _ rfl)]
    rw [hcheck _ _ (by rintro rfl; rfl) rfl]
    by_cases hnew : vdbe.errCode ≠ SQLite3Code.success ∧ vdbe.errCode ≠ self.vdbe.errCode
    · rw [if_pos hnew, if_pos ⟨rfl, hnew⟩]
      rfl
    · rw [if_neg hnew, if_neg (fun h => hnew h.2)]
      rfl
  | typeOf =>
    simp only [Cursor.access, htype rfl]
    rfl
  | isNull =>
    simp only [Cursor.access, isNull, Action.bind_apply, htype rfl]
    rfl

/-- On a row, an accessor that has the memory it needs answers for the value of its column, and changes
nothing but a blob that it reads as a text. -/
theorem step_access {value : Mem} (hopen : self.statement = some handle)
    (hresults : self.results.statement = some handle')
    (hindex : Results.toColumnIndex current locale compiled.columns index = some (.ok i))
    (hvalue : self.vdbe.columnMem i = some value) (access : Access)
    (hmemory : value = .null ∨ memory = true ∨ converts access = false) :
    (cursor compiled).step self (.access access index locale current memory) =
      (answer compiled.conversions value access,
        { self with vdbe := afterRead access i self.vdbe }) := by
  have hcolumn {α : Type} (read : Mem → α) (h : converts access = true) :
      Vdbe.column read memory i self.vdbe = (read value, self.vdbe) := by
    refine Vdbe.column_of_memory hvalue ?_
    rcases hmemory with hnull | hmemory | hnot
    · exact Or.inl hnull
    · exact Or.inr hmemory
    · rw [hnot] at h
      cases h
  rw [access_eq value self.vdbe hopen hresults hindex access
    (fun read _ => Vdbe.column_of_memory hvalue (Or.inr rfl)) hcolumn hcolumn (Or.inr rfl)]
  rw [if_neg (fun h => h.2.2 rfl)]

/-- Without memory the value is lost. The accessor throws unless the connection had this error before. -/
theorem step_access_lost {value : Mem} (hopen : self.statement = some handle)
    (hresults : self.results.statement = some handle')
    (hindex : Results.toColumnIndex current locale compiled.columns index = some (.ok i))
    (hvalue : self.vdbe.columnMem i = some value) (hne : value ≠ .null) {access : Access}
    (hconverts : converts access = true) :
    (cursor compiled).step self (.access access index locale current false) =
      (if self.vdbe.errCode ≠ SQLite3Code.nomem then
          .throws (.sqlite3 SQLite3Code.nomem (message "out of memory" access))
        else answer compiled.conversions .null access,
        { self with vdbe := self.vdbe.lost i }) := by
  rw [access_eq .null (self.vdbe.lost i) hopen hresults hindex access
    (fun read h => by rw [hconverts] at h; cases h)
    (fun read _ => Vdbe.column_without_memory hvalue hne)
    (fun read _ => Vdbe.column_of_memory (Vdbe.columnMem_lost hvalue) (Or.inl rfl)) (Or.inl rfl)]
  have hnomem : SQLite3Code.nomem ≠ SQLite3Code.success := by decide
  have hiff : converts access = true ∧ (self.vdbe.lost i).errCode ≠ SQLite3Code.success ∧
      (self.vdbe.lost i).errCode ≠ self.vdbe.errCode ↔ self.vdbe.errCode ≠ SQLite3Code.nomem :=
    ⟨fun h => h.2.2.symm, fun h => ⟨hconverts, hnomem, h.symm⟩⟩
  rw [if_congr hiff rfl rfl, afterRead_eq_self]
  · rfl
  · intro value hvalue'
    rw [Vdbe.columnMem_lost hvalue] at hvalue'
    rw [← Option.some.inj hvalue']
    rfl

/-- Off a row the accessors answer as for NULL, and complain at most about the range. -/
theorem step_access_outOfRange (hopen : self.statement = some handle)
    (hresults : self.results.statement = some handle')
    (hindex : Results.toColumnIndex current locale compiled.columns index = some (.ok i))
    (hvalue : self.vdbe.columnMem i = none) (access : Access) :
    (cursor compiled).step self (.access access index locale current memory) =
      (if converts access ∧ self.vdbe.errCode ≠ SQLite3Code.range then
          .throws (.sqlite3 SQLite3Code.range (message "column index out of range" access))
        else answer compiled.conversions .null access,
        { self with vdbe := self.vdbe.outOfRange }) := by
  have hagain : self.vdbe.outOfRange.columnMem i = none := hvalue
  rw [access_eq .null self.vdbe.outOfRange hopen hresults hindex access
    (fun read _ => Vdbe.column_outOfRange hvalue) (fun read _ => Vdbe.column_outOfRange hvalue)
    (fun read _ => Vdbe.column_outOfRange hagain) (Or.inl rfl)]
  have hrange : SQLite3Code.range ≠ SQLite3Code.success := by decide
  have hiff : converts access = true ∧ self.vdbe.outOfRange.errCode ≠ SQLite3Code.success ∧
      self.vdbe.outOfRange.errCode ≠ self.vdbe.errCode ↔
        converts access = true ∧ self.vdbe.errCode ≠ SQLite3Code.range :=
    ⟨fun h => ⟨h.1, h.2.2.symm⟩, fun h => ⟨h.1, hrange, h.2.symm⟩⟩
  rw [if_congr hiff rfl rfl, afterRead_eq_self]
  · rfl
  · intro value hvalue'
    rw [hagain] at hvalue'
    cases hvalue'

/-- There are results of an open statement, and they have such a column. -/
def HasColumn (compiled : Compiled) (index : Index) (locale current : UInt8 → UInt8) (self : Cursor) : Prop :=
  self.statement.isSome ∧ self.results.statement.isSome ∧
    ∃ i, Results.toColumnIndex current locale compiled.columns index = some (.ok i)

/-- Where there is no such column, nothing is read. -/
inductive AtColumn (compiled : Compiled) (index : Index) (locale current : UInt8 → UInt8)
    (self : Cursor) : Prop
  | undefined (hnot : ¬ HasColumn compiled index locale current self)
      (h : ∀ (α : Type) (read : Int → Action Cursor α),
        atColumn compiled index locale current read self = .undefined)
  | throws (hnot : ¬ HasColumn compiled index locale current self) (code : Error)
      (h : ∀ (α : Type) (read : Int → Action Cursor α),
        atColumn compiled index locale current read self = .throws (.ysqlite3 code) self)
  | reads (handle handle' : StatementHandle) (i : Int) (hopen : self.statement = some handle)
      (hresults : self.results.statement = some handle')
      (hindex : Results.toColumnIndex current locale compiled.columns index = some (.ok i))

theorem findColumn_error {name : Bytes} {j : Nat} {columns : List Bytes} {e : Exception}
    (h : Results.findColumn current locale name j columns = some (.error e)) :
    e = .ysqlite3 .unknownParameter := by
  induction columns generalizing j with
  | nil => exact (Except.error.inj (Option.some.inj h)).symm
  | cons column columns ih =>
    unfold Results.findColumn at h
    cases hequal : Results.iequals current locale name column with
    | none => simp [hequal] at h
    | some equal =>
      cases equal with
      | true => simp [hequal, pure] at h
      | false =>
        simp only [hequal, Option.bind_eq_bind, Option.bind_some] at h
        exact ih h

theorem toColumnIndex_error {columns : List Bytes} {e : Exception}
    (h : Results.toColumnIndex current locale columns index = some (.error e)) :
    ∃ code, e = .ysqlite3 code := by
  unfold Results.toColumnIndex at h
  cases index with
  | name name => exact ⟨_, findColumn_error h⟩
  | value value =>
    simp only at h
    split at h
    · exact ⟨_, (Except.error.inj (Option.some.inj h)).symm⟩
    · cases h

theorem atColumn_cases (compiled : Compiled) (index : Index) (locale current : UInt8 → UInt8)
    (self : Cursor) : AtColumn compiled index locale current self := by
  cases hresults : self.results.statement with
  | none =>
    refine .throws ?_ .badResult (fun α read => ?_)
    · rintro ⟨-, hsome, -⟩
      rw [hresults] at hsome
      cases hsome
    · unfold atColumn
      rw [hresults]
  | some handle' =>
    cases hopen : self.statement with
    | none =>
      refine .undefined ?_ (fun α read => ?_)
      · rintro ⟨hsome, -, -⟩
        rw [hopen] at hsome
        cases hsome
      · unfold atColumn
        rw [hresults, hopen]
        rfl
    | some handle =>
      have hnot : ¬ self.statement.isNone = true := by
        rw [hopen]
        exact Bool.false_ne_true
      cases hindex : Results.toColumnIndex current locale compiled.columns index with
      | none =>
        refine .undefined ?_ (fun α read => ?_)
        · rintro ⟨-, -, i, hi⟩
          rw [hindex] at hi
          cases hi
        · unfold atColumn
          simp only [hresults, if_neg hnot, hindex]
      | some column =>
        cases column with
        | error e =>
          obtain ⟨code, rfl⟩ := toColumnIndex_error hindex
          refine .throws ?_ code (fun α read => ?_)
          · rintro ⟨-, -, i, hi⟩
            rw [hindex] at hi
            cases hi
          · unfold atColumn
            simp only [hresults, if_neg hnot, hindex]
        | ok i => exact .reads handle handle' i hopen hresults hindex

theorem step_access_undefined (access : Access)
    (h : ∀ (α : Type) (read : Int → Action Cursor α),
      atColumn compiled index locale current read self = .undefined) :
    (cursor compiled).step self (.access access index locale current memory) = (.undefined, self) := by
  show self.access compiled access index locale current memory = _
  cases access <;> simp [Cursor.access, integer, real, blob, text, sizeOf, typeOf, isNull, h] <;> rfl

theorem step_access_throws (access : Access) {code : Error}
    (h : ∀ (α : Type) (read : Int → Action Cursor α),
      atColumn compiled index locale current read self = .throws (.ysqlite3 code) self) :
    (cursor compiled).step self (.access access index locale current memory) =
      (.throws (.ysqlite3 code), self) := by
  show self.access compiled access index locale current memory = _
  cases access <;> simp [Cursor.access, integer, real, blob, text, sizeOf, typeOf, isNull, h] <;> rfl

end OnColumn

/-! ## The columns of a row -/

/-- The rows of the run have a value for each column. -/
def Fits (compiled : Compiled) (vdbe : Vdbe) : Prop :=
  ∀ row left, vdbe.stage = .onRow row left → row.length = compiled.columns.length ∧
    ∀ next ∈ left.rows, next.length = compiled.columns.length

theorem Fits.congr {vdbe vdbe' : Vdbe} (h : Fits compiled vdbe) (hstage : vdbe'.stage = vdbe.stage) :
    Fits compiled vdbe' := by
  unfold Fits
  rw [hstage]
  exact h

theorem fits_ready {vdbe : Vdbe} (h : vdbe.stage = .ready) : Fits compiled vdbe := by
  intro row left hstage
  rw [h] at hstage
  cases hstage

theorem Fits.reads {vdbe vdbe' : Vdbe} (h : Fits compiled vdbe) (hreads : Vdbe.Reads vdbe vdbe') :
    Fits compiled vdbe' := by
  rcases hreads.stage with hsame | ⟨row, row', left, hbefore, hafter, hlength⟩
  · exact h.congr hsame
  · intro row₁ left₁ hstage
    obtain ⟨rfl, rfl⟩ := Stage.onRow.inj (hafter.symm.trans hstage)
    rw [hlength]
    exact h row left hbefore

theorem Fits.ahead {vdbe : Vdbe} (h : Fits compiled vdbe) :
    ∀ row ∈ (vdbe.ahead compiled).rows, row.length = compiled.columns.length := by
  unfold Vdbe.ahead
  cases hstage : vdbe.stage with
  | ready => exact compiled.length_row _ _
  | halted => exact compiled.length_row _ _
  | onRow row left =>
    simp only
    split
    · exact fun row hrow => by cases hrow
    · exact (h row left hstage).2

theorem fits_next (hself : self.Settled) (h : Fits compiled self.vdbe) (call : CursorCall) :
    Fits compiled ((cursor compiled).next self call).vdbe := by
  cases call with
  | bind memory index argument =>
    show Fits compiled (self.bind compiled memory index argument).2.vdbe
    rcases bind_cases memory index argument self with hsame | ⟨i, -, hbind⟩
    · rw [hsame]
      exact h
    · rw [hbind]
      exact h.congr (binder_binds compiled memory argument i self.vdbe).stage
  | clearBindings =>
    show Fits compiled self.clearBindings.vdbe
    unfold clearBindings
    cases self.statement with
    | none => exact h
    | some handle => exact h.congr rfl
  | step =>
    show Fits compiled (self.step compiled).2.vdbe
    cases hopen : self.statement with
    | none =>
      unfold step
      rw [hopen]
      exact h
    | some handle =>
      cases hrows : (self.vdbe.ahead compiled).rows with
      | nil =>
        obtain ⟨sqlite, what, hstep⟩ := step_end hself hopen hrows
        rw [hstep]
        exact fits_ready rfl
      | cons row rows =>
        obtain ⟨sqlite, hstep⟩ := step_row hself hopen hrows
        have hahead := h.ahead
        rw [hrows] at hahead
        rw [hstep]
        intro row' left' hstage
        obtain ⟨rfl, rfl⟩ := Stage.onRow.inj hstage
        exact List.forall_mem_cons.mp hahead
  | finish =>
    show Fits compiled (self.finish compiled).2.vdbe
    cases hopen : self.statement with
    | none =>
      unfold finish
      rw [hopen]
      exact h
    | some handle =>
      rw [finish_open compiled hself hopen]
      exact fits_ready rfl
  | reset halts =>
    show Fits compiled (self.reset halts).2.vdbe
    unfold reset
    cases self.statement with
    | none => exact h
    | some handle =>
      apply fits_ready
      unfold Vdbe.reset
      cases self.vdbe.stage <;> rfl
  | close ec => exact h
  | access access index locale current memory =>
    obtain ⟨vdbe, hreads, hnext⟩ := access_keepsRun compiled access index locale current memory self
    show Fits compiled (self.access compiled access index locale current memory).2.vdbe
    rw [hnext]
    exact h.reads hreads
  | elsewhere errCode errMsg => exact h.congr rfl

theorem fits_run (hself : self.Settled) (h : Fits compiled self.vdbe) (calls : List CursorCall) :
    Fits compiled ((cursor compiled).run self calls).vdbe := by
  have hstep : ∀ (s : Cursor) c, s.Settled ∧ Fits compiled s.vdbe → True →
      ((cursor compiled).next s c).Settled ∧ Fits compiled ((cursor compiled).next s c).vdbe :=
    fun s c hs _ => ⟨settled_next hs.1 c, fits_next hs.1 hs.2 c⟩
  exact ((cursor compiled).run_invariant hstep ⟨hself, h⟩
    ((cursor compiled).throughout_of_forall (fun _ _ _ => trivial) self)).2

theorem fits_prepared (statement : StatementHandle) (database : Handle) (sqlite : Prepared) :
    Fits compiled (prepared statement database sqlite).vdbe := fits_ready rfl

/-- A column that the row has can be read. -/
theorem Fits.columnMem {vdbe : Vdbe} (h : Fits compiled vdbe) {row : Row} {left : Execution}
    (hstage : vdbe.stage = .onRow row left) {i : Int} (hi : 0 ≤ i ∧ i < compiled.columns.length) :
    ∃ value, vdbe.columnMem i = some value := by
  have hlength := (h row left hstage).1
  have hlt : i.toNat < row.length := by omega
  exact ⟨row[i.toNat], (Vdbe.columnMem_eq hstage hi.1).trans (List.getElem?_eq_getElem hlt)⟩

theorem findColumn_mem {locale current : UInt8 → UInt8} {name : Bytes} {j : Nat} {columns : List Bytes}
    {i : Int} (h : Results.findColumn current locale name j columns = some (.ok i)) :
    j ≤ i ∧ i < j + columns.length := by
  induction columns generalizing j with
  | nil => cases h
  | cons column columns ih =>
    unfold Results.findColumn at h
    rw [List.length_cons]
    cases hequal : Results.iequals current locale name column with
    | none => simp [hequal] at h
    | some equal =>
      cases equal with
      | true =>
        simp only [hequal, Option.bind_eq_bind, Option.bind_some, if_true, pure] at h
        obtain rfl := Except.ok.inj (Option.some.inj h)
        omega
      | false =>
        simp only [hequal, Option.bind_eq_bind, Option.bind_some] at h
        have hrest := ih h
        omega

theorem toColumnIndex_mem {locale current : UInt8 → UInt8} {columns : List Bytes} {index : Index}
    {i : Int} (h : Results.toColumnIndex current locale columns index = some (.ok i)) :
    0 ≤ i ∧ i < columns.length := by
  unfold Results.toColumnIndex at h
  cases index with
  | name name =>
    have hmem := findColumn_mem h
    omega
  | value value =>
    simp only at h
    split at h
    · cases h
    · obtain rfl := Except.ok.inj (Option.some.inj h)
      omega

/-! ## One failure is reported -/

/-- An exception for want of memory. -/
def isOutOfMemory : CursorReply → Bool
  | .throws (.systemError .sqlite3 code _) => code = SQLite3Code.nomem
  | _ => false

theorem answer_isOutOfMemory (conversions : Conversions) (value : Mem) (access : Access) :
    isOutOfMemory (answer conversions value access) = false := by
  cases access <;> rfl

/-- What an accessor comes to: it refuses, it answers for its column, it loses the value of its column, or it
finds no row. -/
inductive Accessed (compiled : Compiled) (access : Access) (index : Index) (locale current : UInt8 → UInt8)
    (self : Cursor) (reply : CursorReply) (next : Cursor) : Prop
  | refused (hnot : ¬ HasColumn compiled index locale current self)
      (hreply : isOutOfMemory reply = false) (hnext : next = self)
  | answered (i : Int) (value : Mem)
      (hindex : Results.toColumnIndex current locale compiled.columns index = some (.ok i))
      (hvalue : self.vdbe.columnMem i = some value)
      (hreply : reply = answer compiled.conversions value access)
      (hnext : next = { self with vdbe := afterRead access i self.vdbe })
  | lost (i : Int) (value : Mem) (hvalue : self.vdbe.columnMem i = some value)
      (hreply : isOutOfMemory reply = decide (self.vdbe.errCode ≠ SQLite3Code.nomem))
      (hnext : next = { self with vdbe := self.vdbe.lost i })
  | outOfRange (hrow : ∀ row left, self.vdbe.stage ≠ .onRow row left)
      (hreply : isOutOfMemory reply = false) (hnext : next = { self with vdbe := self.vdbe.outOfRange })

theorem accessed (h : Fits compiled self.vdbe) (access : Access) (index : Index)
    (locale current : UInt8 → UInt8) (memory : Bool) :
    Accessed compiled access index locale current self
      ((cursor compiled).reply self (.access access index locale current memory))
      ((cursor compiled).next self (.access access index locale current memory)) := by
  unfold Component.reply Component.next
  cases atColumn_cases compiled index locale current self with
  | undefined hnot hat =>
    rw [step_access_undefined access hat]
    exact .refused hnot rfl rfl
  | throws hnot code hat =>
    rw [step_access_throws access hat]
    exact .refused hnot rfl rfl
  | reads handle handle' i hopen hresults hindex =>
    cases hvalue : self.vdbe.columnMem i with
    | none =>
      rw [step_access_outOfRange hopen hresults hindex hvalue access]
      refine .outOfRange ?_ ?_ rfl
      · intro row left hstage
        obtain ⟨value, hsome⟩ := h.columnMem hstage (toColumnIndex_mem hindex)
        rw [hvalue] at hsome
        cases hsome
      · simp only
        split
        · rfl
        · exact answer_isOutOfMemory _ _ _
    | some value =>
      by_cases hmemory : value = .null ∨ memory = true ∨ converts access = false
      · rw [step_access hopen hresults hindex hvalue access hmemory]
        exact .answered i value hindex hvalue rfl rfl
      · rw [not_or, not_or] at hmemory
        obtain ⟨hne, hmemory, hconverts⟩ := hmemory
        rw [Bool.not_eq_true] at hmemory
        rw [Bool.not_eq_false] at hconverts
        rw [hmemory, step_access_lost hopen hresults hindex hvalue hne hconverts]
        refine .lost i value hvalue ?_ rfl
        by_cases hnew : self.vdbe.errCode ≠ SQLite3Code.nomem
        · simp only [if_pos hnew, decide_eq_true hnew]
          rfl
        · simp only [if_neg hnew, decide_eq_false hnew]
          exact answer_isOutOfMemory _ _ _

/-- A call of an accessor. -/
structure Reading where
  access : Access
  index : Index
  locale : UInt8 → UInt8
  current : UInt8 → UInt8
  memory : Bool

def Reading.call (reading : Reading) : CursorCall :=
  .access reading.access reading.index reading.locale reading.current reading.memory

/-- A failure is not reported any more: it was, or there is nothing to be lost. -/
def Silent (self : Cursor) : Prop :=
  self.vdbe.errCode = SQLite3Code.nomem ∨ ∀ row left, self.vdbe.stage ≠ .onRow row left

theorem exists_onRow {vdbe : Vdbe} {i : Int} {value : Mem} (h : vdbe.columnMem i = some value) :
    ∃ row left, vdbe.stage = .onRow row left := by
  unfold Vdbe.columnMem at h
  cases hstage : vdbe.stage with
  | ready => simp [hstage] at h
  | halted => simp [hstage] at h
  | onRow row left => exact ⟨row, left, rfl⟩

/-- An accessor that throws for want of memory is the last one that does. -/
theorem silent_of_outOfMemory (h : Fits compiled self.vdbe) (reading : Reading)
    (hreply : isOutOfMemory ((cursor compiled).reply self reading.call) = true) :
    ((cursor compiled).next self reading.call).Silent := by
  have hno : ∀ {reply : CursorReply}, isOutOfMemory reply = false → isOutOfMemory reply ≠ true :=
    fun h => by rw [h]; exact Bool.false_ne_true
  cases accessed h reading.access reading.index reading.locale reading.current reading.memory with
  | refused hnot hquiet hnext => exact absurd hreply (hno hquiet)
  | answered i value hindex hvalue hanswer hnext =>
    rw [Reading.call, hanswer] at hreply
    exact absurd hreply (hno (answer_isOutOfMemory _ _ _))
  | lost i value hvalue hthrows hnext =>
    rw [Reading.call, hnext]
    exact Or.inl rfl
  | outOfRange hrow hquiet hnext => exact absurd hreply (hno hquiet)

theorem silent_next (h : Fits compiled self.vdbe) (hself : self.Silent) (reading : Reading) :
    isOutOfMemory ((cursor compiled).reply self reading.call) = false ∧
      ((cursor compiled).next self reading.call).Silent := by
  cases accessed h reading.access reading.index reading.locale reading.current reading.memory with
  | refused hnot hquiet hnext =>
    rw [Reading.call, hnext]
    exact ⟨hquiet, hself⟩
  | answered i value hindex hvalue hanswer hnext =>
    rw [Reading.call, hnext, hanswer]
    obtain ⟨row, left, hstage⟩ := exists_onRow hvalue
    rcases hself with hcode | hnone
    · exact ⟨answer_isOutOfMemory _ _ _, Or.inl ((afterRead_errCode reading.access i self.vdbe).trans hcode)⟩
    · exact absurd hstage (hnone row left)
  | lost i value hvalue hthrows hnext =>
    rw [Reading.call, hnext, hthrows]
    obtain ⟨row, left, hstage⟩ := exists_onRow hvalue
    rcases hself with hcode | hnone
    · exact ⟨decide_eq_false (fun hne => hne hcode), Or.inl rfl⟩
    · exact absurd hstage (hnone row left)
  | outOfRange hrow hquiet hnext =>
    rw [Reading.call, hnext]
    exact ⟨hquiet, Or.inr hrow⟩

theorem fits_reading (h : Fits compiled self.vdbe) (reading : Reading) :
    Fits compiled ((cursor compiled).next self reading.call).vdbe := by
  obtain ⟨vdbe, hreads, hnext⟩ := access_keepsRun compiled reading.access reading.index reading.locale
    reading.current reading.memory self
  show Fits compiled (self.access compiled _ _ _ _ _).2.vdbe
  rw [hnext]
  exact h.reads hreads

theorem countP_silent (readings : List Reading) : ∀ {self : Cursor}, Fits compiled self.vdbe →
    self.Silent →
    ((cursor compiled).replies self (readings.map Reading.call)).countP isOutOfMemory = 0 := by
  induction readings with
  | nil => exact fun _ _ => rfl
  | cons reading readings ih =>
    intro self h hself
    obtain ⟨hreply, hnext⟩ := silent_next h hself reading
    rw [List.map_cons, Component.replies_cons, List.countP_cons, hreply, ih (fits_reading h reading) hnext]
    rfl

theorem countP_readings (readings : List Reading) : ∀ {self : Cursor}, Fits compiled self.vdbe →
    ((cursor compiled).replies self (readings.map Reading.call)).countP isOutOfMemory ≤ 1 := by
  induction readings with
  | nil => exact fun _ => Nat.zero_le 1
  | cons reading readings ih =>
    intro self h
    rw [List.map_cons, Component.replies_cons, List.countP_cons]
    cases hreply : isOutOfMemory ((cursor compiled).reply self reading.call) with
    | true =>
      rw [countP_silent readings (fits_reading h reading) (silent_of_outOfMemory h reading hreply)]
      rfl
    | false =>
      have hrest := ih (fits_reading h reading)
      simpa using hrest

/-- In every program, accessors called one after the other throw for want of memory once at most: those that
fail later answer as for NULL. -/
theorem outOfMemory_once (compiled : Compiled) (statement : StatementHandle) (database : Handle)
    (sqlite : Prepared) (calls : List CursorCall) (readings : List Reading) :
    ((cursor compiled).replies ((cursor compiled).run (prepared statement database sqlite) calls)
      (readings.map Reading.call)).countP isOutOfMemory ≤ 1 :=
  countP_readings readings
    (fits_run (settled_prepared statement database sqlite) (fits_prepared statement database sqlite) calls)

/-! ## A misread row is reported -/

end Cursor

end Ysqlite3
