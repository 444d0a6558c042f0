import Ysqlite3.Database.Functions

/-!
# The lifetime of function objects

A `Function` object passed to `register_function` is deleted once, and not used afterwards, as long as
SQLite does not refuse the registration: when it does, it has run the destructor callback, and the
`std::unique_ptr` deletes the object again.
-/

namespace Ysqlite3

open Ownership

namespace FunctionTable

variable {n : Nat} {self : FunctionTable}

theorem objectsOf_append (entries entries' : List FunctionEntry) :
    objectsOf (entries ++ entries') = objectsOf entries ++ objectsOf entries' :=
  List.filterMap_append

theorem objectsOf_singleton (key : FunctionKey) (object : Option Nat) :
    objectsOf [{ key, object }] = object.toList := by
  cases object <;> rfl

/-- The entries of a key and the others have the objects of all entries. -/
theorem objectsOf_split (entries : List FunctionEntry) (key : FunctionKey) :
    (objectsOf entries).Perm (objectsOf (entries.filter (fun entry => entry.key = key)) ++
      objectsOf (entries.filter (fun entry => ¬ entry.key = key))) := by
  have hsplit := List.filter_append_perm (fun entry : FunctionEntry => decide (entry.key = key)) entries
  rw [← objectsOf_append]
  simp only [decide_not]
  exact (hsplit.filterMap FunctionEntry.object).symm

/-- Deleting objects that the books still hold. -/
theorem ledger_delete (objects : List Nat) {held : List Nat}
    (h : Ledger n self.log (objects ++ held)) :
    Ledger n (self.delete objects).log held := h.release

section CreateFunctionV2

variable {name : Option Bytes} {argc : Int} {refusal : Option FailureCode}

/-- A call that fails has run the destructor callback. -/
theorem createFunctionV2_refused (self : FunctionTable) (flags : Nat) (object : Option Nat)
    (h : ¬ (¬ Misuse name argc ∧ refusal = none)) :
    ∃ code, code ≠ 0 ∧
      self.createFunctionV2 name argc flags object refusal = (code, self.delete object.toList) := by
  unfold createFunctionV2
  by_cases hmisuse : Misuse name argc
  · exact ⟨SQLite3Code.misuse, by decide, if_pos hmisuse⟩
  · cases refusal with
    | none => exact absurd ⟨hmisuse, rfl⟩ h
    | some code => exact ⟨code, code.property, if_neg hmisuse⟩

/-- A call that succeeds has taken the object over and deleted the ones it replaces. -/
theorem createFunctionV2_accepted (flags : Nat) {object : Option Nat}
    (h : ¬ Misuse name argc ∧ refusal = none)
    (hledger : Ledger n self.log (object.toList ++ objectsOf self.entries)) :
    ∃ table, self.createFunctionV2 name argc flags object refusal = (0, table) ∧
      Ledger n table.log (objectsOf table.entries) := by
  obtain ⟨hmisuse, rfl⟩ := h
  refine ⟨_, if_neg hmisuse, ?_⟩
  rw [objectsOf_append, objectsOf_singleton]
  apply ledger_delete (objectsOf _)
  apply hledger.perm
  apply List.perm_append_comm.trans
  rw [← List.append_assoc]
  exact (objectsOf_split self.entries _).append_right object.toList

end CreateFunctionV2

end FunctionTable

namespace DatabaseFunctions

open FunctionTable

/-- The books over the objects passed in, of which the table holds some; at the end each was deleted
exactly once. -/
structure DestroyedOnce (s : DatabaseFunctions) : Prop where
  ledger : Ledger s.passed s.table.log (objectsOf s.table.entries)
  at_end : s.opened = false → s.table.entries = [] →
    ∀ object < s.passed, (releases s.table.log).count object = 1

/-- SQLite does not refuse to register an object. -/
def RegistersCleanly (s : DatabaseFunctions) : FunctionCall → Prop
  | .register name (some f) refusal =>
    s.opened = true → ¬ Misuse name f.argc ∧ refusal = none
  | _ => True

variable {s : DatabaseFunctions}

/-- The books as such. -/
def Booked (s : DatabaseFunctions) : Prop :=
  Ledger s.passed s.table.log (objectsOf s.table.entries)

theorem destroyedOnce_iff : s.DestroyedOnce ↔ s.Booked := by
  constructor
  · exact DestroyedOnce.ledger
  · intro h
    refine ⟨h, ?_⟩
    intro _ hentries
    rw [Booked, hentries] at h
    exact h.at_end

theorem initial_booked : initial.Booked := Ledger.start

theorem booked_registerFunction_iff (h : s.Booked) (name : Option Bytes)
    (function : Option Function) (refusal : Option FailureCode) :
    (s.registerFunction name function refusal).2.Booked ↔
      s.RegistersCleanly (.register name function refusal) := by
  cases function with
  | none =>
    refine iff_of_true ?_ trivial
    unfold registerFunction
    cases hopened : s.opened <;> exact h
  | some f =>
    have hissued : Ledger (s.passed + 1) s.table.log (s.passed :: objectsOf s.table.entries) :=
      h.issue
    unfold registerFunction RegistersCleanly
    cases hopened : s.opened with
    | false =>
      refine iff_of_true ?_ (fun hopen => absurd hopen Bool.false_ne_true)
      exact ledger_delete [s.passed] hissued
    | true =>
      by_cases haccepted : ¬ Misuse name f.argc ∧ refusal = none
      · obtain ⟨table, hcreate, hledger⟩ := createFunctionV2_accepted f.flags haccepted
          (show Ledger _ _ ((some s.passed).toList ++ _) from hissued)
        refine iff_of_true ?_ (fun _ => haccepted)
        simp only [Bool.not_true, Bool.false_eq_true, if_false, hcreate, ne_eq, not_true_eq_false]
        exact hledger
      · -- the callback has deleted the object, and so does the pointer that still owns it
        obtain ⟨code, hcode, hcreate⟩ := createFunctionV2_refused s.table f.flags
          (some s.passed) haccepted
        refine iff_of_false ?_ (fun hcleanly => haccepted (hcleanly rfl))
        simp only [Bool.not_true, Bool.false_eq_true, if_false, hcreate, ne_eq, hcode,
          not_false_eq_true, if_true]
        intro hbooked
        rw [Booked] at hbooked
        show False
        have hlog : ((s.table.delete [s.passed]).delete [s.passed]).log =
            s.table.log ++ [.released s.passed, .released s.passed] := List.append_assoc _ _ _
        exact Ledger.not_twice (hlog ▸ hbooked)

theorem booked_registerPointer (h : s.Booked) (name : Option Bytes) (isNull : Bool)
    (encoding : TextEncoding) (deterministic directOnly : Bool) (refusal : Option FailureCode) :
    (s.registerPointer name isNull encoding deterministic directOnly refusal).2.Booked := by
  unfold registerPointer
  cases s.opened with
  | false => exact h
  | true =>
    cases isNull with
    | true => exact h
    | false =>
      by_cases haccepted : ¬ Misuse name (-1) ∧ refusal = none
      · obtain ⟨table, hcreate, hledger⟩ := createFunctionV2_accepted
          (functionFlags encoding deterministic directOnly) haccepted
          (show Ledger _ _ ((none : Option Nat).toList ++ _) from h)
        simp only [Bool.not_true, Bool.false_eq_true, if_false, hcreate, ne_eq, not_true_eq_false]
        exact hledger
      · obtain ⟨code, hcode, hcreate⟩ := createFunctionV2_refused s.table
          (functionFlags encoding deterministic directOnly) none haccepted
        simp only [Bool.not_true, Bool.false_eq_true, if_false, hcreate, ne_eq, hcode,
          not_false_eq_true, if_true]
        exact ledger_delete [] h

theorem booked_invoke (h : s.Booked) (entry : Nat) : (s.invoke entry).Booked := by
  unfold invoke
  cases hentry : (s.table.entries[entry]?).bind FunctionEntry.object with
  | none => exact h
  | some object =>
    obtain ⟨e, he, hobject⟩ := Option.bind_eq_some_iff.mp hentry
    apply h.use
    exact List.mem_filterMap.mpr ⟨e, List.mem_of_getElem? he, hobject⟩

theorem ledger_clear {n : Nat} {table : FunctionTable}
    (h : Ledger n table.log (objectsOf table.entries)) :
    Ledger n table.clear.log (objectsOf table.clear.entries) := by
  apply ledger_delete (objectsOf table.entries)
  show Ledger n table.log (objectsOf table.entries ++ [])
  rw [List.append_nil]
  exact h

theorem booked_close (h : s.Booked) (force : Bool) (ec : SQLite3Code) (needed : Bool) :
    (s.close force ec needed).2.Booked := by
  unfold close
  cases s.opened with
  | false => exact h
  | true =>
    cases force with
    | true =>
      cases needed with
      | true => exact h
      | false => exact ledger_clear h
    | false =>
      by_cases hec : ec = 0
      · simp only [Bool.not_true, Bool.false_eq_true, if_false, hec, ne_eq, not_true_eq_false]
        exact ledger_clear h
      · simp only [Bool.not_true, Bool.false_eq_true, if_false, ne_eq, hec, not_false_eq_true,
          if_true]
        exact h

theorem booked_finish (h : s.Booked) : s.finish.Booked := by
  unfold finish
  cases s.opened with
  | true => exact h
  | false => exact ledger_clear h

/-- A call keeps the books exactly when SQLite does not refuse to register an object. -/
theorem booked_next_iff (h : s.Booked) (call : FunctionCall) :
    (databaseFunctions.next s call).Booked ↔ s.RegistersCleanly call := by
  cases call with
  | register name function refusal => exact booked_registerFunction_iff h name function refusal
  | registerPointer name isNull encoding deterministic directOnly refusal =>
    exact iff_of_true
      (booked_registerPointer h name isNull encoding deterministic directOnly refusal) trivial
  | invoke entry => exact iff_of_true (booked_invoke h entry) trivial
  | close force ec needed => exact iff_of_true (booked_close h force ec needed) trivial
  | finish => exact iff_of_true (booked_finish h) trivial

/-- In every program each function object is deleted at most once and not used afterwards, and deleted
by the end of the connection, exactly when no `sqlite3_create_function_v2` for an object fails. -/
theorem destroyedOnce_iff_registersCleanly (calls : List FunctionCall) :
    databaseFunctions.Always DestroyedOnce initial calls ↔
      databaseFunctions.Throughout RegistersCleanly initial calls := by
  apply databaseFunctions.always_iff_throughout
  · intro s call hs
    rw [destroyedOnce_iff]
    exact booked_next_iff (destroyedOnce_iff.mp hs) call
  · exact destroyedOnce_iff.mpr initial_booked

/-- A function whose name is too long is deleted twice. -/
theorem longName_deletes_twice :
    ¬ databaseFunctions.Always DestroyedOnce initial
      [.register (some (List.replicate 256 97)) (some (.construct 1 true false .utf8)) none] := by
  rintro ⟨hinitial, hregistered⟩
  have hcleanly := (booked_next_iff hinitial.ledger _).mp (DestroyedOnce.ledger hregistered)
  apply (hcleanly rfl).1
  refine Or.inr (Or.inr ?_)
  intro name hname
  obtain rfl := Option.some.inj hname
  rw [List.length_replicate]
  decide

end DatabaseFunctions

end Ysqlite3
