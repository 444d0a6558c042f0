import Ysqlite3.Transaction

/-!
# Transactions that SQLite refuses

A program survives, and its active objects stand for the open transaction, as long as SQLite refuses
nothing that a `noexcept` member executes and ends no transaction behind the back of its object. The
first refusal of that kind terminates the process or leaves an object behind that is active without a
transaction.
-/

namespace Ysqlite3

open Places

def SqlCall.rollsBack : SqlCall → Bool
  | .succeeds => false
  | .fails _ _ rollsBack => rollsBack

namespace Transaction

variable {object : Transaction} {sqlite : Autocommit} {sql : TransactionSql}

theorem db_of_isActive (h : object.isActive = true) : ∃ t, object.db = some t :=
  Option.isSome_iff_exists.mp h

theorem db_of_not_isActive (h : ¬ object.isActive = true) : object.db = none := by
  rcases hdb : object.db with - | t
  · rfl
  · exact absurd (by rw [isActive, hdb]; rfl) h

theorem isActive_of_db {t : Nat} (h : object.db = some t) : object.isActive = true := by
  rw [isActive, h]
  rfl

/-! ## Commands -/

theorem finish_of_not_isActive (h : ¬ object.isActive = true) (sql : TransactionSql) (call : SqlCall)
    (sqlite : Autocommit) : object.finish sql call sqlite = (.ok (), object, sqlite) :=
  if_neg h

/-- SQLite ends the transaction and the object lets go of the database, or SQLite refuses to. -/
theorem finish_of_isActive (h : object.isActive = true) {t : Nat} (hinside : sqlite.inside = some t)
    (hsql : sql ≠ .beginTransaction) (call : SqlCall) :
    object.finish sql call sqlite =
      match call with
      | .succeeds => (.ok (), { db := none }, { sqlite with inside := none })
      | .fails code message rollsBack =>
        (.error (.sqlite3 code message), object,
          { sqlite with inside := if rollsBack then none else some t }) := by
  obtain ⟨begun, inside⟩ := sqlite
  subst hinside
  unfold finish
  rw [if_pos h]
  cases sql with
  | beginTransaction => exact absurd rfl hsql
  | commit => cases call <;> rfl
  | rollback => cases call <;> rfl

/-- A new object stands for a transaction of its own where SQLite begins one. -/
theorem construct_succeeds (hinside : sqlite.inside = none) :
    construct .succeeds sqlite = (.ok (), { db := some sqlite.begun },
      { begun := sqlite.begun + 1, inside := some sqlite.begun }) := by
  obtain ⟨begun, inside⟩ := sqlite
  subst hinside
  rfl

theorem construct_refused {call : SqlCall} (h : ¬ (sqlite.inside = none ∧ call = .succeeds)) :
    ∃ e object sqlite', construct call sqlite = (.error e, object, sqlite') := by
  obtain ⟨begun, inside⟩ := sqlite
  rcases inside with - | t
  · cases call with
    | succeeds => exact absurd ⟨rfl, rfl⟩ h
    | fails code message rollsBack => exact ⟨_, _, _, rfl⟩
  · exact ⟨_, _, _, rfl⟩

end Transaction

namespace Transactions

/-! ## What is promised, and when -/

/-- The process runs, an active object stands for the transaction that is open, and no transaction is
open without an object. -/
structure Consistent (s : Transactions) : Prop where
  alive : s.terminated = false
  active_open : Each (fun object => object.isActive = true →
    s.sqlite.inside.isSome = true ∧ object.db = s.sqlite.inside) s.objects
  end_closed : (∀ id, s.objects id = none) → s.sqlite.inside = none

/-- SQLite begins each transaction that is asked for, which takes autocommit mode, and accepts each
`ROLLBACK` of a move assignment or a destructor. It does not roll a transaction back on its own while
an object is active, neither when a command of the object fails nor after another error. -/
def Unrefused (s : Transactions) : TransactionCall → Prop
  | .construct id call => s.objects id = none → s.sqlite.inside = none ∧ call = .succeeds
  | .moveConstruct _ _ => True
  | .moveAssign id source call => ∀ object, s.objects id = some object →
      s.objects source ≠ none → object.isActive = true → call = .succeeds
  | .commit id call => ∀ object, s.objects id = some object →
      object.isActive = true → call.rollsBack = false
  | .rollback id call => ∀ object, s.objects id = some object →
      object.isActive = true → call.rollsBack = false
  | .destroy id call => ∀ object, s.objects id = some object →
      object.isActive = true → call = .succeeds
  | .automaticRollback => Each (fun object => ¬ object.isActive = true) s.objects

/-- The process runs, and the transaction that is open, if any, is that of one object. -/
structure Settled (s : Transactions) : Prop where
  alive : s.terminated = false
  sole : Sole (held Transaction.db s.objects) s.sqlite.inside

theorem initial_settled : initial.Settled where
  alive := rfl
  sole := .absent

section Steps

variable {s : Transactions} {object : Transaction} {id : Nat}

theorem Settled.consistent (h : s.Settled) : s.Consistent where
  alive := h.alive
  active_open id object hobject hactive := by
    obtain ⟨t, ht⟩ := Transaction.db_of_isActive hactive
    have hopen := (h.sole.of_held ((held_of_some _ hobject).trans ht)).1
    rw [hopen, ht]
    exact ⟨rfl, rfl⟩
  end_closed hnone := h.sole.eq_none fun id => held_of_none _ (hnone id)

theorem Settled.inside_of_isActive (h : s.Settled) (hobject : s.objects id = some object)
    (hactive : object.isActive = true) : ∃ t, object.db = some t ∧ s.sqlite.inside = some t := by
  obtain ⟨t, ht⟩ := Transaction.db_of_isActive hactive
  exact ⟨t, ht, (h.sole.of_held ((held_of_some _ hobject).trans ht)).1⟩

theorem not_consistent_terminate : ¬ s.terminate.Consistent := fun h => Bool.noConfusion h.alive

/-- An active object without an open transaction. -/
theorem not_consistent_of_active (hobject : s.objects id = some object)
    (hactive : object.isActive = true) (hinside : s.sqlite.inside = none) : ¬ s.Consistent := by
  intro h
  have hopen := (h.active_open id object hobject hactive).1
  rw [hinside] at hopen
  exact Bool.noConfusion hopen

/-- What a call comes to: it is as `Unrefused` asks and the program stays settled, or it is not and the
program is no longer consistent. -/
inductive Outcome (ok : Prop) (next : Transactions) : Prop where
  | settled (hok : ok) (hnext : next.Settled)
  | broken (hnot : ¬ ok) (hnext : ¬ next.Consistent)

/-! ## Calls -/

theorem construct_outcome (h : s.Settled) (id : Nat) (call : SqlCall) :
    Outcome (s.Unrefused (.construct id call)) (s.construct id call).2 := by
  unfold construct
  rcases hid : s.objects id with - | object
  · by_cases hok : s.sqlite.inside = none ∧ call = .succeeds
    · obtain ⟨hinside, rfl⟩ := hok
      rw [Transaction.construct_succeeds hinside]
      refine .settled (fun _ => ⟨hinside, rfl⟩) ⟨h.alive, ?_⟩
      have hsole : Sole (held Transaction.db s.objects) none := hinside ▸ h.sole
      simp only [put, held_update]
      exact hsole.appear id s.sqlite.begun
    · obtain ⟨e, object, sqlite, heq⟩ := Transaction.construct_refused hok
      rw [heq]
      exact .broken (fun hall => hok (hall hid)) not_consistent_terminate
  · exact .settled (fun hnone => absurd (hid.symm.trans hnone) (Option.some_ne_none object)) h

theorem moveConstruct_outcome (h : s.Settled) (id source : Nat) :
    Outcome (s.Unrefused (.moveConstruct id source)) (s.moveConstruct id source).2 := by
  refine .settled trivial ?_
  unfold moveConstruct
  rcases hid : s.objects id with - | object
  · rcases hsource : s.objects source with - | move
    · exact h
    · refine ⟨h.alive, ?_⟩
      have hnone : held Transaction.db s.objects id = none := held_of_none _ hid
      simp only [put, held_update, Option.bind_some]
      rw [← held_of_some Transaction.db hsource]
      exact h.sole.move hnone source
  · exact h

/-- The object of a place has its transaction rolled back or committed by a call that may throw. -/
theorem onObject_finish_outcome (h : s.Settled) (id : Nat) (call : SqlCall) {sql : TransactionSql}
    (hsql : sql ≠ .beginTransaction) :
    Outcome (∀ object, s.objects id = some object → object.isActive = true → call.rollsBack = false)
      (s.onObject id (Transaction.finish sql call)).2 := by
  unfold onObject
  rcases hid : s.objects id with - | object
  · exact .settled (fun object hobject => absurd hobject.symm (Option.some_ne_none object)) h
  · by_cases hactive : object.isActive = true
    · obtain ⟨t, hdb, hinside⟩ := h.inside_of_isActive hid hactive
      have hheld : held Transaction.db s.objects id = some t := (held_of_some _ hid).trans hdb
      simp only [Transaction.finish_of_isActive hactive hinside hsql]
      cases call with
      | succeeds =>
        refine .settled (fun _ _ _ => rfl) ⟨h.alive, ?_⟩
        simp only [put, held_update, Option.bind_some]
        exact h.sole.vanish hheld
      | fails code message rollsBack =>
        cases rollsBack with
        | false =>
          refine .settled (fun _ _ _ => rfl) ⟨h.alive, ?_⟩
          simp only [put, held_update, Option.bind_some, hdb, Bool.false_eq_true, if_false]
          rw [← hheld, Function.update_eq_self, hheld, ← hinside]
          exact h.sole
        | true =>
          refine .broken (fun hall => Bool.noConfusion (hall object rfl hactive)) ?_
          exact not_consistent_of_active (Function.update_self id _ _) hactive rfl
    · simp only [Transaction.finish_of_not_isActive hactive]
      refine .settled (fun o ho ha => absurd (Option.some.inj ho ▸ ha) hactive) ⟨h.alive, ?_⟩
      simp only [put, held_update, Option.bind_some]
      rw [← held_of_some Transaction.db hid, Function.update_eq_self]
      exact h.sole

/-- The rollback within a member that must not throw: an object that is active needs SQLite to accept
it, and holds nothing afterwards. -/
theorem rollback_cases (h : s.Settled) (hid : s.objects id = some object) (call : SqlCall) :
    ((object.isActive = true → call = .succeeds) ∧
      ∃ sqlite, object.rollback call s.sqlite = (.ok (), { db := none }, sqlite) ∧
        Sole (Function.update (held Transaction.db s.objects) id none) sqlite.inside) ∨
    ¬ (object.isActive = true → call = .succeeds) ∧
      ∃ e object' sqlite, object.rollback call s.sqlite = (.error e, object', sqlite) := by
  unfold Transaction.rollback
  by_cases hactive : object.isActive = true
  · obtain ⟨t, hdb, hinside⟩ := h.inside_of_isActive hid hactive
    have hsql : TransactionSql.rollback ≠ .beginTransaction := by simp
    rw [Transaction.finish_of_isActive hactive hinside hsql]
    cases call with
    | succeeds =>
      exact Or.inl ⟨fun _ => rfl, _, rfl, h.sole.vanish ((held_of_some _ hid).trans hdb)⟩
    | fails code message rollsBack =>
      refine Or.inr ⟨?_, _, _, _, rfl⟩
      intro hall
      exact SqlCall.noConfusion (hall hactive)
  · have hdb := Transaction.db_of_not_isActive hactive
    rw [Transaction.finish_of_not_isActive hactive]
    refine Or.inl ⟨fun ha => absurd ha hactive, s.sqlite, ?_, ?_⟩
    · rw [← hdb]
    · rw [← hdb, ← held_of_some Transaction.db hid, Function.update_eq_self]
      exact h.sole

theorem moveAssign_outcome (h : s.Settled) (id source : Nat) (call : SqlCall) :
    Outcome (s.Unrefused (.moveAssign id source call)) (s.moveAssign id source call).2 := by
  unfold moveAssign
  rcases hid : s.objects id with - | object
  · refine .settled ?_ h
    intro object hobject
    exact absurd (hobject.symm.trans hid) (Option.some_ne_none object)
  · rcases hsource : s.objects source with - | move
    · exact .settled (fun _ _ hne => absurd hsource hne) h
    · rcases rollback_cases h hid call with ⟨hok, sqlite, heq, hsole⟩ | ⟨hnot, e, o, sqlite, heq⟩
      · simp only [heq]
        refine .settled (fun o ho _ ha => hok (Option.some.inj (hid.symm.trans ho) ▸ ha)) ?_
        by_cases hself : id = source
        · rw [if_pos hself]
          refine ⟨h.alive, ?_⟩
          simp only [put, held_update, Option.bind_some]
          exact hsole
        · rw [if_neg hself]
          refine ⟨h.alive, ?_⟩
          simp only [put, held_update, Option.bind_some]
          have hmoved := hsole.move (Function.update_self id _ _) source
          rw [Function.update_of_ne (Ne.symm hself), held_of_some _ hsource,
            Function.update_comm hself, Function.update_idem] at hmoved
          exact hmoved
      · simp only [heq]
        refine .broken ?_ not_consistent_terminate
        intro hall
        exact hnot (hall object hid (by rw [hsource]; exact Option.some_ne_none move))

theorem destroy_outcome (h : s.Settled) (id : Nat) (call : SqlCall) :
    Outcome (s.Unrefused (.destroy id call)) (s.destroy id call).2 := by
  unfold destroy
  rcases hid : s.objects id with - | object
  · refine .settled ?_ h
    intro object hobject
    exact absurd (hobject.symm.trans hid) (Option.some_ne_none object)
  · rcases rollback_cases h hid call with ⟨hok, sqlite, heq, hsole⟩ | ⟨hnot, e, o, sqlite, heq⟩
    · simp only [heq]
      refine .settled (fun o ho ha => hok (Option.some.inj (hid.symm.trans ho) ▸ ha)) ⟨h.alive, ?_⟩
      simp only [put, held_update, Option.bind_none]
      exact hsole
    · simp only [heq]
      exact .broken (fun hall => hnot (hall object hid)) not_consistent_terminate

theorem automaticRollback_outcome (h : s.Settled) :
    Outcome (s.Unrefused .automaticRollback) s.automaticRollback := by
  by_cases hok : s.Unrefused .automaticRollback
  · refine .settled hok ⟨h.alive, ?_⟩
    have hsole := h.sole
    rcases hinside : s.sqlite.inside with - | t
    · rw [hinside] at hsole
      exact hsole
    · rw [hinside] at hsole
      obtain ⟨id, hid⟩ := hsole.held_of_exists
      obtain ⟨object, hobject, hdb⟩ := Option.bind_eq_some_iff.mp hid
      exact absurd (Transaction.isActive_of_db hdb) (hok id object hobject)
  · refine .broken hok ?_
    unfold Unrefused Each at hok
    push Not at hok
    obtain ⟨id, object, hobject, hactive⟩ := hok
    exact not_consistent_of_active hobject hactive rfl

/-- One call, whichever it is. -/
theorem next_outcome (h : s.Settled) (call : TransactionCall) :
    Outcome (s.Unrefused call) (transactions.next s call) := by
  have hnext : transactions.next s call = (s.step call).2 := rfl
  have halive : ¬ s.terminated = true := by rw [h.alive]; exact Bool.false_ne_true
  rw [hnext]
  unfold step
  rw [if_neg halive]
  cases call with
  | construct id call => exact construct_outcome h id call
  | moveConstruct id source => exact moveConstruct_outcome h id source
  | moveAssign id source call => exact moveAssign_outcome h id source call
  | commit id call => exact onObject_finish_outcome h id call (by simp)
  | rollback id call => exact onObject_finish_outcome h id call (by simp)
  | destroy id call => exact destroy_outcome h id call
  | automaticRollback => exact automaticRollback_outcome h

end Steps

/-! ## Programs -/

/-- A program stays consistent exactly when SQLite refuses nothing that a `noexcept` member executes
and ends no transaction of an active object on its own. -/
theorem consistent_iff_unrefused (calls : List TransactionCall) :
    transactions.Always Consistent initial calls ↔
      transactions.Throughout Unrefused initial calls := by
  apply transactions.always_iff_throughout_of_invariant Settled
  · exact fun s h => h.consistent
  · intro s call h hok
    cases next_outcome h call with
    | settled _ hnext => exact hnext
    | broken hnot => exact absurd hok hnot
  · intro s call h hnot
    cases next_outcome h call with
    | settled hok => exact absurd hok hnot
    | broken _ hnext => exact hnext
  · exact initial_settled

/-- `COMMIT` fails and SQLite rolls back; the object stays active and its destructor terminates the
process. -/
theorem failedCommit_terminates :
    ¬ transactions.Always Consistent initial
        [.construct 0 .succeeds, .commit 0 (.fails ⟨13, by decide⟩ "database or disk is full" true)] ∧
      (transactions.run initial
        [.construct 0 .succeeds, .commit 0 (.fails ⟨13, by decide⟩ "database or disk is full" true),
          .destroy 0 .succeeds]).terminated = true := by
  refine ⟨?_, by decide⟩
  rintro ⟨-, -, hlast⟩
  exact Bool.noConfusion (hlast.active_open 0 ⟨some 0⟩ rfl rfl).1

end Transactions

end Ysqlite3
