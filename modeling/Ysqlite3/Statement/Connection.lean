import Ysqlite3.Statement

/-!
# The connection of a statement

`prepare_statement` pairs a statement with its connection. The members that move a statement from one
object to another leave `_database` behind, so an open object keeps the connection of its statement
only as long as statements move between objects of one connection and into no new object.
-/

namespace Ysqlite3

open Places

/-- An open object has the connection its statement was prepared on. -/
def Statement.Tied (sqlite : Prepared) (object : Statement) : Prop :=
  ∀ statement, object.statement = some statement →
    ∃ connection, sqlite.preparedOn[statement]? = some connection ∧
      object.database = some connection

namespace Statements

/-- Each open object has the connection its statement was prepared on. So stepping it yields a row of
its statement, or nothing at the end, or the error SQLite reports, with the message of that
connection. -/
structure TiedToConnections (s : Statements) : Prop where
  tied : Each (Statement.Tied s.sqlite) s.objects
  steps : ∀ id object statement ec message, s.objects id = some object →
    object.statement = some statement →
      ∃ connection, s.sqlite.preparedOn[statement]? = some connection ∧
        (s.step id ec message).1 =
          if ec = SQLite3Code.row then
            .results { statement := some statement, database := some connection }
          else if ec = SQLite3Code.done then .results .empty
          else .throws (.sqlite3 ec message)

/-- Only closed objects are moved into new ones, and assigned objects are closed or have the same
`_database`. -/
def MovesWithinConnections (s : Statements) : StatementCall → Prop
  | .moveConstruct id source => s.objects id = none →
      ∀ move, s.objects source = some move → move.statement = none
  | .moveAssign id source => ∀ object move, s.objects id = some object →
      s.objects source = some move →
        object.statement = none ∧ move.statement = none ∨ object.database = move.database
  | _ => True

variable {s : Statements} {id source : Nat} {object move : Statement} {sqlite : Prepared}

/-! ## Single objects -/

theorem tied_closed (h : object.statement = none) : object.Tied sqlite :=
  fun statement hopen => absurd (h.symm.trans hopen) (Option.some_ne_none statement).symm

/-- What SQLite prepares and reports later does not matter. -/
theorem tied_mono {sqlite' : Prepared} (hearlier : sqlite.preparedOn <+: sqlite'.preparedOn)
    (h : object.Tied sqlite) : object.Tied sqlite' := by
  intro statement hopen
  obtain ⟨connection, hprepared, hdatabase⟩ := h statement hopen
  obtain ⟨later, hlater⟩ := hearlier
  refine ⟨connection, ?_, hdatabase⟩
  obtain ⟨hlt, -⟩ := List.getElem?_eq_some_iff.mp hprepared
  rw [← hlater, List.getElem?_append_left hlt]
  exact hprepared

/-- The object that takes over a statement is tied exactly when it has the connection already. -/
theorem tied_taken_iff (hmove : move.Tied sqlite) :
    ({ object with statement := move.statement } : Statement).Tied sqlite ↔
      (move.statement = none ∨ object.database = move.database) := by
  cases hstatement : move.statement with
  | none => exact iff_of_true (tied_closed rfl) (Or.inl rfl)
  | some statement =>
    obtain ⟨connection, hprepared, hdatabase⟩ := hmove statement hstatement
    constructor
    · intro htied
      obtain ⟨connection', hprepared', hdatabase'⟩ := htied statement rfl
      right
      obtain rfl := Option.some.inj (hprepared.symm.trans hprepared')
      exact hdatabase'.trans hdatabase.symm
    · rintro (hnone | hsame) statement' hopen
      · exact absurd hnone.symm (Option.some_ne_none statement).symm
      · obtain rfl := Option.some.inj hopen
        exact ⟨connection, hprepared, hsame.trans hdatabase⟩

theorem reportOn_preparedOn (statement : StatementHandle) (message : String) :
    (sqlite.reportOn statement message).preparedOn = sqlite.preparedOn := by
  unfold Prepared.reportOn
  cases sqlite.preparedOn[statement]? <;> rfl

theorem step_preparedOn (sqlite : Prepared) (object : Statement) (ec : SQLite3Code) (message : String) :
    (object.step ec message sqlite).2.preparedOn = sqlite.preparedOn := by
  unfold Statement.step
  cases object.statement with
  | none => rfl
  | some statement =>
    by_cases hrow : ec = SQLite3Code.row
    · simp only [if_pos hrow]
      exact reportOn_preparedOn statement message
    · by_cases hdone : ec = SQLite3Code.done
      · simp only [if_neg hrow, if_pos hdone]
        exact reportOn_preparedOn statement message
      · simp only [if_neg hrow, if_neg hdone]
        exact reportOn_preparedOn statement message

/-- A new object is tied to the connection it was prepared on. -/
theorem prepareStatement_tied {database : Option Handle} {call : PrepareCall}
    (h : (Statement.prepareStatement database call sqlite).1 = .ok object) :
    object.Tied (Statement.prepareStatement database call sqlite).2 := by
  cases database with
  | none => exact absurd h (by simp [Statement.prepareStatement])
  | some connection =>
    cases call with
    | fails code message => exact absurd h (by simp [Statement.prepareStatement])
    | succeeds yields =>
      cases yields with
      | false => exact absurd h (by simp [Statement.prepareStatement, Statement.construct])
      | true =>
        obtain rfl : ({ statement := some sqlite.preparedOn.length, database := some connection } :
          Statement) = object := Except.ok.inj h
        intro statement hopen
        obtain rfl := Option.some.inj hopen
        exact ⟨connection, by simp [Statement.prepareStatement], rfl⟩

theorem prepareStatement_preparedOn (database : Option Handle) (call : PrepareCall)
    (sqlite : Prepared) :
    sqlite.preparedOn <+: (Statement.prepareStatement database call sqlite).2.preparedOn := by
  cases database with
  | none => exact List.prefix_refl _
  | some connection =>
    cases call with
    | fails code message => exact List.prefix_refl _
    | succeeds yields =>
      cases yields with
      | false => exact List.prefix_refl _
      | true => exact List.prefix_append _ _

/-! ## Stepping -/

/-- Stepping an object that is tied to its connection. -/
theorem step_of_tied {statement : StatementHandle} (htied : object.Tied sqlite)
    (hopen : object.statement = some statement) (ec : SQLite3Code) (message : String) :
    ∃ connection, sqlite.preparedOn[statement]? = some connection ∧
      (object.step ec message sqlite).1 =
        if ec = SQLite3Code.row then
          .ok { statement := some statement, database := some connection }
        else if ec = SQLite3Code.done then .ok .empty
        else .error (.sqlite3 ec message) := by
  obtain ⟨connection, hprepared, hdatabase⟩ := htied statement hopen
  have hreport : sqlite.reportOn statement message = sqlite.report connection message := by
    rw [Prepared.reportOn, hprepared]
  have hmessage : (sqlite.report connection message).errmsg (some connection) = message := by
    show Function.update sqlite.messages connection message connection = message
    rw [Function.update_self]
  refine ⟨connection, hprepared, ?_⟩
  unfold Statement.step
  rw [hopen, hdatabase]
  simp only [hreport, hmessage]
  by_cases hrow : ec = SQLite3Code.row
  · rw [if_pos hrow, if_pos hrow]
    rfl
  · rw [if_neg hrow, if_neg hrow]
    by_cases hdone : ec = SQLite3Code.done
    · rw [if_pos hdone, if_pos hdone]
    · rw [if_neg hdone, if_neg hdone]

theorem tiedToConnections_iff :
    s.TiedToConnections ↔ Each (Statement.Tied s.sqlite) s.objects := by
  constructor
  · exact TiedToConnections.tied
  · intro h
    refine ⟨h, ?_⟩
    intro id object statement ec message hid hopen
    obtain ⟨connection, hprepared, hstep⟩ := step_of_tied (h id object hid) hopen ec message
    refine ⟨connection, hprepared, ?_⟩
    unfold step
    rw [hid]
    simp only
    generalize object.step ec message s.sqlite = outcome at hstep
    obtain ⟨result, sqlite⟩ := outcome
    simp only at hstep
    subst hstep
    by_cases hrow : ec = SQLite3Code.row
    · simp only [if_pos hrow]
    · simp only [if_neg hrow]
      by_cases hdone : ec = SQLite3Code.done
      · simp only [if_pos hdone]
      · simp only [if_neg hdone]

/-! ## One lemma for each call -/

section Calls

variable (h : Each (Statement.Tied s.sqlite) s.objects)
include h

theorem tied_prepare (id : Nat) (database : Option Handle) (call : PrepareCall) :
    Each (Statement.Tied (s.prepare id database call).2.sqlite)
      (s.prepare id database call).2.objects := by
  have hearlier := prepareStatement_preparedOn database call s.sqlite
  have hold : Each (Statement.Tied (Statement.prepareStatement database call s.sqlite).2)
      s.objects := h.mono (fun object htied => tied_mono hearlier htied)
  have htied (object : Statement)
      (hok : (Statement.prepareStatement database call s.sqlite).1 = .ok object) :=
    prepareStatement_tied hok
  unfold prepare
  cases s.objects id with
  | some object => exact h
  | none =>
    simp only
    generalize Statement.prepareStatement database call s.sqlite = outcome at hold htied
    obtain ⟨result, sqlite⟩ := outcome
    cases result with
    | error e => exact hold
    | ok object => exact (each_update_iff hold).mpr (htied object rfl)

theorem tied_moveConstruct_iff (id source : Nat) :
    Each (Statement.Tied (s.moveConstruct id source).2.sqlite)
        (s.moveConstruct id source).2.objects ↔
      s.MovesWithinConnections (.moveConstruct id source) := by
  show _ ↔ (s.objects id = none → ∀ move, s.objects source = some move → move.statement = none)
  unfold moveConstruct
  cases hid : s.objects id with
  | some object => exact iff_of_true h (fun hnone => absurd hnone (Option.some_ne_none object))
  | none =>
    cases hsource : s.objects source with
    | none =>
      exact iff_of_true h (fun _ move hmove => absurd hmove (Option.some_ne_none move).symm)
    | some move =>
      have hne : id ≠ source := by
        rintro rfl
        exact Option.some_ne_none move (hsource.symm.trans hid)
      have hmove := h source move hsource
      show Each (Statement.Tied s.sqlite) (Function.update (Function.update s.objects source
        (some { move with statement := none })) id
          (some { Statement.empty with statement := move.statement })) ↔ _
      rw [each_update_update_iff h hne, tied_taken_iff hmove]
      constructor
      · rintro ⟨hnone | hnull, -⟩ - move' hmove'
        · exact Option.some.inj hmove' ▸ hnone
        · -- the new object has no connection, so the statement is closed as well
          obtain rfl := Option.some.inj hmove'
          cases hstatement : move.statement with
          | none => rfl
          | some statement =>
            obtain ⟨connection, -, hdatabase⟩ := hmove statement hstatement
            exact absurd (hnull.trans hdatabase) (Option.some_ne_none connection).symm
      · intro hclosed
        exact ⟨Or.inl (hclosed rfl move rfl), tied_closed rfl⟩

theorem tied_moveAssign_iff (id source : Nat) :
    Each (Statement.Tied (s.moveAssign id source).2.sqlite)
        (s.moveAssign id source).2.objects ↔
      s.MovesWithinConnections (.moveAssign id source) := by
  show _ ↔ ∀ object move, s.objects id = some object → s.objects source = some move →
    object.statement = none ∧ move.statement = none ∨ object.database = move.database
  unfold moveAssign
  cases hid : s.objects id with
  | none =>
    exact iff_of_true h (fun object _ hobject => absurd hobject (Option.some_ne_none object).symm)
  | some object =>
    cases hsource : s.objects source with
    | none =>
      exact iff_of_true h (fun _ move _ hmove => absurd hmove (Option.some_ne_none move).symm)
    | some move =>
      by_cases heq : id = source
      · subst heq
        obtain rfl := Option.some.inj (hid.symm.trans hsource)
        simp only [if_pos]
        refine iff_of_true h ?_
        intro object' move' hobject' hmove'
        exact Or.inr (congrArg Statement.database (Option.some.inj (hobject'.symm.trans hmove')))
      · have hobject := h id object hid
        have hmove := h source move hsource
        simp only [if_neg heq]
        show Each (Statement.Tied s.sqlite) (Function.update (Function.update s.objects source
          (some { move with statement := object.statement })) id
            (some { object with statement := move.statement })) ↔ _
        rw [each_update_update_iff h heq, tied_taken_iff hmove, tied_taken_iff hobject]
        constructor
        · rintro ⟨hmoved, hleft⟩ object' move' hobject' hmove'
          obtain rfl := Option.some.inj hobject'
          obtain rfl := Option.some.inj hmove'
          rcases hmoved with hnone | hsame
          · rcases hleft with hnone' | hsame
            · exact Or.inl ⟨hnone', hnone⟩
            · exact Or.inr hsame.symm
          · exact Or.inr hsame
        · intro hwithin
          rcases hwithin object move rfl rfl with ⟨hobject', hmove'⟩ | hsame
          · exact ⟨Or.inl hmove', Or.inl hobject'⟩
          · exact ⟨Or.inr hsame, Or.inr hsame.symm⟩

theorem tied_step (id : Nat) (ec : SQLite3Code) (message : String) :
    Each (Statement.Tied (s.step id ec message).2.sqlite) (s.step id ec message).2.objects := by
  have hkept : ∀ object : Statement, Each (Statement.Tied (object.step ec message s.sqlite).2)
      s.objects := by
    intro object
    have hsame := step_preparedOn s.sqlite object ec message
    exact h.mono (fun _ htied => tied_mono (hsame ▸ List.prefix_refl _) htied)
  unfold step
  cases s.objects id with
  | none => exact h
  | some object =>
    have hobject := hkept object
    simp only
    generalize object.step ec message s.sqlite = outcome at hobject
    obtain ⟨result, sqlite⟩ := outcome
    cases result with
    | error e => exact hobject
    | ok results => exact hobject

theorem tied_onObject (id : Nat) (f : Statement → Except Exception Unit) :
    Each (Statement.Tied (s.onObject id f).2.sqlite) (s.onObject id f).2.objects := by
  unfold onObject
  cases s.objects id <;> exact h

theorem tied_close (id : Nat) (ec : SQLite3Code) :
    Each (Statement.Tied (s.close id ec).2.sqlite) (s.close id ec).2.objects := by
  unfold close
  cases s.objects id with
  | none => exact h
  | some object =>
    have hclosed : (object.close ec).2.statement = none := by
      unfold Statement.close
      by_cases hthrows : object.statement.isSome ∧ ec ≠ 0
      · rw [if_pos hthrows]
      · rw [if_neg hthrows]
    exact (each_update_iff h).mpr (tied_closed hclosed)

theorem tied_release (id : Nat) :
    Each (Statement.Tied (s.release id).2.sqlite) (s.release id).2.objects := by
  unfold release
  cases s.objects id with
  | none => exact h
  | some object => exact (each_update_iff h).mpr (tied_closed rfl)

/-- A call keeps all open objects tied to their connections exactly when it does not move a statement
away from its own. -/
theorem tied_next_iff (call : StatementCall) :
    Each (Statement.Tied (statements.next s call).sqlite) (statements.next s call).objects ↔
      s.MovesWithinConnections call := by
  cases call with
  | prepare id database call => exact iff_of_true (tied_prepare h id database call) trivial
  | moveConstruct id source => exact tied_moveConstruct_iff h id source
  | moveAssign id source => exact tied_moveAssign_iff h id source
  | bind id parameters index ec => exact iff_of_true (tied_onObject h id _) trivial
  | clearBindings id => exact iff_of_true (tied_onObject h id _) trivial
  | step id ec message => exact iff_of_true (tied_step h id ec message) trivial
  | finish id ec => exact iff_of_true (tied_onObject h id _) trivial
  | reset id ec => exact iff_of_true (tied_onObject h id _) trivial
  | close id ec => exact iff_of_true (tied_close h id ec) trivial
  | release id => exact iff_of_true (tied_release h id) trivial
  | destroy id ec => exact iff_of_true (each_update_none h) trivial

end Calls

/-! ## Programs -/

theorem initial_tied : Each (Statement.Tied initial.sqlite) initial.objects := each_none

/-- In every program each open object keeps the connection of its statement, with all that follows for
its steps, exactly when no statement is moved away from its connection. -/
theorem tiedToConnections_iff_movesWithin (calls : List StatementCall) :
    statements.Always TiedToConnections initial calls ↔
      statements.Throughout MovesWithinConnections initial calls := by
  apply statements.always_iff_throughout
  · intro s call hs
    rw [tiedToConnections_iff]
    exact tied_next_iff hs.tied call
  · exact tiedToConnections_iff.mpr initial_tied

/-- A prepared statement that is moved into a new object loses its connection. -/
theorem movedStatement_loses_connection :
    ¬ statements.Always TiedToConnections initial
      [.prepare 0 (some 7) (.succeeds true), .moveConstruct 1 0] := by
  rintro ⟨-, hprepared, hmoved⟩
  have hwithin := (tied_next_iff (TiedToConnections.tied hprepared) _).mp
    (TiedToConnections.tied hmoved)
  exact absurd (hwithin rfl _ rfl) (by simp)

end Statements

end Ysqlite3
