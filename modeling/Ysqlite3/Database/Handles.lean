import Ysqlite3.Database
import Ysqlite3.Misc.Places
import Ysqlite3.Misc.Ownership

/-!
# Who holds the connections

Each connection SQLite has produced is held by one object, or was handed out, or was closed, as long
as no `sqlite3_open_v2` that fails yields one: the object drops such a connection without closing it.
-/

namespace Ysqlite3

/-- The call fails and yields a connection. -/
def OpenCall.FailsWithHandle : OpenCall → Prop
  | .succeeds => False
  | .fails _ yields => yields = true

namespace Databases

/-- The connection the object in a place holds. -/
def holds (self : Databases) : Nat → Option Handle := Places.held Database.database self.objects

/-- The books over the connections: an object holds a connection, `release_handle` and a close that
succeeds give it up. -/
def Balanced (self : Databases) : Prop :=
  Ownership.Balanced {handle | handle < self.sqlite.produced} (self.released ++ self.sqlite.closed)
    self.holds

/-- The books balance, and once the last object is gone no connection is left. -/
structure Accounted (s : Databases) : Prop where
  balanced : s.Balanced
  none_left : (∀ id, s.objects id = none) →
    ∀ handle < s.sqlite.produced, (s.released ++ s.sqlite.closed).count handle = 1

/-- No `sqlite3_open_v2` that the call reaches fails with a connection. -/
def OpensCleanly (self : Databases) : DatabaseCall → Prop
  | .constructFile id opens => self.objects id = none → ¬ opens.FailsWithHandle
  | .openFile id vfs closes opens => ∀ object, self.objects id = some object →
      vfs ≠ some [] → (object.database = none ∨ closes = 0) →
        ¬ opens.FailsWithHandle
  | _ => True

variable {s : Databases} {id source : Nat} {object move : Database}

theorem accounted_iff : s.Accounted ↔ s.Balanced := by
  constructor
  · exact Accounted.balanced
  · intro h
    refine ⟨h, ?_⟩
    intro hnone handle hhandle
    apply Ownership.Balanced.at_end h _ handle hhandle
    exact fun id => Places.held_of_none _ (hnone id)

theorem initial_balanced : initial.Balanced := by
  have hproduced : {handle | handle < initial.sqlite.produced} = (∅ : Set Handle) := by
    ext handle
    exact iff_of_false (Nat.not_lt_zero handle) id
  rw [Balanced, hproduced]
  exact Ownership.Balanced.start

theorem holds_put (s : Databases) (id : Nat) (object : Option Database) :
    (s.put id object).holds = Function.update s.holds id (object.bind Database.database) :=
  Places.held_update Database.database s.objects id object

theorem put_put (s : Databases) (id : Nat) (object object' : Option Database) :
    (s.put id object).put id object' = s.put id object' := by
  rw [put, put, put, Function.update_idem]

/-- Storing an object that holds what the place held changes no books. -/
theorem balanced_put_iff {object : Option Database}
    (hsame : s.holds id = object.bind Database.database) :
    (s.put id object).Balanced ↔ s.Balanced := by
  rw [Balanced, holds_put, ← hsame, Function.update_eq_self]
  exact Iff.rfl

theorem balanced_put (h : s.Balanced) {object : Option Database}
    (hsame : s.holds id = object.bind Database.database) : (s.put id object).Balanced :=
  (balanced_put_iff hsame).mpr h

/-! ## Closing -/

section Close

variable {force : Bool} {ec : SQLite3Code} {sqlite : Connections} {handle : Handle}

theorem close_closed (h : object.database = none) :
    object.close force ec sqlite = (.ok (), .empty, sqlite) := by
  cases object with
  | mk database =>
    subst h
    rfl

theorem close_empty : Database.empty.close force ec sqlite = (.ok (), .empty, sqlite) := rfl

theorem close_refused (h : object.database = some handle) (hec : ec ≠ 0) :
    object.close false ec sqlite = (.error (.sqlite3 ec ""), object, sqlite) := by
  rw [Database.close, h]
  show (if ec ≠ 0 then _ else _) = _
  rw [if_pos hec, Connections.close, if_neg hec]

theorem close_accepted (h : object.database = some handle) (hec : force = true ∨ ec = 0) :
    object.close force ec sqlite = (.ok (), .empty, sqlite.closeV2 handle) := by
  rw [Database.close, h]
  rcases hec with rfl | rfl
  · rfl
  · cases force <;> rfl

/-- Closing succeeds and leaves an empty object, unless SQLite refuses. -/
theorem close_cases (object : Database) (force : Bool) (ec : SQLite3Code) (sqlite : Connections) :
    object.database = none ∧ object.close force ec sqlite = (.ok (), .empty, sqlite) ∨
    (∃ handle, object.database = some handle ∧ (force = true ∨ ec = 0) ∧
      object.close force ec sqlite = (.ok (), .empty, sqlite.closeV2 handle)) ∨
    (∃ handle, object.database = some handle ∧ force = false ∧ ec ≠ 0 ∧
      object.close force ec sqlite = (.error (.sqlite3 ec ""), object, sqlite)) := by
  cases hdatabase : object.database with
  | none => exact Or.inl ⟨rfl, close_closed hdatabase⟩
  | some handle =>
    right
    by_cases haccepted : force = true ∨ ec = 0
    · exact Or.inl ⟨handle, rfl, haccepted, close_accepted hdatabase haccepted⟩
    · rw [not_or, Bool.not_eq_true] at haccepted
      obtain ⟨rfl, hec⟩ := haccepted
      exact Or.inr ⟨handle, rfl, rfl, hec, close_refused hdatabase hec⟩

end Close

theorem balanced_closeV2 {handle : Handle} (h : s.Balanced) (hheld : s.holds id = some handle)
    {object : Option Database} (hobject : object.bind Database.database = none) :
    ({ s with sqlite := s.sqlite.closeV2 handle }.put id object).Balanced := by
  rw [Balanced, holds_put, hobject]
  show Ownership.Balanced _ (s.released ++ (s.sqlite.closed ++ [handle]))
    (Function.update s.holds id none)
  rw [← List.append_assoc]
  exact Ownership.Balanced.give_up h hheld

/-- Closing gives the connection up or keeps it. -/
theorem balanced_close (h : s.Balanced) (hid : s.objects id = some object) (force : Bool)
    (ec : SQLite3Code) :
    (s.store id (object.close force ec s.sqlite)).2.Balanced := by
  have hholds : s.holds id = object.database := Places.held_of_some _ hid
  rcases close_cases object force ec s.sqlite with
    ⟨hnone, hclose⟩ | ⟨handle, hsome, -, hclose⟩ | ⟨handle, -, -, -, hclose⟩
  · rw [hclose]
    exact balanced_put h (hholds.trans hnone)
  · rw [hclose]
    exact balanced_closeV2 h (hholds.trans hsome) rfl
  · rw [hclose]
    exact balanced_put h hholds

/-! ## Opening -/

theorem insert_produced (n : Nat) : {handle | handle < n + 1} = insert n {handle | handle < n} := by
  ext handle
  show handle < n + 1 ↔ handle = n ∨ handle < n
  omega

/-- The object that `open` leaves after `sqlite3_open_v2`. -/
def opened (ec : SQLite3Code) (database : Option Handle) : Database :=
  if ec ≠ 0 then .empty else { database }

/-- An object without a connection takes over what `sqlite3_open_v2` yields; dropping it leaves the
books unbalanced. -/
theorem balanced_openV2_iff (h : s.Balanced) (hempty : s.holds id = none) (opens : OpenCall) :
    ({ s with sqlite := (s.sqlite.openV2 opens).2.2 }.put id
      (some (opened (s.sqlite.openV2 opens).1 (s.sqlite.openV2 opens).2.1))).Balanced ↔
      ¬ opens.FailsWithHandle := by
  have hnew : s.sqlite.produced ∉ {handle | handle < s.sqlite.produced} := Nat.lt_irrefl _
  cases opens with
  | succeeds =>
    refine iff_of_true ?_ not_false
    rw [Balanced, holds_put]
    show Ownership.Balanced {handle | handle < s.sqlite.produced + 1} _
      (Function.update s.holds id (some s.sqlite.produced))
    rw [insert_produced]
    exact Ownership.Balanced.issue h hnew hempty
  | fails code yields =>
    have hopened (database : Option Handle) : opened code database = .empty := if_pos code.property
    cases yields with
    | true =>
      refine iff_of_false ?_ (not_not_intro rfl)
      rw [Balanced, holds_put]
      show ¬ Ownership.Balanced {handle | handle < s.sqlite.produced + 1} _
        (Function.update s.holds id (opened code _).database)
      rw [insert_produced, hopened]
      show ¬ Ownership.Balanced _ _ (Function.update s.holds id none)
      rw [← hempty, Function.update_eq_self]
      exact Ownership.Balanced.not_lost h hnew
    | false =>
      refine iff_of_true ?_ Bool.false_ne_true
      apply balanced_put h
      show s.holds id = (opened code none).database
      rw [hempty, hopened]
      rfl

/-- The end of `Database::open`, once the object is closed. -/
theorem store_opened (s : Databases) (id : Nat) (result : SQLite3Code × Option Handle × Connections) :
    (s.store id (if result.1 ≠ 0 then (.error (.sqlite3 result.1 ""), .empty, result.2.2)
      else (.ok (), { database := result.2.1 }, result.2.2))).2 =
      { s with sqlite := result.2.2 }.put id (some (opened result.1 result.2.1)) := by
  unfold opened
  by_cases hec : result.1 = 0
  · rw [if_neg (not_not_intro hec), if_neg (not_not_intro hec)]
    rfl
  · rw [if_pos hec, if_pos hec]
    rfl

theorem balanced_closed_open_iff {sqlite : Connections}
    (h : ({ s with sqlite }.put id (some .empty)).Balanced) (opens : OpenCall) :
    ({ s with sqlite := (sqlite.openV2 opens).2.2 }.put id
      (some (opened (sqlite.openV2 opens).1 (sqlite.openV2 opens).2.1))).Balanced ↔
      ¬ opens.FailsWithHandle := by
  have hempty : ({ s with sqlite }.put id (some .empty)).holds id = none := by
    rw [holds_put, Function.update_self]
    rfl
  rw [← balanced_openV2_iff h hempty opens]
  show _ ↔ (({ s with sqlite := (sqlite.openV2 opens).2.2 }.put id (some .empty)).put id _).Balanced
  rw [put_put]
  exact Iff.rfl

/-- `Database::open` on an object in its place. -/
theorem balanced_openFile_iff (h : s.Balanced) (hid : s.objects id = some object)
    (vfs : Option Bytes) (closes : SQLite3Code) (opens : OpenCall) :
    (s.store id (object.open vfs closes opens s.sqlite)).2.Balanced ↔
      (vfs ≠ some [] → (object.database = none ∨ closes = 0) → ¬ opens.FailsWithHandle) := by
  unfold Database.open
  by_cases hvfs : vfs = some []
  · rw [if_pos hvfs]
    refine iff_of_true ?_ (fun hne => absurd hvfs hne)
    exact balanced_put h (Places.held_of_some _ hid)
  · rw [if_neg hvfs]
    have hclosed := balanced_close h hid false closes
    rcases close_cases object false closes s.sqlite with
      ⟨hnone, hclose⟩ | ⟨handle, -, hec, hclose⟩ | ⟨handle, hsome, -, hec, hclose⟩
    · rw [hclose] at hclosed ⊢
      rw [store_opened, balanced_closed_open_iff hclosed]
      exact ⟨fun h _ _ => h, fun h => h hvfs (Or.inl hnone)⟩
    · rw [hclose] at hclosed ⊢
      have hzero : closes = 0 := hec.resolve_left Bool.false_ne_true
      rw [store_opened, balanced_closed_open_iff hclosed]
      exact ⟨fun h _ _ => h, fun h => h hvfs (Or.inr hzero)⟩
    · rw [hclose] at hclosed ⊢
      refine iff_of_true hclosed ?_
      rintro - (hnone | hzero)
      · exact absurd (hsome.symm.trans hnone) (Option.some_ne_none handle)
      · exact absurd hzero hec

/-! ## One lemma for each call -/

theorem balanced_construct (h : s.Balanced) (id : Nat) : (s.construct id).2.Balanced := by
  unfold construct
  cases hid : s.objects id with
  | some object => exact h
  | none =>
    exact balanced_put h (Places.held_of_none _ hid)

/-- An object constructed from a file is one opened in its place, unless the constructor throws. -/
theorem constructFile_eq (hid : s.objects id = none) (opens : OpenCall) :
    (s.constructFile id opens).2 =
      if (s.sqlite.openV2 opens).1 ≠ 0 then { s with sqlite := (s.sqlite.openV2 opens).2.2 }
      else { s with sqlite := (s.sqlite.openV2 opens).2.2 }.put id
        (some { database := (s.sqlite.openV2 opens).2.1 }) := by
  have hopen : Database.empty.open none 0 opens s.sqlite =
      if (s.sqlite.openV2 opens).1 ≠ 0 then
        (.error (.sqlite3 (s.sqlite.openV2 opens).1 ""), .empty, (s.sqlite.openV2 opens).2.2)
      else (.ok (), { database := (s.sqlite.openV2 opens).2.1 }, (s.sqlite.openV2 opens).2.2) := by
    rw [Database.open, if_neg (by simp), close_empty]
  rw [constructFile, hid, hopen]
  by_cases hec : (s.sqlite.openV2 opens).1 ≠ 0
  · simp only [if_pos hec]
  · simp only [if_neg hec]

theorem balanced_constructFile_iff (h : s.Balanced) (id : Nat) (opens : OpenCall) :
    (s.constructFile id opens).2.Balanced ↔ (s.objects id = none → ¬ opens.FailsWithHandle) := by
  cases hid : s.objects id with
  | some object =>
    rw [constructFile, hid]
    exact iff_of_true h (fun hnone => absurd hnone (Option.some_ne_none object))
  | none =>
    have hempty : s.holds id = none := Places.held_of_none _ hid
    rw [forall_prop_of_true rfl, ← balanced_openV2_iff h hempty opens, constructFile_eq hid, opened]
    by_cases hec : (s.sqlite.openV2 opens).1 ≠ 0
    · -- the object with its null pointer goes, and the connection with it if there is one
      rw [if_pos hec, if_pos hec]
      exact (balanced_put_iff hempty).symm
    · rw [if_neg hec, if_neg hec]

theorem balanced_moveConstruct (h : s.Balanced) (id source : Nat) :
    (s.moveConstruct id source).2.Balanced := by
  unfold moveConstruct
  cases hid : s.objects id with
  | some object => exact h
  | none =>
    cases hsource : s.objects source with
    | none => exact h
    | some move =>
      have hmove : s.holds source = move.database := Places.held_of_some _ hsource
      have hempty : s.holds id = none := Places.held_of_none _ hid
      have hmoved := Ownership.Balanced.move h source hempty
      rw [hmove] at hmoved
      show ((s.put source (some .empty)).put id (some { database := move.database })).Balanced
      rw [Balanced, holds_put, holds_put]
      exact hmoved

theorem close_forced (object : Database) (sqlite : Connections) :
    (object.close true 0 sqlite).2.1 = .empty := by
  rcases close_cases object true 0 sqlite with
    ⟨-, hclose⟩ | ⟨handle, -, -, hclose⟩ | ⟨handle, -, hforce, -, -⟩
  · rw [hclose]
  · rw [hclose]
  · exact absurd hforce.symm Bool.false_ne_true

/-- The books after the object in a place was closed by force. -/
theorem balanced_close_forced (h : s.Balanced) (hid : s.objects id = some object) :
    ({ s with sqlite := (object.close true 0 s.sqlite).2.2 }.put id (some .empty)).Balanced := by
  have hclosed := balanced_close h hid true 0
  rw [← close_forced object s.sqlite]
  exact hclosed

theorem balanced_moveAssign (h : s.Balanced) (id source : Nat) :
    (s.moveAssign id source).2.Balanced := by
  unfold moveAssign
  cases hid : s.objects id with
  | none => exact h
  | some object =>
    cases hsource : s.objects source with
    | none => exact h
    | some move =>
      have hclosed := balanced_close_forced h hid
      simp only [close_forced]
      by_cases heq : id = source
      · rw [if_pos heq]
        exact hclosed
      · -- the object in `id` is empty now and takes over what the one in `source` holds
        rw [if_neg heq]
        have hmove : ({ s with sqlite := (object.close true 0 s.sqlite).2.2 }.put id
            (some .empty)).holds source = move.database := by
          rw [holds_put, Function.update_of_ne (Ne.symm heq)]
          exact Places.held_of_some _ hsource
        have hempty : ({ s with sqlite := (object.close true 0 s.sqlite).2.2 }.put id
            (some .empty)).holds id = none := by
          rw [holds_put, Function.update_self]
          rfl
        have hmoved := Ownership.Balanced.move hclosed source hempty
        rw [hmove, holds_put, Function.update_comm heq, Function.update_idem] at hmoved
        rw [Balanced, holds_put, holds_put]
        exact hmoved

theorem balanced_releaseHandle (h : s.Balanced) (id : Nat) : (s.releaseHandle id).2.Balanced := by
  unfold releaseHandle
  cases hid : s.objects id with
  | none => exact h
  | some object =>
    have hholds : s.holds id = object.database := Places.held_of_some _ hid
    show ({ s with released := s.released ++ object.database.toList }.put id (some .empty)).Balanced
    rw [Balanced, holds_put]
    cases hdatabase : object.database with
    | none =>
      show Ownership.Balanced _ ((s.released ++ []) ++ s.sqlite.closed) (Function.update s.holds id none)
      rw [List.append_nil, ← hdatabase, ← hholds, Function.update_eq_self]
      exact h
    | some handle =>
      show Ownership.Balanced _ ((s.released ++ [handle]) ++ s.sqlite.closed)
        (Function.update s.holds id none)
      have hgone := Ownership.Balanced.give_up h (hholds.trans hdatabase)
      apply hgone.perm
      rw [List.append_assoc, List.append_assoc]
      exact List.Perm.append_left _ List.perm_append_comm

theorem balanced_destroy (h : s.Balanced) (id : Nat) : (s.destroy id).2.Balanced := by
  unfold destroy
  cases hid : s.objects id with
  | none => exact h
  | some object =>
    have hclosed := balanced_close_forced h hid
    rw [Balanced, holds_put] at hclosed ⊢
    exact hclosed

/-! ## Programs -/

/-- A call keeps the books balanced exactly when no `sqlite3_open_v2` fails with a connection. -/
theorem balanced_next_iff (h : s.Balanced) (call : DatabaseCall) :
    (databases.next s call).Balanced ↔ s.OpensCleanly call := by
  cases call with
  | construct id => exact iff_of_true (balanced_construct h id) trivial
  | constructFile id opens => exact balanced_constructFile_iff h id opens
  | moveConstruct id source => exact iff_of_true (balanced_moveConstruct h id source) trivial
  | moveAssign id source => exact iff_of_true (balanced_moveAssign h id source) trivial
  | openFile id vfs closes opens =>
    show (s.openFile id vfs closes opens).2.Balanced ↔ _
    unfold openFile
    cases hid : s.objects id with
    | none => exact iff_of_true h (fun object hobject => absurd (hid.symm.trans hobject) (by simp))
    | some object =>
      rw [balanced_openFile_iff h hid]
      constructor
      · intro hcleanly object' hobject'
        obtain rfl := Option.some.inj (hid.symm.trans hobject')
        exact hcleanly
      · intro hcleanly
        exact hcleanly object hid
  | close id force closes =>
    refine iff_of_true ?_ trivial
    show (s.close id force closes).2.Balanced
    unfold close
    cases hid : s.objects id with
    | none => exact h
    | some object => exact balanced_close h hid force closes
  | releaseHandle id => exact iff_of_true (balanced_releaseHandle h id) trivial
  | destroy id => exact iff_of_true (balanced_destroy h id) trivial

/-- In every program each connection is accounted for after every call, and none is left at the end,
exactly when no `sqlite3_open_v2` that is reached fails with a connection. -/
theorem accounted_iff_opensCleanly (calls : List DatabaseCall) :
    databases.Always Accounted initial calls ↔
      databases.Throughout OpensCleanly initial calls := by
  apply databases.always_iff_throughout
  · intro s call hs
    rw [accounted_iff]
    exact balanced_next_iff hs.balanced call
  · exact accounted_iff.mpr initial_balanced

/-- `SQLITE_CANTOPEN` for a file that does not exist: the connection is lost. -/
theorem cantopen_loses_connection :
    ¬ databases.Always Accounted initial
      [.construct 0, .openFile 0 none 0 (.fails ⟨14, by decide⟩ true)] := by
  rintro ⟨-, hconstructed, hopened⟩
  have hcleanly := (balanced_next_iff hconstructed.balanced _).mp hopened.balanced
  exact hcleanly .empty rfl (by simp) (Or.inl rfl) rfl

end Databases

end Ysqlite3
