import Ysqlite3.Database

/-!
# The reserved size

How many bytes at the end of every page SQLite leaves alone. A database has the reserve its pages have
and the one that was last asked for; `VACUUM` rebuilds the pages with the larger of the two.
`Database::set_reserved_size` and `ysqlite3_init_crypt_db` ask for a reserve and vacuum if the larger one
was another before, which is not the same as whether the pages have it.
-/

namespace Ysqlite3

/-- The reserve of a database: `nReserveWanted`, and what the pages have. Until the page size is fixed,
there are no pages yet. -/
structure Reserve where
  wanted : UInt8
  actual : UInt8
  fixed : Bool
  deriving DecidableEq, Repr

namespace Reserve

/-- `sqlite3BtreeGetRequestedReserve` -/
def requested (self : Reserve) : UInt8 :=
  if self.wanted > self.actual then self.wanted else self.actual

/-- The part of `sqlite3BtreeSetPageSize` that is about the reserve. -/
def setPageSize (nReserve : UInt8) (self : Reserve) : Reserve :=
  if self.fixed then { self with wanted := nReserve }
  else { self with
    wanted := nReserve
    actual := if nReserve < self.actual then self.actual else nReserve }

/-- `SQLITE_FCNTL_RESERVE_BYTES`: what it stores in its argument, and the database then. -/
def fileControl (n : UInt8) (self : Reserve) : UInt8 × Reserve :=
  (self.requested, self.setPageSize n)

/-- `VACUUM`, which comes to `ec`. -/
def vacuum (ec : SQLite3Code) (self : Reserve) : Reserve :=
  if ec = 0 then { self with actual := self.requested } else self

/-- What `Database::set_reserved_size` and `ysqlite3_init_crypt_db` have in common: the result, the
integer that went through the file control, and the database. -/
def request (size : UInt8) (vacuums : Bool) (ec : SQLite3Code) (self : Reserve) :
    SQLite3Code × UInt8 × Reserve :=
  let (n, self) := self.fileControl size
  if vacuums && n ≠ size then
    let self := self.vacuum ec
    if ec ≠ 0 then (ec, self.fileControl n) else (ec, n, self)
  else (0, n, self)

end Reserve

/-- `Database::set_reserved_size`; `ec` is what `VACUUM` comes to. -/
def Database.setReservedSize (size : UInt8) (vacuum : Bool) (ec : SQLite3Code) (self : Database)
    (db : Reserve) : Except Exception UInt8 × Reserve :=
  if self.database.isNone then (.error (.ysqlite3 .databaseIsClosed), db)
  else
    let (ec, n, db) := db.request size vacuum ec
    if ec ≠ 0 then (.error (.sqlite3 ec ""), db) else (.ok n, db)

/-- `ysqlite3_init_crypt_db`. The size is `crypt_file_reserve_size()`. -/
def initCryptDb (ec : SQLite3Code) (db : Reserve) : SQLite3Code × Reserve :=
  let (ec, _, db) := db.request 32 true ec
  (ec, db)

/-! ## What a request achieves -/

/-- After a success the pages have at least the size asked for, and no less than before. After a failure
the next `VACUUM` does what it would have done before. -/
structure AchievesOrUndoes (size : UInt8) (before after : Reserve) (ec : SQLite3Code) : Prop where
  achieves : ec = 0 → size ≤ after.actual ∧ before.actual ≤ after.actual
  undoes : ec ≠ 0 → after.requested = before.requested

namespace Reserve

/-- Pages that exist have the size, or it is not the one that was asked for last; and where there are none
yet, `VACUUM` succeeds or the size is no larger than the ones before. -/
def Responds (size : UInt8) (ec : SQLite3Code) (self : Reserve) : Prop :=
  if self.fixed then ¬ (self.wanted = size ∧ self.actual < size)
  else ec = 0 ∨ size ≤ self.requested

section Requested

variable (self : Reserve)

theorem wanted_le_requested : self.wanted ≤ self.requested := by
  unfold requested
  split
  · exact UInt8.le_refl _
  · rename_i h
    exact UInt8.not_lt.mp h

theorem actual_le_requested : self.actual ≤ self.requested := by
  unfold requested
  split
  · rename_i h
    exact UInt8.le_of_lt h
  · exact UInt8.le_refl _

/-- The larger of the two is one of them. -/
theorem requested_eq (h : self.actual < self.requested) : self.wanted = self.requested := by
  unfold requested at h ⊢
  split
  · rfl
  · rename_i hle
    rw [if_neg hle] at h
    exact absurd h (UInt8.lt_irrefl _)

theorem requested_of_le (h : self.wanted ≤ self.actual) : self.requested = self.actual :=
  if_neg (UInt8.not_lt.mpr h)

theorem requested_of_ge (h : self.actual ≤ self.wanted) : self.requested = self.wanted := by
  unfold requested
  split
  · rfl
  · rename_i hle
    exact UInt8.le_antisymm h (UInt8.not_lt.mp hle)

end Requested

section Request

variable {self : Reserve} {size : UInt8} {ec : SQLite3Code}

theorem setPageSize_fixed (h : self.fixed = true) (n : UInt8) :
    self.setPageSize n = { self with wanted := n } := if_pos h

theorem setPageSize_free (h : self.fixed = false) (n : UInt8) :
    (self.setPageSize n).fixed = false ∧ (self.setPageSize n).wanted = n ∧
      n ≤ (self.setPageSize n).actual ∧ self.actual ≤ (self.setPageSize n).actual ∧
      ((self.setPageSize n).actual = n ∨ (self.setPageSize n).actual = self.actual) := by
  rw [setPageSize, if_neg (by simp [h])]
  refine ⟨h, rfl, ?_⟩
  simp only
  split
  · rename_i hlt
    exact ⟨UInt8.le_of_lt hlt, UInt8.le_refl _, Or.inr rfl⟩
  · rename_i hle
    exact ⟨UInt8.le_refl _, UInt8.not_lt.mp hle, Or.inl rfl⟩

@[simp] theorem wanted_setPageSize (n : UInt8) : (self.setPageSize n).wanted = n := by
  unfold setPageSize
  split <;> rfl

theorem actual_le_setPageSize (n : UInt8) : self.actual ≤ (self.setPageSize n).actual := by
  cases h : self.fixed with
  | true =>
    rw [setPageSize_fixed h]
    exact UInt8.le_refl _
  | false => exact (setPageSize_free h n).2.2.2.1

/-- If the larger reserve was the size already, nothing is vacuumed. -/
theorem request_same (h : self.requested = size) :
    self.request size true ec = (0, size, self.setPageSize size) := by
  simp [request, fileControl, h]

theorem request_vacuumed (h : self.requested ≠ size) :
    self.request size true 0 = (0, self.requested,
      { self.setPageSize size with actual := (self.setPageSize size).requested }) := by
  simp [request, fileControl, vacuum, h]

theorem request_failed (h : self.requested ≠ size) (hec : ec ≠ 0) :
    self.request size true ec = (ec, (self.setPageSize size).requested,
      (self.setPageSize size).setPageSize self.requested) := by
  simp [request, fileControl, vacuum, h, hec]

/-- A request that is not vacuumed for. -/
theorem achieves_same_iff (h : self.requested = size) :
    AchievesOrUndoes size self (self.setPageSize size) 0 ↔ self.Responds size ec := by
  have hiff : AchievesOrUndoes size self (self.setPageSize size) 0 ↔
      size ≤ (self.setPageSize size).actual := by
    constructor
    · intro hachieves
      exact (hachieves.achieves rfl).1
    · intro hle
      exact ⟨fun _ => ⟨hle, actual_le_setPageSize size⟩, fun hne => absurd rfl hne⟩
  rw [hiff]
  unfold Responds
  cases hfixed : self.fixed with
  | true =>
    rw [setPageSize_fixed hfixed]
    simp only [if_true]
    constructor
    · rintro hle ⟨-, hlt⟩
      exact absurd hle (UInt8.not_le.mpr hlt)
    · intro hresponds
      by_contra hlt
      have hlt := UInt8.not_le.mp hlt
      exact hresponds ⟨by rw [requested_eq self (h.symm ▸ hlt), h], hlt⟩
  | false =>
    refine iff_of_true (setPageSize_free hfixed size).2.2.1 ?_
    simp [h]

/-- A request that is vacuumed for. -/
theorem achieves_vacuumed (self : Reserve) (size : UInt8) :
    AchievesOrUndoes size self
      { self.setPageSize size with actual := (self.setPageSize size).requested } 0 where
  achieves _ := by
    constructor
    · have h := wanted_le_requested (self.setPageSize size)
      rwa [wanted_setPageSize] at h
    · exact UInt8.le_trans (actual_le_setPageSize size) (actual_le_requested _)
  undoes h := absurd rfl h

/-- A request for which `VACUUM` fails is undone, unless it has taken effect at once. -/
theorem requested_undone (self : Reserve) (size : UInt8) :
    ((self.setPageSize size).setPageSize self.requested).requested = self.requested ↔
      (self.fixed = true ∨ size ≤ self.requested) := by
  cases hfixed : self.fixed with
  | true =>
    have hagain : (self.setPageSize size).setPageSize self.requested =
        { self with wanted := self.requested } := by
      rw [setPageSize_fixed hfixed]
      exact if_pos hfixed
    rw [hagain]
    exact iff_of_true (requested_of_ge _ (actual_le_requested self)) (Or.inl rfl)
  | false =>
    obtain ⟨hfree, -, hsize, -, hactual⟩ := setPageSize_free hfixed size
    obtain ⟨-, hwanted, hle, hmono, hagain⟩ := setPageSize_free hfree self.requested
    rw [requested_of_le _ (by rw [hwanted]; exact hle)]
    simp only [Bool.false_eq_true, false_or]
    constructor
    · intro hundone
      exact UInt8.le_trans hsize (hundone ▸ hmono)
    · intro hsmall
      rcases hagain with heq | heq
      · exact heq
      · rw [heq] at hle ⊢
        refine UInt8.le_antisymm ?_ hle
        rcases hactual with heq' | heq'
        · rw [heq']
          exact hsmall
        · rw [heq']
          exact actual_le_requested self

/-- A request achieves its size or is undone exactly if the database responds to it. -/
theorem request_achievesOrUndoes_iff (self : Reserve) (size : UInt8) (ec : SQLite3Code) :
    AchievesOrUndoes size self (self.request size true ec).2.2 (self.request size true ec).1 ↔
      self.Responds size ec := by
  by_cases h : self.requested = size
  · rw [request_same h]
    exact achieves_same_iff h
  · by_cases hec : ec = 0
    · subst hec
      rw [request_vacuumed h]
      refine iff_of_true (achieves_vacuumed self size) ?_
      unfold Responds
      split
      · rintro ⟨hwanted, hlt⟩
        -- the larger one is what is wanted
        exact h ((requested_of_ge self (hwanted ▸ UInt8.le_of_lt hlt)).trans hwanted)
      · exact Or.inl rfl
    · rw [request_failed h hec]
      have hundone : AchievesOrUndoes size self
          ((self.setPageSize size).setPageSize self.requested) ec ↔
          ((self.setPageSize size).setPageSize self.requested).requested = self.requested :=
        ⟨fun hundoes => hundoes.undoes hec, fun heq => ⟨fun h0 => absurd h0 hec, fun _ => heq⟩⟩
      rw [hundone, requested_undone]
      unfold Responds
      cases hfixed : self.fixed with
      | true =>
        refine iff_of_true (Or.inl rfl) ?_
        rw [if_pos rfl]
        rintro ⟨hwanted, hlt⟩
        exact h ((requested_of_ge self (hwanted ▸ UInt8.le_of_lt hlt)).trans hwanted)
      | false => simp [hec]

end Request

end Reserve

/-- What `Database::set_reserved_size` came to is a success or undone. -/
def Database.ReservesOrUndoes (size : UInt8) (before : Reserve) :
    Except Exception UInt8 × Reserve → Prop
  | (.ok _, after) => size ≤ after.actual ∧ before.actual ≤ after.actual
  | (.error _, after) => after.requested = before.requested

/-- A call with vacuum is the request, unless the database is closed. -/
theorem Database.reservesOrUndoes_iff (self : Database) (size : UInt8) (ec : SQLite3Code) (db : Reserve) :
    ReservesOrUndoes size db (self.setReservedSize size true ec db) ↔
      (self.database = none ∨
        AchievesOrUndoes size db (db.request size true ec).2.2 (db.request size true ec).1) := by
  unfold setReservedSize
  cases hopen : self.database with
  | none => exact iff_of_true rfl (Or.inl rfl)
  | some handle =>
    obtain ⟨code, n, after⟩ := db.request size true ec
    simp only [Option.isNone_some, Bool.false_eq_true, if_false, reduceCtorEq, false_or]
    by_cases hcode : code = 0
    · rw [if_neg (not_not_intro hcode)]
      exact ⟨fun h => ⟨fun _ => h, fun hne => absurd hcode hne⟩, fun h => h.achieves hcode⟩
    · rw [if_pos hcode]
      exact ⟨fun h => ⟨fun h0 => absurd h0 hcode, fun _ => h⟩, fun h => h.undoes hcode⟩

/-- Both functions reserve the size or undo what they have asked for, whatever the state is and `VACUUM`
comes to, exactly if the database responds to the request: where the size was asked for before and the
pages do not have it, they report a success and nothing is vacuumed. -/
theorem setReservedSize_iff_responds (self : Database) (size : UInt8) (ec : SQLite3Code) (db : Reserve) :
    (Database.ReservesOrUndoes size db (self.setReservedSize size true ec db) ↔
        (self.database = none ∨ db.Responds size ec)) ∧
      (AchievesOrUndoes 32 db (initCryptDb ec db).2 (initCryptDb ec db).1 ↔ db.Responds 32 ec) := by
  constructor
  · rw [Database.reservesOrUndoes_iff, Reserve.request_achievesOrUndoes_iff]
  · exact Reserve.request_achievesOrUndoes_iff db 32 ec

/-- A reserve of 32 bytes is asked for without vacuum, then with it; the second call succeeds and the
pages have none. -/
theorem secondRequest_reserves_nothing :
    let self : Database := ⟨some 0⟩
    let db := (self.setReservedSize 32 false 0 ⟨0, 0, true⟩).2
    (self.setReservedSize 32 true 0 db).1 = .ok 32 ∧
      (self.setReservedSize 32 true 0 db).2.actual = 0 ∧
      ¬ Database.ReservesOrUndoes 32 db (self.setReservedSize 32 true 0 db) := by
  refine ⟨by rfl, by rfl, ?_⟩
  rintro ⟨hle, -⟩
  exact absurd hle (by decide)

end Ysqlite3
