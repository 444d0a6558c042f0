import Ysqlite3.Statement

/-!
# Columns by name

`Results::_to_column_index` looks a name up among the names of the columns and ignores case. It lowers
the characters of the name with `std::tolower` of C, and those of the column with the one of a locale.
-/

namespace Ysqlite3.Results

/-! ## The comparison -/

/-- A `char` as an `int`; `char` is signed. -/
def promote (c : UInt8) : Int := if c < 128 then c.toNat else c.toNat - 256

/-- `std::tolower` of C in the current C locale. Its argument is an `unsigned char` or `EOF`, which is
-1. -/
def tolower (current : UInt8 → UInt8) (c : Int) : Option Int :=
  if 0 ≤ c ∧ c ≤ 255 then some (current (UInt8.ofNat c.toNat)).toNat
  else if c = -1 then some (-1)
  else none

/-- The lambda `iequals` on C strings without their terminators; `locale` is the `tolower` of its third
argument. -/
def iequals (current locale : UInt8 → UInt8) : Bytes → Bytes → Option Bool
  | l :: left, r :: right => do
    let lowered ← tolower current (promote l)
    if lowered ≠ promote (locale r) then return false
    iequals current locale left right
  | [], [] => some true
  | _, _ => some false

/-- The loop over the columns from column `i` on. -/
def findColumn (current locale : UInt8 → UInt8) (name : Bytes) (i : Nat) :
    List Bytes → Option (Except Exception Int)
  | [] => some (.error (.ysqlite3 .unknownParameter))
  | column :: columns => do
    if ← iequals current locale name column then return .ok i
    findColumn current locale name (i + 1) columns

/-- `_to_column_index`; `columns` are the names that `Statement::columns` reports, too. -/
def toColumnIndex (current locale : UInt8 → UInt8) (columns : List Bytes) :
    Index → Option (Except Exception Int)
  | .name name => findColumn current locale name 0 columns
  | .value value =>
    if value < 0 ∨ columns.length ≤ value then some (.error (.ysqlite3 .parameterOutOfRange))
    else some (.ok value)

/-- `tolower` in the classic locale. -/
def classic (c : UInt8) : UInt8 := if 65 ≤ c ∧ c ≤ 90 then c + 32 else c

/-! ## What a lookup finds -/

variable {current locale : UInt8 → UInt8} {name : Bytes}

/-- The name matches the column. -/
def Matches (current locale : UInt8 → UInt8) (name column : Bytes) : Prop :=
  iequals current locale name column = some true

instance (current locale : UInt8 → UInt8) (name column : Bytes) :
    Decidable (Matches current locale name column) :=
  inferInstanceAs (Decidable (_ = _))

/-- Where all comparisons are defined, the loop finds the first column that matches. -/
theorem findColumn_spec {columns : List Bytes}
    (hdefined : ∀ column ∈ columns, iequals current locale name column ≠ none) (i : Nat) :
    (∃ j, ∃ hj : j < columns.length,
        findColumn current locale name i columns = some (.ok (i + j : Nat)) ∧
        Matches current locale name columns[j] ∧
        ∀ k (hk : k < j), ¬ Matches current locale name columns[k]) ∨
      ((∀ column ∈ columns, ¬ Matches current locale name column) ∧
        findColumn current locale name i columns = some (.error (.ysqlite3 .unknownParameter))) := by
  induction columns generalizing i with
  | nil => exact Or.inr ⟨by simp, rfl⟩
  | cons column columns ih =>
    cases hcompare : iequals current locale name column with
    | none => exact absurd hcompare (hdefined column List.mem_cons_self)
    | some equal =>
      cases equal with
      | true =>
        refine Or.inl ⟨0, Nat.zero_lt_succ _, ?_, hcompare, fun k hk => absurd hk (Nat.not_lt_zero k)⟩
        simp [findColumn, hcompare]
      | false =>
        have hfirst : ¬ Matches current locale name column := by
          rw [Matches, hcompare]
          decide
        have hnext : findColumn current locale name i (column :: columns) =
            findColumn current locale name (i + 1) columns := by
          simp [findColumn, hcompare]
        rw [hnext]
        rcases ih (fun c hc => hdefined c (List.mem_cons_of_mem column hc)) (i + 1) with
          ⟨j, hj, hfound, hmatches, hbefore⟩ | ⟨hnone, hfound⟩
        · refine Or.inl ⟨j + 1, Nat.succ_lt_succ hj, ?_, hmatches, ?_⟩
          · rw [hfound, Nat.add_right_comm, Nat.add_assoc]
          · intro k hk
            cases k with
            | zero => exact hfirst
            | succ k => exact hbefore k (Nat.lt_of_succ_lt_succ hk)
        · refine Or.inr ⟨?_, hfound⟩
          intro c hc
          rcases List.mem_cons.mp hc with rfl | hc
          · exact hfirst
          · exact hnone c hc

/-! ## Characters on which the two agree -/

theorem promote_injective {c d : UInt8} (h : promote c = promote d) : c = d := by
  have hc := c.toNat_lt
  have hd := d.toNat_lt
  have h128 : (128 : UInt8).toNat = 128 := rfl
  apply UInt8.toNat_inj.mp
  simp only [promote, UInt8.lt_iff_toNat_lt, h128] at h
  split at h
  · split at h <;> omega
  · split at h <;> omega

/-- Both ways to lower the character are defined and come to the same. -/
def Agrees (current locale : UInt8 → UInt8) (c : UInt8) : Prop :=
  tolower current (promote c) = some (promote (locale c))

/-- A name of such characters is compared with its characters lowered by the locale. -/
theorem iequals_of_agrees (column : Bytes) (h : ∀ c ∈ name, Agrees current locale c) :
    iequals current locale name column = some (decide (name.map locale = column.map locale)) := by
  induction name generalizing column with
  | nil =>
    cases column with
    | nil => rfl
    | cons r right => rfl
  | cons l left ih =>
    cases column with
    | nil => rfl
    | cons r right =>
      have hl : tolower current (promote l) = some (promote (locale l)) := h l List.mem_cons_self
      have hleft := ih right (fun c hc => h c (List.mem_cons_of_mem l hc))
      simp only [iequals, hl, Option.bind_eq_bind, Option.bind_some, List.map_cons, List.cons.injEq]
      by_cases heq : locale l = locale r
      · rw [if_neg (by simp [heq]), hleft]
        simp [heq]
      · rw [if_pos fun hsame => heq (promote_injective hsame)]
        simp [heq]

theorem matches_of_agrees {column : Bytes} (h : ∀ c ∈ name, Agrees current locale c) :
    Matches current locale name column ↔ name.map locale = column.map locale := by
  rw [Matches, iequals_of_agrees column h]
  simp

/-- A name that matches itself has no other characters. -/
theorem agrees_of_matches_self (h : Matches current locale name name) :
    ∀ c ∈ name, Agrees current locale c := by
  unfold Matches at h
  induction name with
  | nil => simp
  | cons l left ih =>
    cases hl : tolower current (promote l) with
    | none => simp [iequals, hl] at h
    | some lowered =>
      simp only [iequals, hl, Option.bind_eq_bind, Option.bind_some] at h
      by_cases hne : lowered ≠ promote (locale l)
      · rw [if_pos hne] at h
        cases h
      · rw [if_neg hne] at h
        intro c hc
        rcases List.mem_cons.mp hc with rfl | hc
        · rw [Agrees, hl, not_not.mp hne]
        · exact ih h c hc

/-! ## Own names -/

/-- Among columns with the given names, every column is found by its own name, and a name that matches
none is rejected. -/
structure FindsColumns (current locale : UInt8 → UInt8) (names : Set Bytes) : Prop where
  defined : ∀ a ∈ names, ∀ b ∈ names, iequals current locale a b ≠ none
  refl : ∀ a ∈ names, Matches current locale a a
  symm : ∀ a ∈ names, ∀ b ∈ names, Matches current locale a b → Matches current locale b a
  trans : ∀ a ∈ names, ∀ b ∈ names, ∀ c ∈ names, Matches current locale a b →
    Matches current locale b c → Matches current locale a c
  own : ∀ columns : List Bytes, (∀ c ∈ columns, c ∈ names) → ∀ i (hi : i < columns.length),
    ∃ j, ∃ hj : j < columns.length, j ≤ i ∧
      toColumnIndex current locale columns (.name columns[i]) = some (.ok j) ∧
      Matches current locale columns[i] columns[j] ∧
      ∀ k (hk : k < j), ¬ Matches current locale columns[i] columns[k]
  rejected : ∀ columns : List Bytes, (∀ c ∈ columns, c ∈ names) → ∀ name ∈ names,
    (∀ c ∈ columns, ¬ Matches current locale name c) →
    toColumnIndex current locale columns (.name name) = some (.error (.ysqlite3 .unknownParameter))

/-- Columns are found by their own names exactly if the C library and the locale agree on every character
in them. -/
theorem findsColumns_iff_agrees (current locale : UInt8 → UInt8) (names : Set Bytes) :
    FindsColumns current locale names ↔ ∀ name ∈ names, ∀ c ∈ name, Agrees current locale c := by
  constructor
  · intro h name hname
    exact agrees_of_matches_self (h.refl name hname)
  · intro h
    have hdefined : ∀ a ∈ names, ∀ b, iequals current locale a b ≠ none := by
      intro a ha b
      rw [iequals_of_agrees b (h a ha)]
      exact Option.some_ne_none _
    have hmatches : ∀ a ∈ names, ∀ b, Matches current locale a b ↔ a.map locale = b.map locale :=
      fun a ha b => matches_of_agrees (h a ha)
    refine ⟨fun a ha b _ => hdefined a ha b, ?_, ?_, ?_, ?_, ?_⟩
    · intro a ha
      exact (hmatches a ha a).mpr rfl
    · intro a ha b hb hab
      exact (hmatches b hb a).mpr ((hmatches a ha b).mp hab).symm
    · intro a ha b hb c hc hab hbc
      exact (hmatches a ha c).mpr (((hmatches a ha b).mp hab).trans ((hmatches b hb c).mp hbc))
    · intro columns hcolumns i hi
      have hown := hcolumns _ (List.getElem_mem hi)
      have hself := (hmatches _ hown columns[i]).mpr rfl
      have hall : ∀ c ∈ columns, iequals current locale columns[i] c ≠ none :=
        fun c _ => hdefined _ hown c
      rcases findColumn_spec hall 0 with
        ⟨j, hj, hfound, hfits, hbefore⟩ | ⟨hnone, -⟩
      · refine ⟨j, hj, ?_, ?_, hfits, hbefore⟩
        · by_contra hlater
          exact hbefore i (Nat.not_le.mp hlater) hself
        · rw [Nat.zero_add] at hfound
          exact hfound
      · exact absurd hself (hnone _ (List.getElem_mem hi))
    · intro columns hcolumns name hname hnone
      have hall : ∀ c ∈ columns, iequals current locale name c ≠ none :=
        fun c _ => hdefined name hname c
      rcases findColumn_spec hall 0 with
        ⟨j, hj, -, hfits, -⟩ | ⟨-, hfound⟩
      · exact absurd hfits (hnone _ (List.getElem_mem hj))
      · exact hfound

/-- A column `é` in UTF-8 cannot be looked up: its first byte is a negative `char`. -/
theorem accented_column_not_found :
    toColumnIndex classic classic [[0xC3, 0xA9]] (.name [0xC3, 0xA9]) = none ∧
      ¬ FindsColumns classic classic {[0xC3, 0xA9]} := by
  constructor
  · decide
  · intro h
    exact h.defined [0xC3, 0xA9] rfl [0xC3, 0xA9] rfl (by decide)

/-- Names in ASCII can. -/
example : toColumnIndex classic classic [[110, 111], [78, 79, 73, 77]] (.name [110, 111, 105, 109]) =
    some (.ok 1) := by
  decide

end Ysqlite3.Results
