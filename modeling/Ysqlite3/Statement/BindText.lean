import Ysqlite3.Statement
import Mathlib.Data.List.TakeDrop
import Mathlib.Data.List.TakeWhile

/-!
# Binding text

`Statement::bind` and `Statement::bind_reference` pass the length of a `std::string` to
`sqlite3_bind_text`, which takes an `int` and gives negative ones a meaning of their own. From 2^31
characters on, what arrives is another length.
-/

namespace Ysqlite3

/-- What is bound to the parameters of a statement. -/
abbrev Bindings := Int → Option Bytes

namespace SQLite3Code

def tooBig : SQLite3Code := 18

end SQLite3Code

/-- The text behind `z`, which is followed by a terminator, when a length `n` comes with it that is at most
its own. -/
def textOf (z : Bytes) (n : Int) : Bytes :=
  if n < 0 then z.takeWhile (· ≠ 0) else z.take n.toNat

/-- `sqlite3_bind_text` with `SQLITE_TRANSIENT` or `SQLITE_STATIC`. `limit` is `SQLITE_LIMIT_LENGTH`; a
text above it is not copied. `refusal` is any other reason to fail. -/
def sqlite3BindText (limit : Nat) (refusal : Option FailureCode) (transient : Bool) (i : Int) (z : Bytes)
    (n : Int) (bindings : Bindings) : SQLite3Code × Bindings :=
  match refusal with
  | some code => (code, bindings)
  | none =>
    if limit < (textOf z n).length then
      (.tooBig, Function.update bindings i (if transient then none else some (textOf z n)))
    else (.success, Function.update bindings i (some (textOf z n)))

namespace Statement

/-- `_bind` with `sqlite3_bind_text` for a `std::string`. -/
def bindString (transient : Bool) (parameters : Parameters) (limit : Nat)
    (refusal : Option FailureCode) (index : Index) (value : Bytes) (self : Statement)
    (bindings : Bindings) : Except Exception Unit × Bindings :=
  let binder (i : Int) :=
    sqlite3BindText limit refusal transient i value (castInt value.length) bindings
  (self.bind parameters index (fun i => (binder i).1),
    match self.statement, toParameterIndex parameters index with
    | some _, .ok i => (binder i).2
    | _, _ => bindings)

/-- `Statement::bind` with a `std::string`. -/
def bindText := bindString true

/-- `Statement::bind_reference` with a `std::string`. -/
def bindReferenceText := bindString false

end Statement

/-! ## Lengths that are cut -/

/-- A length that became an `int`: it wraps around, and is negative in the upper half. -/
theorem castInt_cases (n : Nat) :
    (n % 2 ^ 32 < 2 ^ 31 ∧ castInt n = (n % 2 ^ 32 : Nat)) ∨
      (2 ^ 31 ≤ n % 2 ^ 32 ∧ castInt n < 0) := by
  have hlt : n % 2 ^ 32 < 2 ^ 32 := Nat.mod_lt n (by decide)
  rw [castInt, BitVec.toInt_eq_toNat_cond, BitVec.toNat_ofNat]
  by_cases hsmall : n % 2 ^ 32 < 2 ^ 31
  · rw [if_pos (by omega)]
    exact Or.inl ⟨hsmall, rfl⟩
  · rw [if_neg (by omega)]
    exact Or.inr ⟨by omega, by omega⟩

/-- All characters come before the first one that is 0 exactly if there is none. -/
theorem takeWhile_ne_zero_iff (value : Bytes) : value.takeWhile (· ≠ 0) = value ↔ 0 ∉ value := by
  rw [List.takeWhile_eq_self_iff]
  constructor
  · intro h h0
    simpa using h 0 h0
  · intro h x hx
    have hne : x ≠ 0 := fun h0 => h (h0 ▸ hx)
    simpa using hne

/-- What SQLite takes for the text of a string: as much as its length says modulo 2^32, or up to the
first 0. -/
theorem textOf_cases (value : Bytes) :
    (value.length % 2 ^ 32 < 2 ^ 31 ∧
        textOf value (castInt value.length) = value.take (value.length % 2 ^ 32)) ∨
      (2 ^ 31 ≤ value.length % 2 ^ 32 ∧
        textOf value (castInt value.length) = value.takeWhile (· ≠ 0)) := by
  rcases castInt_cases value.length with ⟨hsmall, hcast⟩ | ⟨hlarge, hneg⟩
  · refine Or.inl ⟨hsmall, ?_⟩
    rw [hcast, textOf, if_neg (by omega), Int.toNat_natCast]
  · refine Or.inr ⟨hlarge, ?_⟩
    rw [textOf, if_pos hneg]

/-- The length arrives as it is, or as a negative one for a string that ends at its first 0, or as one
above the limit. -/
def LengthArrives (limit : Nat) (value : Bytes) : Prop :=
  value.length < 2 ^ 31 ∨
    (2 ^ 31 ≤ value.length % 2 ^ 32 ∧
      (0 ∉ value ∨ limit < (value.takeWhile (· ≠ 0)).length)) ∨
    (value.length % 2 ^ 32 < 2 ^ 31 ∧ limit < value.length % 2 ^ 32)

/-- The text SQLite takes is the whole string or too long exactly if the length arrives. -/
theorem textOf_iff (limit : Nat) (value : Bytes) :
    (limit < (textOf value (castInt value.length)).length ∨
        textOf value (castInt value.length) = value) ↔
      LengthArrives limit value := by
  have hmod : value.length % 2 ^ 32 ≤ value.length := Nat.mod_le _ _
  unfold LengthArrives
  rcases textOf_cases value with ⟨hsmall, htext⟩ | ⟨hlarge, htext⟩
  · rw [htext, List.take_eq_self_iff, List.length_take, Nat.min_eq_left hmod]
    constructor
    · rintro (hlimit | hwhole)
      · exact Or.inr (Or.inr ⟨hsmall, hlimit⟩)
      · exact Or.inl (by omega)
    · rintro (hlt | ⟨hlarge, -⟩ | ⟨-, hlimit⟩)
      · exact Or.inr (by omega)
      · omega
      · exact Or.inl hlimit
  · rw [htext, takeWhile_ne_zero_iff]
    constructor
    · rintro (hlimit | hnone)
      · exact Or.inr (Or.inl ⟨hlarge, Or.inr hlimit⟩)
      · exact Or.inr (Or.inl ⟨hlarge, Or.inl hnone⟩)
    · rintro (hlt | ⟨-, hnone | hlimit⟩ | ⟨hsmall, -⟩)
      · omega
      · exact Or.inr hnone
      · exact Or.inl hlimit
      · omega

/-! ## Strings that are bound -/

/-- The call throws, or the parameter is bound to the string. -/
def StoresOrThrows (i : Int) (value : Bytes) (result : Except Exception Unit × Bindings) : Prop :=
  (∃ e, result.1 = .error e) ∨ result.1 = .ok () ∧ result.2 i = some value

namespace Statement

section Bind

variable {self : Statement} {parameters : Parameters} {index : Index} {i : Int} {bindings : Bindings}

/-- On an open statement and a valid index, the call is `sqlite3_bind_text`. -/
theorem bindString_valid (hopen : self.statement.isSome)
    (hindex : toParameterIndex parameters index = .ok i) (transient : Bool) (limit : Nat)
    (refusal : Option FailureCode) (value : Bytes) :
    self.bindString transient parameters limit refusal index value bindings =
      let (ec, bindings) :=
        sqlite3BindText limit refusal transient i value (castInt value.length) bindings
      (if ec ≠ 0 then .error (.sqlite3 ec "") else .ok (), bindings) := by
  obtain ⟨statement, hstatement⟩ := Option.isSome_iff_exists.mp hopen
  simp [bindString, bind, hstatement, hindex]

/-- A string is stored as it is, or an exception is thrown, exactly if SQLite refuses it for another
reason or its length arrives; with `bind` and `bind_reference` alike. -/
theorem bindString_iff (hopen : self.statement.isSome)
    (hindex : toParameterIndex parameters index = .ok i) (limit : Nat)
    (refusal : Option FailureCode) (value : Bytes) :
    (StoresOrThrows i value (self.bindText parameters limit refusal index value bindings) ↔
        (refusal ≠ none ∨ LengthArrives limit value)) ∧
      (StoresOrThrows i value (self.bindReferenceText parameters limit refusal index value bindings) ↔
        (refusal ≠ none ∨ LengthArrives limit value)) := by
  have hboth : ∀ transient, StoresOrThrows i value
      (self.bindString transient parameters limit refusal index value bindings) ↔
        (refusal ≠ none ∨ LengthArrives limit value) := by
    intro transient
    rw [bindString_valid hopen hindex]
    cases refusal with
    | some code =>
      refine iff_of_true (Or.inl ⟨.sqlite3 code "", ?_⟩) (Or.inl (by simp))
      exact if_pos code.property
    | none =>
      rw [or_iff_right (by simp : ¬ (none : Option FailureCode) ≠ none), ← textOf_iff]
      by_cases hlimit : limit < (textOf value (castInt value.length)).length
      · refine iff_of_true (Or.inl ⟨.sqlite3 .tooBig "", ?_⟩) (Or.inl hlimit)
        simp only [sqlite3BindText, if_pos hlimit]
        exact if_pos (by decide)
      · rw [or_iff_right hlimit]
        simp [StoresOrThrows, sqlite3BindText, if_neg hlimit, SQLite3Code.success]
  exact ⟨hboth true, hboth false⟩

/-- A string with 2^32 characters and a few more is stored as its first few. -/
theorem bindText_wraps (hopen : self.statement.isSome)
    (hindex : toParameterIndex parameters index = .ok i) {limit n : Nat} {value : Bytes}
    (hlength : value.length = 2 ^ 32 + n) (hn : n < 2 ^ 31) (hlimit : n ≤ limit) :
    self.bindText parameters limit none index value bindings =
      (.ok (), Function.update bindings i (some (value.take n))) := by
  have hmod : value.length % 2 ^ 32 = n := by omega
  have htext : textOf value (castInt value.length) = value.take n := by
    rcases textOf_cases value with ⟨-, htext⟩ | ⟨hlarge, -⟩
    · rw [htext, hmod]
    · omega
  have hfits : ¬ limit < (value.take n).length := by
    rw [List.length_take]
    omega
  rw [bindText, bindString_valid hopen hindex, sqlite3BindText, htext, if_neg hfits]
  rfl

end Bind

/-- The first statement prepared on the first connection. -/
def first : Statement where
  statement := some 0
  database := some 0

/-- A string with a NUL, bound to the only parameter. -/
theorem bindString_short :
    StoresOrThrows 1 [97, 0, 98]
        (first.bindText ⟨1, fun _ => 0⟩ 10 none (.value 0) [97, 0, 98] fun _ => none) ∧
      StoresOrThrows 1 [97, 0, 98]
        (first.bindReferenceText ⟨1, fun _ => 0⟩ 10 none (.value 0) [97, 0, 98] fun _ => none) := by
  have hindex : toParameterIndex ⟨1, fun _ => 0⟩ (.value 0) = .ok 1 := by decide
  have harrives : LengthArrives 10 [97, 0, 98] := Or.inl (by decide)
  have hopen : first.statement.isSome := rfl
  exact ⟨(bindString_iff hopen hindex 10 none [97, 0, 98]).1.mpr (Or.inr harrives),
    (bindString_iff hopen hindex 10 none [97, 0, 98]).2.mpr (Or.inr harrives)⟩

/-- 2^32 + 5 characters are stored as 5, without an exception. -/
theorem bindText_cut :
    ¬ StoresOrThrows 1 (List.replicate (2 ^ 32 + 5) 97)
      (first.bindText ⟨1, fun _ => 0⟩ 1000000000 none (.value 0) (List.replicate (2 ^ 32 + 5) 97)
        fun _ => none) := by
  have hindex : toParameterIndex ⟨1, fun _ => 0⟩ (.value 0) = .ok 1 := by decide
  rw [bindText_wraps rfl hindex List.length_replicate (by decide) (by decide)]
  rintro (⟨e, he⟩ | ⟨-, hstored⟩)
  · cases he
  · have htake := Option.some.inj hstored
    have hlength := congrArg List.length htake
    rw [List.length_take, List.length_replicate] at hlength
    omega

end Statement

end Ysqlite3
