import Mathlib.Logic.Function.Basic

/-!
# Objects in places

The objects of a program are numbered by the places they stand in; a place can be empty. `Sole` says of
one thing that it is held in one place, if it exists.
-/

namespace Places

variable {ω τ : Type*}

/-- Every object there is satisfies `P`. -/
def Each (P : τ → Prop) (objects : ω → Option τ) : Prop :=
  ∀ id object, objects id = some object → P object

variable {P : τ → Prop} {objects : ω → Option τ}

theorem each_none : Each P (fun _ : ω => none) :=
  fun _ object h => absurd h (Option.some_ne_none object).symm

theorem Each.mono {Q : τ → Prop} (h : Each P objects) (himp : ∀ object, P object → Q object) :
    Each Q objects := fun id object hid => himp object (h id object hid)

/-- What the object in each place holds, if anything. -/
def held {ι : Type*} (f : τ → Option ι) (objects : ω → Option τ) (id : ω) : Option ι :=
  (objects id).bind f

theorem held_of_some {ι : Type*} (f : τ → Option ι) {id : ω} {object : τ}
    (h : objects id = some object) : held f objects id = f object := by
  rw [held, h, Option.bind_some]

theorem held_of_none {ι : Type*} (f : τ → Option ι) {id : ω} (h : objects id = none) :
    held f objects id = none := by
  rw [held, h, Option.bind_none]

variable [DecidableEq ω] {id id' : ω}

theorem held_update {ι : Type*} (f : τ → Option ι) (objects : ω → Option τ) (id : ω)
    (object : Option τ) :
    held f (Function.update objects id object) =
      Function.update (held f objects) id (object.bind f) := by
  funext id'
  by_cases hid : id' = id
  · rw [hid, Function.update_self, held, Function.update_self]
  · rw [Function.update_of_ne hid, held, Function.update_of_ne hid]
    rfl

/-- An emptied place leaves the other objects. -/
theorem each_update_none (h : Each P objects) : Each P (Function.update objects id none) := by
  intro id' o ho
  by_cases hid : id' = id
  · rw [hid, Function.update_self] at ho
    exact absurd ho (Option.some_ne_none o).symm
  · rw [Function.update_of_ne hid] at ho
    exact h id' o ho

/-- After a change of one place only the object there is in question. -/
theorem each_update_iff (h : Each P objects) {object : τ} :
    Each P (Function.update objects id (some object)) ↔ P object := by
  constructor
  · intro heach
    exact heach id object (Function.update_self id _ _)
  · intro hobject id' o ho
    by_cases hid : id' = id
    · rw [hid, Function.update_self] at ho
      exact Option.some.inj ho ▸ hobject
    · rw [Function.update_of_ne hid] at ho
      exact h id' o ho

/-- After a change of two places only the objects there are in question. -/
theorem each_update_update_iff (h : Each P objects) (hne : id ≠ id') {object object' : τ} :
    Each P (Function.update (Function.update objects id' (some object')) id (some object)) ↔
      P object ∧ P object' := by
  constructor
  · intro heach
    refine ⟨heach id object (Function.update_self id _ _), heach id' object' ?_⟩
    rw [Function.update_of_ne hne.symm, Function.update_self]
  · rintro ⟨hobject, hobject'⟩
    exact (each_update_iff ((each_update_iff h).mpr hobject')).mpr hobject

/-! ## A single thing -/

/-- There is one thing at most; where there is one, it is held in one place. -/
inductive Sole : (ω → Option τ) → Option τ → Prop where
  | absent : Sole (fun _ => none) none
  | present (id : ω) (t : τ) : Sole (Function.update (fun _ => none) id (some t)) (some t)

namespace Sole

variable {f : ω → Option τ} {t : τ}

/-- What a place holds is the thing there is, and no other place holds it. -/
theorem of_held {i : Option τ} (h : Sole f i) (hid : f id = some t) :
    i = some t ∧ f = Function.update (fun _ => none) id (some t) := by
  cases h with
  | absent => exact absurd hid (Option.some_ne_none t).symm
  | present place u =>
    have hplace : id = place := by
      by_contra hne
      rw [Function.update_of_ne hne] at hid
      exact absurd hid (Option.some_ne_none t).symm
    subst hplace
    rw [Function.update_self] at hid
    rw [Option.some.inj hid]
    exact ⟨rfl, rfl⟩

theorem held_of_exists (h : Sole f (some t)) : ∃ id, f id = some t := by
  cases h with
  | present id => exact ⟨id, Function.update_self id _ _⟩

theorem not_held (h : Sole f none) (id : ω) : f id = none := by
  rcases hid : f id with - | t
  · rfl
  · exact absurd (h.of_held hid).1 (Option.some_ne_none t).symm

theorem eq_none {i : Option τ} (h : Sole f i) (hnone : ∀ id, f id = none) : i = none := by
  rcases i with - | t
  · rfl
  · obtain ⟨id, hid⟩ := h.held_of_exists
    exact absurd (hid.symm.trans (hnone id)) (Option.some_ne_none t)

/-- A thing comes to be in a place. -/
theorem appear (h : Sole f none) (id : ω) (t : τ) : Sole (Function.update f id (some t)) (some t) := by
  have hf : f = fun _ => none := funext h.not_held
  rw [hf]
  exact .present id t

/-- The thing ceases to be in its place. -/
theorem vanish {i : Option τ} (h : Sole f i) (hid : f id = some t) :
    Sole (Function.update f id none) none := by
  rw [(h.of_held hid).2, Function.update_idem, Function.update_eq_self]
  exact .absent

/-- What one place holds goes to another one that holds nothing. -/
theorem move {i : Option τ} (h : Sole f i) (hid : f id = none) (id' : ω) :
    Sole (Function.update (Function.update f id' none) id (f id')) i := by
  rcases hheld : f id' with - | t
  · rw [← hheld, Function.update_eq_self, hheld, ← hid, Function.update_eq_self]
    exact h
  · obtain ⟨rfl, hf⟩ := h.of_held hheld
    have hgone : Function.update f id' none = fun _ => none := by
      rw [hf, Function.update_idem]
      exact Function.update_eq_self id' fun _ => none
    rw [hgone]
    exact .present id t

end Sole

end Places
