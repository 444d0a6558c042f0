import Mathlib.Data.List.Basic
import Mathlib.Data.List.Forall2

/-!
# Components driven by calls

A deterministic component answers each call with a reply and moves to a new state. `run` and
`replies` follow a whole sequence of calls. An invariant kept by every permitted call holds after
every permitted sequence, and a relation kept by every call between two components relates all
their replies. A part of the state that calls only overwrite holds what the last of them left.
-/

/-- A component with states `σ`, calls `κ` and replies `ρ`. -/
structure Component (σ κ ρ : Type*) where
  step : σ → κ → ρ × σ

namespace Component

variable {σ κ ρ τ ρ' : Type*}

section Runs

variable (C : Component σ κ ρ)

/-- What the component answers to the call `c`. -/
def reply (s : σ) (c : κ) : ρ := (C.step s c).1

/-- The state after the call `c`. -/
def next (s : σ) (c : κ) : σ := (C.step s c).2

/-- The state after a sequence of calls. -/
def run (s : σ) (calls : List κ) : σ := calls.foldl C.next s

/-- The replies to a sequence of calls, in order. -/
def replies : σ → List κ → List ρ
  | _, [] => []
  | s, c :: cs => C.reply s c :: replies (C.next s c) cs

/-- What `f` finds in each call of a sequence, together with the state it is made in. -/
def collect {α : Type*} (f : σ → κ → List α) : σ → List κ → List α
  | _, [] => []
  | s, c :: cs => f s c ++ collect f (C.next s c) cs

/-- Every call of the sequence is made in a state in which `ok` permits it. -/
def Throughout (ok : σ → κ → Prop) : σ → List κ → Prop
  | _, [] => True
  | s, c :: cs => ok s c ∧ Throughout ok (C.next s c) cs

@[simp] theorem run_nil (s : σ) : C.run s [] = s := rfl
@[simp] theorem run_cons (s : σ) (c : κ) (cs : List κ) :
    C.run s (c :: cs) = C.run (C.next s c) cs := rfl
@[simp] theorem replies_nil (s : σ) : C.replies s [] = [] := rfl
@[simp] theorem replies_cons (s : σ) (c : κ) (cs : List κ) :
    C.replies s (c :: cs) = C.reply s c :: C.replies (C.next s c) cs := rfl

theorem run_append (s : σ) (cs ds : List κ) : C.run s (cs ++ ds) = C.run (C.run s cs) ds :=
  List.foldl_append

theorem run_snoc (s : σ) (cs : List κ) (c : κ) :
    C.run s (cs ++ [c]) = C.next (C.run s cs) c :=
  C.run_append s cs [c]

theorem throughout_append (ok : σ → κ → Prop) (s : σ) (cs ds : List κ) :
    C.Throughout ok s (cs ++ ds) ↔ C.Throughout ok s cs ∧ C.Throughout ok (C.run s cs) ds := by
  induction cs generalizing s with
  | nil => simp [Throughout]
  | cons c cs ih => simp [Throughout, ih, and_assoc]

/-- A condition on the calls alone holds throughout a sequence when each of its calls meets it. -/
theorem throughout_of_forall {ok : σ → κ → Prop} {cs : List κ}
    (h : ∀ c ∈ cs, ∀ s, ok s c) : ∀ s, C.Throughout ok s cs := by
  induction cs with
  | nil => intro s; trivial
  | cons c cs ih =>
    intro s
    exact ⟨h c (by simp) s, ih (fun d hd => h d (List.mem_cons_of_mem _ hd)) _⟩

theorem Throughout.mono {C : Component σ κ ρ} {ok ok' : σ → κ → Prop} {cs : List κ}
    (himp : ∀ s c, ok s c → ok' s c) : ∀ {s : σ}, C.Throughout ok s cs → C.Throughout ok' s cs := by
  induction cs with
  | nil => intro s _; trivial
  | cons c cs ih => intro s h; exact ⟨himp s c h.1, ih h.2⟩

/-- What every permitted call keeps holds after every permitted sequence of calls. -/
theorem run_invariant {Inv : σ → Prop} {ok : σ → κ → Prop}
    (hstep : ∀ s c, Inv s → ok s c → Inv (C.next s c)) {cs : List κ} :
    ∀ {s : σ}, Inv s → C.Throughout ok s cs → Inv (C.run s cs) := by
  induction cs with
  | nil => intro s hs _; exact hs
  | cons c cs ih => intro s hs hp; exact ih (hstep s c hs hp.1) hp.2

/-- Two conditions that agree on some calls under an invariant agree over every sequence of them. -/
theorem throughout_iff_throughout (Inv : σ → Prop) {ok ok' : σ → κ → Prop} {cs : List κ}
    (hiff : ∀ c ∈ cs, ∀ s, Inv s → (ok s c ↔ ok' s c))
    (hkept : ∀ c ∈ cs, ∀ s, Inv s → ok s c → Inv (C.next s c)) :
    ∀ {s : σ}, Inv s → (C.Throughout ok s cs ↔ C.Throughout ok' s cs) := by
  induction cs with
  | nil => intro s _; exact Iff.rfl
  | cons c cs ih =>
    intro s hI
    have hc := hiff c List.mem_cons_self s hI
    have hrests : ∀ {s : σ}, Inv s → (C.Throughout ok s cs ↔ C.Throughout ok' s cs) :=
      ih (fun d hd => hiff d (List.mem_cons_of_mem c hd)) (fun d hd => hkept d (List.mem_cons_of_mem c hd))
    constructor
    · rintro ⟨hok, hrest⟩
      exact ⟨hc.mp hok, (hrests (hkept c List.mem_cons_self s hI hok)).mp hrest⟩
    · rintro ⟨hok', hrest⟩
      have hok := hc.mpr hok'
      exact ⟨hok, (hrests (hkept c List.mem_cons_self s hI hok)).mpr hrest⟩

/-- Where permitted calls are answered as `f` says, so are all calls of a sequence of them. -/
theorem replies_eq_map {Inv : σ → Prop} {ok : σ → κ → Prop} {f : κ → ρ}
    (hstep : ∀ s c, Inv s → ok s c → C.reply s c = f c ∧ Inv (C.next s c)) {cs : List κ} :
    ∀ {s : σ}, Inv s → C.Throughout ok s cs → C.replies s cs = cs.map f := by
  induction cs with
  | nil => intro s _ _; rfl
  | cons c cs ih =>
    intro s hs hp
    obtain ⟨hreply, hnext⟩ := hstep s c hs hp.1
    rw [replies_cons, List.map_cons, hreply, ih hnext hp.2]

/-- `P` holds at the start and after every call of the sequence. -/
def Always (P : σ → Prop) : σ → List κ → Prop
  | s, [] => P s
  | s, c :: cs => P s ∧ Always P (C.next s c) cs

/-- Where a permitted call keeps an invariant `Inv` that implies `P`, and a call that is not permitted
leaves a state without `P`, `P` holds all the way exactly when every call is permitted. -/
theorem always_iff_throughout_of_invariant (Inv : σ → Prop) {P : σ → Prop} {ok : σ → κ → Prop}
    (himp : ∀ s, Inv s → P s) (hkept : ∀ s c, Inv s → ok s c → Inv (C.next s c))
    (hbroken : ∀ s c, Inv s → ¬ ok s c → ¬ P (C.next s c)) {cs : List κ} :
    ∀ {s : σ}, Inv s → (C.Always P s cs ↔ C.Throughout ok s cs) := by
  induction cs with
  | nil => intro s hI; exact iff_of_true (himp s hI) trivial
  | cons c cs ih =>
    intro s hI
    constructor
    · rintro ⟨-, hrest⟩
      have hnext : P (C.next s c) := by
        cases cs with
        | nil => exact hrest
        | cons d ds => exact hrest.1
      have hok : ok s c := by
        by_contra hnot
        exact hbroken s c hI hnot hnext
      exact ⟨hok, (ih (hkept s c hI hok)).mp hrest⟩
    · rintro ⟨hok, hrest⟩
      exact ⟨himp s hI, (ih (hkept s c hI hok)).mpr hrest⟩

/-- What holds after a call exactly if it held before and the call is permitted holds after a run exactly
if it held at the start and every call is permitted. -/
theorem run_iff_throughout (Inv : σ → Prop) {P : σ → Prop} {ok : σ → κ → Prop}
    (hkept : ∀ s c, Inv s → Inv (C.next s c))
    (hstep : ∀ s c, Inv s → (P (C.next s c) ↔ P s ∧ ok s c)) {cs : List κ} :
    ∀ {s : σ}, Inv s → (P (C.run s cs) ↔ P s ∧ C.Throughout ok s cs) := by
  induction cs with
  | nil => intro s _; exact (and_iff_left trivial).symm
  | cons c cs ih =>
    intro s hI
    rw [run_cons, ih (hkept s c hI), hstep s c hI, and_assoc]
    exact Iff.rfl

/-- What a call keeps exactly when it is permitted holds all the way exactly when every call is
permitted. -/
theorem always_iff_throughout {P : σ → Prop} {ok : σ → κ → Prop}
    (hstep : ∀ s c, P s → (P (C.next s c) ↔ ok s c)) {s : σ} (h : P s) (cs : List κ) :
    C.Always P s cs ↔ C.Throughout ok s cs := by
  apply C.always_iff_throughout_of_invariant P (fun _ hP => hP) _ _ h
  · exact fun s c hP hok => (hstep s c hP).mpr hok
  · exact fun s c hP hnot hnext => hnot ((hstep s c hP).mp hnext)

end Runs

/-- The component whose calls are first translated by `f`. -/
def comap {κ' : Type*} (C : Component σ κ ρ) (f : κ' → κ) : Component σ κ' ρ where
  step s c := C.step s (f c)

theorem run_map {κ' : Type*} (C : Component σ κ ρ) (f : κ' → κ) (s : σ) (cs : List κ') :
    C.run s (cs.map f) = (C.comap f).run s cs := by
  induction cs generalizing s with
  | nil => rfl
  | cons c cs ih => exact ih _

theorem replies_map {κ' : Type*} (C : Component σ κ ρ) (f : κ' → κ) (s : σ) (cs : List κ') :
    C.replies s (cs.map f) = (C.comap f).replies s cs := by
  induction cs generalizing s with
  | nil => rfl
  | cons c cs ih => exact congrArg (C.reply s (f c) :: ·) (ih _)

section Simulation

variable {γ ω : Type*} {C : Component σ κ ρ} {A : Component τ κ ρ'} {G : Component γ κ ω}
  {R : σ → τ → γ → Prop} {ok : γ → κ → Prop} {Rel : ρ → ρ' → Prop}

/-- Forward simulation. The calls are permitted by what the ghost `G` has recorded; a relation
between the states and the record that every permitted call keeps relates the replies of the two
components, call by call. -/
theorem replies_related
    (hstep : ∀ s t g c, R s t g → ok g c →
      Rel (C.reply s c) (A.reply t c) ∧ R (C.next s c) (A.next t c) (G.next g c))
    {cs : List κ} : ∀ {s : σ} {t : τ} {g : γ}, R s t g → G.Throughout ok g cs →
      List.Forall₂ Rel (C.replies s cs) (A.replies t cs) := by
  induction cs with
  | nil => intro s t g _ _; exact .nil
  | cons c cs ih =>
    intro s t g hR hp
    obtain ⟨hrel, hnext⟩ := hstep s t g c hR hp.1
    exact .cons hrel (ih hnext hp.2)

/-- The states after the sequence are related as well. -/
theorem run_related
    (hstep : ∀ s t g c, R s t g → ok g c →
      Rel (C.reply s c) (A.reply t c) ∧ R (C.next s c) (A.next t c) (G.next g c))
    {cs : List κ} : ∀ {s : σ} {t : τ} {g : γ}, R s t g → G.Throughout ok g cs →
      R (C.run s cs) (A.run t cs) (G.run g cs) := by
  induction cs with
  | nil => intro s t g hR _; exact hR
  | cons c cs ih => intro s t g hR hp; exact ih (hstep s t g c hR hp.1).2 hp.2

end Simulation

/-! ## Records -/

/-- Where every call only adds to a record, each entry in it after a run was there before or was
added by one of the calls. -/
theorem run_record {ε : Type*} (C : Component σ κ ρ) (record : σ → List ε)
    (Adds : σ → κ → List ε → Prop)
    (hstep : ∀ s c, ∃ added, Adds s c added ∧ record (C.next s c) = record s ++ added)
    {cs : List κ} {e : ε} : ∀ {s : σ}, e ∈ record (C.run s cs) →
      e ∈ record s ∨ ∃ before c after added, cs = before ++ c :: after ∧
        Adds (C.run s before) c added ∧ e ∈ added := by
  induction cs with
  | nil => intro s he; exact Or.inl he
  | cons c cs ih =>
    intro s he
    rcases ih he with hnext | ⟨before, d, after, added, rfl, hadds, hadded⟩
    · obtain ⟨added, hadds, hrecord⟩ := hstep s c
      rw [hrecord] at hnext
      rcases List.mem_append.mp hnext with hold | hadded
      · exact Or.inl hold
      · exact Or.inr ⟨[], c, cs, added, rfl, hadds, hadded⟩
    · exact Or.inr ⟨c :: before, d, after, added, rfl, hadds, hadded⟩

/-- What is found in a run is found in one of its calls. -/
theorem mem_collect {α : Type*} (C : Component σ κ ρ) (f : σ → κ → List α) {cs : List κ} {a : α} :
    ∀ {s : σ}, a ∈ C.collect f s cs →
      ∃ before c after, cs = before ++ c :: after ∧ a ∈ f (C.run s before) c := by
  induction cs with
  | nil => intro s h; cases h
  | cons c cs ih =>
    intro s h
    rcases List.mem_append.mp h with hnow | hlater
    · exact ⟨[], c, cs, rfl, hnow⟩
    · obtain ⟨before, d, after, rfl, hd⟩ := ih hlater
      exact ⟨c :: before, d, after, rfl, hd⟩

/-- Two things found in each call are related over a run when they are in each call, by a relation between lists
that appending keeps. -/
theorem collect_related {α β : Type*} (C : Component σ κ ρ) {f : σ → κ → List α} {g : σ → κ → List β}
    {R : List α → List β → Prop} (hnil : R [] [])
    (happend : ∀ {as bs as' bs'}, R as bs → R as' bs' → R (as ++ as') (bs ++ bs'))
    (hstep : ∀ s c, R (f s c) (g s c)) (cs : List κ) : ∀ s, R (C.collect f s cs) (C.collect g s cs) := by
  induction cs with
  | nil => exact fun _ => hnil
  | cons c cs ih => exact fun s => happend (hstep s c) (ih _)

/-! ## Registers -/

section Registers

variable {α : Type*}

/-- The last of the values that `f` finds in the calls; `init` if there is none. -/
def lastOf (f : κ → Option α) (init : α) (calls : List κ) : α :=
  ((calls.filterMap f).getLast?).getD init

@[simp] theorem lastOf_nil (f : κ → Option α) (init : α) : lastOf f init [] = init := rfl

theorem lastOf_cons (f : κ → Option α) (init : α) (c : κ) (cs : List κ) :
    lastOf f init (c :: cs) = lastOf f ((f c).getD init) cs := by
  unfold lastOf
  cases hc : f c with
  | none => rw [List.filterMap_cons_none hc]; rfl
  | some a => rw [List.filterMap_cons_some hc, List.getLast?_cons]; rfl

theorem lastOf_append (f : κ → Option α) (init : α) (cs ds : List κ) :
    lastOf f init (cs ++ ds) = lastOf f (lastOf f init cs) ds := by
  induction cs generalizing init with
  | nil => rfl
  | cons c cs ih => rw [List.cons_append, lastOf_cons, lastOf_cons, ih]

theorem lastOf_map {κ' : Type*} (f : κ → Option α) (g : κ' → κ) (init : α) (cs : List κ') :
    lastOf f init (cs.map g) = lastOf (fun c => f (g c)) init cs := by
  unfold lastOf
  rw [List.filterMap_map]
  rfl

/-- A part of the state which each call overwrites with what `f` finds in it, if anything, holds the
last such value after a run. -/
theorem run_register (C : Component σ κ ρ) (get : σ → α) (f : κ → Option α)
    (hstep : ∀ s c, get (C.next s c) = (f c).getD (get s)) (s : σ) (cs : List κ) :
    get (C.run s cs) = lastOf f (get s) cs := by
  induction cs generalizing s with
  | nil => rfl
  | cons c cs ih => rw [run_cons, ih, hstep, lastOf_cons]

/-- A part of the state that each permitted call sets by what it is and what it is answered, if at all, holds
what the last such call set. -/
theorem run_observed (C : Component σ κ ρ) {ok : σ → κ → Prop} (Inv : σ → Prop) (get : σ → α)
    (f : κ → ρ → Option α) (hkept : ∀ s c, Inv s → ok s c → Inv (C.next s c))
    (hstep : ∀ s c, Inv s → ok s c → get (C.next s c) = (f c (C.reply s c)).getD (get s)) {cs : List κ} :
    ∀ {s : σ}, Inv s → C.Throughout ok s cs →
      get (C.run s cs) = lastOf (fun call => f call.1 call.2) (get s) (cs.zip (C.replies s cs)) := by
  induction cs with
  | nil => intro s _ _; rfl
  | cons c cs ih =>
    intro s hI hok
    rw [run_cons, ih (hkept s c hI hok.1) hok.2, hstep s c hI hok.1, replies_cons, List.zip_cons_cons,
      lastOf_cons]

/-- A part of the state that each permitted call sets to the last of what `f` finds in it, if anything, holds
the last of what `f` finds in the run. -/
theorem run_collected (C : Component σ κ ρ) {ok : σ → κ → Prop} (Inv : σ → Prop) (get : σ → Option α)
    (f : σ → κ → List α) (hkept : ∀ s c, Inv s → ok s c → Inv (C.next s c))
    (hstep : ∀ s c, Inv s → ok s c → get (C.next s c) = (f s c).getLast?.or (get s)) {cs : List κ} :
    ∀ {s : σ}, Inv s → C.Throughout ok s cs →
      get (C.run s cs) = (C.collect f s cs).getLast?.or (get s) := by
  induction cs with
  | nil => intro s _ _; rfl
  | cons c cs ih =>
    intro s hI hok
    rw [run_cons, ih (hkept s c hI hok.1) hok.2, hstep s c hI hok.1, collect, List.getLast?_append,
      Option.or_assoc]

end Registers

end Component
