import Ysqlite3.Misc.Component
import Ysqlite3.Misc.Ownership
import Ysqlite3.Misc.Places

/-!
# Scope guards

A `final_action` executes the action handed to it when it is destroyed. Guards of one type are constructed
and moved between each other; what is left of an action that was moved is up to the type.
-/

namespace Ysqlite3.Finally

open Ownership

/-- An object of type `Action`, by what a call of it does. Actions are numbered in the order they are handed
to guards. -/
inductive Action where
  | runs (token : Nat)
  | idle
  | terminates
  deriving DecidableEq, Repr

/-- What is left of an action that was moved: the action itself, as of a closure, or nothing, or something
that must not be called. -/
inductive Remains where
  | same
  | nothing
  | unusable
  deriving DecidableEq, Repr

/-- What a move leaves of the actions of a type, and a move of an action to itself. Neither throws. -/
structure ActionType where
  moved : Nat → Remains
  selfMoved : Nat → Remains

/-- The type of the actions that are as before when they were moved. -/
def closure : ActionType where
  moved _ := .same
  selfMoved _ := .same

/-- The action after it was moved. -/
def Action.leave (remains : Nat → Remains) : Action → Action
  | runs token =>
    match remains token with
    | .same => runs token
    | .nothing => idle
    | .unusable => terminates
  | idle => idle
  | terminates => terminates

/-- The members of a `final_action`. -/
structure FinalAction where
  action : Action
  valid : Bool
  deriving DecidableEq, Repr

/-- What happens to an action. The execution is that of a guard with the given `_valid`. -/
inductive Event where
  | handed (token : Nat)
  | executed (token : Nat) (valid : Bool)
  deriving DecidableEq, Repr

/-- The guards of a program. -/
structure Guards where
  objects : Nat → Option FinalAction
  handed : Nat
  trace : List Event
  terminated : Bool

namespace Guards

def initial : Guards where
  objects _ := none
  handed := 0
  trace := []
  terminated := false

def put (self : Guards) (id : Nat) (object : Option FinalAction) : Guards :=
  { self with objects := Function.update self.objects id object }

/-- `_action()`. No caller survives one that must not be called. -/
def call (guard : FinalAction) (self : Guards) : Guards :=
  match guard.action with
  | .runs token => { self with trace := self.trace ++ [.executed token guard.valid] }
  | .idle => self
  | .terminates => { self with terminated := true }

/-- The constructors from an action. -/
def construct (id : Nat) (self : Guards) : Guards :=
  match self.objects id with
  | some _ => self
  | none =>
    { self with
      handed := self.handed + 1
      trace := self.trace ++ [Event.handed self.handed] }.put id
        (some { action := .runs self.handed, valid := true })

/-- `final_action{ std::move(source) }` -/
def moveConstruct (type : ActionType) (id source : Nat) (self : Guards) : Guards :=
  match self.objects id, self.objects source with
  | none, some move =>
    (self.put source (some { action := move.action.leave type.moved, valid := false })).put id
      (some { action := move.action, valid := move.valid })
  | _, _ => self

/-- `operator=` -/
def moveAssign (type : ActionType) (id source : Nat) (self : Guards) : Guards :=
  match self.objects id, self.objects source with
  | some guard, some move =>
    let self := if guard.valid then self.call guard else self
    -- assigned to itself, `move._valid` is `_valid`
    if id = source then
      self.put id (some { action := guard.action.leave type.selfMoved, valid := false })
    else
      (self.put source (some { action := move.action.leave type.moved, valid := false })).put id
        (some { action := move.action, valid := move.valid })
  | _, _ => self

/-- The destructor. -/
def destroy (id : Nat) (self : Guards) : Guards :=
  match self.objects id with
  | none => self
  | some guard => (self.call guard).put id none

end Guards

/-- A step of the program. A guard is constructed in a free place; the other calls are made on guards that
exist. -/
inductive GuardCall where
  | construct (id : Nat)
  | moveConstruct (id source : Nat)
  | moveAssign (id source : Nat)
  | destroy (id : Nat)
  deriving DecidableEq, Repr

def Guards.perform (type : ActionType) (self : Guards) : GuardCall → Guards
  | .construct id => self.construct id
  | .moveConstruct id source => self.moveConstruct type id source
  | .moveAssign id source => self.moveAssign type id source
  | .destroy id => self.destroy id

/-- Programs over guards of one type. -/
def guards (type : ActionType) : Component Guards GuardCall Unit where
  step self call := ((), if self.terminated then self else self.perform type call)

/-! ## Books over the actions -/

namespace Event

def handing : Event → Option Nat
  | handed token => some token
  | executed _ _ => none

def execution : Event → Option Nat
  | handed _ => none
  | executed token _ => some token

/-- An execution by the guard that the action is in. -/
def due : Event → Option Nat
  | executed token true => some token
  | _ => none

/-- An execution by a guard that the action was moved out of. -/
def again : Event → Option Nat
  | executed token false => some token
  | _ => none

/-- Each execution is of one of the two kinds. -/
theorem count_execution (trace : List Event) (token : Nat) :
    (trace.filterMap execution).count token =
      (trace.filterMap due).count token + (trace.filterMap again).count token := by
  induction trace with
  | nil => rfl
  | cons e trace ih =>
    cases e with
    | handed token' => exact ih
    | executed token' valid =>
      cases valid with
      | true =>
        show (token' :: trace.filterMap execution).count token =
          (token' :: trace.filterMap due).count token + (trace.filterMap again).count token
        rw [List.count_cons, List.count_cons, ih]
        omega
      | false =>
        show (token' :: trace.filterMap execution).count token =
          (trace.filterMap due).count token + (token' :: trace.filterMap again).count token
        rw [List.count_cons, List.count_cons, ih]
        omega

end Event

/-- The action that a guard is still to execute. -/
def FinalAction.pending (guard : FinalAction) : Option Nat :=
  match guard.action, guard.valid with
  | .runs token, true => some token
  | _, _ => none

namespace Guards

/-- How often an action was executed. -/
def executions (self : Guards) (token : Nat) : Nat :=
  (self.trace.filterMap Event.execution).count token

/-- The action that the guard in a place is still to execute. -/
def pending (self : Guards) : Nat → Option Nat := Places.held FinalAction.pending self.objects

/-- Each action handed over has been executed once, or has not been and is in one guard that will. -/
structure FiresOnce (self : Guards) : Prop where
  alive : self.terminated = false
  accounted : ∀ token < self.handed,
    (∃! id, self.pending id = some token) ∧ self.executions token = 0 ∨
      (∀ id, self.pending id ≠ some token) ∧ self.executions token = 1

/-- A guard that is destroyed was not moved from, or what is left of its action does nothing. -/
def DestroysSettled (self : Guards) : GuardCall → Prop
  | .destroy id => ∀ guard, self.objects id = some guard → guard.valid = true ∨ guard.action = .idle
  | _ => True

end Guards

/-- What is left of an action is that action, if it is one at all. -/
theorem Action.eq_of_leave {remains : Nat → Remains} {action : Action} {token : Nat}
    (h : action.leave remains = .runs token) : action = .runs token := by
  cases action with
  | runs token' =>
    rw [leave] at h
    split at h
    · exact h
    · cases h
    · cases h
  | idle => cases h
  | terminates => cases h

/-- A valid guard has its action, and all actions were handed over. -/
structure FinalAction.Known (handed : Nat) (guard : FinalAction) : Prop where
  has_action : guard.valid = true → ∃ token, guard.action = .runs token
  was_handed : ∀ token, guard.action = .runs token → token < handed

namespace FinalAction

variable {handed : Nat} {guard : FinalAction}

theorem pending_invalid (action : Action) : pending { action, valid := false } = none := by
  cases action <;> rfl

theorem pending_of_not_valid (h : guard.valid = false) : guard.pending = none := by
  cases guard with
  | mk action valid =>
    subst h
    exact pending_invalid action

theorem Known.leave (h : guard.Known handed) (remains : Nat → Remains) :
    Known handed { action := guard.action.leave remains, valid := false } where
  has_action hvalid := absurd hvalid Bool.false_ne_true
  was_handed token htoken := h.was_handed token (Action.eq_of_leave htoken)

theorem Known.mono (h : guard.Known handed) : guard.Known (handed + 1) where
  has_action := h.has_action
  was_handed _ htoken := Nat.lt_succ_of_lt (h.was_handed _ htoken)

end FinalAction

namespace Guards

/-- What holds in every run: the books over the actions handed over and those executed by the guard they
are in. -/
structure Settled (s : Guards) : Prop where
  issued : s.trace.filterMap Event.handing = List.range s.handed
  books : Entered Event.handing Event.due s.trace s.pending
  known : Places.Each (FinalAction.Known s.handed) s.objects
  known_again : ∀ token ∈ s.trace.filterMap Event.again, token < s.handed

/-- No action was executed by a guard it was moved out of. -/
def Clean (s : Guards) : Prop := s.terminated = false ∧ s.trace.filterMap Event.again = []

theorem initial_settled : initial.Settled where
  issued := rfl
  books := Entered.start
  known := Places.each_none
  known_again _ htoken := absurd htoken List.not_mem_nil

section Steps

variable {s s' : Guards} {id source : Nat} {guard move : FinalAction}

theorem pending_put (s : Guards) (id : Nat) (object : Option FinalAction) :
    (s.put id object).pending = Function.update s.pending id (object.bind FinalAction.pending) :=
  Places.held_update FinalAction.pending s.objects id object

/-- The guard in a place has executed its action, or has none to execute. -/
structure Spent (s : Guards) (id : Nat) (s' : Guards) : Prop where
  objects : s'.objects = s.objects
  handed : s'.handed = s.handed
  issued : s'.trace.filterMap Event.handing = List.range s.handed
  books : Entered Event.handing Event.due s'.trace (Function.update s.pending id none)
  known_again : ∀ token ∈ s'.trace.filterMap Event.again, token < s.handed

/-- A place without an action to execute. -/
theorem Settled.spent_of_pending (h : Settled s) (hpending : s.pending id = none) : Spent s id s where
  objects := rfl
  handed := rfl
  issued := h.issued
  books := by
    rw [← hpending, Function.update_eq_self]
    exact h.books
  known_again := h.known_again

theorem Settled.spent_of_not_valid (h : Settled s) (hid : s.objects id = some guard)
    (hvalid : guard.valid = false) : Spent s id s := by
  apply h.spent_of_pending
  exact (Places.held_of_some _ hid).trans (FinalAction.pending_of_not_valid hvalid)

/-- A valid guard executes its action. -/
theorem Settled.call_valid (h : Settled s) (hid : s.objects id = some guard)
    (hvalid : guard.valid = true) :
    ∃ token, guard.action = .runs token ∧ s.pending id = some token ∧
      s.call guard = { s with trace := s.trace ++ [.executed token true] } := by
  obtain ⟨token, haction⟩ := (h.known id guard hid).has_action hvalid
  refine ⟨token, haction, ?_, ?_⟩
  · rw [pending, Places.held_of_some _ hid, FinalAction.pending, haction, hvalid]
  · rw [call, haction, hvalid]

theorem Settled.spent_call (h : Settled s) (hid : s.objects id = some guard) :
    Spent s id (s.call guard) := by
  cases hvalid : guard.valid with
  | true =>
    obtain ⟨token, -, hpending, hcall⟩ := h.call_valid hid hvalid
    rw [hcall]
    constructor
    · rfl
    · rfl
    · rw [List.filterMap_append, h.issued]
      exact List.append_nil _
    · exact h.books.give_up hpending rfl rfl
    · rw [List.filterMap_append]
      show ∀ token ∈ _ ++ [], _
      rw [List.append_nil]
      exact h.known_again
  | false =>
    have hspent := h.spent_of_not_valid hid hvalid
    cases haction : guard.action with
    | runs token =>
      rw [call, haction, hvalid]
      constructor
      · rfl
      · rfl
      · rw [List.filterMap_append, h.issued]
        exact List.append_nil _
      · exact hspent.books.idle rfl rfl
      · intro token' htoken'
        rw [List.filterMap_append, List.mem_append] at htoken'
        rcases htoken' with hbefore | hnow
        · exact h.known_again token' hbefore
        · obtain rfl := List.mem_singleton.mp hnow
          exact (h.known id guard hid).was_handed token' haction
    | idle =>
      rw [call, haction]
      exact hspent
    | terminates =>
      rw [call, haction]
      exact ⟨hspent.objects, hspent.handed, hspent.issued, hspent.books, hspent.known_again⟩

/-- A guard that has none to execute gives way to another one without, or to an empty place. -/
theorem Spent.put (hspent : Spent s id s') (h : Settled s) {object : Option FinalAction}
    (hpending : object.bind FinalAction.pending = none)
    (hobject : ∀ guard ∈ object, guard.Known s.handed) : Settled (s'.put id object) where
  issued := hspent.handed ▸ hspent.issued
  books := by
    rw [pending_put, hpending, pending, hspent.objects]
    exact hspent.books
  known := by
    show Places.Each (FinalAction.Known s'.handed) (Function.update s'.objects id object)
    rw [hspent.handed, hspent.objects]
    cases object with
    | none => exact Places.each_update_none h.known
    | some guard => exact (Places.each_update_iff h.known).mpr (hobject guard rfl)
  known_again := hspent.handed ▸ hspent.known_again

/-- The guard takes over the action of another one. -/
theorem Spent.assign (hspent : Spent s id s') (h : Settled s) (hne : id ≠ source)
    (hsource : s.objects source = some move) (remains : Nat → Remains) :
    Settled ((s'.put source (some { action := move.action.leave remains, valid := false })).put id
      (some { action := move.action, valid := move.valid })) where
  issued := hspent.handed ▸ hspent.issued
  books := by
    have hmoved := Balanced.move hspent.books source (Function.update_self id none s.pending)
    rw [Function.update_comm hne, Function.update_idem, Function.update_of_ne hne.symm] at hmoved
    have hheld : s.pending source = move.pending := Places.held_of_some _ hsource
    rw [hheld] at hmoved
    rw [pending_put, pending_put, pending, hspent.objects, Option.bind_some, Option.bind_some,
      FinalAction.pending_invalid]
    exact hmoved
  known := by
    show Places.Each (FinalAction.Known s'.handed) (Function.update (Function.update s'.objects _ _) _ _)
    rw [hspent.handed, hspent.objects]
    have hmove := h.known source move hsource
    exact (Places.each_update_update_iff h.known hne).mpr ⟨hmove, hmove.leave remains⟩
  known_again := hspent.handed ▸ hspent.known_again

theorem Settled.construct (h : Settled s) (id : Nat) : Settled (s.construct id) := by
  rw [Guards.construct]
  cases hid : s.objects id with
  | some guard => exact h
  | none =>
    have hnew : s.handed ∉ s.trace.filterMap Event.handing := by
      rw [h.issued]
      exact List.not_mem_range_self
    constructor
    · show (s.trace ++ [Event.handed s.handed]).filterMap Event.handing = List.range (s.handed + 1)
      rw [List.filterMap_append, h.issued, List.range_succ]
      rfl
    · rw [pending_put]
      exact h.books.take hnew (Places.held_of_none _ hid) rfl rfl
    · refine (Places.each_update_iff (h.known.mono fun _ => FinalAction.Known.mono)).mpr ⟨?_, ?_⟩
      · exact fun _ => ⟨s.handed, rfl⟩
      · intro token htoken
        cases htoken
        exact Nat.lt_succ_self s.handed
    · intro token htoken
      rw [put, List.filterMap_append, List.mem_append] at htoken
      rcases htoken with hbefore | hnow
      · exact Nat.lt_succ_of_lt (h.known_again token hbefore)
      · exact absurd hnow List.not_mem_nil

theorem Settled.moveConstruct (h : Settled s) (type : ActionType) (id source : Nat) :
    Settled (s.moveConstruct type id source) := by
  rw [Guards.moveConstruct]
  cases hid : s.objects id with
  | some guard => exact h
  | none =>
    cases hsource : s.objects source with
    | none => exact h
    | some move =>
      have hne : id ≠ source := by
        rintro rfl
        exact absurd (hid.symm.trans hsource) (Option.some_ne_none move).symm
      have hspent : Spent s id s := h.spent_of_pending (Places.held_of_none _ hid)
      exact hspent.assign h hne hsource type.moved

theorem Settled.moveAssign (h : Settled s) (type : ActionType) (id source : Nat) :
    Settled (s.moveAssign type id source) := by
  rw [Guards.moveAssign]
  cases hid : s.objects id with
  | none => exact h
  | some guard =>
    cases hsource : s.objects source with
    | none => exact h
    | some move =>
      have hspent : Spent s id (if guard.valid then s.call guard else s) := by
        cases hvalid : guard.valid with
        | true => exact h.spent_call hid
        | false => exact h.spent_of_not_valid hid hvalid
      by_cases hself : id = source
      · simp only [if_pos hself]
        refine hspent.put h (FinalAction.pending_invalid _) ?_
        intro guard' hguard'
        obtain rfl := Option.some.inj hguard'
        exact (h.known id guard hid).leave type.selfMoved
      · simp only [if_neg hself]
        exact hspent.assign h hself hsource type.moved

theorem Settled.destroy (h : Settled s) (id : Nat) : Settled (s.destroy id) := by
  rw [Guards.destroy]
  cases hid : s.objects id with
  | none => exact h
  | some guard => exact (h.spent_call hid).put h rfl (fun guard' hguard' => nomatch hguard')

/-- The step lemma. -/
theorem settled_next (type : ActionType) (s : Guards) (c : GuardCall) (h : Settled s) :
    Settled ((guards type).next s c) := by
  show Settled (if s.terminated = true then s else s.perform type c)
  by_cases hterminated : s.terminated = true
  · rw [if_pos hterminated]
    exact h
  · rw [if_neg hterminated]
    cases c with
    | construct id => exact h.construct id
    | moveConstruct id source => exact h.moveConstruct type id source
    | moveAssign id source => exact h.moveAssign type id source
    | destroy id => exact h.destroy id

/-! ## Executions of moved actions -/

/-- A call of the action of a guard that is not valid is either idle or not clean. -/
theorem clean_call_iff (h : Settled s) (hid : s.objects id = some guard) :
    Clean (s.call guard) ↔ Clean s ∧ (guard.valid = true ∨ guard.action = .idle) := by
  cases hvalid : guard.valid with
  | true =>
    obtain ⟨token, -, -, hcall⟩ := h.call_valid hid hvalid
    rw [hcall, Clean, Clean, List.filterMap_append]
    show s.terminated = false ∧ _ ++ [] = [] ↔ _
    rw [List.append_nil]
    exact (and_iff_left (Or.inl rfl)).symm
  | false =>
    cases haction : guard.action with
    | runs token =>
      rw [call, haction, hvalid, Clean, List.filterMap_append]
      apply iff_of_false
      · intro hclean
        exact absurd (List.append_eq_nil_iff.mp hclean.2).2 (List.cons_ne_nil _ _)
      · rintro ⟨-, hfalse | hidle⟩
        · cases hfalse
        · cases hidle
    | idle =>
      rw [call, haction]
      exact (and_iff_left (Or.inr rfl)).symm
    | terminates =>
      rw [call, haction]
      apply iff_of_false
      · intro hclean
        cases hclean.1
      · rintro ⟨-, hfalse | hidle⟩
        · cases hfalse
        · cases hidle

theorem clean_moveAssign_iff (h : Settled s) (type : ActionType) (id source : Nat) :
    Clean (s.moveAssign type id source) ↔ Clean s := by
  rw [Guards.moveAssign]
  cases hid : s.objects id with
  | none => exact Iff.rfl
  | some guard =>
    cases hsource : s.objects source with
    | none => exact Iff.rfl
    | some move =>
      have hcall : Clean (if guard.valid then s.call guard else s) ↔ Clean s := by
        cases hvalid : guard.valid with
        | true => exact (clean_call_iff h hid).trans (and_iff_left (Or.inl hvalid))
        | false => exact Iff.rfl
      by_cases hself : id = source
      · simp only [if_pos hself]
        exact hcall
      · simp only [if_neg hself]
        exact hcall

theorem clean_next_iff (type : ActionType) (s : Guards) (c : GuardCall) (h : Settled s) :
    Clean ((guards type).next s c) ↔ Clean s ∧ s.DestroysSettled c := by
  show Clean (if s.terminated = true then s else s.perform type c) ↔ _
  by_cases hterminated : s.terminated = true
  · rw [if_pos hterminated]
    have hnot : ¬ Clean s := fun hclean => Bool.false_ne_true (hclean.1.symm.trans hterminated)
    exact iff_of_false hnot (fun hclean => hnot hclean.1)
  · rw [if_neg hterminated]
    cases c with
    | construct id =>
      apply Iff.trans _ (and_iff_left trivial).symm
      show Clean (s.construct id) ↔ Clean s
      rw [Guards.construct]
      cases s.objects id with
      | some guard => exact Iff.rfl
      | none =>
        rw [Clean, put, List.filterMap_append]
        show s.terminated = false ∧ _ ++ [] = [] ↔ _
        rw [List.append_nil]
        exact Iff.rfl
    | moveConstruct id source =>
      apply Iff.trans _ (and_iff_left trivial).symm
      show Clean (s.moveConstruct type id source) ↔ Clean s
      rw [Guards.moveConstruct]
      cases s.objects id with
      | some guard => exact Iff.rfl
      | none =>
        cases s.objects source with
        | none => exact Iff.rfl
        | some move => exact Iff.rfl
    | moveAssign id source =>
      exact (clean_moveAssign_iff h type id source).trans (and_iff_left trivial).symm
    | destroy id =>
      show Clean (s.destroy id) ↔ Clean s ∧ ∀ guard, s.objects id = some guard → _
      rw [Guards.destroy]
      cases hid : s.objects id with
      | none => exact (and_iff_left fun guard hguard => nomatch hguard).symm
      | some guard =>
        have hcall : Clean ((s.call guard).put id none) ↔ _ := clean_call_iff h hid
        rw [hcall]
        apply and_congr_right
        intro _
        constructor
        · rintro hsettled guard' hguard'
          obtain rfl := Option.some.inj hguard'
          exact hsettled
        · exact fun hsettled => hsettled guard rfl

/-! ## Once each -/

theorem Clean.executions_eq (hclean : Clean s) (token : Nat) :
    s.executions token = (s.trace.filterMap Event.due).count token := by
  rw [executions, Event.count_execution, hclean.2, List.count_nil, Nat.add_zero]

theorem Settled.mem_handed (h : Settled s) {token : Nat} (htoken : token < s.handed) :
    token ∈ {r | r ∈ s.trace.filterMap Event.handing} := by
  show token ∈ s.trace.filterMap Event.handing
  rw [h.issued]
  exact List.mem_range.mpr htoken

theorem Settled.firesOnce (h : Settled s) (hclean : Clean s) : FiresOnce s where
  alive := hclean.1
  accounted token htoken := by
    rw [hclean.executions_eq]
    exact Balanced.accounted h.books token (h.mem_handed htoken)

/-- When all guards are gone, each action was executed once by the guard it was in, so any other execution
was one too many. -/
theorem Settled.all_once_iff (h : Settled s) (hgone : ∀ id, s.objects id = none) :
    (∀ token < s.handed, s.executions token = 1) ↔ s.trace.filterMap Event.again = [] := by
  have hdue : ∀ token < s.handed, (s.trace.filterMap Event.due).count token = 1 := by
    intro token htoken
    apply Balanced.at_end h.books _ token (h.mem_handed htoken)
    exact fun id => Places.held_of_none _ (hgone id)
  constructor
  · intro honce
    rw [List.eq_nil_iff_forall_not_mem]
    intro token hagain
    have htoken := h.known_again token hagain
    have hone := honce token htoken
    rw [executions, Event.count_execution, hdue token htoken] at hone
    have hcount := List.count_pos_iff.mpr hagain
    omega
  · intro hnever token htoken
    rw [executions, Event.count_execution, hdue token htoken, hnever, List.count_nil]

end Steps

/-- Where no guard is destroyed with an action that was moved out of it and still does something, every action
is executed exactly once: it is in one guard until then, and in none after. Once all guards are gone this is
so in no other run. -/
theorem fires_once (type : ActionType) (calls : List GuardCall) :
    ((guards type).Throughout DestroysSettled initial calls →
      FiresOnce ((guards type).run initial calls)) ∧
    ((∀ id, ((guards type).run initial calls).objects id = none) →
      ((((guards type).run initial calls).terminated = false ∧
          ∀ token < ((guards type).run initial calls).handed,
            ((guards type).run initial calls).executions token = 1) ↔
        (guards type).Throughout DestroysSettled initial calls)) := by
  have hsettled : Settled ((guards type).run initial calls) := by
    have hkept : ∀ s c, Settled s → True → Settled ((guards type).next s c) :=
      fun s c h _ => settled_next type s c h
    apply (guards type).run_invariant hkept initial_settled
    exact (guards type).throughout_of_forall (fun _ _ _ => trivial) initial
  have hclean : Clean ((guards type).run initial calls) ↔
      (guards type).Throughout DestroysSettled initial calls := by
    apply ((guards type).run_iff_throughout Settled (settled_next type) (clean_next_iff type)
      initial_settled).trans
    exact and_iff_right ⟨rfl, rfl⟩
  constructor
  · exact fun hok => hsettled.firesOnce (hclean.mpr hok)
  · intro hgone
    rw [← hclean, hsettled.all_once_iff hgone]
    exact Iff.rfl

theorem fires_once_handed_on :
    FiresOnce ((guards ⟨fun _ => .nothing, fun _ => .nothing⟩).run initial
      [.construct 0, .moveConstruct 1 0, .destroy 1, .destroy 0]) := by
  refine (fires_once _ _).1 ⟨trivial, trivial, ?_, ?_, trivial⟩
  · intro guard hguard
    exact Or.inl (Option.some.inj hguard ▸ rfl)
  · intro guard hguard
    exact Or.inr (Option.some.inj hguard ▸ rfl)

/-- A closure that is moved from one guard to another is executed by both. -/
theorem closure_fires_twice :
    ¬ ∀ calls, (∀ id, ((guards closure).run initial calls).objects id = none) →
      ∀ token < ((guards closure).run initial calls).handed,
        ((guards closure).run initial calls).executions token = 1 := by
  intro h
  have honce := h [.construct 0, .moveConstruct 1 0, .destroy 1, .destroy 0] ?_ 0 (by decide)
  · exact absurd honce (by decide)
  · intro id
    show Function.update (Function.update (Function.update (Function.update (Function.update
      (fun _ => none) 0 _) 0 _) 1 _) 1 none) 0 none id = none
    by_cases hfirst : id = 0
    · rw [hfirst, Function.update_self]
    · rw [Function.update_of_ne hfirst]
      by_cases hsecond : id = 1
      · rw [hsecond, Function.update_self]
      · rw [Function.update_of_ne hsecond, Function.update_of_ne hsecond, Function.update_of_ne hfirst,
          Function.update_of_ne hfirst]

end Guards

end Ysqlite3.Finally
