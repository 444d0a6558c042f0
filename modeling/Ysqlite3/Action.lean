import Ysqlite3.Error

/-!
# Functions that can throw

A C++ function over a state, as an action: it returns, throws or has undefined behaviour, each in the
state it got to. The simp set evaluates an action from the left.
-/

namespace Ysqlite3

/-- A function over the state `σ`. -/
def Action (σ α : Type) : Type := σ → Outcome σ α

namespace Outcome

variable {σ α β : Type}

/-- The rest of a function after its first step. -/
def andThen (f : α → Action σ β) : Outcome σ α → Outcome σ β
  | returns a s => f a s
  | throws e s => throws e s
  | undefined => undefined

@[simp] theorem andThen_returns (f : α → Action σ β) (a : α) (s : σ) :
    (returns a s).andThen f = f a s := rfl
@[simp] theorem andThen_throws (f : α → Action σ β) (e : Exception) (s : σ) :
    (throws e s).andThen f = throws e s := rfl
@[simp] theorem andThen_undefined (f : α → Action σ β) : undefined.andThen f = undefined := rfl

/-- Every state the function can end in satisfies `p`. -/
def Ends (p : σ → Prop) : Outcome σ α → Prop
  | returns _ s => p s
  | throws _ s => p s
  | undefined => True

theorem Ends.mono {p q : σ → Prop} {outcome : Outcome σ α} (h : outcome.Ends p)
    (himp : ∀ s, p s → q s) : outcome.Ends q := by
  cases outcome with
  | returns a s => exact himp s h
  | throws e s => exact himp s h
  | undefined => trivial

/-- What is done on the way out if an exception leaves the function. -/
def onThrow (cleanup : σ → σ) : Outcome σ α → Outcome σ α
  | throws e s => throws e (cleanup s)
  | outcome => outcome

@[simp] theorem onThrow_returns (cleanup : σ → σ) (a : α) (s : σ) :
    (returns a s).onThrow cleanup = returns a s := rfl
@[simp] theorem onThrow_throws (cleanup : σ → σ) (e : Exception) (s : σ) :
    (throws e s : Outcome σ α).onThrow cleanup = throws e (cleanup s) := rfl
@[simp] theorem onThrow_undefined (cleanup : σ → σ) :
    (undefined : Outcome σ α).onThrow cleanup = undefined := rfl

end Outcome

namespace Action

variable {σ α β : Type}

instance : Monad (Action σ) where
  pure a := fun s => .returns a s
  bind x f := fun s => (x s).andThen f

@[simp] theorem pure_apply (a : α) (s : σ) : (pure a : Action σ α) s = .returns a s := rfl
@[simp] theorem bind_apply (x : Action σ α) (f : α → Action σ β) (s : σ) :
    (x >>= f) s = (x s).andThen f := rfl

/-- `throw` -/
def raise (e : Exception) : Action σ α := fun s => .throws e s

/-- Reads a part of the state. -/
def get (part : σ → α) : Action σ α := fun s => .returns (part s) s

/-- Changes the state. -/
def modify (f : σ → σ) : Action σ Unit := fun s => .returns () (f s)

/-- `finally`, which runs however the function is left. -/
def withFinally (cleanup : σ → σ) (action : Action σ α) : Action σ α :=
  fun s => (action s).mapState cleanup

/-- The destructor of an object that is given away unless an exception is thrown. -/
def guarded (cleanup : σ → σ) (action : Action σ α) : Action σ α :=
  fun s => (action s).onThrow cleanup

@[simp] theorem raise_apply (e : Exception) (s : σ) : (raise e : Action σ α) s = .throws e s := rfl
@[simp] theorem get_apply (part : σ → α) (s : σ) : get part s = .returns (part s) s := rfl
@[simp] theorem modify_apply (f : σ → σ) (s : σ) : modify f s = .returns () (f s) := rfl
@[simp] theorem withFinally_apply (cleanup : σ → σ) (action : Action σ α) (s : σ) :
    withFinally cleanup action s = (action s).mapState cleanup := rfl
@[simp] theorem guarded_apply (cleanup : σ → σ) (action : Action σ α) (s : σ) :
    guarded cleanup action s = (action s).onThrow cleanup := rfl

end Action

end Ysqlite3
