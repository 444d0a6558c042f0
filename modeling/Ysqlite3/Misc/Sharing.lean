import Ysqlite3.Misc.Component
import Mathlib.Logic.Function.Basic

/-!
# Components that share a resource

Any number of instances of a component work on one resource, which is a part of the state of each. Instances
come and go and are called in any order, and the resource can change on its own. When every call can be told
from the resource alone, all instances together answer as one abstract component does.
-/

/-- A part of a state. -/
structure StatePart (σ φ : Type*) where
  get : σ → φ
  set : φ → σ → σ
  get_set : ∀ part s, get (set part s) = part

/-- The instances, and what they share. -/
structure Instances (ω σ φ : Type*) where
  instances : ω → Option σ
  resource : φ

/-- A call, made through one of the instances; an instance that comes, if it can be made, or goes; or a change
of the resource from outside. -/
inductive InstanceCall (ω σ φ κ ε : Type*) where
  | opens (id : ω) (construct : φ → Option σ)
  | closes (id : ω)
  | call (id : ω) (c : κ)
  | changes (e : ε)

namespace Component

variable {ω σ φ κ ε ρ α ρ' : Type*} [DecidableEq ω]

/-- The instances of a component. -/
def shared (C : Component σ κ ρ) (part : StatePart σ φ) (effect : φ → ε → φ) :
    Component (Instances ω σ φ) (InstanceCall ω σ φ κ ε) (Option ρ) where
  step s
    | .opens id construct =>
      (none, { s with instances := Function.update s.instances id (construct s.resource) })
    | .closes id => (none, { s with instances := Function.update s.instances id none })
    | .call id c =>
      match s.instances id with
      | none => (none, s)
      | some instance' =>
        let (reply, next) := C.step (part.set s.resource instance') c
        (some reply,
          { instances := Function.update s.instances id (some next), resource := part.get next })
    | .changes e => (none, { s with resource := effect s.resource e })

/-- A call leaves the other instances. -/
theorem shared_call_ne (C : Component σ κ ρ) (part : StatePart σ φ) (effect : φ → ε → φ) (s : Instances ω σ φ)
    {id id' : ω} (h : id' ≠ id) (c : κ) :
    ((C.shared part effect).next s (.call id c)).instances id' = s.instances id' := by
  unfold next shared
  cases hid : s.instances id with
  | none => simp only [hid]
  | some instance' =>
    simp only [hid]
    exact Function.update_of_ne h _ _

theorem shared_reply (C : Component σ κ ρ) (part : StatePart σ φ) (effect : φ → ε → φ) {s : Instances ω σ φ} {id : ω}
    {instance' : σ} (h : s.instances id = some instance') (c : κ) :
    (C.shared part effect).reply s (.call id c) = some (C.reply (part.set s.resource instance') c) := by
  unfold reply shared
  simp only [h]

/-- What `f` finds in the calls that instances get. -/
def observed {β : Type*} (part : StatePart σ φ) (f : σ → κ → List β) (s : Instances ω σ φ) :
    InstanceCall ω σ φ κ ε → List β
  | .call id c =>
    match s.instances id with
    | none => []
    | some instance' => f (part.set s.resource instance') c
  | _ => []

/-- What is found in a run is found in a call that an instance got. -/
theorem mem_collect_observed {β : Type*} (C : Component σ κ ρ) (part : StatePart σ φ) (effect : φ → ε → φ)
    {f : σ → κ → List β} {calls : List (InstanceCall ω σ φ κ ε)} {s : Instances ω σ φ} {b : β}
    (h : b ∈ (C.shared part effect).collect (observed part f) s calls) :
    ∃ before id c after instance', calls = before ++ .call id c :: after ∧
      ((C.shared part effect).run s before).instances id = some instance' ∧
      b ∈ f (part.set ((C.shared part effect).run s before).resource instance') c := by
  obtain ⟨before, call, after, rfl, hb⟩ := mem_collect _ _ h
  cases call with
  | opens id construct => cases hb
  | closes id => cases hb
  | changes e => cases hb
  | call id c =>
    cases hid : ((C.shared part effect).run s before).instances id with
    | none =>
      simp only [observed, hid] at hb
      cases hb
    | some instance' =>
      simp only [observed, hid] at hb
      exact ⟨before, id, c, after, instance', rfl, hid, hb⟩

/-- The abstract component does not know the instances. -/
def merged (ω σ φ : Type*) (A : Component α κ ρ') (effect : α → ε → α) :
    Component α (InstanceCall ω σ φ κ ε) (Option ρ') where
  step a
    | .opens _ _ => (none, a)
    | .closes _ => (none, a)
    | .call _ c => (some (A.reply a c), A.next a c)
    | .changes e => (none, effect a e)

/-- A call goes through an instance in a state that permits it, a change happens to a resource that permits
it. -/
def Permits (part : StatePart σ φ) (ok : σ → κ → Prop) (okChange : φ → ε → Prop) (s : Instances ω σ φ) :
    InstanceCall ω σ φ κ ε → Prop
  | .opens _ _ => True
  | .closes _ => True
  | .call id c => ∃ instance', s.instances id = some instance' ∧ ok (part.set s.resource instance') c
  | .changes e => okChange s.resource e

section Merging

variable {C : Component σ κ ρ} {part : StatePart σ φ} {effect : φ → ε → φ} {A : Component α κ ρ'}
  {effect' : α → ε → α} {R : φ → α → Prop} {Rel : ρ → ρ' → Prop} {ok : σ → κ → Prop}
  {okChange : φ → ε → Prop}

theorem shared_step
    (hcall : ∀ s a c, R (part.get s) a → ok s c →
      Rel (C.reply s c) (A.reply a c) ∧ R (part.get (C.next s c)) (A.next a c))
    (hchange : ∀ r a e, R r a → okChange r e → R (effect r e) (effect' a e))
    (s : Instances ω σ φ) (a : α) (c : InstanceCall ω σ φ κ ε) (hR : R s.resource a)
    (hok : Permits part ok okChange s c) :
    Option.Rel Rel ((C.shared part effect).reply s c) ((merged ω σ φ A effect').reply a c) ∧
      R ((C.shared part effect).next s c).resource ((merged ω σ φ A effect').next a c) := by
  cases c with
  | opens id construct => exact ⟨.none, hR⟩
  | closes id => exact ⟨.none, hR⟩
  | changes e => exact ⟨.none, hchange s.resource a e hR hok⟩
  | call id c =>
    obtain ⟨instance', hid, hok⟩ := hok
    have hR' : R (part.get (part.set s.resource instance')) a := by
      rw [part.get_set]
      exact hR
    obtain ⟨hrel, hnext⟩ := hcall _ a c hR' hok
    unfold reply next shared
    simp only [hid]
    exact ⟨.some hrel, hnext⟩

/-- Over a whole run the instances answer as the abstract component does, and their resource stands for its
state. -/
theorem shared_related
    (hcall : ∀ s a c, R (part.get s) a → ok s c →
      Rel (C.reply s c) (A.reply a c) ∧ R (part.get (C.next s c)) (A.next a c))
    (hchange : ∀ r a e, R r a → okChange r e → R (effect r e) (effect' a e))
    {calls : List (InstanceCall ω σ φ κ ε)} {s : Instances ω σ φ} {a : α} (hR : R s.resource a)
    (hok : (C.shared part effect).Throughout (Permits part ok okChange) s calls) :
    List.Forall₂ (Option.Rel Rel) ((C.shared part effect).replies s calls)
        ((merged ω σ φ A effect').replies a calls) ∧
      R ((C.shared part effect).run s calls).resource ((merged ω σ φ A effect').run a calls) := by
  -- The calls are permitted by the instances themselves.
  have hstep : ∀ s a g c, g = s ∧ R s.resource a → Permits part ok okChange g c →
      Option.Rel Rel ((C.shared part effect).reply s c) ((merged ω σ φ A effect').reply a c) ∧
        ((C.shared part effect).next g c = (C.shared part effect).next s c ∧
          R ((C.shared part effect).next s c).resource ((merged ω σ φ A effect').next a c)) := by
    rintro s a g c ⟨rfl, hR⟩ hok
    obtain ⟨hrel, hnext⟩ := shared_step hcall hchange g a c hR hok
    exact ⟨hrel, rfl, hnext⟩
  exact ⟨replies_related hstep ⟨rfl, hR⟩ hok, (run_related hstep ⟨rfl, hR⟩ hok).2⟩

end Merging

/-! ## A register of the resource -/

/-- What `f` finds in a call that an instance got and in its reply. -/
def answered {β : Type*} (f : κ → ρ → Option β) : InstanceCall ω σ φ κ ε × Option ρ → Option β
  | (.call _ c, some reply) => f c reply
  | _ => none

/-- A part of the resource that each call sets by what it is and what it is answered, and that no change from
outside concerns, holds what the last such call set, through whichever instance. -/
theorem resource_observed {β : Type*} (C : Component σ κ ρ) (part : StatePart σ φ) (effect : φ → ε → φ)
    {ok : σ → κ → Prop} {okChange : φ → ε → Prop} (Inv : φ → Prop) (get : φ → β) (f : κ → ρ → Option β)
    (hcall : ∀ s c, Inv (part.get s) → ok s c → Inv (part.get (C.next s c)) ∧
      get (part.get (C.next s c)) = (f c (C.reply s c)).getD (get (part.get s)))
    (hchange : ∀ r e, Inv r → okChange r e → Inv (effect r e) ∧ get (effect r e) = get r)
    {calls : List (InstanceCall ω σ φ κ ε)} {s : Instances ω σ φ} (hs : Inv s.resource)
    (hok : (C.shared part effect).Throughout (Permits part ok okChange) s calls) :
    Inv ((C.shared part effect).run s calls).resource ∧
      get ((C.shared part effect).run s calls).resource =
        lastOf (answered f) (get s.resource) (calls.zip ((C.shared part effect).replies s calls)) := by
  have hstep : ∀ (s : Instances ω σ φ) c, Inv s.resource → Permits part ok okChange s c →
      Inv ((C.shared part effect).next s c).resource ∧
        get ((C.shared part effect).next s c).resource =
          (answered f (c, (C.shared part effect).reply s c)).getD (get s.resource) := by
    intro s c hI hok
    cases c with
    | opens id construct => exact ⟨hI, rfl⟩
    | closes id => exact ⟨hI, rfl⟩
    | changes e => exact hchange s.resource e hI hok
    | call id c =>
      obtain ⟨instance', hid, hok⟩ := hok
      have hresource : part.get (part.set s.resource instance') = s.resource := part.get_set _ _
      have hnext : ((C.shared part effect).next s (.call id c)).resource =
          part.get (C.next (part.set s.resource instance') c) := by
        unfold next shared
        simp only [hid]
      rw [shared_reply C part effect hid, hnext]
      rw [← hresource] at hI
      have hboth := hcall _ c hI hok
      rw [hresource] at hboth
      exact hboth
  constructor
  · exact (C.shared part effect).run_invariant (fun s c hI hok => (hstep s c hI hok).1) hs hok
  · exact (C.shared part effect).run_observed (fun s => Inv s.resource) (fun s => get s.resource)
      (fun c reply => answered f (c, reply)) (fun s c hI hok => (hstep s c hI hok).1)
      (fun s c hI hok => (hstep s c hI hok).2) hs hok

end Component
