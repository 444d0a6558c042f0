import Mathlib.Data.List.Basic

/-!
# Hashing piece by piece

A hasher is started for an algorithm, given pieces of data and asked for the hash. It is lawful for a hash
function when what it has been given only counts as a whole, whatever it was used for before.
-/

/-- Incremental hashing with algorithms `μ` and contexts `σ`, over symbols `α`. -/
structure Hasher (μ σ α : Type*) where
  /-- A context that was used before is started again. -/
  init : μ → σ → σ
  update : σ → List α → σ
  final : σ → List α

namespace Hasher

variable {μ σ α : Type*}

/-- The context after some pieces of data. -/
def absorb (H : Hasher μ σ α) (s : σ) (pieces : List (List α)) : σ := pieces.foldl H.update s

/-- `H` computes `hash`: `absorbed s m data` says that the context was started for `m` and given `data` in
all. -/
structure Lawful (H : Hasher μ σ α) (hash : μ → List α → List α) where
  absorbed : σ → μ → List α → Prop
  init : ∀ m s, absorbed (H.init m s) m []
  update : ∀ {s m data}, absorbed s m data → ∀ piece, absorbed (H.update s piece) m (data ++ piece)
  final : ∀ {s m data}, absorbed s m data → H.final s = hash m data

namespace Lawful

variable {H : Hasher μ σ α} {hash : μ → List α → List α}

/-- Pieces add up. -/
theorem absorb (h : H.Lawful hash) {m : μ} {pieces : List (List α)} :
    ∀ {s : σ} {data : List α}, h.absorbed s m data →
      h.absorbed (H.absorb s pieces) m (data ++ pieces.flatten) := by
  induction pieces with
  | nil =>
    intro s data hs
    rw [List.flatten_nil, List.append_nil]
    exact hs
  | cons piece pieces ih =>
    intro s data hs
    rw [List.flatten_cons, ← List.append_assoc]
    exact ih (h.update hs piece)

/-- The hash of the pieces is the hash of the whole. -/
theorem final_absorb (h : H.Lawful hash) (m : μ) (s : σ) (pieces : List (List α)) :
    H.final (H.absorb (H.init m s) pieces) = hash m pieces.flatten :=
  h.final (h.absorb (h.init m s))

end Lawful

/-- The hasher that keeps what it is given. -/
def collecting (hash : μ → List α → List α) : Hasher μ (μ × List α) α where
  init m _ := (m, [])
  update s piece := (s.1, s.2 ++ piece)
  final s := hash s.1 s.2

def collecting_lawful (hash : μ → List α → List α) : (collecting hash).Lawful hash where
  absorbed s m data := s = (m, data)
  init _ _ := rfl
  update := by
    rintro s m data rfl piece
    rfl
  final := by
    rintro s m data rfl
    rfl

end Hasher
