import Mathlib.Data.List.Basic

/-!
# Authenticated encryption

A stream-like authenticated cipher: encryption keeps the length and is undone by decryption under
the same key and nonce, and a tag authenticates a ciphertext. `Produced` is the table of the ideal
functionality: the sealings made so far.
-/

/-- Authenticated encryption with keys `κ` and nonces `ν`, over symbols `β` with tags `τ`. -/
structure Aead (κ ν β τ : Type*) where
  encrypt : κ → ν → List β → List β
  decrypt : κ → ν → List β → List β
  /-- The tag of a ciphertext. -/
  tag : κ → ν → List β → τ
  length_encrypt : ∀ k n m, (encrypt k n m).length = m.length
  length_decrypt : ∀ k n c, (decrypt k n c).length = c.length
  decrypt_encrypt : ∀ k n m, decrypt k n (encrypt k n m) = m

/-- One encryption: the key and nonce used, and what was encrypted. -/
structure Sealing (κ ν β : Type*) where
  key : κ
  nonce : ν
  plaintext : List β
  deriving DecidableEq

namespace Aead

variable {κ ν β τ : Type*} (A : Aead κ ν β τ)

attribute [simp] length_encrypt length_decrypt decrypt_encrypt

/-- The ciphertext and tag under key `k` and nonce `n` came out of one of the encryptions of
`log`. -/
def Produced (log : List (Sealing κ ν β)) (k : κ) (n : ν) (c : List β) (t : τ) : Prop :=
  ∃ e ∈ log, e.key = k ∧ e.nonce = n ∧ A.encrypt k n e.plaintext = c ∧ A.tag k n c = t

/-- What decrypts to something was encrypted from it. -/
theorem decrypt_of_produced {log : List (Sealing κ ν β)} {k : κ} {n : ν} {c : List β} {t : τ}
    (h : A.Produced log k n c t) :
    ∃ e ∈ log, e.key = k ∧ e.nonce = n ∧ e.plaintext = A.decrypt k n c := by
  obtain ⟨e, he, hk, hn, hc, -⟩ := h
  exact ⟨e, he, hk, hn, by rw [← hc, decrypt_encrypt]⟩

end Aead
