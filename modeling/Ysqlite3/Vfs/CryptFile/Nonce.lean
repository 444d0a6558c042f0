import Ysqlite3.Vfs.CryptFile.Calls
import Mathlib.Data.List.Nodup
import Mathlib.Data.List.ReduceOption

/-!
# Nonces

`_generate_iv` does not look at the result of `RAND_bytes`. As long as every call of it succeeds, the
IVs of a run are as distinct as the bytes it draws.
-/

namespace Ysqlite3.Vfs

open PageTransformingFile Crypt

variable {σ : Type}

section Definitions

variable (ssl : OpenSsl) (P : File σ)

/-- The IVs that a page write returning success has encrypted with. -/
def writeIvs (self : PageTransformingFile Crypt σ) : CryptCall σ → List Bytes
  | .write buffer offset calls =>
    match (cryptFile ssl P).step self (.write buffer offset calls) with
    | (.done, self') =>
      (sealings (self'.derived.log.drop self.derived.log.length)).map Sealing.nonce
    | _ => []
  | _ => []

/-- What `RAND_bytes` comes to in a page write that encrypts and returns success. -/
def draws (self : PageTransformingFile Crypt σ) : CryptCall σ → List (Option (Vector UInt8 8))
  | .write buffer offset calls =>
    match (cryptFile ssl P).reply self (.write buffer offset calls) with
    | .done =>
      if isPage P.format buffer.val.length ∧ self.derived.writing.cipher ≠ none then [calls.rand]
      else []
    | _ => []
  | _ => []

/-- No two page writes of the run that return success encrypt with the same IV. -/
def NoncesDistinct (self : PageTransformingFile Crypt σ) (calls : List (CryptCall σ)) : Prop :=
  ((cryptFile ssl P).collect (writeIvs ssl P) self calls).Nodup

end Definitions

section Step

variable {ssl : OpenSsl} {P : File σ} {self : PageTransformingFile Crypt σ}

/-- A write encrypts at most once, and then it has drawn the first bytes of its IV. -/
theorem writeIvs_cases (ssl : OpenSsl) (P : File σ) (self : PageTransformingFile Crypt σ)
    (c : CryptCall σ) :
    writeIvs ssl P self c = [] ∨
      ∃ calls span, 32 ≤ span.length ∧ writeIvs ssl P self c = [spanIv calls span] ∧
        draws ssl P self c = [calls.rand] := by
  cases c with
  | read buffer offset calls => exact Or.inl rfl
  | pragma name value kdf => exact Or.inl rfl
  | tamper parent => exact Or.inl rfl
  | write buffer offset calls =>
    simp only [writeIvs, draws, Component.reply, cryptFile]
    cases hwrite : write (transformer ssl) P calls buffer.val offset self with
    | undefined => exact Or.inl rfl
    | throws e self' => exact Or.inl rfl
    | returns _ self' =>
      simp only [FileReply.ofUnit]
      by_cases hpage : isPage P.format buffer.val.length = true
      · obtain ⟨hf, hsize⟩ := isPage_iff.mp hpage
        have hclear := clearSize_le .mainDb offset
        obtain ⟨-, page, hencode, -⟩ := write_page_returns hf hsize hwrite
        rw [transformer_encodePage] at hencode
        obtain ⟨hderived, -⟩ := encode_returned hsize buffer.property hencode
        rw [hderived, log_logged, List.drop_left]
        cases hc : self.derived.writing.cipher with
        | none =>
          left
          simp [writeEvents, hc, sealings]
        | some cipher =>
          right
          refine ⟨calls, buffer.val.drop (clearSize .mainDb offset), by simp; omega, ?_, ?_⟩
          · simp [writeEvents, hc, sealings, sealEvents]
          · simp [hpage]
      · left
        rw [write_raw_derived (Bool.eq_false_iff.mpr hpage) hwrite]
        simp [sealings]

/-- What one call draws, if `RAND_bytes` does not fail, its IVs begin with. -/
theorem writeIvs_sublist_draws (ssl : OpenSsl) (P : File σ) (self : PageTransformingFile Crypt σ)
    (c : CryptCall σ) (hrand : none ∉ draws ssl P self c) :
    ((writeIvs ssl P self c).map (List.take 8)).Sublist
      ((draws ssl P self c).reduceOption.map Vector.toList) := by
  rcases writeIvs_cases ssl P self c with hnone | ⟨rand, span, h32, hiv, hdraw⟩
  · rw [hnone]
    exact List.nil_sublist _
  · rw [hdraw, List.mem_singleton] at hrand
    obtain ⟨bytes, hbytes⟩ := Option.ne_none_iff_exists'.mp (Ne.symm hrand)
    have htake : (spanIv rand span).take 8 = bytes.toList :=
      take_generateIv hbytes (by simp; omega)
    rw [hiv, hdraw, hbytes]
    simp [htake, List.reduceOption]

/-- The first eight bytes of the IVs of a run are among the bytes it has drawn, in order. -/
theorem collect_writeIvs_sublist (ssl : OpenSsl) (P : File σ) (calls : List (CryptCall σ)) :
    ∀ self, none ∉ (cryptFile ssl P).collect (draws ssl P) self calls →
      (((cryptFile ssl P).collect (writeIvs ssl P) self calls).map (List.take 8)).Sublist
        (((cryptFile ssl P).collect (draws ssl P) self calls).reduceOption.map Vector.toList) := by
  induction calls with
  | nil => intro self _; exact List.Sublist.slnil
  | cons c calls ih =>
    intro self hrand
    simp only [Component.collect, List.mem_append, not_or] at hrand
    simp only [Component.collect, List.map_append, List.reduceOption_append]
    exact (writeIvs_sublist_draws ssl P self c hrand.1).append (ih _ hrand.2)

end Step

/-- Nonces never repeat while `RAND_bytes` works: if what it yields to the page writes that encrypt and
return success is pairwise distinct, and it fails in none of them, no two of them encrypt with the same
IV. -/
theorem noncesDistinct (ssl : OpenSsl) (P : File σ) (self : PageTransformingFile Crypt σ)
    (calls : List (CryptCall σ))
    (hdistinct : ((cryptFile ssl P).collect (draws ssl P) self calls).reduceOption.Nodup)
    (hrand : none ∉ (cryptFile ssl P).collect (draws ssl P) self calls) :
    NoncesDistinct ssl P self calls := by
  have hinj : Function.Injective (Vector.toList : Vector UInt8 8 → List UInt8) := by
    intro a b hab
    exact Vector.toList_inj.mp hab
  have hbytes := hdistinct.map hinj
  exact (hbytes.sublist (collect_writeIvs_sublist ssl P calls self hrand)).of_map _

/-- Two pages of a small file, and the OpenSSL calls made for them. -/
def twoWrites (first second : CryptoCalls) : List (CryptCall Bytes) :=
  [.write (filledPage 7) 512 first, .write (filledPage 7) 1024 second]

/-- The same page written to two places while `RAND_bytes` fails: both are encrypted with the IV the
page happens to hold. -/
theorem nonce_repeats :
    let P : File Bytes := SQLite3FileWrapper .mainDb storeMethods
    let self : PageTransformingFile Crypt Bytes :=
      ⟨[], ⟨false, ⟨some .aes256Gcm, Vector.replicate 32 5⟩, Encryptor.initial, []⟩, [], 0⟩
    let failing : CryptoCalls := { CryptoCalls.succeed (Vector.replicate 8 0) with rand := none }
    ((cryptFile maskSsl P).collect (draws maskSsl P) self
        (twoWrites failing failing)).reduceOption.Nodup ∧
      ¬ NoncesDistinct maskSsl P self (twoWrites failing failing) := by
  unfold NoncesDistinct
  decide +kernel

/-- The same writes while `RAND_bytes` works. -/
theorem twoWrites_noncesDistinct :
    let P : File Bytes := SQLite3FileWrapper .mainDb storeMethods
    let self : PageTransformingFile Crypt Bytes :=
      ⟨[], ⟨false, ⟨some .aes256Gcm, Vector.replicate 32 5⟩, Encryptor.initial, []⟩, [], 0⟩
    NoncesDistinct maskSsl P self
      (twoWrites (.succeed (Vector.replicate 8 1)) (.succeed (Vector.replicate 8 2))) :=
  noncesDistinct maskSsl _ _ _ (by decide +kernel) (by decide +kernel)

end Ysqlite3.Vfs
