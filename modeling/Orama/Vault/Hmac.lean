import Orama.Lib.Sha256

namespace Orama.Vault.Hmac
open Lib

def macSize : Nat := 32
def compute (key data : Bytes) : Bytes := Sha256.hmac key data

def constantTimeEqual (a b : Bytes) : Bool :=
  if a.length ≠ b.length then false
  else (a.zip b).foldl (fun diff p => diff ||| (p.1 ^^^ p.2)) 0 = 0

def verify (key data expected : Bytes) : Bool := constantTimeEqual (compute key data) expected

lemma or_eq_zero {x y : UInt8} : x ||| y = 0 ↔ x = 0 ∧ y = 0 := by
  rw [← UInt8.toNat_inj, ← UInt8.toNat_inj, ← UInt8.toNat_inj, UInt8.toNat_or]
  exact Nat.or_eq_zero_iff

lemma foldl_diff_eq_zero (ps : List (UInt8 × UInt8)) (diff : UInt8) :
    ps.foldl (fun diff p => diff ||| (p.1 ^^^ p.2)) diff = 0 ↔ diff = 0 ∧ ∀ p ∈ ps, p.1 = p.2 := by
  induction ps generalizing diff with
  | nil => simp
  | cons p ps ih => rw [List.foldl_cons, ih, or_eq_zero, UInt8.xor_eq_zero_iff, List.forall_mem_cons, and_assoc]

lemma constantTimeEqual_iff {a b : Bytes} : constantTimeEqual a b ↔ a = b := by
  unfold constantTimeEqual
  split
  · next h => exact ⟨nofun, fun he => absurd (congrArg List.length he) h⟩
  · next h =>
    have hlen : a.length = b.length := not_not.mp h
    rw [decide_eq_true_eq, foldl_diff_eq_zero]
    constructor
    · rintro ⟨_, hp⟩
      apply List.ext_getElem hlen
      intro i h1 h2
      have hz : i < (a.zip b).length := by simp [hlen, h2]
      have hm := hp _ (List.getElem_mem hz)
      simpa using hm
    · rintro rfl
      refine ⟨rfl, fun p hp => ?_⟩
      obtain ⟨i, hi, rfl⟩ := List.mem_iff_getElem.mp hp
      simp

lemma verify_iff {key data expected : Bytes} :
    verify key data expected ↔ compute key data = expected := constantTimeEqual_iff

lemma length_compute (key data : Bytes) : (compute key data).length = macSize :=
  Sha256.length_hmac key data

end Orama.Vault.Hmac
