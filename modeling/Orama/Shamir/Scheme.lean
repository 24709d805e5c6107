import Orama.Lib.Interpolation
import Orama.Lib.Loop
import Orama.Shamir.Field

namespace Orama.Shamir
open Lib.Interpolation List

@[ext]
structure Share where
  x : UInt8
  y : List UInt8
deriving DecidableEq, Repr

abbrev Tape := Nat → Nat → UInt8

def coefficients (constant : UInt8) (k : Nat) (random : Nat → UInt8) : List UInt8 :=
  constant :: (List.range (k - 1)).map random

def evalByte (coeffs : List UInt8) (x : UInt8) : UInt8 := (horner ⟨x⟩ (coeffs.map GF256.mk)).byte

def shareOf (secret : List UInt8) (k : Nat) (tape : Tape) (x : UInt8) : Share :=
  ⟨x, (List.range secret.length).map fun b => evalByte (coefficients (secret.getD b 0) k (tape b)) x⟩

def sharesOf (secret : List UInt8) (n k : Nat) (tape : Tape) : List Share :=
  (List.range n).map fun i => shareOf secret k tape (UInt8.ofNat (i + 1))

structure Admissible (secret : List UInt8) (n k : Int) : Prop where
  two_le : 2 ≤ k
  k_le : k ≤ n
  n_le : n ≤ 255
  nonempty : secret.length ≠ 0

def secretLen (shares : List Share) : Nat := (shares.head?.map fun s => s.y.length).getD 0

structure Valid (shares : List Share) : Prop where
  two_le : 2 ≤ shares.length
  x_ne_zero : ∀ s ∈ shares, s.x ≠ 0
  y_length : ∀ s ∈ shares, s.y.length = secretLen shares
  nodup : (shares.map Share.x).Nodup

def reconstructByte (shares : List Share) (b : Nat) : GF256 :=
  lagrangeZero (fun i : Fin shares.length => (⟨shares[i].x⟩ : GF256))
    (fun i => ⟨shares[i].y.getD b 0⟩)

def reconstruct (shares : List Share) : List UInt8 :=
  (List.range (secretLen shares)).map fun b => (reconstructByte shares b).byte

lemma Valid.injective_x {shares : List Share} (h : Valid shares) :
    Function.Injective fun i : Fin shares.length => (⟨shares[i].x⟩ : GF256) := by
  intro i j hij
  have hx : shares[i].x = shares[j].x := congrArg GF256.byte hij
  have hi : i.val < (shares.map Share.x).length := by simp
  have hj : j.val < (shares.map Share.x).length := by simp
  have he := @nodup_iff_injective_get.mp h.nodup ⟨i, hi⟩ ⟨j, hj⟩ (by simpa using hx)
  exact Fin.ext (Fin.mk.inj he)

structure Sharing (secret : List UInt8) (k : Nat) (shares : List Share) : Prop where
  x_ne_zero : ∀ s ∈ shares, s.x ≠ 0
  nodup : (shares.map Share.x).Nodup
  on_poly : ∃ tails : Nat → List GF256, (∀ b, (tails b).length + 1 = k) ∧
    ∀ s ∈ shares, s.y = (List.range secret.length).map fun b =>
      (horner ⟨s.x⟩ (⟨secret.getD b 0⟩ :: tails b)).byte

lemma map_mk_getD (l : List UInt8) : (List.range l.length).map (fun b => l.getD b 0) = l := by
  apply ext_getElem
  · simp
  · intro b h1 h2
    simp [getD_eq_getElem?_getD, h2]

lemma point_ne_zero {i : Nat} (h : i < 255) : UInt8.ofNat (i + 1) ≠ 0 := by
  intro h0
  have hn := congrArg UInt8.toNat h0
  rw [UInt8.toNat_ofNat', Nat.mod_eq_of_lt (by omega)] at hn
  simp at hn

lemma point_injective {i j : Nat} (hi : i < 255) (hj : j < 255)
    (h : UInt8.ofNat (i + 1) = UInt8.ofNat (j + 1)) : i = j := by
  grind [UInt8.toNat_ofNat']

lemma sharing_sharesOf (secret : List UInt8) (n k : Nat) (tape : Tape) (hk : 1 ≤ k) (hn : n ≤ 255) :
    Sharing secret k (sharesOf secret n k tape) where
  x_ne_zero := by
    intro s hs
    obtain ⟨i, hi, rfl⟩ := mem_map.mp hs
    exact point_ne_zero ((mem_range.mp hi).trans_le hn)
  nodup := by
    rw [sharesOf, map_map]
    apply List.Nodup.map_on _ nodup_range
    intro i hi j hj h
    exact point_injective ((mem_range.mp hi).trans_le hn) ((mem_range.mp hj).trans_le hn) h
  on_poly := by
    refine ⟨fun b => ((List.range (k - 1)).map (tape b)).map GF256.mk, ?_, ?_⟩
    · intro b
      simp
      omega
    · intro s hs
      obtain ⟨i, _, rfl⟩ := mem_map.mp hs
      rfl

namespace Sharing
variable {secret : List UInt8} {k : Nat} {shares sub : List Share}

section
variable (h : Sharing secret k shares)
include h

lemma y_length {s : Share} (hs : s ∈ shares) : s.y.length = secret.length := by
  obtain ⟨tails, _, hy⟩ := h.on_poly
  rw [hy s hs, length_map, length_range]

lemma secretLen_eq (hne : sub ≠ []) (hsub : ∀ s ∈ sub, s ∈ shares) : secretLen sub = secret.length := by
  cases sub with
  | nil => exact absurd rfl hne
  | cons s sub => exact h.y_length (hsub s (by simp))

lemma eq_of_x_eq {s t : Share} (hs : s ∈ shares) (ht : t ∈ shares)
    (hx : s.x = t.x) : s = t := inj_on_of_nodup_map h.nodup hs ht hx

lemma valid (hsub : ∀ s ∈ sub, s ∈ shares) (hnd : sub.Nodup) (h2 : 2 ≤ sub.length) : Valid sub where
  two_le := h2
  x_ne_zero s hs := h.x_ne_zero s (hsub s hs)
  y_length s hs := by
    have hne : sub ≠ [] := ne_nil_of_mem hs
    rw [h.secretLen_eq hne hsub]
    exact h.y_length (hsub s hs)
  nodup := hnd.map_on fun s hs t ht hx => h.eq_of_x_eq (hsub s hs) (hsub t ht) hx

lemma reconstruct_eq (hsub : ∀ s ∈ sub, s ∈ shares)
    (hv : Valid sub) (hk : k ≤ sub.length) : reconstruct sub = secret := by
  obtain ⟨tails, hlen, hy⟩ := h.on_poly
  have hne : sub ≠ [] := by
    rintro rfl
    simpa using hv.two_le
  have hx := hv.injective_x
  have hbyte : ∀ b < secret.length, reconstructByte sub b = ⟨secret.getD b 0⟩ := by
    intro b hb
    let cs : List GF256 := ⟨secret.getD b 0⟩ :: tails b
    have hdeg : (toPoly cs).degree < sub.length := by
      apply (degree_toPoly_lt cs).trans_le
      have hcs : cs.length ≤ sub.length := by
        simp only [cs, length_cons, hlen b]
        exact hk
      exact_mod_cast hcs
    rw [reconstructByte, lagrangeZero_eq _ _ hx (toPoly cs) hdeg]
    · rw [eval_toPoly, horner_zero]
    · intro i
      have hmem := hsub sub[i] (getElem_mem i.isLt)
      rw [eval_toPoly, hy _ hmem]
      simp [getD_eq_getElem?_getD, hb, cs]
  rw [reconstruct, h.secretLen_eq hne hsub]
  conv_rhs => rw [← map_mk_getD secret]
  apply map_congr_left
  intro b hb
  rw [hbyte b (mem_range.mp hb)]

end
end Sharing

section
variable {α : Type} {eps : List α} {f g : α → Share}

lemma reconstructByte_map (eps : List α) (f : α → Share) (b : Nat) :
    reconstructByte (eps.map f) b = lagrangeZero (fun i : Fin eps.length => (⟨(f eps[i]).x⟩ : GF256))
      (fun i => ⟨(f eps[i]).y.getD b 0⟩) := by
  rw [← lagrangeZero_cast (length_map f)]
  simp [reconstructByte]

lemma Valid.injective_map (h : Valid (eps.map f)) :
    Function.Injective fun i : Fin eps.length => (⟨(f eps[i]).x⟩ : GF256) := by
  intro i j hij
  have hinj := h.injective_x
  have he := @hinj (i.cast (length_map f).symm) (j.cast (length_map f).symm)
    (by simpa using hij)
  simpa [Fin.ext_iff] using he

lemma eq_of_reconstruct_eq (hf : Valid (eps.map f)) (hg : Valid (eps.map g)) {e : α} (he : e ∈ eps)
    (hx : ∀ a ∈ eps, (f a).x = (g a).x) (ha : ∀ a ∈ eps, a ≠ e → f a = g a)
    (h : reconstruct (eps.map f) = reconstruct (eps.map g)) : f e = g e := by
  obtain ⟨i, hi, rfl⟩ := mem_iff_getElem.mp he
  have hlen : secretLen (eps.map f) = secretLen (eps.map g) := by simpa [reconstruct] using congrArg List.length h
  have hfl := hf.y_length _ (mem_map_of_mem he)
  have hgl := hg.y_length _ (mem_map_of_mem he)
  have hinj := hf.injective_map
  have hbyte : ∀ b < secretLen (eps.map f), (f eps[i]).y.getD b 0 = (g eps[i]).y.getD b 0 := by
    intro b hb
    have hr : reconstructByte (eps.map f) b = reconstructByte (eps.map g) b := by
      have hb' := congrArg (fun l => l[b]?) h
      simp only [reconstruct, ← hlen, getElem?_map, getElem?_range hb] at hb'
      exact GF256.ext (Option.some.inj hb')
    rw [reconstructByte_map, reconstructByte_map] at hr
    have hxs : (fun j : Fin eps.length => (⟨(g eps[j]).x⟩ : GF256)) = fun j : Fin eps.length => ⟨(f eps[j]).x⟩ := by
      grind
    rw [hxs] at hr
    have hy := eq_of_lagrangeZero_eq _ _ _ hinj (fun j => ?_) ⟨i, hi⟩ (fun j hj => ?_) hr
    · exact congrArg GF256.byte hy
    · exact fun h0 => hf.x_ne_zero _ (mem_map_of_mem (getElem_mem j.isLt))
        ((GF256.mk_eq_zero_iff _).mp h0)
    · have hne : eps[j] ≠ eps[i] := fun hje => hj (hinj (congrArg (fun a => GF256.mk (f a).x) hje))
      have hfg : f eps[j] = g eps[j] := ha _ (getElem_mem j.isLt) hne
      rw [hfg]
  have hy : (f eps[i]).y = (g eps[i]).y := by grind [map_mk_getD]
  exact Share.ext (hx _ he) hy

end
end Orama.Shamir
