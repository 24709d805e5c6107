import Mathlib.LinearAlgebra.Lagrange

namespace Orama.Lib.Interpolation
open Polynomial List
variable {F : Type} [Field F]

def horner (x : F) : List F → F
  | [] => 0
  | c :: cs => horner x cs * x + c

noncomputable def toPoly : List F → F[X]
  | [] => 0
  | c :: cs => toPoly cs * X + C c

attribute [local simp] toPoly horner

lemma eval_toPoly (x : F) (cs : List F) : (toPoly cs).eval x = horner x cs := by
  induction cs with
  | nil => simp
  | cons c cs ih => simp [ih]

lemma coeff_toPoly (cs : List F) (n : Nat) : (toPoly cs).coeff n = cs.getD n 0 := by
  induction cs generalizing n with
  | nil => simp
  | cons c cs ih =>
    cases n with
    | zero => simp
    | succ n => simp [ih, coeff_C_succ]

lemma degree_toPoly_lt (cs : List F) : (toPoly cs).degree < cs.length := by
  grind [degree_lt_iff_coeff_zero, coeff_toPoly]

lemma horner_zero (c : F) (cs : List F) : horner 0 (c :: cs) = c := by simp

lemma horner_zipWith_add (x : F) (cs ds : List F) (h : cs.length = ds.length) :
    horner x (List.zipWith (· + ·) cs ds) = horner x cs + horner x ds := by
  induction cs generalizing ds with
  | nil =>
    have hd : ds = [] := length_eq_zero_iff.mp h.symm
    subst hd
    simp
  | cons c cs ih =>
    cases ds with
    | nil => simp at h
    | cons d ds => grind [zipWith_cons_cons, horner]

lemma exists_horner_add (c : F) (tail : List F) {k : Nat} (hk : tail.length + 1 = k)
    (qs : List (List F)) (hq : ∀ q ∈ qs, q.length + 1 = k) : ∃ tail' : List F, tail'.length + 1 = k ∧
      ∀ x, horner x (c :: tail') = horner x (c :: tail) + (qs.map fun q => horner x (0 :: q)).sum := by
  induction qs with
  | nil => exact ⟨tail, hk, by simp⟩
  | cons q qs ih =>
    obtain ⟨t, ht, he⟩ := ih fun q hq' => hq q (by simp [hq'])
    have hql := hq q (by simp)
    refine ⟨List.zipWith (· + ·) t q, ?_, ?_⟩
    · rw [length_zipWith]
      omega
    · intro x
      have hz := horner_zipWith_add x (c :: t) (0 :: q) (by simp only [length_cons]; omega)
      rw [zipWith_cons_cons, add_zero] at hz
      rw [hz, he, map_cons, sum_cons, add_assoc, add_comm (horner x (0 :: q))]

noncomputable def coeffs (p : F[X]) (k : Nat) : List F := List.ofFn (fun j : Fin k => p.coeff j)

lemma horner_coeffs (p : F[X]) (k : Nat) (hp : p.degree < k) (x : F) : horner x (coeffs p k) = p.eval x := by
  rw [← eval_toPoly]
  congr 1
  ext n
  rw [coeff_toPoly, getD_eq_getElem?_getD, coeffs, List.getElem?_ofFn]
  split
  · rfl
  · next hn => exact (coeff_eq_zero_of_degree_lt (hp.trans_le (by exact_mod_cast Nat.not_lt.mp hn))).symm

def lagrangeZero {m : Nat} (x y : Fin m → F) : F :=
  ∑ i, y i * ∏ j ∈ Finset.univ.erase i, x j / (x j - x i)

variable {m : Nat}
open Finset
open Lagrange

lemma eval_zero_basis (x : Fin m → F) (i : Fin m) :
    (Lagrange.basis univ x i).eval 0 = ∏ j ∈ univ.erase i, x j / (x j - x i) := by
  rw [Lagrange.basis, eval_prod]
  apply prod_congr rfl
  intro j _
  rw [basisDivisor, eval_mul, eval_C, eval_sub, eval_X, eval_C, zero_sub,
    ← neg_sub (x j) (x i), inv_neg, neg_mul_neg, div_eq_inv_mul]

lemma lagrangeZero_eq (x y : Fin m → F) (hx : Function.Injective x) (p : F[X]) (hp : p.degree < m)
    (h : ∀ i, p.eval (x i) = y i) : lagrangeZero x y = p.eval 0 := by
  have hd : p.degree < (univ : Finset (Fin m)).card := by simpa using hp
  have hi := eq_interpolate_of_eval_eq y hx.injOn hd (fun i _ => h i)
  rw [hi, interpolate_apply, eval_finsetSum, lagrangeZero]
  apply sum_congr rfl
  intro i _
  rw [eval_mul, eval_C, eval_zero_basis]

variable {n : Nat}

lemma lagrangeZero_cast (h : m = n) (x y : Fin n → F) :
    lagrangeZero (fun i : Fin m => x (i.cast h)) (fun i => y (i.cast h)) = lagrangeZero x y := by
  subst h
  rfl

lemma horner_ofFn (x : F) (t : Fin n → F) : horner x (List.ofFn t) = ∑ e, t e * x ^ e.val := by
  induction n with
  | zero => rfl
  | succ n ih =>
    rw [ofFn_succ, horner, ih, Fin.sum_univ_succ, sum_mul, add_comm]
    congr 1
    · simp
    · grind

lemma lagrangeZero_horner (x y : Fin m → F) (t : Fin n → F) :
    lagrangeZero x (fun i => horner (y i) (List.ofFn t)) = ∑ e, t e * lagrangeZero x (fun i => y i ^ e.val) := by
  simp only [lagrangeZero, horner_ofFn, sum_mul, mul_sum]
  rw [sum_comm]
  simp only [mul_assoc]

lemma eq_of_lagrangeZero_eq (x y z : Fin m → F) (hx : Function.Injective x) (h0 : ∀ i, x i ≠ 0) (i : Fin m)
    (h : ∀ j, j ≠ i → y j = z j) (he : lagrangeZero x y = lagrangeZero x z) : y i = z i := by
  have hb : ∏ j ∈ univ.erase i, x j / (x j - x i) ≠ 0 := by grind [prod_ne_zero_iff]
  rw [lagrangeZero, lagrangeZero, ← sub_eq_zero, ← sum_sub_distrib, sum_eq_single i] at he
  · grind
  · intro j _ hj
    rw [h j hj, sub_self]
  · intro hi
    exact absurd (mem_univ i) hi

lemma exists_mask [DecidableEq F] (I : Finset F) (h0 : 0 ∉ I) (k : Nat) (hk : I.card < k) (d : F) :
    ∃ cs : List F, cs.length + 1 = k ∧ ∀ x ∈ I, horner x (d :: cs) = 0 := by
  obtain ⟨m, rfl⟩ : ∃ m, k = m + 1 := ⟨k - 1, by omega⟩
  let v : F → F := fun x => if x = 0 then d else 0
  let p := interpolate (insert 0 I) id v
  have hcard : (insert 0 I).card ≤ m + 1 := by
    rw [card_insert_of_notMem h0]
    omega
  have hp : p.degree < (m + 1 : Nat) :=
    (degree_interpolate_lt v Function.injective_id.injOn).trans_le (by exact_mod_cast hcard)
  have hv : ∀ x ∈ insert 0 I, p.eval x = v x := fun x hx =>
    eval_interpolate_at_node v Function.injective_id.injOn hx
  have hd : p.coeff 0 = d := by
    rw [coeff_zero_eq_eval_zero, hv 0 (by simp)]
    simp [v]
  refine ⟨List.ofFn (fun j : Fin m => p.coeff (j + 1)), by simp, ?_⟩
  intro x hx
  have hne : x ≠ 0 := fun h => h0 (h ▸ hx)
  have hc : coeffs p (m + 1) = d :: List.ofFn (fun j : Fin m => p.coeff (j + 1)) := by simp [coeffs, ofFn_succ, hd]
  rw [← hc, horner_coeffs p (m + 1) hp, hv x (mem_insert_of_mem hx)]
  simp [v, hne]

end Orama.Lib.Interpolation
