import Mathlib.Algebra.BigOperators.Fin

namespace Orama.Lib.Loop
open List

lemma foldl_range_induction {σ : Type} (f : σ → Nat → σ) (init : σ) (n : Nat) (P : Nat → σ → Prop)
    (h0 : P 0 init) (hs : ∀ i s, i < n → P i s → P (i + 1) (f s i)) : P n ((List.range n).foldl f init) := by
  induction n with
  | zero => exact h0
  | succ n ih =>
    rw [range_succ, foldl_append]
    exact hs n _ n.lt_succ_self (ih (fun i s hi => hs i s (Nat.lt_succ_of_lt hi)))

variable {α : Type}

section
variable (l : List α)

lemma foldlM_ok {ε σ : Type} (f : σ → α → Except ε σ) (g : σ → α → σ) (s : σ)
    (h : ∀ a ∈ l, ∀ s, f s a = .ok (g s a)) : l.foldlM f s = .ok (l.foldl g s) := by
  induction l generalizing s with
  | nil => rfl
  | cons a l ih =>
    rw [foldlM_cons, h a (by simp)]
    exact ih (g s a) (fun b hb => h b (by simp [hb]))

lemma mapM_ok {ε β : Type} (f : α → Except ε β) (g : α → β)
    (h : ∀ a ∈ l, f a = .ok (g a)) : l.mapM f = .ok (l.map g) := by
  induction l with
  | nil => rfl
  | cons a l ih =>
    rw [mapM_cons, h a (by simp), ih (fun b hb => h b (by simp [hb]))]
    rfl

lemma forM_ok_iff {ε : Type} (f : α → Except ε Unit) : l.forM f = .ok () ↔ ∀ a ∈ l, f a = .ok () := by
  induction l with
  | nil => simp [pure, Except.pure]
  | cons a l ih =>
    rw [forall_mem_cons, ← ih]
    change (f a >>= fun _ => l.forM f) = _ ↔ _
    cases f a <;> simp [bind, Except.bind]

lemma foldl_update_range (f : Nat → α → α) (d : α) :
    (List.range l.length).foldl (fun s i => s.set i (f i (s.getD i d))) l =
    (List.range l.length).map fun i => f i (l.getD i d) := by
  have h := foldl_range_induction (fun s i => s.set i (f i (s.getD i d))) l l.length
    (fun n s => s = ((List.range n).map fun i => f i (l.getD i d)) ++ l.drop n) (by simp) (by
      intro i s hi hs
      have hd : s.getD i d = l.getD i d := by
        rw [hs]
        simp [getD_eq_getElem?_getD, getElem?_append]
      rw [hd]
      subst hs
      rw [range_succ, map_append, set_append_right _ _ (by simp),
        length_map, length_range, Nat.sub_self, drop_eq_getElem_cons hi, set_cons_zero]
      simp)
  simpa using h

lemma foldl_set_range (f : Nat → α) :
    (List.range l.length).foldl (fun s i => s.set i (f i)) l = (List.range l.length).map f := by
  cases l with
  | nil => rfl
  | cons a l => exact foldl_update_range (a :: l) (fun i _ => f i) a

lemma filterMap_ite {β : Type} (p : α → Bool) (f : α → β) :
    l.filterMap (fun a => if p a then some (f a) else none) = (l.filter p).map f := by
  induction l with
  | nil => rfl
  | cons a l ih => by_cases hp : p a = true <;> simp [hp, ih]

end

lemma foldl_pair {β γ : Type} (c : γ → Prop) [DecidablePred c] (f : α → γ → α) (g : β → γ → β) (l : List γ)
    (a : α) (b : β) : l.foldl (fun acc p => if c p then acc else (f acc.1 p, g acc.2 p)) (a, b) =
      (l.foldl (fun acc p => if c p then acc else f acc p) a,
      l.foldl (fun acc p => if c p then acc else g acc p) b) := by
  induction l generalizing a b with
  | nil => rfl
  | cons p l ih =>
    simp only [foldl_cons]
    split
    · exact ih a b
    · exact ih (f a p) (g b p)

open Finset
section
variable {α M : Type} [CommMonoid M]

lemma foldl_zipIdx_mul (l : List α) (f : α → Nat → M) (a : M) (k : Nat) :
    (l.zipIdx k).foldl (fun acc p => acc * f p.1 p.2) a = a * ∏ i : Fin l.length, f (l.get i) (k + i) := by
  induction l generalizing a k with
  | nil => simp
  | cons b l ih =>
    rw [zipIdx_cons, foldl_cons, ih, mul_assoc]
    congr 1
    simp only [length_cons, Fin.prod_univ_succ]
    simp [Nat.add_comm, Nat.add_left_comm]

lemma foldl_zipIdx_add {A : Type} [AddCommMonoid A] (l : List α) (f : α → Nat → A) (a : A) (k : Nat) :
    (l.zipIdx k).foldl (fun acc p => acc + f p.1 p.2) a = a + ∑ i : Fin l.length, f (l.get i) (k + i) :=
  foldl_zipIdx_mul (M := Multiplicative A) l f a k

lemma foldl_zipIdx_skip (l : List α) (f : α → M) (i : Fin l.length) :
    l.zipIdx.foldl (fun acc p => if i.val = p.2 then acc else acc * f p.1) 1 = ∏ j ∈ univ.erase i, f (l.get j) := by
  have hf : (fun (acc : M) (p : α × Nat) => if i.val = p.2 then acc else acc * f p.1) =
      fun acc p => acc * if i.val = p.2 then 1 else f p.1 := by
    funext acc p
    split <;> simp
  rw [hf, foldl_zipIdx_mul l (fun a j => if i.val = j then 1 else f a) 1 0, one_mul,
    ← mul_prod_erase univ _ (mem_univ i)]
  simp only [Nat.zero_add, if_true, one_mul]
  apply prod_congr rfl
  intro j hj
  rw [if_neg (fun h => (mem_erase.mp hj).1 (Fin.ext h.symm))]

end
end Orama.Lib.Loop
