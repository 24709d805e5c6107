import Orama.Shamir.Scheme

namespace Orama.Shamir
open Lib Lib.Interpolation List
variable {σ β ε : Type}

def hornerLoop (add mul : β → β → β) (zero : β) (coeffs : List β) (x : β) : β :=
  coeffs.foldr (fun c result => add (mul result x) c) zero

def basisLoop (sub mul : β → β → β) (div : β → β → Except ε β) (one : β) (x : σ → β)
    (shares : List σ) (si : σ) (i : Nat) : Except ε β :=
  shares.zipIdx.foldlM (fun basis p =>
    if i = p.2 then pure basis
    else do
      let d ← div (x p.1) (sub (x si) (x p.1))
      pure (mul basis d)) one

def lagrangeLoop (add sub mul : β → β → β) (div : β → β → Except ε β) (zero one : β) (x y : σ → β)
    (shares : List σ) : Except ε β :=
  shares.zipIdx.foldlM (fun value p => do
    let basis ← basisLoop sub mul div one x shares p.1 p.2
    pure (add value (mul (y p.1) basis))) zero

structure Implements (emb : GF256 → β) (add sub mul : β → β → β) (div : β → β → Except ε β) : Prop where
  add_eq : ∀ a b, add (emb a) (emb b) = emb (a + b)
  sub_eq : ∀ a b, sub (emb a) (emb b) = emb (a - b)
  mul_eq : ∀ a b, mul (emb a) (emb b) = emb (a * b)
  div_eq : ∀ a b, b ≠ 0 → div (emb a) (emb b) = .ok (emb (a / b))

namespace Implements
variable {emb : GF256 → β} {add sub mul : β → β → β} {div : β → β → Except ε β}

lemma hornerLoop_eq (h : Implements emb add sub mul div) (cs : List GF256) (x : GF256) :
    hornerLoop add mul (emb 0) (cs.map emb) (emb x) = emb (horner x cs) := by
  induction cs with
  | nil => rfl
  | cons c cs ih =>
    change add (mul (hornerLoop add mul (emb 0) (cs.map emb) (emb x)) (emb x)) (emb c) = _
    rw [ih, h.mul_eq, h.add_eq]
    rfl

lemma foldl_emb {α : Type} (l : List α) (f : β → α → β) (g : GF256 → α → GF256)
    (h : ∀ a s, f (emb s) a = emb (g s a)) (s : GF256) : l.foldl f (emb s) = emb (l.foldl g s) := by
  induction l generalizing s with
  | nil => rfl
  | cons a l ih => rw [foldl_cons, h, ih, foldl_cons]

variable {shares : List σ} {x y : σ → β} (gx gy : σ → GF256)

section
variable (h : Implements emb add sub mul div) (hx : ∀ s ∈ shares, x s = emb (gx s))
include h hx

lemma basisLoop_eq
    (hinj : Function.Injective fun i : Fin shares.length => gx (shares.get i)) (i : Fin shares.length) :
    basisLoop sub mul div (emb 1) x shares (shares.get i) i.val =
      .ok (emb (∏ j ∈ Finset.univ.erase i, gx (shares.get j) / (gx (shares.get j) - gx (shares.get i)))) := by
  let quot : σ → GF256 := fun s => gx s / (gx s - gx (shares.get i))
  have hstep : ∀ p ∈ shares.zipIdx, ∀ basis : β, (if i.val = p.2 then pure basis
        else do
          let d ← div (x p.1) (sub (x (shares.get i)) (x p.1))
          pure (mul basis d) : Except ε β) =
        .ok (if i.val = p.2 then basis else mul basis (emb (quot p.1))) := by
    intro p hp basis
    split
    · rfl
    · next hne =>
      obtain ⟨j, hj, hp⟩ := mem_iff_getElem.mp hp
      rw [getElem_zipIdx] at hp
      subst hp
      have hjl : j < shares.length := by simpa using hj
      have hd : gx (shares.get i) - gx shares[j] ≠ 0 := by
        rw [sub_ne_zero]
        intro he
        have hij := @hinj i ⟨j, hjl⟩ he
        simp [hij] at hne
      have hxi : x (shares.get i) = emb (gx (shares.get i)) := hx _ (getElem_mem i.isLt)
      rw [hx _ (getElem_mem hjl), hxi, h.sub_eq, h.div_eq _ _ hd]
      simp only [quot, GF256.sub_eq_add, add_comm (gx shares[j])]
      rfl
  rw [basisLoop, Loop.foldlM_ok _ _ _ _ hstep]
  rw [foldl_emb shares.zipIdx _ (fun s p => if i.val = p.2 then s else s * quot p.1)]
  · rw [Loop.foldl_zipIdx_skip shares quot i]
  · intro p s
    split
    · rfl
    · exact h.mul_eq s _

lemma lagrangeLoop_eq (hy : ∀ s ∈ shares, y s = emb (gy s))
    (hinj : Function.Injective fun i : Fin shares.length => gx (shares.get i)) :
    lagrangeLoop add sub mul div (emb 0) (emb 1) x y shares =
      .ok (emb (lagrangeZero (fun i : Fin shares.length => gx (shares.get i)) (fun i => gy (shares.get i)))) := by
  let basis : Nat → GF256 := fun n => if hn : n < shares.length then
    ∏ j ∈ Finset.univ.erase (⟨n, hn⟩ : Fin shares.length),
      gx (shares.get j) / (gx (shares.get j) - gx shares[n]) else 0
  have hstep : ∀ p ∈ shares.zipIdx, ∀ value : β, (do
        let basis ← basisLoop sub mul div (emb 1) x shares p.1 p.2
        pure (add value (mul (y p.1) basis)) : Except ε β) =
        .ok (add value (emb (gy p.1 * basis p.2))) := by
    intro p hp value
    obtain ⟨j, hj, hp⟩ := mem_iff_getElem.mp hp
    rw [getElem_zipIdx] at hp
    subst hp
    have hjl : j < shares.length := by simpa using hj
    have hb := h.basisLoop_eq gx hx hinj ⟨j, hjl⟩
    simp only [get_eq_getElem] at hb
    simp only [Nat.zero_add, hb, hy _ (getElem_mem hjl), basis, dif_pos hjl, get_eq_getElem]
    rw [← h.mul_eq]
    rfl
  rw [lagrangeLoop, Loop.foldlM_ok _ _ _ _ hstep]
  rw [foldl_emb shares.zipIdx _ (fun s p => s + gy p.1 * basis p.2)]
  · rw [Loop.foldl_zipIdx_add shares (fun s n => gy s * basis n) 0 0, zero_add, lagrangeZero]
    simp only [Nat.zero_add, basis, Fin.is_lt, dif_pos, get_eq_getElem]
  · intro p s
    exact h.add_eq s _

end

variable {num : UInt8 → β}

lemma evalByte_eq (h : Implements (fun a => num a.byte) add sub mul div) (coeffs : List UInt8)
    (x : UInt8) : hornerLoop add mul (num 0) (coeffs.map num) (num x) = num (evalByte coeffs x) := by
  have hc := h.hornerLoop_eq (coeffs.map GF256.mk) ⟨x⟩
  rw [map_map] at hc
  exact hc

lemma reconstructByte_eq (h : Implements (fun a => num a.byte) add sub mul div)
    {shares : List Share} (hv : Valid shares) (b : Nat) :
    lagrangeLoop add sub mul div (num 0) (num 1) (fun s : Share => num s.x)
      (fun s => num (s.y.getD b 0)) shares = .ok (num (reconstructByte shares b).byte) := by
  have hb := h.lagrangeLoop_eq (fun s : Share => ⟨s.x⟩) (fun s => ⟨s.y.getD b 0⟩)
    (fun _ _ => rfl) (fun _ _ => rfl) hv.injective_x
  rwa [GF256.byte_zero, GF256.byte_one] at hb

end Implements

lemma foldl_fill {α : Type} (mk : α → List UInt8 → σ) (f : Nat → σ → σ) (g : Nat → α → UInt8)
    (hf : ∀ b a y, f b (mk a y) = mk a (y.set b (g b a))) (l : List α) (len : Nat) :
    (List.range len).foldl (fun rows b => rows.map (f b)) (l.map fun a => mk a (List.replicate len 0)) =
      l.map fun a => mk a ((List.range len).map fun b => g b a) := by
  have hrows : ∀ (bs : List Nat) (y : α → List UInt8),
      bs.foldl (fun rows b => rows.map (f b)) (l.map fun a => mk a (y a)) =
      l.map fun a => mk a (bs.foldl (fun y b => y.set b (g b a)) (y a)) := by
    intro bs
    induction bs with
    | nil => simp
    | cons b bs ih =>
      intro y
      rw [foldl_cons, map_map]
      have hstep : (f b ∘ fun a => mk a (y a)) = fun a => mk a ((y a).set b (g b a)) := by
        funext a
        exact hf b a (y a)
      rw [hstep, ih]
      rfl
  rw [hrows]
  apply map_congr_left
  intro a _
  have h := Loop.foldl_set_range (List.replicate len (0 : UInt8)) (fun b => g b a)
  rw [length_replicate] at h
  rw [h]

end Orama.Shamir
