import Orama.Shamir.Correctness

namespace Orama.Shamir
open Lib.Interpolation List

abbrev Choice (L k : Nat) := Fin L → Fin (k - 1) → UInt8

variable {L k : Nat}

def Choice.tape (c : Choice L k) : Tape := fun b j =>
  if h : b < L ∧ j < k - 1 then c ⟨b, h.1⟩ ⟨j, h.2⟩ else 0

def Choice.add (m c : Choice L k) : Choice L k := fun b j => m b j ^^^ c b j

open UInt8 Choice

lemma Choice.add_add (m c : Choice L k) : m.add (m.add c) = c := by
  funext b j
  rw [add, add, ← UInt8.xor_assoc, UInt8.xor_self, UInt8.zero_xor]

lemma ncard_eq_of_add (m : Choice L k) (P Q : Choice L k → Prop) (h : ∀ c, P c ↔ Q (m.add c)) :
    {c | P c}.ncard = {c | Q c}.ncard := by
  have himage : {c | Q c} = m.add '' {c | P c} := by
    ext c
    constructor
    · intro hc
      refine ⟨m.add c, (h _).mpr ?_, m.add_add c⟩
      rwa [m.add_add]
    · rintro ⟨d, hd, rfl⟩
      exact (h d).mp hd
  rw [himage, Set.ncard_image_of_injective]
  intro c d hcd
  rw [← m.add_add c, ← m.add_add d, hcd]

lemma Choice.tape_add (m c : Choice L k) (b j : Nat) : (m.add c).tape b j = m.tape b j ^^^ c.tape b j := by
  simp only [tape]
  split
  · rfl
  · rw [UInt8.xor_self]

open GF256

lemma exists_mask_choice (I : Finset UInt8) (h0 : 0 ∉ I) (hI : I.card < k) (d : Nat → UInt8) :
    ∃ m : Choice L k, ∀ b < L, ∀ x ∈ I, evalByte (coefficients (d b) k (m.tape b)) x = 0 := by
  have hz : (0 : GF256) ∉ I.image mk := by grind [mk_eq_zero_iff]
  have hmask : ∀ b, ∃ cs : List GF256, cs.length + 1 = k ∧ ∀ x ∈ I.image mk, horner x (⟨d b⟩ :: cs) = 0 := fun b =>
    exists_mask _ hz k (Finset.card_image_le.trans_lt hI) ⟨d b⟩
  choose cs hlen hcs using hmask
  refine ⟨fun b j => ((cs b).getD j 0).byte, ?_⟩
  intro b hb x hx
  have hl : (List.range (k - 1)).map (fun j => mk (tape (L := L) (k := k)
      (fun b j => ((cs b).getD j 0).byte) b j)) = cs b := by
    have hlb := hlen b
    apply ext_getElem
    · rw [length_map, length_range]
      omega
    · intro j h1 h2
      have hj : j < k - 1 := by omega
      simp [tape, hb, hj, getD_eq_getElem?_getD, h2]
  rw [evalByte, coefficients, map_cons, map_map]
  change (horner ⟨x⟩ (⟨d b⟩ :: (List.range (k - 1)).map fun j => mk _)).byte = 0
  rw [hl, hcs b _ (Finset.mem_image_of_mem mk hx)]
  rfl

lemma evalByte_coefficients_xor (a d : UInt8) (t m : Nat → UInt8) (x : UInt8) :
    evalByte (coefficients (d ^^^ a) k fun j => m j ^^^ t j) x =
    evalByte (coefficients d k m) x ^^^ evalByte (coefficients a k t) x := by
  have h := horner_zipWith_add ⟨x⟩ ((coefficients d k m).map mk)
    ((coefficients a k t).map mk) (by simp [coefficients])
  have hz : List.zipWith (· + ·) ((coefficients d k m).map mk)
      ((coefficients a k t).map mk) = (coefficients (d ^^^ a) k fun j => m j ^^^ t j).map mk := by
    simp [coefficients, zipWith_map, zipWith_self, mk_add]
  rw [hz] at h
  exact congrArg byte h

def Produces {ε : Type} (split : Tape → Except ε (List Share)) (I : Finset UInt8)
    (v : UInt8 → List UInt8) (c : Choice L k) : Prop :=
  ∃ shares, split c.tape = .ok shares ∧ ∀ x ∈ I, ∃ s ∈ shares, s.x = x ∧ s.y = v x

variable {ε : Type} {n : Nat}

lemma produces_iff {split : Tape → Except ε (List Share)} {secret : List UInt8}
    (h : ∀ tape, split tape = .ok (sharesOf secret n k tape)) (I : Finset UInt8) (v : UInt8 → List UInt8)
    (c : Choice L k) :
    Produces split I v c ↔ ∀ x ∈ I, (∃ i < n, ofNat (i + 1) = x) ∧ (shareOf secret k c.tape x).y = v x := by
  constructor
  · rintro ⟨shares, hs, hv⟩ x hx
    rw [h] at hs
    cases hs
    obtain ⟨s, hs, hsx, hsy⟩ := hv x hx
    obtain ⟨i, hi, rfl⟩ := mem_map.mp hs
    subst hsx
    exact ⟨⟨i, mem_range.mp hi, rfl⟩, hsy⟩
  · intro hv
    refine ⟨_, h c.tape, fun x hx => ?_⟩
    obtain ⟨⟨i, hi, hxi⟩, hy⟩ := hv x hx
    refine ⟨shareOf secret k c.tape x, ?_, rfl, hy⟩
    exact mem_map.mpr ⟨i, mem_range.mpr hi, by rw [hxi]⟩

lemma ncard_produces_eq (split : List UInt8 → Tape → Except ε (List Share)) (hn : n ≤ 255)
    (h : ∀ secret tape, secret ≠ [] → split secret tape = .ok (sharesOf secret n k tape)) (I : Finset UInt8)
    (hI : I.card < k) (s₁ s₂ : List UInt8) (h₁ : s₁.length = L) (h₂ : s₂.length = L) (v : UInt8 → List UInt8) :
    {c : Choice L k | Produces (split s₁) I v c}.ncard = {c : Choice L k | Produces (split s₂) I v c}.ncard := by
  by_cases he : s₁ = []
  · grind
  have he₂ : s₂ ≠ [] := by grind
  by_cases h0 : (0 : UInt8) ∈ I
  · have hempty : ∀ secret, secret ≠ [] → {c : Choice L k | Produces (split secret) I v c} = ∅ := by
      intro secret hs
      ext c
      simp only [Set.mem_ofPred_eq, Set.mem_empty_iff_false, iff_false]
      intro hp
      obtain ⟨⟨i, hi, hx⟩, _⟩ := (produces_iff (fun tape => h secret tape hs) I v c).mp hp 0 h0
      exact point_ne_zero (hi.trans_le hn) hx
    rw [hempty s₁ he, hempty s₂ he₂]
  · obtain ⟨m, hm⟩ := exists_mask_choice (L := L) I h0 hI fun b => s₂.getD b 0 ^^^ s₁.getD b 0
    apply ncard_eq_of_add m
    intro c
    rw [produces_iff (fun tape => h s₁ tape he), produces_iff (fun tape => h s₂ tape he₂)]
    apply forall₂_congr
    intro x hx
    have hy : (shareOf s₂ k (m.add c).tape x).y = (shareOf s₁ k c.tape x).y := by
      rw [shareOf, shareOf, h₁, h₂]
      apply map_congr_left
      intro b hb
      have hd : s₂.getD b 0 ^^^ s₁.getD b 0 ^^^ s₁.getD b 0 = s₂.getD b 0 := by
        rw [UInt8.xor_assoc, UInt8.xor_self, UInt8.xor_zero]
      have ht : (m.add c).tape b = fun j => m.tape b j ^^^ c.tape b j := funext (m.tape_add c b)
      have hz := hm b (mem_range.mp hb) x hx
      rw [ht, ← hd, evalByte_coefficients_xor, hz, UInt8.zero_xor]
    rw [hy]

/-- Fewer than k share values are equally likely for any two secrets of one
length: as many coefficient choices lead to them. -/
theorem split_secrecy (n k : Nat) (hk : 2 ≤ k) (hkn : k ≤ n) (hn : n ≤ 255) (I : Finset UInt8)
    (hI : I.card ≤ k - 1) (L : Nat) (s₁ s₂ : List UInt8) (h₁ : s₁.length = L) (h₂ : s₂.length = L)
    (v : UInt8 → List UInt8) :
    {c : Choice L k | Produces (fun tape => Go.split s₁ n k fun b => .ok (tape b)) I v c}.ncard =
      {c : Choice L k | Produces (fun tape => Go.split s₂ n k fun b => .ok (tape b)) I v c}.ncard ∧
    {c : Choice L k | Produces (fun tape =>
        (Zig.split s₁ (UInt8.ofNat n) (UInt8.ofNat k) tape).map Zig.ShareSet.shares) I v c}.ncard =
      {c : Choice L k | Produces (fun tape =>
        (Zig.split s₂ (UInt8.ofNat n) (UInt8.ofNat k) tape).map Zig.ShareSet.shares) I v c}.ncard := by
  have ha : ∀ secret : List UInt8, secret ≠ [] → Admissible secret n k := fun secret hs =>
    ⟨by omega, by omega, by omega, fun h => hs (length_eq_zero_iff.mp h)⟩
  constructor
  · exact ncard_produces_eq (fun secret tape => Go.split secret n k fun b => .ok (tape b)) hn
      (fun secret tape hs => Go.split_of_admissible (ha secret hs) tape) I (by omega) s₁ s₂ h₁ h₂ v
  · apply ncard_produces_eq (fun secret tape =>
      (Zig.split secret (ofNat n) (ofNat k) tape).map Zig.ShareSet.shares) hn
      (fun secret tape hs => ?_) I (by omega) s₁ s₂ h₁ h₂ v
    have hz := Zig.split_of_nat (ha secret hs) tape
    rw [hz]
    rfl

theorem split_secrecy_one_of_three :
    {c : Choice 1 2 | Produces (fun tape => Go.split [42] (3 : Nat) (2 : Nat) fun b => .ok (tape b)) {2}
        (fun _ => [9]) c}.ncard =
      {c : Choice 1 2 | Produces (fun tape => Go.split [7] (3 : Nat) (2 : Nat) fun b => .ok (tape b)) {2}
        (fun _ => [9]) c}.ncard ∧
    {c : Choice 1 2 | Produces (fun tape =>
        (Zig.split [42] (UInt8.ofNat 3) (UInt8.ofNat 2) tape).map Zig.ShareSet.shares) {2}
        (fun _ => [9]) c}.ncard =
      {c : Choice 1 2 | Produces (fun tape =>
        (Zig.split [7] (UInt8.ofNat 3) (UInt8.ofNat 2) tape).map Zig.ShareSet.shares) {2}
        (fun _ => [9]) c}.ncard :=
  split_secrecy 3 2 (by decide) (by decide) (by decide) {2} (by decide) 1 [42] [7] rfl rfl fun _ => [9]

end Orama.Shamir
