import Orama.Shamir.Correctness

namespace Orama.Shamir.Zig
open Lib Lib.Interpolation List

structure ReshareDelta where
  fromX : UInt8
  toX : UInt8
  values : List UInt8
deriving DecidableEq, Repr

def deltaByte (k : Nat) (tape : Tape) (deltas : List ReshareDelta) (byteIdx : Nat) : List ReshareDelta :=
  let coeffs := coefficients 0 k (tape byteIdx)
  deltas.map fun d => { d with values := d.values.set byteIdx (evaluate coeffs d.toX) }

def generateDeltas (selfX : UInt8) (secretLen : Nat) (n k : UInt8) (tape : Tape) : Except Error (List ReshareDelta) :=
  if k < 2 then .error .thresholdTooSmall
  else if n < k then .error .invalidShareCount
  else
    let deltas := (List.range n.toNat).map fun i =>
      (⟨selfX, UInt8.ofNat i + 1, List.replicate secretLen 0⟩ : ReshareDelta)
    .ok ((List.range secretLen).foldl (deltaByte k.toNat tape) deltas)

def checkDelta (secretLen : Nat) (d : ReshareDelta) : Except Error Unit :=
  if d.values.length ≠ secretLen then .error .mismatchedShareLengths else .ok ()

def applyDelta (secretLen : Nat) (y : List UInt8) (d : ReshareDelta) : List UInt8 :=
  (List.range secretLen).foldl (fun y i => y.set i (add (y.getD i 0) (d.values.getD i 0))) y

def applyDeltas (old : Share) (deltas : List ReshareDelta) : Except Error Share := do
  deltas.forM (checkDelta old.y.length)
  .ok ⟨old.x, deltas.foldl (applyDelta old.y.length) old.y⟩

def deltaOf (selfX : UInt8) (secretLen k : Nat) (tape : Tape) (x : UInt8) : ReshareDelta :=
  ⟨selfX, x, (List.range secretLen).map fun b => evalByte (coefficients 0 k (tape b)) x⟩

variable {k : UInt8}
open UInt8
open List

lemma generateDeltas_eq (selfX : UInt8) (secretLen : Nat) {n : UInt8} (tape : Tape) (hk : ¬ k < 2) (hkn : ¬ n < k) :
    generateDeltas selfX secretLen n k tape =
    .ok ((range n.toNat).map fun i => deltaOf selfX secretLen k.toNat tape (ofNat (i + 1))) := by
  simp only [generateDeltas, if_neg hk, if_neg hkn]
  have hstep : deltaByte k.toNat tape = fun deltas byteIdx => deltas.map fun d => { d with
      values := d.values.set byteIdx (evalByte (coefficients 0 k.toNat (tape byteIdx)) d.toX) } := by
    funext deltas byteIdx
    simp only [deltaByte, evaluate_eq]
  have hx : ∀ i, ofNat i + 1 = ofNat (i + 1) := fun i => (ofNat_add i 1).symm
  simp only [hx, hstep]
  exact congrArg Except.ok
    (foldl_fill (fun i values => (⟨selfX, ofNat (i + 1), values⟩ : ReshareDelta)) _
      (fun b i => evalByte (coefficients 0 k.toNat (tape b)) (ofNat (i + 1)))
      (fun _ _ _ => rfl) (range n.toNat) secretLen)

variable {y : List UInt8} {len : Nat}

lemma applyDelta_eq (hy : y.length = len) (d : ReshareDelta) :
    applyDelta len y d = (range len).map fun i => y.getD i 0 ^^^ d.values.getD i 0 := by
  subst hy
  exact Loop.foldl_update_range y (fun i v => add v (d.values.getD i 0)) 0

lemma foldl_applyDelta (hy : y.length = len) (deltas : List ReshareDelta) :
    deltas.foldl (applyDelta len) y = (range len).map fun b =>
      (GF256.mk (y.getD b 0) + (deltas.map fun d => GF256.mk (d.values.getD b 0)).sum).byte := by
  induction deltas generalizing y with
  | nil =>
    subst hy
    simpa using (map_mk_getD y).symm
  | cons d deltas ih =>
    rw [foldl_cons, ih (by rw [applyDelta_eq hy, length_map, length_range])]
    apply map_congr_left
    intro b hb
    rw [applyDelta_eq hy, map_cons, sum_cons, ← add_assoc]
    simp [getD_eq_getElem?_getD, mem_range.mp hb, GF256.byte_add]

lemma applyDeltas_eq {old : Share} {deltas : List ReshareDelta} (h : ∀ d ∈ deltas, d.values.length = old.y.length) :
    applyDeltas old deltas = .ok ⟨old.x, (range old.y.length).map fun b =>
      (GF256.mk (old.y.getD b 0) + (deltas.map fun d => GF256.mk (d.values.getD b 0)).sum).byte⟩ := by
  have hc := (Loop.forM_ok_iff deltas (checkDelta old.y.length)).mpr fun d hd => by
    rw [checkDelta, if_neg (not_not.mpr (h d hd))]
  rw [applyDeltas, hc, ← foldl_applyDelta rfl]
  rfl

/-- One round: the guardians that generate deltas, each with the bytes it
draws, and the order in which every guardian receives those addressed to it. -/
structure Round where
  calls : List (UInt8 × Tape)
  deliver : UInt8 → List ReshareDelta → List ReshareDelta
  perm : ∀ x deltas, (deliver x deltas).Perm deltas

def Round.run (r : Round) (secretLen : Nat) (n k : UInt8) (shares : List Share) : Except Error (List Share) := do
  let sent ← r.calls.mapM fun c => generateDeltas c.1 secretLen n k c.2
  shares.mapM fun s => applyDeltas s (r.deliver s.x (sent.flatten.filter fun d => d.toX = s.x))

def reshare (secret : List UInt8) (n k : UInt8) (tape : Tape) (rounds : List Round) : Except Error (List Share) := do
  let set ← split secret n k tape
  rounds.foldlM (fun shares r => r.run secret.length n k shares) set.shares

variable {n i : Nat}

lemma filter_toX (selfX : UInt8) (len k : Nat) (tape : Tape) (hn : n ≤ 255) (hi : i < n) :
    ((range n).map fun j => deltaOf selfX len k tape (ofNat (j + 1))).filter
      (fun d => d.toX = ofNat (i + 1)) = [deltaOf selfX len k tape (ofNat (i + 1))] := by
  have hf : (range n).filter (fun j => decide (ofNat (j + 1) = ofNat (i + 1))) =
      (range n).filter (fun j => decide (j = i)) := by
    apply filter_congr
    intro j hj
    have hjn := mem_range.mp hj
    rw [decide_eq_decide]
    exact ⟨point_injective (hjn.trans_le hn) (hi.trans_le hn), fun h => by rw [h]⟩
  have hone : (range n).count i = 1 :=
    count_eq_one_of_mem nodup_range (mem_range.mpr hi)
  rw [filter_map]
  change map _ ((range n).filter fun j => decide (ofNat (j + 1) = ofNat (i + 1))) = _
  rw [hf, filter_eq, hone]
  rfl

lemma Round.deliver_perm (r : Round) (len k : Nat) (hn : n ≤ 255) (hi : i < n) :
    (r.deliver (ofNat (i + 1)) ((r.calls.map fun c => (range n).map fun j =>
      deltaOf c.1 len k c.2 (ofNat (j + 1))).flatten.filter fun d => d.toX = ofNat (i + 1))).Perm
      (r.calls.map fun c => deltaOf c.1 len k c.2 (ofNat (i + 1))) := by
  refine (r.perm _ _).trans (List.Perm.of_eq ?_)
  rw [filter_flatten, map_map, ← flatMap_def]
  have hone : ∀ c : UInt8 × Tape, _ := fun c => filter_toX c.1 len k c.2 hn hi
  simp only [Function.comp_def, hone]
  exact map_eq_flatMap.symm

structure Holding (secret : List UInt8) (n k : Nat) (shares : List Share) : Prop
    extends Sharing secret k shares where
  points : shares.map Share.x = (List.range n).map fun i => UInt8.ofNat (i + 1)

variable {secret : List UInt8}

lemma Holding.exists_index {k : Nat} {shares : List Share} (h : Holding secret n k shares) {s : Share}
    (hs : s ∈ shares) : ∃ i < n, s.x = ofNat (i + 1) := by
  have hx : s.x ∈ shares.map Share.x := mem_map_of_mem hs
  rw [h.points] at hx
  obtain ⟨i, hi, he⟩ := mem_map.mp hx
  exact ⟨i, mem_range.mp hi, he.symm⟩

def refreshed (r : Round) (len k : Nat) (s : Share) : Share :=
  ⟨s.x, (List.range len).map fun b => (GF256.mk (s.y.getD b 0) +
    (r.calls.map fun c => GF256.mk (evalByte (coefficients 0 k (c.2 b)) s.x)).sum).byte⟩

lemma Round.run_eq (r : Round) {n : UInt8} {shares : List Share} (hk : ¬ k < 2) (hkn : ¬ n < k)
    (h : Holding secret n.toNat k.toNat shares) :
    r.run secret.length n k shares = .ok (shares.map (refreshed r secret.length k.toNat)) := by
  have hsent := Loop.mapM_ok r.calls (fun c => generateDeltas c.1 secret.length n k c.2) _
    fun c _ => generateDeltas_eq c.1 secret.length c.2 hk hkn
  rw [Round.run, hsent]
  apply Loop.mapM_ok
  intro s hs
  have hl := h.y_length hs
  obtain ⟨i, hi, hx⟩ := h.exists_index hs
  have hp := r.deliver_perm secret.length k.toNat (Nat.le_of_lt_succ n.toNat_lt) hi
  rw [← hx] at hp
  rw [applyDeltas_eq, hl, refreshed]
  · congr 2
    apply map_congr_left
    intro b hb
    have hv : ∀ c : UInt8 × Tape, (deltaOf c.1 secret.length k.toNat c.2 s.x).values.getD b 0 =
        evalByte (coefficients 0 k.toNat (c.2 b)) s.x := by
      grind [deltaOf]
    rw [(hp.map _).sum_eq, map_map]
    simp only [Function.comp_def, hv]
  · grind [deltaOf]

lemma Holding.refreshed {k : Nat} {shares : List Share} (h : Holding secret n k shares) (hk : 1 ≤ k) (r : Round) :
    Holding secret n k (shares.map (refreshed r secret.length k)) where
  x_ne_zero := by
    intro s hs
    obtain ⟨t, ht, rfl⟩ := mem_map.mp hs
    exact h.x_ne_zero t ht
  nodup := by
    rw [map_map]
    exact h.nodup
  points := by
    rw [map_map]
    exact h.points
  on_poly := by
    obtain ⟨tails, hlen, hy⟩ := h.on_poly
    have hex := fun b => exists_horner_add ⟨secret.getD b 0⟩ (tails b) (hlen b)
      (r.calls.map fun c => ((range (k - 1)).map (c.2 b)).map GF256.mk) (by grind)
    choose tails' hlen' hadd using hex
    refine ⟨tails', hlen', ?_⟩
    intro s hs
    obtain ⟨t, ht, rfl⟩ := mem_map.mp hs
    apply map_congr_left
    intro b hb
    have ht : t.y.getD b 0 = (horner ⟨t.x⟩ (⟨secret.getD b 0⟩ :: tails b)).byte := by
      grind
    rw [hadd, map_map, ht]
    rfl

lemma holding_sharesOf (secret : List UInt8) {k : Nat} (tape : Tape) (hk : 1 ≤ k) (hn : n ≤ 255) :
    Holding secret n k (sharesOf secret n k tape) where
  toSharing := sharing_sharesOf secret n k tape hk hn
  points := by
    rw [sharesOf, map_map]
    rfl

lemma foldlM_run_ok {n : UInt8} (hk : ¬ k < 2) (hkn : ¬ n < k) (hk1 : 1 ≤ k.toNat) (rounds : List Round)
    {shares : List Share} (h : Holding secret n.toNat k.toNat shares) :
    ∃ shares', rounds.foldlM (fun shares r => r.run secret.length n k shares) shares = .ok shares' ∧
      Holding secret n.toNat k.toNat shares' := by
  induction rounds generalizing shares with
  | nil => exact ⟨shares, rfl, h⟩
  | cons r rounds ih =>
    rw [foldlM_cons, r.run_eq hk hkn h]
    exact ih (h.refreshed hk1 r)

/-- Any number of rounds succeed and leave the guardians with shares of the
original secret. -/
theorem reshare_reconstructs (secret : List UInt8) (n k : UInt8) (tape : Tape) (rounds : List Round)
    (hs : secret ≠ []) (hk : 2 ≤ k) (hkn : k ≤ n) :
    ∃ shares, reshare secret n k tape rounds = .ok shares ∧ shares.length = n.toNat ∧
      Reconstructs combine secret k.toNat shares := by
  have hk' : ¬ k < 2 := UInt8.not_lt.mpr hk
  have hkn' : ¬ n < k := UInt8.not_lt.mpr hkn
  have hk2 : 2 ≤ k.toNat := le_iff_toNat_le.mp hk
  have hn := Nat.le_of_lt_succ n.toNat_lt
  have ha : Admissible secret n.toNat k.toNat :=
    ⟨Int.ofNat_le.mpr hk2, Int.ofNat_le.mpr (le_iff_toNat_le.mp hkn), Int.ofNat_le.mpr hn,
      fun h => hs (length_eq_zero_iff.mp h)⟩
  obtain ⟨shares, hr, hold⟩ := foldlM_run_ok hk' hkn' (by omega) rounds
    (holding_sharesOf secret tape (by omega) hn)
  refine ⟨shares, ?_, ?_, hold.reconstructs hk2 fun _ => combine_of_valid⟩
  · rw [reshare, split_of_admissible ha tape]
    exact hr
  · have hl := congrArg length hold.points
    rwa [length_map, length_map, length_range] at hl

theorem reshare_reconstructs_two_rounds : ∃ shares, reshare [42] 3 2 (fun _ _ => 5)
      [⟨[(1, fun _ _ => 9), (1, fun _ _ => 4)], fun _ ds => ds, fun _ _ => .refl _⟩,
        ⟨[(3, fun _ _ => 200)], fun _ ds => ds.reverse, fun _ ds => ds.reverse_perm⟩] = .ok shares ∧
      shares.length = 3 ∧ Reconstructs combine [42] 2 shares :=
  reshare_reconstructs [42] 3 2 (fun _ _ => 5) _ (by decide) (by decide) (by decide)

end Orama.Shamir.Zig
