import Orama.Shamir.Tables

namespace Orama.Shamir.Ts
open Lib List

inductive Error
  | divisionByZero
  | thresholdTooSmall
  | shareCountTooSmall
  | tooManyShares
  | emptySecret
  | notEnoughShares
  | mismatchedDataLength
  | zeroShareIndex
  | duplicateShareIndices
deriving DecidableEq, Repr

def Error.message : Error → String
  | divisionByZero => "GF(2^8): division by zero"
  | thresholdTooSmall => "Threshold K must be at least 2"
  | shareCountTooSmall => "Share count N must be >= threshold K"
  | tooManyShares => "Maximum 255 shares (GF(2^8) limit)"
  | emptySecret => "Secret must not be empty"
  | notEnoughShares => "Need at least 2 shares"
  | mismatchedDataLength => "All shares must have the same data length"
  | zeroShareIndex => "Share index must not be 0"
  | duplicateShareIndices => "Duplicate share indices"

def nextPower (x : Nat) : Nat :=
  let x := x ^^^ (x <<< 1)
  if x ≥ 256 then x ^^^ 0x11b else x

lemma nextPower_gpow (i : Nat) : nextPower (gpow i).toNat = (gpow (i + 1)).toNat := by
  have h : ∀ n < 256, nextPower n = (mulGenerator (UInt8.ofNat n).toUInt16).toUInt8.toNat := by decide +kernel
  rw [h _ (gpow i).toNat_lt, UInt8.ofNat_toNat, mulGenerator_gpow, UInt8.toUInt8_toUInt16]

structure BuildState where
  x : Nat
  expTable : List UInt8
  logTable : List UInt8

def buildStep (s : BuildState) (i : Nat) : BuildState :=
  ⟨nextPower s.x, s.expTable.set i (UInt8.ofNat s.x), s.logTable.set s.x (UInt8.ofNat i)⟩

def extendStep (expTable : List UInt8) (j : Nat) : List UInt8 :=
  let i := 255 + j
  expTable.set i (expTable.getD (i - 255) 0)

def extendTable (expTable : List UInt8) : List UInt8 := (List.range 257).foldl extendStep expTable

def buildPowers : BuildState :=
  (List.range 255).foldl buildStep ⟨1, List.replicate 512 0, List.replicate 256 0⟩

def expTable : List UInt8 := extendTable buildPowers.expTable
def logTable : List UInt8 := buildPowers.logTable

structure BuildInv (n : Nat) (s : BuildState) : Prop where
  x_eq : s.x = (gpow n).toNat
  exp_length : s.expTable.length = 512
  log_length : s.logTable.length = 256
  exp_eq : ExpUpTo s.expTable n
  log_eq : ∀ j < n, LogAt s.logTable (gpow j)

lemma buildStep_inv (i : Nat) (s : BuildState) (hi : i < 255) (h : BuildInv i s) :
    BuildInv (i + 1) (buildStep s i) where
  x_eq := by rw [buildStep, h.x_eq, nextPower_gpow]
  exp_length := by rw [buildStep, length_set, h.exp_length]
  log_length := by rw [buildStep, length_set, h.log_length]
  exp_eq := by
    rw [buildStep, h.x_eq, UInt8.ofNat_toNat]
    exact expUpTo_set (by rw [h.exp_length]; omega) h.exp_eq
  log_eq := by
    intro j hj
    rw [buildStep, h.x_eq]
    by_cases he : j = i
    · subst he
      exact logAt_set_self h.log_length (by omega)
    · exact logAt_set h.log_length (by omega) (h.log_eq j (by omega))

structure ExtendInv (j : Nat) (expTable : List UInt8) : Prop where
  length_eq : expTable.length = 512
  exp_eq : ExpUpTo expTable (255 + j)

lemma extendStep_inv (j : Nat) (expTable : List UInt8) (hj : j < 257) (h : ExtendInv j expTable) :
    ExtendInv (j + 1) (extendStep expTable j) where
  length_eq := by rw [extendStep, length_set, h.length_eq]
  exp_eq := by
    have hv : expTable.getD (255 + j - 255) 0 = gpow (255 + j) := by
      rw [Nat.add_sub_cancel_left, h.exp_eq j (by omega), ← gpow_add_order, Nat.add_comm]
    rw [extendStep, hv]
    exact expUpTo_set (by rw [h.length_eq]; omega) h.exp_eq

lemma extendTable_eq {expTable : List UInt8} (hl : expTable.length = 512)
    (h : ExpUpTo expTable 255) : ExpUpTo (extendTable expTable) 512 :=
  (Loop.foldl_range_induction extendStep expTable 257 ExtendInv ⟨hl, h⟩ extendStep_inv).exp_eq

lemma buildPowers_eq : BuildInv 255 buildPowers :=
  Loop.foldl_range_induction buildStep _ 255 BuildInv ⟨rfl, length_replicate, length_replicate, nofun,
    nofun⟩ buildStep_inv

lemma logExp : LogExp expTable logTable :=
  LogExp.of_powers (extendTable_eq buildPowers_eq.exp_length buildPowers_eq.exp_eq)
    buildPowers_eq.log_eq

def gfAdd (a b : UInt8) : UInt8 := a ^^^ b
def gfMul (a b : UInt8) : UInt8 := tableMul expTable logTable a b

def gfInv (a : UInt8) : Except Error UInt8 :=
  (tableInv expTable logTable a).elim (.error .divisionByZero) .ok

def gfDiv (a b : UInt8) : Except Error UInt8 :=
  if b = 0 then .error .divisionByZero
  else if a = 0 then .ok 0
  else
    let logDiff := (logTable.getD a.toNat 0).toNat + 255 -
      (logTable.getD b.toNat 0).toNat
    .ok (expTable.getD (logDiff % 255) 0)

lemma gfDiv_eq (a b : UInt8) (hb : b ≠ 0) : gfDiv a b = .ok ((⟨a⟩ : GF256) / ⟨b⟩).byte := by
  have hd := logExp.tableDiv_eq a b hb
  rw [tableDiv, if_neg hb] at hd
  rw [gfDiv, if_neg hb]
  split
  · next ha =>
    rw [if_pos ha] at hd
    rw [Option.some.inj hd]
  · next ha =>
    rw [if_neg ha] at hd
    have hla := (logTable.getD a.toNat 0).toNat_lt
    dsimp only at hd ⊢
    rw [logExp.exp_eq _ (by omega)] at hd
    rw [logExp.exp_eq _ (by omega), gpow_mod_order, Option.some.inj hd]

lemma implements_field : Implements (fun a => id a.byte) gfAdd gfAdd gfMul gfDiv := logExp.implements gfDiv_eq

def evaluatePolynomial (coeffs : List UInt8) (x : UInt8) : UInt8 := hornerLoop gfAdd gfMul 0 coeffs x

lemma evaluatePolynomial_eq (coeffs : List UInt8) (x : UInt8) :
    evaluatePolynomial coeffs x = evalByte coeffs x := by
  have h := implements_field.evalByte_eq coeffs x
  rwa [map_id] at h

def split (secret : List UInt8) (n k : Int) (tape : Tape) : Except Error (List Share) :=
  if k < 2 then .error .thresholdTooSmall
  else if n < k then .error .shareCountTooSmall
  else if n > 255 then .error .tooManyShares
  else if secret.length = 0 then .error .emptySecret
  else
    let polys := (List.range secret.length).map fun i =>
      coefficients (secret.getD i 0) k.toNat (tape i)
    .ok ((List.range n.toNat).map fun i =>
      let xi := UInt8.ofNat (i + 1)
      ⟨xi, (List.range secret.length).foldl (fun y byteIdx =>
        y.set byteIdx (evaluatePolynomial (polys.getD byteIdx []) xi))
          (List.replicate secret.length 0)⟩)

def checkShare (secretLength : Nat) (s : Share) : Except Error Unit :=
  if s.y.length ≠ secretLength then .error .mismatchedDataLength
  else if s.x = 0 then .error .zeroShareIndex
  else .ok ()

def combine (shares : List Share) : Except Error (List UInt8) :=
  if shares.length < 2 then .error .notEnoughShares
  else do
    shares.forM (checkShare (secretLen shares))
    if (shares.map Share.x).dedup.length ≠ shares.length then .error .duplicateShareIndices
    else (List.range (secretLen shares)).mapM fun byteIdx =>
      lagrangeLoop gfAdd gfAdd gfMul gfDiv 0 1 Share.x (fun s => s.y.getD byteIdx 0) shares

variable {secret : List UInt8} {n k : Int}

lemma split_of_admissible (h : Admissible secret n k) (tape : Tape) :
    split secret n k tape = .ok (sharesOf secret n.toNat k.toNat tape) := by
  simp only [split, if_neg (Int.not_lt.mpr h.two_le), if_neg (Int.not_lt.mpr h.k_le),
    if_neg (Int.not_lt.mpr h.n_le), if_neg h.nonempty, gt_iff_lt]
  apply congrArg Except.ok
  apply map_congr_left
  intro i _
  have hy := Loop.foldl_set_range (List.replicate secret.length (0 : UInt8)) fun byteIdx =>
    evaluatePolynomial (((List.range secret.length).map fun i =>
      coefficients (secret.getD i 0) k.toNat (tape i)).getD byteIdx []) (UInt8.ofNat (i + 1))
  rw [length_replicate] at hy
  rw [hy, shareOf]
  congr 1
  apply map_congr_left
  intro b hb
  rw [evaluatePolynomial_eq]
  simp [getD_eq_getElem?_getD, mem_range.mp hb]

lemma split_of_not_admissible (h : ¬ Admissible secret n k) (tape : Tape) :
    ∃ e, split secret n k tape = .error e := by
  unfold split
  split_ifs with h1 h2 h3 h4
  · exact ⟨_, rfl⟩
  · exact ⟨_, rfl⟩
  · exact ⟨_, rfl⟩
  · exact ⟨_, rfl⟩
  · exact absurd ⟨by omega, by omega, by omega, h4⟩ h

lemma checkShare_ok_iff (len : Nat) (s : Share) : checkShare len s = .ok () ↔ s.x ≠ 0 ∧ s.y.length = len := by
  grind [checkShare]

lemma dedup_length_eq_iff (l : List UInt8) : l.dedup.length = l.length ↔ l.Nodup := by
  grind [dedup_eq_self, dedup_sublist]

variable {shares : List Share}

lemma combine_of_valid (h : Valid shares) : combine shares = .ok (reconstruct shares) := by
  have hl : ¬ shares.length < 2 := Nat.not_lt.mpr h.two_le
  have hc := (Loop.forM_ok_iff shares (checkShare (secretLen shares))).mpr fun s hs =>
    (checkShare_ok_iff _ s).mpr ⟨h.x_ne_zero s hs, h.y_length s hs⟩
  have hd := (dedup_length_eq_iff _).mpr h.nodup
  rw [length_map] at hd
  rw [combine, if_neg hl, hc, if_neg (not_not.mpr hd)]
  exact Loop.mapM_ok _ _ _ fun b _ => implements_field.reconstructByte_eq h b

lemma combine_of_not_valid (h : ¬ Valid shares) : ∃ e, combine shares = .error e := by
  unfold combine
  split
  · exact ⟨_, rfl⟩
  · next hl =>
    cases hc : shares.forM (checkShare (secretLen shares)) with
    | error e => exact ⟨e, rfl⟩
    | ok u =>
      by_cases hd : (shares.map Share.x).dedup.length = shares.length
      · have hx := fun s hs => (checkShare_ok_iff _ s).mp ((Loop.forM_ok_iff _ _).mp hc s hs)
        have hnd : (shares.map Share.x).Nodup := by
          rw [← dedup_length_eq_iff, length_map]
          exact hd
        exact absurd ⟨Nat.not_lt.mp hl, fun s hs => (hx s hs).1, fun s hs => (hx s hs).2, hnd⟩ h
      · rw [if_pos hd]
        exact ⟨_, rfl⟩

end Orama.Shamir.Ts
