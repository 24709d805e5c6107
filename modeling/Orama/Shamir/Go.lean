import Orama.Shamir.Tables

namespace Orama.Shamir.Go
open Lib Lib.Interpolation List

inductive Error
  | thresholdTooSmall
  | shareCountTooSmall
  | tooManyShares
  | emptySecret
  | notEnoughShares
  | mismatchedShareLen
  | zeroShareIndex
  | duplicateShareIndex
  | divisionByZero
  | randomGeneration (err : String)
deriving DecidableEq, Repr

def Error.message : Error → String
  | thresholdTooSmall => "shamir: threshold K must be at least 2"
  | shareCountTooSmall => "shamir: share count N must be >= threshold K"
  | tooManyShares => "shamir: maximum 255 shares (GF(2^8) limit)"
  | emptySecret => "shamir: secret must not be empty"
  | notEnoughShares => "shamir: need at least 2 shares to reconstruct"
  | mismatchedShareLen => "shamir: all shares must have the same data length"
  | zeroShareIndex => "shamir: share index must not be 0"
  | duplicateShareIndex => "shamir: duplicate share indices"
  | divisionByZero => "shamir: division by zero in GF(2^8)"
  | randomGeneration err => "shamir: random generation failed: " ++ err

structure InitState where
  x : UInt16
  expTable : List UInt8
  logTable : List UInt8

def initStep (s : InitState) (i : Nat) : InitState :=
  let s := if i < 256
    then { s with
      expTable := s.expTable.set i s.x.toUInt8
      logTable := s.logTable.set s.x.toUInt8.toNat (UInt8.ofNat i) }
    else { s with expTable := s.expTable.set i (s.expTable.getD (i - 255) 0) }
  if i < 255 then { s with x := mulGenerator s.x } else s

def init : InitState :=
  (List.range 512).foldl initStep ⟨1, List.replicate 512 0, List.replicate 256 0⟩

def expTable : List UInt8 := init.expTable
def logTable : List UInt8 := init.logTable

structure InitInv (n : Nat) (s : InitState) : Prop where
  x_eq : s.x = (gpow (min n 255)).toUInt16
  exp_length : s.expTable.length = 512
  log_length : s.logTable.length = 256
  exp_eq : ExpUpTo s.expTable n
  log_eq : ∀ j < min n 255, LogAt s.logTable (gpow j)

lemma initStep_inv (i : Nat) (s : InitState) (hi : i < 512) (h : InitInv i s) : InitInv (i + 1) (initStep s i) := by
  by_cases h256 : i < 256
  · have hmin : min i 255 = i := by omega
    have hx : s.x = (gpow i).toUInt16 := by rw [h.x_eq, hmin]
    have hb : s.x.toUInt8 = gpow i := by rw [hx, UInt8.toUInt8_toUInt16]
    have hexp := expUpTo_set (by rw [h.exp_length]; exact hi) h.exp_eq
    have hlog : ∀ j < min (i + 1) 255, LogAt (s.logTable.set (gpow i).toNat (UInt8.ofNat i)) (gpow j) := by
      intro j hj
      by_cases he : j = i
      · subst he
        exact logAt_set_self h.log_length h256
      · exact logAt_set h.log_length h256 (h.log_eq j (by omega))
    by_cases h255 : i < 255
    · have hm : min (i + 1) 255 = i + 1 := by omega
      refine ⟨?_, ?_, ?_, ?_, ?_⟩ <;> simp only [initStep, if_pos h256, if_pos h255, hb]
      · rw [hx, mulGenerator_gpow, hm]
      · rw [length_set, h.exp_length]
      · rw [length_set, h.log_length]
      · exact hexp
      · exact hlog
    · have hm : min (i + 1) 255 = i := by omega
      refine ⟨?_, ?_, ?_, ?_, ?_⟩ <;> simp only [initStep, if_pos h256, if_neg h255, hb]
      · rw [hx, hm]
      · rw [length_set, h.exp_length]
      · rw [length_set, h.log_length]
      · exact hexp
      · exact hlog
  · have h255 : ¬ i < 255 := by omega
    have hm : min (i + 1) 255 = min i 255 := by omega
    have hv : s.expTable.getD (i - 255) 0 = gpow i := by
      rw [h.exp_eq (i - 255) (by omega), ← gpow_add_order, Nat.sub_add_cancel (by omega)]
    refine ⟨?_, ?_, ?_, ?_, ?_⟩ <;> simp only [initStep, if_neg h256, if_neg h255, hv, hm]
    · exact h.x_eq
    · rw [length_set, h.exp_length]
    · exact h.log_length
    · exact expUpTo_set (by rw [h.exp_length]; exact hi) h.exp_eq
    · exact h.log_eq

lemma logExp : LogExp expTable logTable := by
  have h : InitInv 512 init := Loop.foldl_range_induction initStep _ 512 InitInv
    ⟨rfl, length_replicate, length_replicate, nofun,
      fun j hj => absurd hj (by omega)⟩ initStep_inv
  exact LogExp.of_powers h.exp_eq h.log_eq

def add (a b : UInt8) : UInt8 := a ^^^ b
def mul (a b : UInt8) : UInt8 := tableMul expTable logTable a b

def inv (a : UInt8) : Except Error UInt8 :=
  (tableInv expTable logTable a).elim (.error .divisionByZero) .ok

def div (a b : UInt8) : Except Error UInt8 :=
  (tableDiv expTable logTable a b).elim (.error .divisionByZero) .ok

lemma implements_field : Implements (fun a => id a.byte) add add mul div :=
  logExp.implements fun a b hb => by
    rw [div, logExp.tableDiv_eq a b hb]
    rfl

def evaluatePolynomial (coeffs : List UInt8) (x : UInt8) : UInt8 := hornerLoop add mul 0 coeffs x

lemma evaluatePolynomial_eq (coeffs : List UInt8) (x : UInt8) :
    evaluatePolynomial coeffs x = evalByte coeffs x := by
  have h := implements_field.evalByte_eq coeffs x
  rwa [map_id] at h

abbrev RandRead := Nat → Except String (Nat → UInt8)

def splitByte (secret : List UInt8) (k : Nat) (rand : RandRead) (shares : List Share) (byteIdx : Nat) :
    Except Error (List Share) :=
  match rand byteIdx with
  | .error err => .error (.randomGeneration err)
  | .ok bytes =>
    let coeffs := coefficients (secret.getD byteIdx 0) k bytes
    .ok (shares.map fun s => { s with y := s.y.set byteIdx (evaluatePolynomial coeffs s.x) })

def split (secret : List UInt8) (n k : Int) (rand : RandRead) : Except Error (List Share) :=
  if k < 2 then .error .thresholdTooSmall
  else if n < k then .error .shareCountTooSmall
  else if n > 255 then .error .tooManyShares
  else if secret.length = 0 then .error .emptySecret
  else
    let shares := (List.range n.toNat).map fun i =>
      (⟨UInt8.ofNat (i + 1), List.replicate secret.length 0⟩ : Share)
    (List.range secret.length).foldlM (splitByte secret k.toNat rand) shares

def checkShare (secretLen : Nat) (seen : List UInt8) (s : Share) : Except Error (List UInt8) :=
  if s.x = 0 then .error .zeroShareIndex
  else if s.y.length ≠ secretLen then .error .mismatchedShareLen
  else if s.x ∈ seen then .error .duplicateShareIndex
  else .ok (s.x :: seen)

def combine (shares : List Share) : Except Error (List UInt8) :=
  if shares.length < 2 then .error .notEnoughShares
  else do
    let _ ← shares.foldlM (checkShare (secretLen shares)) []
    (List.range (secretLen shares)).mapM fun byteIdx =>
      lagrangeLoop add add mul div 0 1 Share.x (fun s => s.y.getD byteIdx 0) shares

variable {secret : List UInt8} {n k : Int}

lemma split_of_admissible (h : Admissible secret n k) (tape : Tape) :
    split secret n k (fun i => .ok (tape i)) = .ok (sharesOf secret n.toNat k.toNat tape) := by
  simp only [split, if_neg (Int.not_lt.mpr h.two_le), if_neg (Int.not_lt.mpr h.k_le),
    if_neg (Int.not_lt.mpr h.n_le), if_neg h.nonempty, gt_iff_lt]
  rw [Loop.foldlM_ok _ _ (fun shares byteIdx => shares.map fun s => { s with
    y := s.y.set byteIdx
      (evalByte (coefficients (secret.getD byteIdx 0) k.toNat (tape byteIdx)) s.x) })]
  · exact congrArg Except.ok (foldl_fill (fun i y => (⟨UInt8.ofNat (i + 1), y⟩ : Share)) _
      (fun b i => evalByte (coefficients (secret.getD b 0) k.toNat (tape b)) (UInt8.ofNat (i + 1)))
      (fun _ _ _ => rfl) (List.range n.toNat) secret.length)
  · intro byteIdx _ shares
    simp only [splitByte, evaluatePolynomial_eq]

lemma split_of_not_admissible (h : ¬ Admissible secret n k) (rand : RandRead) :
    ∃ e, split secret n k rand = .error e := by
  unfold split
  split_ifs with h1 h2 h3 h4
  · exact ⟨_, rfl⟩
  · exact ⟨_, rfl⟩
  · exact ⟨_, rfl⟩
  · exact ⟨_, rfl⟩
  · exact absurd ⟨by omega, by omega, by omega, h4⟩ h

lemma checkShares_ok_iff (len : Nat) (seen : List UInt8) (shares : List Share) :
    (∃ seen', shares.foldlM (checkShare len) seen = .ok seen') ↔
    (∀ s ∈ shares, s.x ≠ 0 ∧ s.y.length = len ∧ s.x ∉ seen) ∧ (shares.map Share.x).Nodup := by
  induction shares generalizing seen with
  | nil => simp [pure, Except.pure]
  | cons s shares ih =>
    rw [foldlM_cons]
    by_cases hs : s.x ≠ 0 ∧ s.y.length = len ∧ s.x ∉ seen
    · obtain ⟨h0, hl, hm⟩ := hs
      have hc : checkShare len seen s = .ok (s.x :: seen) := by
        rw [checkShare, if_neg h0, if_neg (not_not.mpr hl), if_neg hm]
      rw [hc]
      change (∃ seen', shares.foldlM (checkShare len) (s.x :: seen) = .ok seen') ↔ _
      rw [ih, map_cons, nodup_cons]
      constructor
      · grind
      · grind
    · have hc : ∃ e, checkShare len seen s = .error e := by
        unfold checkShare
        split_ifs with h1 h2 h3
        · exact ⟨_, rfl⟩
        · exact ⟨_, rfl⟩
        · exact ⟨_, rfl⟩
        · exact absurd ⟨h1, not_not.mp h2, h3⟩ hs
      obtain ⟨e, he⟩ := hc
      rw [he]
      constructor
      · rintro ⟨seen', h⟩
        cases h
      · rintro ⟨hall, _⟩
        exact absurd (hall s (by simp)) hs

variable {shares : List Share}

lemma combine_of_valid (h : Valid shares) : combine shares = .ok (reconstruct shares) := by
  have hl : ¬ shares.length < 2 := Nat.not_lt.mpr h.two_le
  obtain ⟨seen, hc⟩ := (checkShares_ok_iff (secretLen shares) [] shares).mpr
    ⟨fun s hs => ⟨h.x_ne_zero s hs, h.y_length s hs, by simp⟩, h.nodup⟩
  rw [combine, if_neg hl, hc]
  change (List.range (secretLen shares)).mapM _ = _
  exact Loop.mapM_ok _ _ _ fun b _ => implements_field.reconstructByte_eq h b

lemma combine_of_not_valid (h : ¬ Valid shares) : ∃ e, combine shares = .error e := by
  unfold combine
  split
  · exact ⟨_, rfl⟩
  · next hl =>
    cases hc : shares.foldlM (checkShare (secretLen shares)) [] with
    | error e => exact ⟨e, rfl⟩
    | ok seen =>
      have hv := (checkShares_ok_iff (secretLen shares) [] shares).mp ⟨seen, hc⟩
      exact absurd ⟨Nat.not_lt.mp hl, fun s hs => (hv.1 s hs).1, fun s hs => (hv.1 s hs).2.1, hv.2⟩ h

end Orama.Shamir.Go
