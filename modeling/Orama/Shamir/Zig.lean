import Orama.Shamir.Tables

namespace Orama.Shamir.Zig
open Lib Lib.Interpolation List

inductive Error
  | divisionByZero
  | thresholdTooSmall
  | shareCountTooSmall
  | emptySecret
  | notEnoughShares
  | mismatchedShareLengths
  | zeroShareIndex
  | duplicateShareIndices
  | invalidShareCount
deriving DecidableEq, Repr

structure ExpState where
  x : UInt16
  table : List UInt8

def expStep (s : ExpState) (i : Nat) : ExpState :=
  ⟨mulGenerator s.x, s.table.set i s.x.toUInt8⟩

def expTable : List UInt8 :=
  ((List.range 512).foldl expStep ⟨1, List.replicate 512 0⟩).table

def logStep (table : List UInt8) (i : Nat) : List UInt8 :=
  table.set (expTable.getD i 0).toNat (UInt8.ofNat i)

def logTable : List UInt8 := (List.range 255).foldl logStep (List.replicate 256 0)

structure ExpInv (n : Nat) (s : ExpState) : Prop where
  x_eq : s.x = (gpow n).toUInt16
  length_eq : s.table.length = 512
  exp_eq : ExpUpTo s.table n

open UInt8

lemma expStep_inv (i : Nat) (s : ExpState) (hi : i < 512) (h : ExpInv i s) : ExpInv (i + 1) (expStep s i) where
  x_eq := by rw [expStep, h.x_eq, mulGenerator_gpow]
  length_eq := by rw [expStep, length_set, h.length_eq]
  exp_eq := by
    have hb : s.x.toUInt8 = gpow i := by rw [h.x_eq, toUInt8_toUInt16]
    rw [expStep, hb]
    exact expUpTo_set (by rw [h.length_eq]; exact hi) h.exp_eq

lemma expTable_eq : ExpUpTo expTable 512 := by
  have h := Loop.foldl_range_induction expStep ⟨1, List.replicate 512 0⟩ 512 ExpInv
    ⟨rfl, length_replicate, nofun⟩ expStep_inv
  exact h.exp_eq

structure LogInv (n : Nat) (table : List UInt8) : Prop where
  length_eq : table.length = 256
  log_eq : ∀ j < n, LogAt table (gpow j)

lemma logStep_inv (i : Nat) (table : List UInt8) (hi : i < 255) (h : LogInv i table) :
    LogInv (i + 1) (logStep table i) where
  length_eq := by rw [logStep, length_set, h.length_eq]
  log_eq := by
    intro j hj
    rw [logStep, expTable_eq i (by omega)]
    by_cases he : j = i
    · subst he
      exact logAt_set_self h.length_eq (by omega)
    · exact logAt_set h.length_eq (by omega) (h.log_eq j (by omega))

lemma logExp : LogExp expTable logTable := by
  have h := Loop.foldl_range_induction logStep (List.replicate 256 0) 255 LogInv
    ⟨length_replicate, nofun⟩ logStep_inv
  exact LogExp.of_powers expTable_eq h.log_eq

def add (a b : UInt8) : UInt8 := a ^^^ b
def sub (a b : UInt8) : UInt8 := a ^^^ b
def mul (a b : UInt8) : UInt8 := tableMul expTable logTable a b

def inv (a : UInt8) : Except Error UInt8 :=
  (tableInv expTable logTable a).elim (.error .divisionByZero) .ok

def div (a b : UInt8) : Except Error UInt8 :=
  (tableDiv expTable logTable a b).elim (.error .divisionByZero) .ok

lemma implements_field : Implements (fun a => id a.byte) add sub mul div :=
  logExp.implements fun a b hb => by
    rw [div, logExp.tableDiv_eq a b hb]
    rfl

def evaluate (coeffs : List UInt8) (x : UInt8) : UInt8 :=
  match coeffs.getLast? with
  | none => 0
  | some last =>
    if x = 0 then coeffs.headD 0
    else hornerLoop add mul last coeffs.dropLast x

lemma hornerLoop_eq (coeffs : List UInt8) (x : UInt8) : hornerLoop add mul 0 coeffs x = evalByte coeffs x := by
  have h := implements_field.evalByte_eq coeffs x
  rwa [map_id] at h

lemma hornerLoop_concat (init : List UInt8) (last x : UInt8) :
    hornerLoop add mul 0 (init ++ [last]) x = hornerLoop add mul last init x := by
  have hz : add (mul 0 x) last = last := by simp [add, mul, tableMul]
  rw [hornerLoop, foldr_append, foldr_cons, foldr_nil, hz, hornerLoop]

lemma evaluate_eq (coeffs : List UInt8) (x : UInt8) : evaluate coeffs x = evalByte coeffs x := by
  rcases eq_nil_or_concat coeffs with rfl | ⟨init, last, rfl⟩
  · rfl
  · rw [evaluate, concat_eq_append, getLast?_append]
    change (if x = 0 then (init ++ [last]).headD 0
      else hornerLoop add mul last (init ++ [last]).dropLast x) = _
    split
    · next hx =>
      subst hx
      rw [evalByte, show (⟨0⟩ : GF256) = 0 from rfl]
      cases init with
      | nil => simp [horner]
      | cons c cs => simp [horner]
    · rw [dropLast_concat, ← hornerLoop_concat, hornerLoop_eq]

structure ShareSet where
  threshold : UInt8
  total : UInt8
  shares : List Share
deriving DecidableEq, Repr

def splitByte (secret : List UInt8) (k : Nat) (tape : Tape) (shares : List Share) (byteIdx : Nat) : List Share :=
  let coeffs := coefficients (secret.getD byteIdx 0) k (tape byteIdx)
  shares.map fun s => { s with y := s.y.set byteIdx (evaluate coeffs s.x) }

def split (secret : List UInt8) (n k : UInt8) (tape : Tape) : Except Error ShareSet :=
  if k < 2 then .error .thresholdTooSmall
  else if n < k then .error .shareCountTooSmall
  else if secret.length = 0 then .error .emptySecret
  else
    let shares := (List.range n.toNat).map fun i =>
      (⟨UInt8.ofNat i + 1, List.replicate secret.length 0⟩ : Share)
    .ok ⟨k, n, (List.range secret.length).foldl (splitByte secret k.toNat tape) shares⟩

def checkShare (secretLen : Nat) (s : Share) : Except Error Unit :=
  if s.x = 0 then .error .zeroShareIndex
  else if s.y.length ≠ secretLen then .error .mismatchedShareLengths
  else .ok ()

def checkDuplicates : List Share → Except Error Unit
  | [] => .ok ()
  | a :: rest => if rest.any (fun b => a.x == b.x) then .error .duplicateShareIndices
    else checkDuplicates rest

def combine (shares : List Share) : Except Error (List UInt8) :=
  if shares.length < 2 then .error .notEnoughShares
  else do
    shares.forM (checkShare (secretLen shares))
    checkDuplicates shares
    (List.range (secretLen shares)).mapM fun byteIdx =>
      lagrangeLoop add sub mul div 0 1 Share.x (fun s => s.y.getD byteIdx 0) shares

lemma lt_iff_cast_lt (a b : UInt8) : a < b ↔ (a.toNat : Int) < b.toNat := by
  rw [lt_iff_toNat_lt]
  exact Int.ofNat_lt.symm

variable {secret : List UInt8} {n k : UInt8}

lemma split_of_admissible (h : Admissible secret n.toNat k.toNat) (tape : Tape) :
    split secret n k tape = .ok ⟨k, n, sharesOf secret n.toNat k.toNat tape⟩ := by
  have h1 : ¬ k < 2 := by
    rw [lt_iff_cast_lt]
    exact Int.not_lt.mpr h.two_le
  have h2 : ¬ n < k := by
    rw [lt_iff_cast_lt]
    exact Int.not_lt.mpr h.k_le
  simp only [split, if_neg h1, if_neg h2, if_neg h.nonempty]
  have hstep : splitByte secret k.toNat tape = fun shares byteIdx => shares.map fun s => { s with
      y := s.y.set byteIdx
        (evalByte (coefficients (secret.getD byteIdx 0) k.toNat (tape byteIdx)) s.x) } := by
    funext shares byteIdx
    simp only [splitByte, evaluate_eq]
  have hx : ∀ i, ofNat i + 1 = ofNat (i + 1) := fun i => (ofNat_add i 1).symm
  simp only [hx, hstep]
  exact congrArg (fun shares => Except.ok (ShareSet.mk k n shares))
    (foldl_fill (fun i y => (⟨ofNat (i + 1), y⟩ : Share)) _
      (fun b i => evalByte (coefficients (secret.getD b 0) k.toNat (tape b)) (ofNat (i + 1)))
      (fun _ _ _ => rfl) (List.range n.toNat) secret.length)

lemma split_of_nat {n k : Nat} (h : Admissible secret n k) (tape : Tape) :
    split secret (ofNat n) (ofNat k) tape = .ok ⟨ofNat k, ofNat n, sharesOf secret n k tape⟩ := by
  have hkn := h.k_le
  have hn := h.n_le
  have hn8 : (ofNat n).toNat = n := by rw [toNat_ofNat', Nat.mod_eq_of_lt (by omega)]
  have hk8 : (ofNat k).toNat = k := by rw [toNat_ofNat', Nat.mod_eq_of_lt (by omega)]
  have hz := split_of_admissible (n := ofNat n) (k := ofNat k)
    (by rw [hn8, hk8]; exact h) tape
  rwa [hn8, hk8] at hz

lemma split_of_not_admissible (h : ¬ Admissible secret n.toNat k.toNat) (tape : Tape) :
    ∃ e, split secret n k tape = .error e := by
  unfold split
  split_ifs with h1 h2 h3
  · exact ⟨_, rfl⟩
  · exact ⟨_, rfl⟩
  · exact ⟨_, rfl⟩
  · rw [lt_iff_cast_lt] at h1 h2
    have hn := n.toNat_lt
    exact absurd ⟨Int.not_lt.mp h1, Int.not_lt.mp h2, by omega, h3⟩ h

lemma checkShare_ok_iff (len : Nat) (s : Share) : checkShare len s = .ok () ↔ s.x ≠ 0 ∧ s.y.length = len := by
  grind [checkShare]

lemma checkDuplicates_ok_iff (shares : List Share) :
    checkDuplicates shares = .ok () ↔ (shares.map Share.x).Nodup := by
  induction shares with
  | nil => simp [checkDuplicates]
  | cons a rest ih =>
    have hany : rest.any (fun b => a.x == b.x) ↔ a.x ∈ rest.map Share.x := by
      grind
    rw [map_cons, nodup_cons, ← ih, ← hany, checkDuplicates]
    split_ifs with h <;> simp [h]

variable {shares : List Share}

lemma combine_of_valid (h : Valid shares) : combine shares = .ok (reconstruct shares) := by
  have hl : ¬ shares.length < 2 := Nat.not_lt.mpr h.two_le
  have hc := (Loop.forM_ok_iff shares (checkShare (secretLen shares))).mpr fun s hs =>
    (checkShare_ok_iff _ s).mpr ⟨h.x_ne_zero s hs, h.y_length s hs⟩
  have hd := (checkDuplicates_ok_iff shares).mpr h.nodup
  rw [combine, if_neg hl, hc, hd]
  change (List.range (secretLen shares)).mapM _ = _
  exact Loop.mapM_ok _ _ _ fun b _ => implements_field.reconstructByte_eq h b

lemma combine_of_not_valid (h : ¬ Valid shares) : ∃ e, combine shares = .error e := by
  unfold combine
  split
  · exact ⟨_, rfl⟩
  · next hl =>
    cases hc : shares.forM (checkShare (secretLen shares)) with
    | error e => exact ⟨e, rfl⟩
    | ok u =>
      cases hd : checkDuplicates shares with
      | error e => exact ⟨e, rfl⟩
      | ok v =>
        have hx := fun s hs => (checkShare_ok_iff _ s).mp ((Loop.forM_ok_iff _ _).mp hc s hs)
        exact absurd ⟨Nat.not_lt.mp hl, fun s hs => (hx s hs).1, fun s hs => (hx s hs).2,
          (checkDuplicates_ok_iff shares).mp hd⟩ h

end Orama.Shamir.Zig
