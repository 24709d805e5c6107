import Mathlib.FieldTheory.Finite.Basic
import Orama.Lib.Base64
import Orama.Lib.Text
import Orama.Shamir.Loops

namespace Orama.Agent
open Lib Lib.Interpolation Shamir

def double (a : UInt8) : UInt8 := if a &&& 0x80 ≠ 0 then (a <<< 1) ^^^ 0x1B else a <<< 1

def gf256MulLoop : Nat → UInt8 → UInt8 → UInt8 → UInt8
  | 0, _, _, result => result
  | rounds + 1, a, b, result =>
    if b = 0 then result
    else gf256MulLoop rounds (double a) (b >>> 1) (if b &&& 1 ≠ 0 then result ^^^ a else result)

def gf256Mul (a b : UInt8) : UInt8 := gf256MulLoop 8 a b 0

def gf256Inv (a : UInt8) : UInt8 :=
  if a = 0 then 0
  else
    let result := (List.range 6).foldl (fun result _ => gf256Mul (gf256Mul result result) a) a
    gf256Mul result result

def evalPolynomial (coeffs : List UInt8) (x : UInt8) : UInt8 :=
  match coeffs.reverse with
  | [] => 0
  | last :: rest => rest.foldl (fun result c => gf256Mul result x ^^^ c) last

abbrev RandRead := Nat → Except Bytes (Nat → UInt8)

def splitByte (secret : Bytes) (k : Nat) (rand : RandRead) (shares : List Bytes) (byteIdx : Nat) :
    Except Bytes (List Bytes) :=
  match rand byteIdx with
  | .error e => .error e
  | .ok bytes =>
    let coeffs := coefficients (secret.getD byteIdx 0) k bytes
    .ok (shares.mapIdx fun i share => share.set byteIdx (evalPolynomial coeffs (UInt8.ofNat (i + 1))))

def shamirSplit (secret : Bytes) (n k : Nat) (rand : RandRead) : Except Bytes (List Bytes) :=
  if n < k then
    .error (ascii "n (" ++ decimal n ++ ascii ") must be >= k (" ++ decimal k ++ ascii ")")
  else if k < 2 then .error (ascii "threshold must be >= 2")
  else
    (List.range secret.length).foldlM (splitByte secret k rand)
      (List.replicate n (List.replicate secret.length 0))

def lagrange (xs : List UInt8) (i : Nat) (xi : UInt8) : UInt8 :=
  let (num, den) := xs.zipIdx.foldl (fun acc p =>
    if i = p.2 then acc else (gf256Mul acc.1 p.1, gf256Mul acc.2 (xi ^^^ p.1))) (1, 1)
  gf256Mul num (gf256Inv den)

def combineByte (shares : List Bytes) (byteIdx : Nat) : UInt8 :=
  let xs := (List.range shares.length).map fun i => UInt8.ofNat (i + 1)
  xs.zipIdx.foldl (fun val p =>
    val ^^^ gf256Mul ((shares.getD p.2 []).getD byteIdx 0) (lagrange xs p.2 p.1)) 0

def shamirCombine (shares : List Bytes) : Except Bytes Bytes :=
  if shares.length < 2 then .error (ascii "need at least 2 shares")
  else
    let secretLen := (shares.getD 0 []).length
    if shares.any fun share => share.length < secretLen then .error (ascii "index out of range")
    else .ok ((List.range secretLen).map (combineByte shares))

def threshold (n : Nat) : Nat := min n (max 3 (n / 3))
abbrev Peer := Bytes

structure VaultClient where
  vaultAuth : Peer → Bytes → Except Bytes Bytes
  vaultPutSecret : Peer → Bytes → Bytes → Bytes → Nat → Option Bytes
  vaultGetSecret : Peer → Bytes → Bytes → Except Bytes Bytes

structure Put where
  peer : Peer
  name : Bytes
  value : Bytes
  version : Nat
deriving DecidableEq

def secretName (nodeID : Bytes) : Bytes := ascii "luks-key-" ++ nodeID

def putShares (client : VaultClient) (identity name : Bytes) : List (Peer × Bytes) → Option Bytes × List Put
  | [] => (none, [])
  | (peer, share) :: rest =>
    match client.vaultAuth peer identity with
    | .error e => (some (ascii "failed to authenticate with peer " ++ peer ++ ascii ": " ++ e), [])
    | .ok session =>
      match client.vaultPutSecret peer session name (Base64.encode share) 1 with
      | some e => (some (ascii "failed to store share on peer " ++ peer ++ ascii ": " ++ e), [])
      | none =>
        let (err, puts) := putShares client identity name rest
        (err, ⟨peer, name, Base64.encode share, 1⟩ :: puts)

def distributeKeyShares (client : VaultClient) (rand : RandRead) (identity : Except Bytes Bytes) (key : Bytes)
    (peers : List Peer) (nodeID : Bytes) : Option Bytes × List Put :=
  let n := peers.length
  if n = 0 then (some (ascii "no peers available for key distribution"), [])
  else
    match shamirSplit key n (threshold n) rand with
    | .error e => (some (ascii "shamir split failed: " ++ e), [])
    | .ok shares =>
      match identity with
      | .error e => (some (ascii "failed to derive agent identity: " ++ e), [])
      | .ok identity => putShares client identity (secretName nodeID) (peers.zip shares)

def fetchShare (client : VaultClient) (identity name : Bytes) (peer : Peer) : Option Bytes :=
  match client.vaultAuth peer identity with
  | .error _ => none
  | .ok session =>
    match client.vaultGetSecret peer session name with
    | .error _ => none
    | .ok shareB64 => Base64.decode shareB64

def fetchShares (client : VaultClient) (identity name : Bytes) (k : Nat) : List Peer → List Bytes → List Bytes
  | [], shares => shares
  | peer :: peers, shares =>
    match fetchShare client identity name peer with
    | none => fetchShares client identity name k peers shares
    | some share =>
      let shares := shares ++ [share]
      if k + 1 ≤ shares.length then shares else fetchShares client identity name k peers shares

def maxRetries : Nat := 5

def fetchAttempts (client : Nat → VaultClient) (identity name : Bytes) (k : Nat) (peers : List Peer) :
    List Nat → List Bytes → List Bytes
  | [], shares => shares
  | attempt :: rest, _ =>
    let shares := fetchShares (client attempt) identity name k peers []
    if k ≤ shares.length then shares else fetchAttempts client identity name k peers rest shares

structure AgentFiles where
  peerConfig : Except Bytes (List Peer)
  nodeID : Except Bytes Bytes
  identity : Except Bytes Bytes

def fetchAndReconstruct (files : AgentFiles) (client : Nat → VaultClient) : Except Bytes (Bytes × Bool) :=
  match files.peerConfig with
  | .error e => .error (ascii "failed to load peer config: " ++ e)
  | .ok peers =>
    match files.nodeID with
    | .error e => .error (ascii "failed to load node ID: " ++ e)
    | .ok nodeID =>
      match files.identity with
      | .error e => .error (ascii "failed to derive agent identity: " ++ e)
      | .ok identity =>
        let k := threshold peers.length
        let shares := fetchAttempts client identity (secretName nodeID) k peers
          (List.range (maxRetries + 1)) []
        if shares.length < k then
          .error (ascii "could not fetch enough shares: got " ++ decimal shares.length ++ ascii ", need " ++
            decimal k)
        else
          match shamirCombine (shares.take k) with
          | .error e => .error (ascii "shamir combine failed: " ++ e)
          | .ok key =>
            let malicious := k < shares.length &&
              match shamirCombine ((shares.drop 1).take k) with
              | .error _ => false
              | .ok altKey => key ≠ altKey
            .ok (key, malicious)

open GF256
section

lemma gf256MulLoop_map (T : UInt8 → UInt8) (hadd : ∀ a b, T (a ^^^ b) = T a ^^^ T b)
    (hdouble : ∀ a, T (double a) = double (T a)) (rounds : Nat) (a b result : UInt8) :
    gf256MulLoop rounds (T a) b (T result) = T (gf256MulLoop rounds a b result) := by
  induction rounds generalizing a b result with
  | zero => rfl
  | succ rounds ih => grind [gf256MulLoop]

lemma mulGen_double (a : UInt8) : (mulGen ⟨double a⟩).byte = double (mulGen ⟨a⟩).byte := by
  have h : ∀ n < 256, (mulGen ⟨double (UInt8.ofNat n)⟩).byte = double (mulGen ⟨UInt8.ofNat n⟩).byte := by decide +kernel
  simpa using h a.toNat a.toNat_lt

lemma gf256Mul_mulGen (a b : UInt8) : gf256Mul (mulGen ⟨a⟩).byte b = (mulGen ⟨gf256Mul a b⟩).byte := by
  have hadd : ∀ a b, (mulGen ⟨a ^^^ b⟩).byte = (mulGen ⟨a⟩).byte ^^^ (mulGen ⟨b⟩).byte := by
    intro a b
    rw [← mk_add, map_add, byte_add]
  have h := gf256MulLoop_map (fun a => (mulGen ⟨a⟩).byte) hadd mulGen_double 8 a b 0
  have h0 : (mulGen ⟨0⟩).byte = 0 := congrArg byte (map_zero mulGen)
  rw [h0] at h
  exact h

lemma gf256Mul_zero_one (b : UInt8) : gf256Mul 0 b = 0 ∧ gf256Mul 1 b = b := by
  have h : ∀ n < 256, gf256Mul 0 (UInt8.ofNat n) = 0 ∧ gf256Mul 1 (UInt8.ofNat n) = UInt8.ofNat n := by decide +kernel
  simpa using h b.toNat b.toNat_lt

lemma gf256Mul_gpow (i : Nat) (b : UInt8) : gf256Mul (gpow i) b = (mulGen^[i] ⟨b⟩).byte := by
  induction i with
  | zero => exact (gf256Mul_zero_one b).2
  | succ i ih =>
    rw [Function.iterate_succ_apply', gpow, Nat.add_comm, ← cycle.iterate_power 1 i]
    change gf256Mul (mulGen ⟨gpow i⟩).byte b = _
    rw [gf256Mul_mulGen, ih]

lemma gf256Mul_eq (a b : UInt8) : gf256Mul a b = ((⟨a⟩ : GF256) * ⟨b⟩).byte := by
  by_cases ha : a = 0
  · subst ha
    have h0 : (⟨0⟩ : GF256) = 0 := rfl
    rw [(gf256Mul_zero_one b).1, h0, zero_mul]
    rfl
  · obtain ⟨i, _, rfl⟩ := exists_gpow a ha
    rw [gf256Mul_gpow]
    exact (congrArg byte (cycle.power_mul i ⟨b⟩)).symm

lemma gf256Mul_byte (a b : GF256) : gf256Mul a.byte b.byte = (a * b).byte := gf256Mul_eq a.byte b.byte

lemma gf256Inv_byte (a : GF256) : gf256Inv a.byte = a⁻¹.byte := by
  rw [gf256Inv]
  by_cases ha : a = 0
  · subst ha
    rw [if_pos byte_zero, inv_zero]
    rfl
  · have hbyte : a.byte ≠ 0 := fun h => ha ((mk_eq_zero_iff a.byte).2 h)
    have hpow : a ^ 255 = 1 := by
      have h := FiniteField.pow_card_sub_one_eq_one a ha
      rwa [card_eq] at h
    have hinv : a⁻¹ = a ^ 254 := by
      apply inv_eq_of_mul_eq_one_right
      rw [← pow_succ', hpow]
    have hround : ∀ m, gf256Mul (gf256Mul (a ^ m).byte (a ^ m).byte) a.byte = (a ^ (m + m + 1)).byte := by
      intro m
      rw [gf256Mul_byte, gf256Mul_byte, ← pow_add, ← pow_succ]
    have hloop : (List.range 6).foldl (fun result _ => gf256Mul (gf256Mul result result) a.byte) (a ^ 1).byte =
        (a ^ 127).byte := by
      have hrange : List.range 6 = [0, 1, 2, 3, 4, 5] := rfl
      simp only [hrange, List.foldl_cons, List.foldl_nil, hround]
    rw [pow_one] at hloop
    rw [if_neg hbyte, hinv, hloop, gf256Mul_byte, ← pow_add]

end
end Orama.Agent
