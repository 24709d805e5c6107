import Orama.Agent.Luks

namespace Orama.Agent
open Lib Lib.Interpolation Shamir List GF256 Nat

lemma implements_agent : Implements (fun a => id a.byte) (· ^^^ ·) (· ^^^ ·) gf256Mul
    (fun a b => (.ok (gf256Mul a (gf256Inv b)) : Except Bytes UInt8)) where
  add_eq _ _ := rfl
  sub_eq a b := by
    rw [sub_eq_add]
    rfl
  mul_eq a b := gf256Mul_byte a b
  div_eq a b _ := by grind [gf256Inv_byte, gf256Mul_byte]

lemma evalPolynomial_eq {coeffs : List UInt8} (hne : coeffs ≠ []) (x : UInt8) :
    evalPolynomial coeffs x = evalByte coeffs x := by
  have h : hornerLoop (· ^^^ ·) gf256Mul 0 coeffs x = evalByte coeffs x := by
    have h := implements_agent.evalByte_eq coeffs x
    rwa [map_id] at h
  rw [← h, evalPolynomial, hornerLoop]
  grind [reverse_reverse, gf256Mul_zero_one]

open List

lemma foldl_mapIdx_set (g : Nat → Nat → UInt8) (n : Nat) (bs : List Nat) (y : Nat → Bytes) :
    bs.foldl (fun rows b => rows.mapIdx fun i row => row.set b (g b i)) ((range n).map y) =
    (range n).map fun i => bs.foldl (fun row b => row.set b (g b i)) (y i) := by
  induction bs generalizing y with
  | nil => rfl
  | cons b bs ih =>
    have hstep : ((range n).map y).mapIdx (fun i row => row.set b (g b i)) =
        (range n).map fun i => (y i).set b (g b i) := by
      apply ext_getElem
      · simp
      · intro i h₁ h₂
        simp
    rw [foldl_cons, hstep, ih]
    rfl

variable {n k : Nat}

lemma shamirSplit_eq (secret : Bytes) (hkn : k ≤ n) (hk : 2 ≤ k) (tape : Tape) :
    shamirSplit secret n k (fun b => .ok (tape b)) =
    .ok ((range n).map fun i => (shareOf secret k tape (UInt8.ofNat (i + 1))).y) := by
  have hreplicate : replicate n (replicate secret.length (0 : UInt8)) =
      (range n).map fun _ => replicate secret.length 0 := by simp
  let value := fun b i => evalPolynomial (coefficients (secret.getD b 0) k (tape b)) (UInt8.ofNat (i + 1))
  have hstep : ∀ b ∈ range secret.length, ∀ rows, splitByte secret k (fun b => .ok (tape b)) rows b =
      .ok (rows.mapIdx fun i row => row.set b (value b i)) := fun _ _ _ => rfl
  rw [shamirSplit, if_neg (by omega), if_neg (by omega), Loop.foldlM_ok _ _ _ _ hstep, hreplicate,
    foldl_mapIdx_set value]
  congr 1
  apply map_congr_left
  intro i _
  have hfill := Loop.foldl_set_range (replicate secret.length (0 : UInt8)) (fun b => value b i)
  grind [evalPolynomial_eq, shareOf, coefficients]

def position (k : Nat) (i : Fin k) : GF256 := ⟨UInt8.ofNat (i + 1)⟩

lemma position_injective (hk : k ≤ 255) : Function.Injective (position k) := by
  intro i j h
  exact Fin.ext (point_injective (i.isLt.trans_le hk) (j.isLt.trans_le hk) (congrArg byte h))

lemma lagrange_eq (xs : List UInt8) (i : Fin xs.length) :
    lagrange xs i (xs.get i) = (∏ j ∈ Finset.univ.erase i, (⟨xs.get j⟩ : GF256) / (⟨xs.get j⟩ - ⟨xs.get i⟩)).byte := by
  have hnum : xs.zipIdx.foldl (fun acc p => if i.val = p.2 then acc else gf256Mul acc p.1) 1 =
      (∏ j ∈ Finset.univ.erase i, (⟨xs.get j⟩ : GF256)).byte := by
    rw [← Loop.foldl_zipIdx_skip xs (fun x => (⟨x⟩ : GF256)) i]
    refine @Implements.foldl_emb _ byte _ xs.zipIdx _ _ ?_ 1
    intro p acc
    split
    · rfl
    · exact gf256Mul_byte acc ⟨p.1⟩
  have hden : xs.zipIdx.foldl (fun acc p => if i.val = p.2 then acc else gf256Mul acc (xs.get i ^^^ p.1)) 1 =
      (∏ j ∈ Finset.univ.erase i, ((⟨xs.get j⟩ : GF256) - ⟨xs.get i⟩)).byte := by
    rw [← Loop.foldl_zipIdx_skip xs (fun x => (⟨x⟩ : GF256) - ⟨xs.get i⟩) i]
    refine @Implements.foldl_emb _ byte _ xs.zipIdx _ _ ?_ 1
    intro p acc
    split
    · rfl
    · rw [sub_eq_add, add_comm]
      exact gf256Mul_byte acc (⟨xs.get i⟩ + ⟨p.1⟩)
  have hpair := Loop.foldl_pair (fun p : UInt8 × Nat => i.val = p.2) (fun acc p => gf256Mul acc p.1)
    (fun acc p => gf256Mul acc (xs.get i ^^^ p.1)) xs.zipIdx 1 1
  rw [lagrange, hpair, hnum, hden]
  dsimp only
  rw [gf256Inv_byte, gf256Mul_byte, Finset.prod_div_distrib, div_eq_mul_inv]

lemma combineByte_eq (shares : List Bytes) (b : Nat) :
    combineByte shares b = (lagrangeZero (position shares.length) (fun i => ⟨(shares.get i).getD b 0⟩)).byte := by
  let xs := (range shares.length).map fun i => UInt8.ofNat (i + 1)
  have hlen : xs.length = shares.length := by simp [xs]
  have hfold : combineByte shares b = (xs.zipIdx.foldl (fun (val : GF256) p =>
      val + ⟨(shares.getD p.2 []).getD b 0⟩ * ⟨lagrange xs p.2 p.1⟩) 0).byte := by
    refine @Implements.foldl_emb _ byte _ xs.zipIdx _ _ ?_ 0
    intro p val
    rw [gf256Mul_eq]
    rfl
  rw [hfold, ← lagrangeZero_cast hlen, Loop.foldl_zipIdx_add xs
    (fun x n => (⟨(shares.getD n []).getD b 0⟩ : GF256) * ⟨lagrange xs n x⟩), zero_add, lagrangeZero]
  congr 1
  apply Finset.sum_congr rfl
  intro i _
  have hget : ∀ j : Fin xs.length, (⟨xs.get j⟩ : GF256) = position shares.length (j.cast hlen) := by
    intro j
    simp [xs, position]
  have hshare : shares.getD i.val [] = shares.get (i.cast hlen) := by grind
  rw [zero_add, lagrange_eq, hshare]
  simp only [hget]

variable {shares : List Bytes}

lemma shamirCombine_eq {len : Nat} (htwo : 2 ≤ shares.length) (hlen : ∀ share ∈ shares, share.length = len) :
    shamirCombine shares = .ok ((range len).map (combineByte shares)) := by
  grind [shamirCombine]

lemma fetchShares_eq (client : VaultClient) (identity name : Bytes) (k : Nat) (peers : List Peer) (hshares : shares.length ≤ k) :
    fetchShares client identity name k peers shares =
    (shares ++ peers.filterMap (fetchShare client identity name)).take (k + 1) := by
  induction peers generalizing shares with
  | nil => rw [fetchShares, filterMap_nil, append_nil, take_of_length_le (by omega)]
  | cons peer peers ih =>
    rw [fetchShares, filterMap_cons]
    cases fetchShare client identity name peer with
    | none => exact ih hshares
    | some share =>
      have hjoin : shares ++ share :: peers.filterMap (fetchShare client identity name) =
          (shares ++ [share]) ++ peers.filterMap (fetchShare client identity name) := by simp
      dsimp only
      rw [hjoin]
      split
      · next hfull =>
        have heq : (shares ++ [share]).length = k + 1 := by
          rw [length_append, length_singleton] at hfull ⊢
          omega
        rw [take_append_of_le_length heq.ge, take_of_length_le heq.le]
      · next hmore => exact ih (by omega)

lemma putShares_eq {client : VaultClient} {identity : Bytes}
    (hauth : ∀ peer, ∃ session, client.vaultAuth peer identity = .ok session)
    (hput : ∀ peer session name value version, client.vaultPutSecret peer session name value version = none)
    (name : Bytes) (rows : List (Peer × Bytes)) :
    putShares client identity name rows = (none, rows.map fun row => ⟨row.1, name, Base64.encode row.2, 1⟩) := by
  induction rows with
  | nil => rfl
  | cons row rows ih =>
    obtain ⟨session, hsession⟩ := hauth row.1
    rw [putShares, hsession]
    simp only [hput, ih, map_cons]

def moment (points : List UInt8) (m : Nat) : GF256 :=
  lagrangeZero (position points.length) fun i => (⟨points.get i⟩ : GF256) ^ m

variable {points : List UInt8}

lemma moment_zero (hpos : points ≠ []) (hlen : points.length ≤ 255) : moment points 0 = 1 := by
  have hdegree : (1 : Polynomial GF256).degree < points.length := by
    rw [Polynomial.degree_one]
    exact_mod_cast length_pos_iff.2 hpos
  rw [moment, lagrangeZero_eq _ _ (position_injective hlen) 1 hdegree]
  · simp
  · simp

lemma combineByte_shares (hpos : points ≠ []) (hlen : points.length ≤ 255) (secret : Bytes) (k : Nat) (tape : Tape)
    {b : Nat} (hb : b < secret.length) : combineByte (points.map fun x => (shareOf secret k tape x).y) b =
      ((⟨secret.getD b 0⟩ : GF256) + ∑ e : Fin (k - 1), ⟨tape b e⟩ * moment points (e + 1)).byte := by
  let coeff : Fin (k - 1 + 1) → GF256 := Fin.cons ⟨secret.getD b 0⟩ fun e => ⟨tape b e⟩
  have hcoeffs : (coefficients (secret.getD b 0) k (tape b)).map mk = ofFn coeff := by
    rw [coefficients, map_cons, map_map, ofFn_succ]
    congr 1
    apply ext_getElem
    · simp
    · simp [coeff]
  have hvalue : ∀ x, (shareOf secret k tape x).y.getD b 0 = (horner ⟨x⟩ (ofFn coeff)).byte := by
    grind [shareOf, evalByte]
  rw [combineByte_eq, ← lagrangeZero_cast (length_map fun x => (shareOf secret k tape x).y).symm]
  congr 1
  simp only [get_eq_getElem, getElem_map, Fin.val_cast, hvalue]
  change lagrangeZero (position points.length)
    (fun i => horner (⟨points.get i⟩ : GF256) (ofFn coeff)) = _
  rw [lagrangeZero_horner, Fin.sum_univ_succ]
  change coeff 0 * moment points 0 + ∑ e : Fin (k - 1), coeff e.succ * moment points (e + 1) = _
  rw [moment_zero hpos hlen, mul_one]
  rfl

structure Accepts (client : VaultClient) (identity : Bytes) : Prop where
  auth : ∀ peer, ∃ session, client.vaultAuth peer identity = .ok session
  put : ∀ peer session name value version, client.vaultPutSecret peer session name value version = none

structure Answers (client : VaultClient) (identity name : Bytes) (peers : List Peer) (puts : List Put)
    (S : Peer → Bool) : Prop where
  stored : ∀ peer ∈ peers, S peer = true → ∃ session value, client.vaultAuth peer identity = .ok session ∧
    client.vaultGetSecret peer session name = .ok value ∧ ⟨peer, name, value, 1⟩ ∈ puts
  fails : ∀ peer ∈ peers, S peer = false → ∀ session, client.vaultAuth peer identity = .ok session →
    ∃ e, client.vaultGetSecret peer session name = .error e

def Recoverable (peers : List Peer) (nodeID : Bytes) (S : Peer → Bool) : Prop :=
  ∀ (key : Bytes) (tape : Tape) (identity : Bytes) (client : VaultClient) (clients : Nat → VaultClient),
    key.length = 32 → Accepts client identity →
      let result := distributeKeyShares client (fun b => .ok (tape b)) (.ok identity) key peers nodeID
      result.1 = none ∧ ((∀ attempt, Answers (clients attempt) identity (secretName nodeID) peers result.2 S) →
        ∃ malicious, fetchAndReconstruct ⟨.ok peers, .ok nodeID, .ok identity⟩ clients = .ok (key, malicious))

def answeringPoints (peers : List Peer) (S : Peer → Bool) : List UInt8 :=
  (peers.zipIdx.filter fun p => S p.1).map fun p => UInt8.ofNat (p.2 + 1)

lemma threshold_le (n : Nat) : threshold n ≤ n := min_le_left _ _

lemma two_le_threshold (hn : 2 ≤ n) : 2 ≤ threshold n := by
  rw [threshold]
  omega

section
variable {peers : List Peer} {identity nodeID key : Bytes} {tape : Tape} {client : VaultClient}

def storedShares (peers : List Peer) (nodeID key : Bytes) (tape : Tape) : List Put :=
  peers.zipIdx.map fun p => ⟨p.1, secretName nodeID,
    Base64.encode (shareOf key (threshold peers.length) tape (UInt8.ofNat (p.2 + 1))).y, 1⟩

lemma distributeKeyShares_eq (htwo : 2 ≤ peers.length) (hclient : Accepts client identity) :
    distributeKeyShares client (fun b => .ok (tape b)) (.ok identity) key peers nodeID =
    (none, storedShares peers nodeID key tape) := by
  have hzip : ∀ f : Nat → Bytes, peers.zip ((range peers.length).map f) = peers.zipIdx.map fun p => (p.1, f p.2) := by
    intro f
    apply ext_getElem
    · simp
    · simp
  rw [distributeKeyShares]
  simp only [show peers.length ≠ 0 by omega, if_false]
  rw [shamirSplit_eq key (threshold_le _) (two_le_threshold htwo)]
  dsimp only
  rw [putShares_eq hclient.auth hclient.put, hzip, map_map]
  rfl

variable {S : Peer → Bool}

lemma filterMap_fetchShare (hnodup : peers.Nodup)
    (hclient : Answers client identity (secretName nodeID) peers (storedShares peers nodeID key tape) S) :
    peers.filterMap (fetchShare client identity (secretName nodeID)) =
      (answeringPoints peers S).map fun x => (shareOf key (threshold peers.length) tape x).y := by
  have hfetch : ∀ p ∈ peers.zipIdx, fetchShare client identity (secretName nodeID) p.1 =
      if S p.1 then some (shareOf key (threshold peers.length) tape (UInt8.ofNat (p.2 + 1))).y else none := by
    intro p hp
    have hmem : p.1 ∈ peers := fst_mem_of_mem_zipIdx hp
    rw [fetchShare]
    cases hS : S p.1 with
    | true =>
      obtain ⟨session, value, hauth, hget, hput⟩ := hclient.stored p.1 hmem hS
      obtain ⟨q, hq, hput⟩ := mem_map.1 hput
      -- the peers differ, so the entry is that of this position
      grind [getElem?_inj, Base64.decode_encode]
    | false =>
      cases hauth : client.vaultAuth p.1 identity with
      | error e => rfl
      | ok session =>
        obtain ⟨e, he⟩ := hclient.fails p.1 hmem hS session hauth
        simp [he]
  have hzip : peers.filterMap (fetchShare client identity (secretName nodeID)) =
      peers.zipIdx.filterMap fun p => fetchShare client identity (secretName nodeID) p.1 := by
    conv_lhs => rw [← zipIdx_map_fst 0 peers, filterMap_map]
    rfl
  rw [hzip, filterMap_congr hfetch, Loop.filterMap_ite peers.zipIdx (fun p => S p.1)
    (fun p => (shareOf key (threshold peers.length) tape (UInt8.ofNat (p.2 + 1))).y), answeringPoints,
    map_map]
  rfl

lemma length_answeringPoints : (answeringPoints peers S).length = (peers.filter S).length := by
  have hmap := congrArg (fun l => (l.filter S).length) (zipIdx_map_fst 0 peers)
  rw [filter_map, length_map] at hmap
  rw [answeringPoints, length_map, ← hmap]
  rfl

lemma fetchAndReconstruct_eq {clients : Nat → VaultClient} (hnodup : peers.Nodup) (htwo : 2 ≤ peers.length)
    (henough : threshold peers.length ≤ (peers.filter S).length)
    (hclients : ∀ attempt, Answers (clients attempt) identity (secretName nodeID) peers
      (storedShares peers nodeID key tape) S) :
    ∃ malicious, fetchAndReconstruct ⟨.ok peers, .ok nodeID, .ok identity⟩ clients =
      .ok ((range key.length).map (combineByte (((answeringPoints peers S).take (threshold peers.length)).map
        fun x => (shareOf key (threshold peers.length) tape x).y)), malicious) := by
  have hfetch : fetchAttempts clients identity (secretName nodeID) (threshold peers.length) peers
      (range (maxRetries + 1)) [] = ((answeringPoints peers S).map fun x =>
        (shareOf key (threshold peers.length) tape x).y).take (threshold peers.length + 1) := by
    change fetchAttempts _ _ _ _ _ (0 :: [1, 2, 3, 4, 5]) [] = _
    rw [fetchAttempts, fetchShares_eq _ _ _ _ _ (zero_le _), nil_append, filterMap_fetchShare hnodup (hclients 0)]
    apply if_pos
    rw [length_take, length_map, length_answeringPoints]
    omega
  rw [fetchAndReconstruct]
  dsimp only
  rw [hfetch]
  generalize hk : threshold peers.length = k at henough
  have hlen : k ≤ (((answeringPoints peers S).map fun x => (shareOf key k tape x).y).take (k + 1)).length := by
    rw [length_take, length_map, length_answeringPoints]
    omega
  have htake : (((answeringPoints peers S).map fun x => (shareOf key k tape x).y).take (k + 1)).take k =
      ((answeringPoints peers S).take k).map fun x => (shareOf key k tape x).y := by
    rw [take_take, min_eq_left (le_succ k), map_take]
  have hcombine : shamirCombine (((answeringPoints peers S).take k).map fun x => (shareOf key k tape x).y) =
      .ok ((range key.length).map (combineByte
        (((answeringPoints peers S).take k).map fun x => (shareOf key k tape x).y))) := by
    apply shamirCombine_eq
    · rw [length_map, length_take, length_answeringPoints, min_eq_left henough, ← hk]
      exact two_le_threshold htwo
    · intro share hshare
      obtain ⟨x, _, rfl⟩ := mem_map.1 hshare
      simp [shareOf]
  rw [if_neg (not_lt.2 hlen), htake, hcombine]
  exact ⟨_, rfl⟩

end

def oneCoefficient (m : Nat) : Tape := fun _ j => if j + 1 = m then 1 else 0

def acceptingClient : VaultClient := ⟨fun _ _ => .ok [], fun _ _ _ _ _ => none, fun _ _ _ => .error []⟩

lemma accepts_acceptingClient {identity : Bytes} : Accepts acceptingClient identity :=
  ⟨fun _ => ⟨[], rfl⟩, fun _ _ _ _ _ => rfl⟩

def holdingClient (puts : List Put) (S : Peer → Bool) : VaultClient where
  vaultAuth peer _ := if S peer then .ok [] else .error (ascii "connection refused")
  vaultPutSecret _ _ _ _ _ := none
  vaultGetSecret peer _ name :=
    match puts.find? fun put => put.peer = peer ∧ put.name = name with
    | some put => .ok put.value
    | none => .error (ascii "vault GET returned 404")

lemma answers_holdingClient (peers : List Peer) (identity nodeID key : Bytes) (tape : Tape) (S : Peer → Bool) :
    Answers (holdingClient (storedShares peers nodeID key tape) S) identity (secretName nodeID) peers
      (storedShares peers nodeID key tape) S where
  stored := by
    intro peer hpeer hS
    obtain ⟨i, hi⟩ := mem_iff_getElem?.1 hpeer
    have hrow : (peer, i) ∈ peers.zipIdx := mem_zipIdx_iff_getElem?.2 hi
    cases hfind : (storedShares peers nodeID key tape).find? fun put =>
        put.peer = peer ∧ put.name = secretName nodeID with
    | none =>
      rw [find?_eq_none] at hfind
      exact absurd (by simp) (hfind _ (mem_map_of_mem hrow))
    | some put =>
      have hput := mem_of_find?_eq_some hfind
      have hpeer' : put.peer = peer := by grind
      obtain ⟨p, hp, rfl⟩ := mem_map.1 hput
      refine ⟨[], Base64.encode (shareOf key (threshold peers.length) tape (UInt8.ofNat (p.2 + 1))).y,
        by simp [holdingClient, hS], by simp only [holdingClient, hfind], ?_⟩
      rw [← hpeer']
      exact hput
  fails := by
    intro peer _ hS session hauth
    simp [holdingClient, hS] at hauth

lemma distributeKeyShares_one {peers : List Peer} (hone : peers.length = 1) (client : VaultClient) (tape : Tape)
    (identity key nodeID : Bytes) :
    (distributeKeyShares client (fun b => .ok (tape b)) (.ok identity) key peers nodeID).1 =
      some (ascii "shamir split failed: threshold must be >= 2") := by
  rw [distributeKeyShares]
  simp only [hone]
  rfl

section
variable {peers : List Peer} {S : Peer → Bool}

lemma length_take_answeringPoints (henough : threshold peers.length ≤ (peers.filter S).length) :
    ((answeringPoints peers S).take (threshold peers.length)).length = threshold peers.length := by
  grind [length_answeringPoints]

section
variable (hnodup : peers.Nodup) (htwo : 2 ≤ peers.length) (hmax : peers.length ≤ 255)
  (henough : threshold peers.length ≤ (peers.filter S).length)
include hnodup htwo hmax henough

lemma recoverable_of_moments (hmoments : ∀ m, 1 ≤ m → m < threshold peers.length →
      moment ((answeringPoints peers S).take (threshold peers.length)) m = 0) (nodeID : Bytes) :
      Recoverable peers nodeID S := by
  intro key tape identity client clients _ hclient
  have hlen := length_take_answeringPoints henough
  have hk := two_le_threshold htwo
  rw [distributeKeyShares_eq htwo hclient]
  refine ⟨rfl, fun hclients => ?_⟩
  obtain ⟨malicious, hfetch⟩ := fetchAndReconstruct_eq hnodup htwo henough hclients
  refine ⟨malicious, ?_⟩
  rw [hfetch]
  congr 2
  conv_rhs => rw [← map_mk_getD key]
  apply map_congr_left
  intro b hb
  have hpos : (answeringPoints peers S).take (threshold peers.length) ≠ [] := by
    rw [← length_pos_iff]
    omega
  rw [combineByte_shares hpos (by have := threshold_le peers.length; omega) _ _ _ (mem_range.1 hb),
    Finset.sum_eq_zero, add_zero]
  intro e _
  rw [hmoments _ (le_add_left 1 e) (by omega), mul_zero]

lemma moment_of_recoverable {nodeID : Bytes}
    (h : Recoverable peers nodeID S) {m : Nat} (hm : 1 ≤ m) (hmk : m < threshold peers.length) :
    moment ((answeringPoints peers S).take (threshold peers.length)) m = 0 := by
  let key : Bytes := replicate 32 0
  have hlen := length_take_answeringPoints henough
  have hk := two_le_threshold htwo
  have hpos : (answeringPoints peers S).take (threshold peers.length) ≠ [] := by
    rw [← length_pos_iff]
    omega
  obtain ⟨-, hback⟩ := h key (oneCoefficient m) [] acceptingClient
    (fun _ => holdingClient (storedShares peers nodeID key (oneCoefficient m)) S) (by simp [key])
    accepts_acceptingClient
  rw [distributeKeyShares_eq htwo accepts_acceptingClient] at hback
  have hclients := fun _ : Nat => answers_holdingClient peers [] nodeID key (oneCoefficient m) S
  obtain ⟨malicious, hkey⟩ := hback hclients
  obtain ⟨malicious', hfetch⟩ := fetchAndReconstruct_eq hnodup htwo henough hclients
  rw [hfetch] at hkey
  have hbyte : combineByte (((answeringPoints peers S).take (threshold peers.length)).map fun x =>
      (shareOf key (threshold peers.length) (oneCoefficient m) x).y) 0 = 0 := by
    have hbytes := congrArg (fun result => result.1[0]?) (Except.ok.inj hkey)
    simpa [key] using hbytes
  have hsum : ∑ e : Fin (threshold peers.length - 1), (⟨oneCoefficient m 0 e⟩ : GF256) *
      moment ((answeringPoints peers S).take (threshold peers.length)) (e + 1) =
        moment ((answeringPoints peers S).take (threshold peers.length)) m := by
    have hindex : m - 1 + 1 = m := Nat.sub_add_cancel hm
    rw [Finset.sum_eq_single ⟨m - 1, by omega⟩]
    · rw [oneCoefficient, hindex, if_pos rfl, GF256.mk_one, one_mul]
    · intro e _ hne
      have hother : e.val + 1 ≠ m := fun he => hne (Fin.ext (by simp only; omega))
      have hzero : (⟨0⟩ : GF256) = 0 := rfl
      rw [oneCoefficient, if_neg hother, hzero, zero_mul]
    · exact fun hmem => absurd (Finset.mem_univ _) hmem
  have hzero : (⟨key.getD 0 0⟩ : GF256) = 0 := rfl
  rw [combineByte_shares hpos (by have := threshold_le peers.length; omega) _ _ _ (by simp [key]), hsum, hzero,
    zero_add] at hbyte
  exact GF256.ext hbyte

end
end

/-- Shares are combined as if they came from the first peers. The key comes back
exactly if the points of those that answered do as well. -/
theorem recoverable_iff (peers : List Peer) (hnodup : peers.Nodup) (hone : 1 ≤ peers.length)
    (hmax : peers.length ≤ 255) (nodeID : Bytes) (S : Peer → Bool)
    (henough : threshold peers.length ≤ (peers.filter S).length) :
    Recoverable peers nodeID S ↔ 2 ≤ peers.length ∧ ∀ m, 1 ≤ m → m < threshold peers.length →
      moment ((answeringPoints peers S).take (threshold peers.length)) m = 0 := by
  constructor
  · intro h
    have htwo : 2 ≤ peers.length := by
      by_contra hlt
      have hresult := (h (replicate 32 0) (oneCoefficient 0) [] acceptingClient (fun _ => acceptingClient)
        (by simp) accepts_acceptingClient).1
      rw [distributeKeyShares_one (by omega)] at hresult
      cases hresult
    exact ⟨htwo, fun m hm hmk => moment_of_recoverable hnodup htwo hmax henough h hm hmk⟩
  · grind [recoverable_of_moments]

def fourPeers : List Peer := [ascii "10.0.0.2", ascii "10.0.0.3", ascii "10.0.0.4", ascii "10.0.0.5"]

def withoutThird (peer : Peer) : Bool := peer ≠ ascii "10.0.0.4"
def withoutFourth (peer : Peer) : Bool := peer ≠ ascii "10.0.0.5"

theorem recoverable_iff_withoutFourth : Recoverable fourPeers (ascii "node") withoutFourth ↔ 2 ≤ fourPeers.length ∧
    ∀ m, 1 ≤ m → m < threshold fourPeers.length →
    moment ((answeringPoints fourPeers withoutFourth).take (threshold fourPeers.length)) m = 0 :=
  recoverable_iff fourPeers (by decide) (by decide) (by decide) (ascii "node") withoutFourth (by decide)

def zeroKey : Bytes := List.replicate 32 0

def storedOnFour : List Put :=
  (distributeKeyShares acceptingClient (fun b => .ok (oneCoefficient 1 b)) (.ok []) zeroKey fourPeers
    (ascii "node")).2

/-- Three of four shares are enough, and another key is returned, since the share of
the fourth peer is taken for that of the third. -/
theorem withoutThird_returns_wrong_key : threshold fourPeers.length = 3 ∧ (fourPeers.filter withoutThird).length = 3 ∧
    (distributeKeyShares acceptingClient (fun b => .ok (oneCoefficient 1 b)) (.ok []) zeroKey fourPeers
        (ascii "node")).1 = none ∧
      Answers (holdingClient storedOnFour withoutThird) [] (secretName (ascii "node")) fourPeers storedOnFour
        withoutThird ∧
      (fetchAndReconstruct ⟨.ok fourPeers, .ok (ascii "node"), .ok []⟩
        fun _ => holdingClient storedOnFour withoutThird).toOption = some (List.replicate 32 7, false) := by
  have hsent : distributeKeyShares acceptingClient (fun b => .ok (oneCoefficient 1 b)) (.ok []) zeroKey fourPeers
      (ascii "node") = (none, storedShares fourPeers (ascii "node") zeroKey (oneCoefficient 1)) :=
    distributeKeyShares_eq (by decide) accepts_acceptingClient
  refine ⟨by decide, by decide, congrArg Prod.fst hsent, ?_, by decide +kernel⟩
  rw [storedOnFour, hsent]
  exact answers_holdingClient _ _ _ _ _ _

end Orama.Agent
