import Orama.Lib.Merkle
import Orama.Lib.Sha256
import Orama.Shamir.Scheme

namespace Orama.Shamir.Commitment
open Lib Lib.Merkle List

abbrev Digest := { d : Bytes // d.length = 32 }

def sha256 (message : Bytes) : Digest := ⟨Sha256.hash message, Sha256.length_hash message⟩

def repeated (b : UInt8) : Digest := ⟨List.replicate 32 b, length_replicate⟩
def zeroDigest : Digest := repeated 0

structure CommitmentTree where
  root : Digest
  leaves : List Digest
deriving DecidableEq

structure MerkleProof where
  leafIndex : Nat
  siblings : List Digest
  directions : List Bool
  length_directions : directions.length = siblings.length

def MerkleProof.steps (proof : MerkleProof) : List (Step Digest) := proof.directions.zip proof.siblings

inductive CommitmentError
  | emptyShares
deriving DecidableEq, Repr

def shareText (share : Share) : Bytes := share.x :: share.y
def pairText (left right : Digest) : Bytes := left.val ++ right.val

def nextPow2 (n : Nat) : Nat :=
  if n ≤ 1 then 1
  else
    let v := n - 1
    let v := v ||| v >>> 1
    let v := v ||| v >>> 2
    let v := v ||| v >>> 4
    let v := v ||| v >>> 8
    let v := v ||| v >>> 16
    let v := v ||| v >>> 32
    v + 1

section
variable (hash : Bytes → Digest)

def hashPair (left right : Digest) : Digest := hash (pairText left right)

def computeRoot (leaves : List Digest) : Digest :=
  let paddedLen := nextPow2 leaves.length
  let current := (List.range paddedLen).map fun i =>
    if i < leaves.length then leaves.getD i zeroDigest else zeroDigest
  (joinLevels (hashPair hash) zeroDigest paddedLen current paddedLen).getD 0 zeroDigest

def buildTree (shares : List Share) : Except CommitmentError CommitmentTree :=
  if shares.length = 0 then .error .emptyShares
  else
    let leaves := shares.map fun share => hash (shareText share)
    .ok ⟨computeRoot hash leaves, leaves⟩

def verifyProof (share : Share) (proof : MerkleProof) (expectedRoot : Digest) : Bool :=
  (proof.directions.zip proof.siblings).foldl
    (fun current step =>
      if step.1 then hashPair hash step.2 current else hashPair hash current step.2)
    (hash (shareText share)) = expectedRoot

def paddedLeaves (shares : List Share) (paddedLen : Nat) : List (HashTree Share) :=
  (List.range paddedLen).map fun i =>
    if h : i < shares.length then .leaf (shares.get ⟨i, h⟩) else .pad

def merkleTree (shares : List Share) : HashTree Share :=
  (collapse .node (nextPow2 shares.length)
    (paddedLeaves shares (nextPow2 shares.length))).getD 0 .pad

lemma pairText_injective (a b c d : Digest) (h : pairText a b = pairText c d) : a = c ∧ b = d := by
  obtain ⟨h1, h2⟩ := append_inj h (a.property.trans c.property.symm)
  exact ⟨Subtype.ext h1, Subtype.ext h2⟩

lemma shareText_injective {a b : Share} (h : shareText a = shareText b) : a = b := by
  obtain ⟨x, y⟩ := a
  obtain ⟨x', y'⟩ := b
  obtain ⟨rfl, rfl⟩ := List.cons.inj h
  rfl

lemma verifyProof_eq (share : Share) (proof : MerkleProof) (expectedRoot : Digest) :
    verifyProof hash share proof expectedRoot =
    decide (climb hash pairText (hash (shareText share)) proof.steps = expectedRoot) := by
  have hstep : (fun (current : Digest) (step : Step Digest) =>
      if step.1 then hashPair hash step.2 current else hashPair hash current step.2) =
      fun current step => hash (stepMessage pairText current step) := by
    funext current step
    exact (apply_ite hash _ _ _).symm
  rw [verifyProof, hstep]
  rfl

lemma nextPow2_pos (n : Nat) : 0 < nextPow2 n := by grind [nextPow2]

section
variable (shares : List Share)

lemma digest_leaves (n : Nat) :
    (paddedLeaves shares n).map (digest hash pairText shareText zeroDigest) = (List.range n).map fun i =>
        if i < (shares.map fun share => hash (shareText share)).length then
          (shares.map fun share => hash (shareText share)).getD i zeroDigest else zeroDigest := by
  rw [paddedLeaves, map_map]
  apply map_congr_left
  intro i _
  simp only [Function.comp_apply, length_map]
  by_cases h : i < shares.length
  · grind [digest]
  · rw [dif_neg h, if_neg h, digest]

lemma length_paddedLeaves (n : Nat) : (paddedLeaves shares n).length = n := by
  rw [paddedLeaves, length_map, length_range]

lemma collapse_paddedLeaves :
    collapse .node (nextPow2 shares.length) (paddedLeaves shares (nextPow2 shares.length)) = [merkleTree shares] := by
  grind [length_paddedLeaves, length_collapse, nextPow2_pos, length_eq_one_iff, merkleTree]

lemma computeRoot_eq_digest : computeRoot hash (shares.map fun share => hash (shareText share)) =
      digest hash pairText shareText zeroDigest (merkleTree shares) := by
  have hlen : (shares.map fun share => hash (shareText share)).length = shares.length := length_map _
  have hhom : ∀ a b : HashTree Share, digest hash pairText shareText zeroDigest (.node a b) =
      hashPair hash (digest hash pairText shareText zeroDigest a)
        (digest hash pairText shareText zeroDigest b) := fun a b => rfl
  have hpad := length_paddedLeaves shares (nextPow2 shares.length)
  rw [computeRoot, ← digest_leaves, hlen, joinLevels_getD _ _ _ (nextPow2_pos _)
    (by rw [length_map, hpad]), take_of_length_le (by rw [length_map, hpad]),
    ← map_collapse hhom, collapse_paddedLeaves]
  rfl

end

lemma mem_of_mem_leaves {shares : List Share} : ∀ a ∈ (merkleTree shares).leaves, a ∈ shares := by
  have hleaves : ∀ t ∈ paddedLeaves shares (nextPow2 shares.length), ∀ a ∈ t.leaves, a ∈ shares := by
    intro t ht
    obtain ⟨i, _, rfl⟩ := mem_map.mp ht
    split
    · exact forall_mem_singleton.mpr (get_mem _ _)
    · exact nofun
  have hnode : ∀ l r : HashTree Share, (∀ a ∈ l.leaves, a ∈ shares) → (∀ a ∈ r.leaves, a ∈ shares) →
      ∀ a ∈ (HashTree.node l r).leaves, a ∈ shares :=
    fun l r hl hr => forall_mem_append.mpr ⟨hl, hr⟩
  have hall := forall_collapse hnode (nextPow2 shares.length) hleaves
  rw [collapse_paddedLeaves] at hall
  exact hall _ (mem_singleton_self _)

def hashed (shares : List Share) (share : Share) (proof : MerkleProof) : List Bytes :=
  messages hash pairText shareText zeroDigest (merkleTree shares) ++
    shareText share :: climbMessages hash pairText (hash (shareText share)) proof.steps

/-- The share is none of the shares, and its text is taken for the two digests
below an inner node, or the text of one of the shares for two digests that the
proof goes on to. -/
def Forged (shares : List Share) (share : Share) (proof : MerkleProof) : Prop :=
  share ∉ shares ∧
    Confused hash pairText shareText zeroDigest (shareText share) (merkleTree shares) proof.steps.reverse

variable {hash} {shares : List Share} {share : Share} {proof : MerkleProof} {tree : CommitmentTree}

lemma verifyProof_iff (hb : buildTree hash shares = .ok tree)
    (hfree : CollisionFree hash zeroDigest (hashed hash shares share proof)) :
    verifyProof hash share proof tree.root ↔
      Opens hash pairText shareText zeroDigest (shareText share) (merkleTree shares) proof.steps.reverse ∨
      Confused hash pairText shareText zeroDigest (shareText share) (merkleTree shares) proof.steps.reverse := by
  have hroot : tree.root = digest hash pairText shareText zeroDigest (merkleTree shares) := by
    grind [computeRoot_eq_digest, buildTree]
  have hclimb := climb_eq_digest_iff hfree pairText_injective (m := shareText share)
    (t := merkleTree shares) (by simp [hashed]) proof.steps.reverse
    (fun x hx => mem_append_left _ hx)
    (by
      rw [reverse_reverse]
      exact fun x hx => mem_append_right _ (mem_cons_of_mem _ hx))
  rw [verifyProof_eq, decide_eq_true_eq, hroot, ← hclimb, reverse_reverse]

/-- A proof verifies for a share that was not committed to exactly when the
share or one of the shares is read as an inner node. -/
theorem verifyProof_sound_iff (hb : buildTree hash shares = .ok tree)
    (hfree : CollisionFree hash zeroDigest (hashed hash shares share proof)) :
    (verifyProof hash share proof tree.root = true → share ∈ shares) ↔ ¬ Forged hash shares share proof := by
  rw [verifyProof_iff hb hfree]
  constructor
  · rintro h ⟨hnot, hconfused⟩
    exact hnot (h (.inr hconfused))
  · rintro h (hopens | hconfused)
    · obtain ⟨a, ha, htext⟩ := exists_leaf_of_opens hash pairText shareText zeroDigest hopens
      exact shareText_injective htext ▸ mem_of_mem_leaves a ha
    · by_contra hnot
      exact h ⟨hnot, hconfused⟩

end

def sampleShares : List Share := [⟨1, [42]⟩, ⟨2, [43]⟩]
def sampleProof : MerkleProof := ⟨0, [sha256 [2, 43]], [false], rfl⟩

theorem verifyProof_sound_sampleShares : ∃ tree, buildTree sha256 sampleShares = .ok tree ∧
    ((verifyProof sha256 ⟨1, [42]⟩ sampleProof tree.root = true → ⟨1, [42]⟩ ∈ sampleShares) ↔
    ¬ Forged sha256 sampleShares ⟨1, [42]⟩ sampleProof) :=
  ⟨_, rfl, verifyProof_sound_iff rfl (by decide +kernel)⟩

def forgedShare : Share :=
  let text := pairText (sha256 [1, 42]) (sha256 [2, 43])
  ⟨text.headD 0, text.tail⟩

def emptyProof : MerkleProof := ⟨0, [], [], rfl⟩

/-- A share that is made of the two leaf digests hashes to the root, and its proof is empty. -/
theorem verifyProof_forgedShare : ∃ tree, buildTree sha256 sampleShares = .ok tree ∧
    CollisionFree sha256 zeroDigest (hashed sha256 sampleShares forgedShare emptyProof) ∧
    verifyProof sha256 forgedShare emptyProof tree.root = true ∧ forgedShare ∉ sampleShares :=
  ⟨_, rfl, by decide +kernel, by decide +kernel, by decide +kernel⟩

end Orama.Shamir.Commitment
