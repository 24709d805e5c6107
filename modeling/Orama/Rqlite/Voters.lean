import Orama.Lib.Net
import Orama.Lib.Ranking

namespace Orama.Rqlite
open Lib Lib.Ranking

def maxDefaultVoters : Nat := 5

def extractIPForSort (raftAddr : Bytes) : Bytes :=
  match Net.splitHostPort raftAddr with
  | some (host, _) => host
  | none => raftAddr

def compareIPs (a b : Bytes) : Bool :=
  match Net.parseIP a, Net.parseIP b with
  | some ipA, some ipB => Net.less ipA ipB
  | _, _ => Net.less a b

def lessAddr (a b : Bytes) : Bool := compareIPs (extractIPForSort a) (extractIPForSort b)

def computeVoterSet (sorted : List Bytes) (maxVoters : Nat) : Finset Bytes := leading maxVoters sorted

structure PeerEntry where
  id : Bytes
  address : Bytes
  nonVoter : Bool
deriving DecidableEq

def getPeersJSON (raftAddrs sorted : List Bytes) : List PeerEntry :=
  raftAddrs.map fun raftAddr => ⟨raftAddr, raftAddr, raftAddr ∉ computeVoterSet sorted maxDefaultVoters⟩

def isVoterLocked (raftAddrs sorted : List Bytes) (raftAddress : Bytes) : Bool :=
  raftAddrs.length ≤ maxDefaultVoters || raftAddress ∈ computeVoterSet sorted maxDefaultVoters

section
variable {peers order order' sorted sorted' : List Bytes}

lemma sorts_of_perm (horder : order.Perm peers) : Sorts lessAddr order sorted ↔ Sorts lessAddr peers sorted := by
  have hweak : StrictWeakOn lessAddr order ↔ StrictWeakOn lessAddr peers :=
    ⟨fun h => h.mono fun _ hx => horder.mem_iff.2 hx, fun h => h.mono fun _ hx => horder.mem_iff.1 hx⟩
  exact ⟨fun h => ⟨h.perm.trans horder, fun hp => h.inOrder (hweak.2 hp)⟩,
    fun h => ⟨h.perm.trans horder.symm, fun hp => h.inOrder (hweak.1 hp)⟩⟩

variable {a : Bytes}

lemma mem_computeVoterSet_of_length_le (hsorted : Sorts lessAddr peers sorted)
    (hlength : peers.length ≤ maxDefaultVoters) (ha : a ∈ peers) : a ∈ computeVoterSet sorted maxDefaultVoters := by
  rw [computeVoterSet, leading, List.mem_toFinset, List.take_of_length_le (hsorted.perm.length_eq ▸ hlength)]
  exact hsorted.perm.mem_iff.2 ha

lemma isVoterLocked_eq (horder : order.Perm peers) (hsorted : Sorts lessAddr peers sorted)
    (heq : computeVoterSet sorted maxDefaultVoters = computeVoterSet sorted' maxDefaultVoters) (ha : a ∈ peers) :
    isVoterLocked order sorted a = decide (a ∈ computeVoterSet sorted' maxDefaultVoters) := by
  grind [List.Perm.length_eq, mem_computeVoterSet_of_length_le, isVoterLocked]

/-- Nodes agree on the voters, of which there are as many as there should be, if and only if every address that may
come among the first five must, and these are as many as there should be. -/
theorem voters_agreed_iff (peers : List Bytes) :
    (∀ order order' sorted sorted', order.Perm peers → order'.Perm peers → Sorts lessAddr order sorted →
    Sorts lessAddr order' sorted' →
    computeVoterSet sorted maxDefaultVoters = computeVoterSet sorted' maxDefaultVoters ∧
    (computeVoterSet sorted maxDefaultVoters).card = min maxDefaultVoters peers.toFinset.card ∧
    ∀ entry ∈ getPeersJSON order' sorted', isVoterLocked order sorted entry.id = !entry.nonVoter) ↔
    Determined lessAddr maxDefaultVoters peers ∧
    (peers.filter fun a => rank lessAddr peers a < maxDefaultVoters).toFinset.card =
    min maxDefaultVoters peers.toFinset.card := by
  constructor
  · intro h
    have hdetermined : Determined lessAddr maxDefaultVoters peers := by
      rw [← leading_eq_iff]
      intro sorted sorted' hsorted hsorted'
      exact (h peers peers sorted sorted' (List.Perm.refl _) (List.Perm.refl _) hsorted hsorted').1
    refine ⟨hdetermined, ?_⟩
    have hsorted := arrange_sorts lessAddr peers
    rw [← hdetermined.leading_eq hsorted]
    exact (h peers peers _ _ (List.Perm.refl _) (List.Perm.refl _) hsorted hsorted).2.1
  · rintro ⟨hdetermined, hcard⟩ order order' sorted sorted' horder horder' hsorted hsorted'
    rw [sorts_of_perm horder] at hsorted
    rw [sorts_of_perm horder'] at hsorted'
    have heq : computeVoterSet sorted maxDefaultVoters = computeVoterSet sorted' maxDefaultVoters :=
      (leading_eq_iff lessAddr maxDefaultVoters peers).2 hdetermined sorted sorted' hsorted hsorted'
    refine ⟨heq, ?_, ?_⟩
    · rw [computeVoterSet, hdetermined.leading_eq hsorted, hcard]
    · intro entry hentry
      obtain ⟨a, ha, rfl⟩ := List.mem_map.1 hentry
      rw [isVoterLocked_eq horder hsorted heq (horder'.mem_iff.1 ha)]
      simp

def localAddr (i : Nat) : Bytes := ascii "127.0.0.1:700" ++ decimal i

/-- The addresses of one host tie, so each order of them is a sort, and the first five differ. -/
theorem voters_not_agreed : Sorts lessAddr ((List.range 6).map localAddr) ((List.range 6).map localAddr) ∧
    Sorts lessAddr ((List.range 6).map localAddr) ((List.range 6).map localAddr).reverse ∧
    computeVoterSet ((List.range 6).map localAddr) maxDefaultVoters ≠
        computeVoterSet ((List.range 6).map localAddr).reverse maxDefaultVoters :=
  ⟨⟨List.Perm.refl _, fun _ => by decide⟩, ⟨List.reverse_perm _, fun _ => by decide⟩, by decide⟩

end

open Option
section

def hostIP (raftAddr : Bytes) : Option Bytes := Net.parseIP (extractIPForSort raftAddr)

structure DistinctHosts (raftAddrs : List Bytes) : Prop where
  numeric : ∀ a ∈ raftAddrs, (hostIP a).isSome = true
  distinct : (raftAddrs.map hostIP).Nodup

variable {raftAddrs sorted sorted' : List Bytes}

lemma DistinctHosts.nodup (h : DistinctHosts raftAddrs) : raftAddrs.Nodup := h.distinct.of_map

variable {a : Bytes}

lemma lessAddr_of_hostIP {b p q : Bytes} (ha : hostIP a = some p) (hb : hostIP b = some q) :
    lessAddr a b = Net.less p q := by
  rw [hostIP] at ha hb
  rw [lessAddr, compareIPs, ha, hb]

section
variable (h : DistinctHosts raftAddrs)
include h

lemma DistinctHosts.total : ∀ a ∈ raftAddrs, ∀ b ∈ raftAddrs, b ≠ a → lessAddr a b ∨ lessAddr b a := by
  intro a ha b hb hne
  obtain ⟨p, hp⟩ := isSome_iff_exists.1 (h.numeric a ha)
  obtain ⟨q, hq⟩ := isSome_iff_exists.1 (h.numeric b hb)
  have hpq : p ≠ q := by
    rintro rfl
    exact hne (List.inj_on_of_nodup_map h.distinct hb ha (hq.trans hp.symm))
  rw [lessAddr_of_hostIP hp hq, lessAddr_of_hostIP hq hp]
  exact Net.less_total hpq

lemma DistinctHosts.strictWeakOn : StrictWeakOn lessAddr raftAddrs := by
  have hirrefl : ∀ a ∈ raftAddrs, lessAddr a a = false := by
    intro a ha
    obtain ⟨p, hp⟩ := isSome_iff_exists.1 (h.numeric a ha)
    rw [lessAddr_of_hostIP hp hp, Net.less_irrefl]
  have htrans : ∀ a ∈ raftAddrs, ∀ b ∈ raftAddrs, ∀ c ∈ raftAddrs, lessAddr a b → lessAddr b c → lessAddr a c := by
    intro a ha b hb c hc
    obtain ⟨p, hp⟩ := isSome_iff_exists.1 (h.numeric a ha)
    obtain ⟨q, hq⟩ := isSome_iff_exists.1 (h.numeric b hb)
    obtain ⟨r, hr⟩ := isSome_iff_exists.1 (h.numeric c hc)
    rw [lessAddr_of_hostIP hp hq, lessAddr_of_hostIP hq hr, lessAddr_of_hostIP hp hr]
    exact Net.less_trans
  refine ⟨hirrefl, htrans, fun a ha b hb c hc hab hbc => ?_⟩
  -- Of distinct addresses one is less, so what is not less is the same or greater.
  by_cases hba : b = a
  · rwa [hba] at hbc
  · grind [total]

lemma DistinctHosts.determined (k : Nat) : Determined lessAddr k raftAddrs :=
  determined_of_total h.total h.strictWeakOn

lemma DistinctHosts.computeVoterSet_eq (hsorted : Sorts lessAddr raftAddrs sorted)
    (hsorted' : Sorts lessAddr raftAddrs sorted') (k : Nat) : computeVoterSet sorted k = computeVoterSet sorted' k :=
  (leading_eq_iff lessAddr k raftAddrs).2 (h.determined k) sorted sorted' hsorted hsorted'

lemma DistinctHosts.card_computeVoterSet (hsorted : Sorts lessAddr raftAddrs sorted)
    (k : Nat) : (computeVoterSet sorted k).card = min k raftAddrs.length := by
  rw [computeVoterSet, card_leading (hsorted.perm.nodup_iff.2 h.nodup), hsorted.perm.length_eq]

end

lemma mem_of_mem_computeVoterSet (hsorted : Sorts lessAddr raftAddrs sorted) {k : Nat}
    (ha : a ∈ computeVoterSet sorted k) : a ∈ raftAddrs :=
  hsorted.perm.mem_iff.1 (List.mem_of_mem_take (List.mem_toFinset.1 ha))

end
end Orama.Rqlite
