import Orama.Deployments.HomeNode
import Orama.Lib.Picking

namespace Orama.Deployments
open Lib Namespace List

structure Load where
  deploymentCount : Nat
  allocatedPorts : Nat
  availablePorts : Nat
  usage : Int × Int
deriving DecidableEq

open Preference Net
section
variable {R : Type} (a : Arithmetic R)

def calculateNodeCapacities (loads : Bytes → Option Load) (nodeIDs : List Bytes) : List (NodeCapacity R) :=
  nodeIDs.filterMap fun nodeID => (loads nodeID).map fun l =>
    nodeCapacity a nodeID l.deploymentCount l.allocatedPorts l.availablePorts l.usage

def selectFrom : Nat → Nat → List (NodeCapacity R) → List Bytes
  | 0, _, _ => []
  | count + 1, i, capacities =>
    if i < capacities.length then
      match selectBestNode a capacities with
      | none => []
      | some best => best.nodeID :: selectFrom count (i + 1) (capacities.filter fun c => c.nodeID ≠ best.nodeID)
    else []

def eligible (loads : Bytes → Option Load) (activeNodes : List Bytes) (primaryNodeID : Bytes) : List (NodeCapacity R) :=
  calculateNodeCapacities a loads (activeNodes.filter fun nodeID => nodeID ≠ primaryNodeID)

def selectReplicaNodes (loads : Bytes → Option Load) (activeNodes : List Bytes) (primaryNodeID : Bytes) (count : Nat) :
    List Bytes := selectFrom a count 0 (eligible a loads activeNodes primaryNodeID)

def Arithmetic.preference : Preference (NodeCapacity R) where
  better c c' := a.less c'.score c.score
  before c c' := Net.less c.nodeID c'.nodeID
  better_irrefl c := a.less_irrefl c.score
  better_trans c c' c'' h h' := a.less_trans c''.score c'.score c.score h' h
  better_negTrans c c' c'' h h' := a.less_negTrans c''.score c'.score c.score h' h
  before_irrefl c := Net.less_irrefl c.nodeID
  before_trans _ _ _ h h' := Net.less_trans h h'

def selectedCount (count available : Nat) : Nat := min count ((available + 1) / 2)

variable {a} {capacities : List (NodeCapacity R)} {nodeID : Bytes}

lemma selectBestNode_eq (a : Arithmetic R) (capacities : List (NodeCapacity R)) :
    selectBestNode a capacities = a.preference.pick capacities := by
  cases capacities <;> rfl

def Ordered (capacities : List (NodeCapacity R)) : Prop :=
  capacities.Pairwise fun c c' => Net.less c.nodeID c'.nodeID = true

section
variable (h : Ordered capacities)
include h

lemma Ordered.before (a : Arithmetic R) : capacities.Pairwise fun c c' => a.preference.before c c' := h

lemma Ordered.nodup : capacities.Nodup := by
  refine h.imp fun {c c'} hless heq => ?_
  rw [heq, less_irrefl] at hless
  cases hless

lemma Ordered.eq_of_nodeID {c c' : NodeCapacity R} (hc : c ∈ capacities) (hc' : c' ∈ capacities)
    (heq : c.nodeID = c'.nodeID) : c = c' := by
  have hne : capacities.Pairwise fun c c' => c.nodeID ≠ c'.nodeID := by
    refine h.imp fun {c c'} hless heq => ?_
    rw [heq, less_irrefl] at hless
    cases hless
  have hnodup : (capacities.map NodeCapacity.nodeID).Nodup := pairwise_map.2 hne
  exact inj_on_of_nodup_map hnodup hc hc' heq

lemma Ordered.filter_ne [DecidableEq R] {best : NodeCapacity R} (hbest : best ∈ capacities) :
    (capacities.filter fun c => c.nodeID ≠ best.nodeID) = capacities.erase best := by
  rw [h.nodup.erase_eq_filter]
  apply filter_congr
  intro c hc
  rw [Bool.eq_iff_iff, decide_eq_true_iff, bne_iff_ne]
  exact not_congr ⟨fun heq => h.eq_of_nodeID hc hbest heq, fun heq => heq ▸ rfl⟩

lemma mem_selectFrom (count i : Nat) : nodeID ∈ selectFrom a count i capacities ↔
      ∃ c ∈ capacities, c.nodeID = nodeID ∧
      a.preference.rank capacities c < selectedCount count (capacities.length - i) := by
  classical
  induction count generalizing i capacities with
  | zero => simp [selectFrom, selectedCount]
  | succ count ih =>
    rw [selectFrom]
    by_cases hi : i < capacities.length
    · rw [if_pos hi]
      cases hbest : selectBestNode a capacities with
      | none =>
        cases capacities with
        | nil => exact absurd hi (Nat.not_lt_zero i)
        | cons c capacities => cases hbest
      | some best =>
        rw [selectBestNode_eq] at hbest
        obtain ⟨hmem, -⟩ := pick_eq_some (h.before a) hbest
        have hrank := rank_pick (h.before a) hbest
        have hlength : (capacities.erase best).length = capacities.length - 1 := length_erase_of_mem hmem
        -- One more is selected from what is there than from what is left.
        have hcount : selectedCount (count + 1) (capacities.length - i) =
            selectedCount count ((capacities.erase best).length - (i + 1)) + 1 := by
          rw [hlength, selectedCount, selectedCount]
          omega
        dsimp only
        rw [h.filter_ne hmem, mem_cons, ih (h.sublist erase_sublist) (i + 1), hcount]
        constructor
        · rintro (rfl | ⟨c, hc, rfl, hlt⟩)
          · exact ⟨best, hmem, rfl, by omega⟩
          · have hne : c ≠ best := by
              rintro rfl
              exact h.nodup.not_mem_erase hc
            have hc' : c ∈ capacities := mem_of_mem_erase hc
            refine ⟨c, hc', rfl, ?_⟩
            rw [rank_erase (h.before a) hbest hc' hne]
            omega
        · rintro ⟨c, hc, rfl, hlt⟩
          by_cases hne : c = best
          · exact .inl (hne ▸ rfl)
          · rw [rank_erase (h.before a) hbest hc hne] at hlt
            exact .inr ⟨c, (mem_erase_of_ne hne).2 hc, rfl, by omega⟩
    · grind [selectedCount]

end
end

section
variable {R : Type} {a : Arithmetic R} {db : Database} {now : Int} {nodeID : Bytes}

lemma exists_of_mem_getActiveNodes (h : nodeID ∈ getActiveNodes db now) : ∃ n ∈ db.dnsNodes.rows, n.id = nodeID := by
  rw [getActiveNodes, (Ranking.arrange_perm _ _).mem_iff, mem_map] at h
  obtain ⟨n, hn, hid⟩ := h
  exact ⟨n, mem_of_mem_filter hn, hid⟩

lemma strictWeakOn_less (l : List Bytes) : Ranking.StrictWeakOn less l := by
  refine ⟨fun s _ => less_irrefl s, fun s _ t _ u _ => less_trans, fun s _ t _ u _ hst htu => ?_⟩
  by_cases heq : s = t
  · rw [heq]
    exact htu
  · grind [less_total, less_trans]

lemma getActiveNodes_pairwise (db : Database) (now : Int) :
    (getActiveNodes db now).Pairwise fun m n => less m n := by
  have hnodup : (getActiveNodes db now).Nodup := by
    rw [getActiveNodes, (Ranking.arrange_perm _ _).nodup_iff]
    have hids : (db.dnsNodes.rows.map DnsNode.id).Nodup := by
      refine pairwise_map.2 (db.dnsNodes.apart.imp fun {m n} hmn => ?_)
      simpa [DnsNode.conflicts] using hmn
    exact hids.sublist (filter_sublist.map _)
  have hsorted := Ranking.arrange_pairwise (strictWeakOn_less ((db.dnsNodes.rows.filter fun n =>
    n.status = .active && now - 120 < n.lastSeen).map DnsNode.id))
  refine (List.Pairwise.and hnodup hsorted).imp fun {m n} h => ?_
  exact (less_total h.1).resolve_right (by simp [h.2])

lemma ordered_eligible (a : Arithmetic R) (loads : Bytes → Option Load) (db : Database) (now : Int) (primaryNodeID : Bytes) :
    Ordered (eligible a loads (getActiveNodes db now) primaryNodeID) := by
  refine List.Pairwise.filterMap _ (fun m n hmn c hc c' hc' => ?_) ((getActiveNodes_pairwise db now).filter _)
  rw [Option.map_eq_some_iff] at hc hc'
  obtain ⟨_, -, rfl⟩ := hc
  obtain ⟨_, -, rfl⟩ := hc'
  exact hmn

lemma mem_activeNodes_of_eligible {loads : Bytes → Option Load} {activeNodes : List Bytes} {primaryNodeID : Bytes}
    {c : NodeCapacity R} (h : c ∈ eligible a loads activeNodes primaryNodeID) : c.nodeID ∈ activeNodes := by
  rw [eligible, calculateNodeCapacities, mem_filterMap] at h
  obtain ⟨n, hn, hc⟩ := h
  rw [Option.map_eq_some_iff] at hc
  obtain ⟨_, -, rfl⟩ := hc
  exact mem_of_mem_filter hn

end

section

def Replica.renew (port : Int) (status : ReplicaStatus) (isPrimary : Bool) (now : Int) (r : Replica) : Replica :=
  { r with port, status, isPrimary, updatedAt := now }

lemma Replica.key_renew (port : Int) (status : ReplicaStatus) (isPrimary : Bool) (now : Int) (r : Replica) :
    (r.renew port status isPrimary now).key = r.key := rfl

def createReplica (db : Database) (deploymentID nodeID : Bytes) (port : Int) (isPrimary : Bool) (status : ReplicaStatus)
    (now : Int) : Database :=
  { db with
    replicas := db.replicas.upsert ⟨deploymentID, nodeID, port, status, isPrimary, now, now⟩
      (Replica.renew port status isPrimary now) (Replica.key_renew port status isPrimary now) }

variable {db : Database} {deploymentID nodeID : Bytes} {key : Bytes × Bytes}

lemma replica_createReplica_of_ne (port : Int) (isPrimary : Bool) (status : ReplicaStatus) (now : Int)
    (h : key ≠ (deploymentID, nodeID)) :
    (createReplica db deploymentID nodeID port isPrimary status now).replicas.get key = db.replicas.get key :=
  Keyed.get_upsert_of_ne _ _ _ _ h

lemma replica_createReplica (db : Database) (deploymentID nodeID : Bytes) (port : Int) (isPrimary : Bool)
    (status : ReplicaStatus) (now : Int) :
    ∃ r, (createReplica db deploymentID nodeID port isPrimary status now).replicas.get (deploymentID, nodeID) = some r ∧
      r.status = status ∧ r.updatedAt = now := by
  refine ⟨_, Keyed.get_upsert_self _ _ _ _, ?_⟩
  cases db.replicas.get (Replica.key ⟨deploymentID, nodeID, port, status, isPrimary, now, now⟩) <;> exact ⟨rfl, rfl⟩

end
end Orama.Deployments
