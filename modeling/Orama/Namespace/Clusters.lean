import Orama.Namespace.Tables

namespace Orama.Namespace
open Lib

inductive ClusterStatus where
  | none
  | provisioning
  | ready
  | degraded
  | failed
  | deprovisioning
deriving DecidableEq

inductive NodeRole where
  | rqliteLeader
  | rqliteFollower
  | olric
  | gateway
  | sfu
  | turn
deriving DecidableEq

inductive NodeStatus where
  | pending
  | starting
  | running
  | stopped
  | failed
deriving DecidableEq

structure NamespaceCluster where
  id : Bytes
  namespaceID : Nat
  namespaceName : Bytes
  status : ClusterStatus
  rqliteNodeCount : Nat
  olricNodeCount : Nat
  gatewayNodeCount : Nat
deriving DecidableEq

def NamespaceCluster.conflicts (p q : NamespaceCluster) : Bool := p.id = q.id || p.namespaceID = q.namespaceID

structure ClusterNode where
  id : Bytes
  namespaceClusterID : Bytes
  nodeID : Bytes
  role : NodeRole
  status : NodeStatus
deriving DecidableEq

def ClusterNode.conflicts (p q : ClusterNode) : Bool :=
  p.id = q.id || (p.namespaceClusterID = q.namespaceClusterID && p.nodeID = q.nodeID && p.role = q.role)

inductive RecordType where
  | a
  | aaaa
  | cname
  | txt
  | ns
  | soa
deriving DecidableEq

structure DnsRecord where
  fqdn : Bytes
  recordType : RecordType
  value : Bytes
  isActive : Bool
deriving DecidableEq

def DnsRecord.conflicts (p q : DnsRecord) : Bool :=
  p.fqdn = q.fqdn && p.recordType = q.recordType && p.value = q.value

abbrev DnsRecords := Unique DnsRecord DnsRecord.conflicts

structure Database where
  dnsNodes : DnsNodes
  clusters : Unique NamespaceCluster NamespaceCluster.conflicts
  clusterNodes : Unique ClusterNode ClusterNode.conflicts
  allocations : PortAllocations
  dnsRecords : DnsRecords
deriving DecidableEq

def mainFqdn (baseDomain namespaceName : Bytes) : Bytes :=
  ascii "ns-" ++ namespaceName ++ ascii "." ++ baseDomain ++ ascii "."

def wildcardFqdn (baseDomain namespaceName : Bytes) : Bytes := ascii "*." ++ mainFqdn baseDomain namespaceName

variable {baseDomain m n : Bytes}
open List

lemma mainFqdn_inj (h : mainFqdn baseDomain m = mainFqdn baseDomain n) : m = n := by
  simpa only [mainFqdn, append_cancel_left_eq, append_cancel_right_eq] using h

lemma wildcardFqdn_ne_mainFqdn (baseDomain m n : Bytes) : wildcardFqdn baseDomain m ≠ mainFqdn baseDomain n := by
  intro h
  have hhead : (ascii "*.").head? = (ascii "ns-").head? := by
    have htext := congrArg head? h
    simp only [wildcardFqdn, mainFqdn, append_assoc] at htext
    exact htext
  exact absurd hhead (by decide)

lemma wildcardFqdn_inj (h : wildcardFqdn baseDomain m = wildcardFqdn baseDomain n) : m = n :=
  mainFqdn_inj (append_cancel_left h)

structure DnsKey where
  fqdn : Bytes
  recordType : RecordType
  value : Bytes
deriving DecidableEq

def DnsRecord.key (r : DnsRecord) : DnsKey := ⟨r.fqdn, r.recordType, r.value⟩

lemma DnsRecord.conflicts_iff (p q : DnsRecord) : p.conflicts q ↔ p.key = q.key := by
  simp [conflicts, key, and_assoc]

def DnsRecord.setActive (fqdn value : Bytes) (active : Bool) (r : DnsRecord) : DnsRecord :=
  if r.fqdn = fqdn && r.value = value then { r with isActive := active } else r

lemma DnsRecord.key_setActive (fqdn value : Bytes) (active : Bool) (r : DnsRecord) :
    (r.setActive fqdn value active).key = r.key := by
  rw [setActive]
  split <;> rfl

def DnsRecords.setActive (records : DnsRecords) (fqdn value : Bytes) (active : Bool) : DnsRecords :=
  records.map (DnsRecord.setActive fqdn value active) fun p q => by
    rw [Bool.eq_iff_iff, DnsRecord.conflicts_iff, DnsRecord.conflicts_iff, DnsRecord.key_setActive,
      DnsRecord.key_setActive]

def DnsRecords.Active (records : DnsRecords) (key : DnsKey) : Prop :=
  ∃ r ∈ records.rows, r.key = key ∧ r.isActive = true

lemma DnsRecords.Active.of_not_setActive {records : DnsRecords} {key : DnsKey} {fqdn value : Bytes} {active : Bool}
    (h : records.Active key) (hnot : ¬ (records.setActive fqdn value active).Active key) :
    key.fqdn = fqdn ∧ key.value = value := by
  obtain ⟨r, hr, rfl, hactive⟩ := h
  by_contra hne
  refine hnot ⟨r.setActive fqdn value active, mem_map_of_mem hr, DnsRecord.key_setActive .., ?_⟩
  rw [DnsRecord.setActive, if_neg]
  · exact hactive
  · rw [Bool.and_eq_true, decide_eq_true_iff, decide_eq_true_iff]
    exact hne

lemma DnsRecords.keys_setActive (records : DnsRecords) (fqdn value : Bytes) (active : Bool) :
    (records.setActive fqdn value active).rows.map DnsRecord.key = records.rows.map DnsRecord.key := by
  rw [setActive, Unique.map, map_map]
  exact map_congr_left fun r _ => DnsRecord.key_setActive fqdn value active r

def DnsRecords.activeCount (records : DnsRecords) (fqdn : Bytes) : Nat :=
  records.rows.countP fun r => r.fqdn = fqdn && r.recordType = .a && r.isActive

def getClustersByNodeID (db : Database) (nodeID : Bytes) : List Bytes :=
  (db.clusters.rows.filter fun c => (c.status = .ready || c.status = .degraded) &&
    db.clusterNodes.rows.any fun n => n.namespaceClusterID = c.id && n.nodeID = nodeID).map NamespaceCluster.id

def getCluster (db : Database) (clusterID : Bytes) : Option NamespaceCluster :=
  db.clusters.rows.find? fun c => c.id = clusterID

end Orama.Namespace
