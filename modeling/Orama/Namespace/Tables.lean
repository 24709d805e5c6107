import Orama.Lib.Slots
import Orama.Lib.Strings
import Orama.Lib.Unique

namespace Orama.Namespace
open Lib

inductive DnsNodeStatus where
  | active
  | draining
  | offline
  | inactive
deriving DecidableEq

structure DnsNode where
  id : Bytes
  ipAddress : Bytes
  internalIP : Option Bytes
  status : DnsNodeStatus
  /-- In seconds. -/
  lastSeen : Int
deriving DecidableEq

def DnsNode.conflicts (p q : DnsNode) : Bool := p.id = q.id
abbrev DnsNodes := Unique DnsNode DnsNode.conflicts

structure ClusterError where
  message : Bytes
  cause : Option Bytes
deriving DecidableEq

def ClusterError.error (e : ClusterError) : Bytes :=
  match e.cause with
  | some cause => e.message ++ ascii ": " ++ cause
  | none => e.message

def errNoPortsAvailable : ClusterError := ⟨ascii "no ports available on node", none⟩

def errNodeAtCapacity : ClusterError := ⟨ascii "node has reached maximum namespace instances", none⟩

def errNoWebRTCPortsAvailable : ClusterError := ⟨ascii "no WebRTC ports available on node", none⟩

def uniqueFailed : Bytes := ascii "UNIQUE constraint failed"

def isConflictError (err : ClusterError) : Bool :=
  contains err.error (ascii "UNIQUE") || contains err.error (ascii "constraint") ||
    contains err.error (ascii "conflict")

structure PortBlock where
  id : Bytes
  nodeID : Bytes
  namespaceClusterID : Bytes
  portStart : Nat
  portEnd : Nat
  rqliteHTTPPort : Nat
  rqliteRaftPort : Nat
  olricHTTPPort : Nat
  olricMemberlistPort : Nat
  gatewayHTTPPort : Nat
  allocatedAt : Int
deriving DecidableEq

def PortBlock.conflicts (p q : PortBlock) : Bool :=
  p.id = q.id || (p.nodeID = q.nodeID && p.portStart = q.portStart) ||
    (p.namespaceClusterID = q.namespaceClusterID && p.nodeID = q.nodeID)

def PortBlock.ports (b : PortBlock) : Interval := ⟨b.portStart, b.portEnd⟩
abbrev PortAllocations := Unique PortBlock PortBlock.conflicts

def DnsNodes.ipAddress (nodes : DnsNodes) (nodeID : Bytes) : Option Bytes :=
  (nodes.rows.find? fun n => n.id = nodeID).map DnsNode.ipAddress

def DnsNodes.at (nodes : DnsNodes) (ip : Bytes) : List Bytes :=
  (nodes.rows.filter fun n => n.ipAddress = ip).map DnsNode.id

def DnsNodes.shareHost (nodes : DnsNodes) (a b : Bytes) : Bool :=
  a = b || match nodes.ipAddress a with
    | some ip => ip ≠ [] && nodes.ipAddress b = some ip
    | none => false

lemma PortBlock.conflicts_iff (p q : PortBlock) :
    p.conflicts q ↔ p.id = q.id ∨ (p.nodeID = q.nodeID ∧ p.portStart = q.portStart) ∨
    (p.namespaceClusterID = q.namespaceClusterID ∧ p.nodeID = q.nodeID) := by
  simp [conflicts, or_assoc]

lemma PortBlock.conflicts_comm (p q : PortBlock) : p.conflicts q = q.conflicts p := by
  rw [Bool.eq_iff_iff, conflicts_iff, conflicts_iff]
  exact or_congr eq_comm (or_congr (and_congr eq_comm eq_comm) (and_congr eq_comm eq_comm))

lemma DnsNodes.shareHost_iff {nodes : DnsNodes} {a b : Bytes} :
    nodes.shareHost a b ↔ a = b ∨ ∃ ip ≠ [], nodes.ipAddress a = some ip ∧ nodes.ipAddress b = some ip := by
  rw [shareHost, Bool.or_eq_true, decide_eq_true_iff]
  apply or_congr Iff.rfl
  cases nodes.ipAddress a with
  | none => simp
  | some ip => simp

lemma DnsNodes.shareHost_comm (nodes : DnsNodes) (a b : Bytes) : nodes.shareHost a b = nodes.shareHost b a := by
  rw [Bool.eq_iff_iff, shareHost_iff, shareHost_iff]
  apply or_congr eq_comm
  exact ⟨fun ⟨ip, hne, ha, hb⟩ => ⟨ip, hne, hb, ha⟩, fun ⟨ip, hne, hb, ha⟩ => ⟨ip, hne, ha, hb⟩⟩

def colocatedNodes : DnsNodes :=
  ⟨[⟨ascii "a", ascii "10.0.0.1", none, .active, 0⟩, ⟨ascii "b", ascii "10.0.0.1", none, .active, 0⟩], by decide⟩

end Orama.Namespace
