import Orama.Namespace.Clusters
import Orama.Namespace.Ports

namespace Orama.Namespace
open Lib List Unique

def errInsufficientNodes : ClusterError := ⟨ascii "insufficient nodes available for cluster", none⟩

section
variable (db : Database) (clusterID nodeID : Bytes)

def ClusterNode.setStatus (status : NodeStatus) (n : ClusterNode) : ClusterNode :=
  if n.namespaceClusterID = clusterID && n.nodeID = nodeID then { n with status } else n

lemma ClusterNode.conflicts_setStatus (status : NodeStatus) (p q : ClusterNode) :
    (p.setStatus clusterID nodeID status).conflicts (q.setStatus clusterID nodeID status) = p.conflicts q := by
  grind [setStatus, conflicts]

def Database.updateClusterNodeStatus (status : NodeStatus) : Database :=
  { db with
    clusterNodes := db.clusterNodes.map (ClusterNode.setStatus clusterID nodeID status)
      (ClusterNode.conflicts_setStatus clusterID nodeID status) }

def NamespaceCluster.setStatus (status : ClusterStatus) (c : NamespaceCluster) : NamespaceCluster :=
  if c.id = clusterID then { c with status } else c

lemma NamespaceCluster.conflicts_setStatus (status : ClusterStatus) (p q : NamespaceCluster) :
    (p.setStatus clusterID status).conflicts (q.setStatus clusterID status) = p.conflicts q := by
  grind [setStatus, conflicts]

def Database.updateClusterStatus (status : ClusterStatus) : Database :=
  { db with
    clusters := db.clusters.map (NamespaceCluster.setStatus clusterID status)
      (NamespaceCluster.conflicts_setStatus clusterID status) }

def Database.getClusterNodes : List ClusterNode := db.clusterNodes.rows.filter fun n => n.namespaceClusterID = clusterID

def Database.insertClusterNode (uuid : Bytes) (role : NodeRole) : Option Database :=
  (db.clusterNodes.insert ⟨uuid, clusterID, nodeID, role, .running⟩).map fun clusterNodes => { db with clusterNodes }

def Database.removeClusterNodeAssignment : Database :=
  { db with clusterNodes := db.clusterNodes.delete fun n => n.namespaceClusterID = clusterID && n.nodeID = nodeID }

def Database.deallocatePortBlock : Database :=
  { db with allocations := db.allocations.delete (Ports.Request.owns ⟨.deallocate, nodeID, clusterID⟩) }

def DnsRecord.moveTo (fqdn oldIP newIP : Bytes) (r : DnsRecord) : DnsRecord :=
  if r.fqdn = fqdn && r.value = oldIP then { r with value := newIP, isActive := true } else r

def Database.updateRecord (fqdn oldIP newIP : Bytes) : Option Database :=
  (db.dnsRecords.modify (DnsRecord.moveTo fqdn oldIP newIP)).map fun dnsRecords => { db with dnsRecords }

end

section

def getActiveNodes (nodes : DnsNodes) (now : Int) : List DnsNode :=
  nodes.rows.filter fun n => n.status = .active && now - 120 < n.lastSeen

def getNodeAllocationCount (allocations : PortAllocations) (nodeID : Bytes) : Nat :=
  allocations.rows.countP fun b => b.nodeID = nodeID

def availableNamespaceSlots (allocations : PortAllocations) (nodeID : Bytes) : Nat :=
  Ports.maxNamespacesPerNode - getNodeAllocationCount allocations nodeID

def eligibleNodes (allocations : PortAllocations) (active : List DnsNode) : List DnsNode :=
  active.filter fun n => 0 < availableNamespaceSlots allocations n.id

def selectReplacementNode (eligible : List DnsNode) (best : Bytes) : Option DnsNode :=
  match eligible.find? fun n => n.id = best with
  | some n => some n
  | none => eligible.head?

lemma mem_of_selectReplacementNode {eligible : List DnsNode} {best : Bytes} {n : DnsNode}
    (h : selectReplacementNode eligible best = some n) : n ∈ eligible := by
  grind [mem_of_head?, selectReplacementNode]

end

namespace Replacement

structure Event (ι : Type) extends Ports.Event ι where
  best : Bytes

structure Loss where
  cluster : NamespaceCluster
  dead : Bytes
deriving DecidableEq

structure Replaced extends Loss where
  node : DnsNode
  block : PortBlock
  /-- Of the dead node. -/
  roles : List NodeRole
  inserted : List NodeRole
  spawnErrors : Nat
  /-- The names whose records have been changed, with the address that they had. -/
  moved : List (Bytes × Bytes)
  deallocated : Bool
  removed : Bool
deriving DecidableEq

inductive Phase where
  | markingFailed (l : Loss)
  | markingDegraded (l : Loss)
  | readingNodes (l : Loss)
  | listing (l : Loss) (nodes : List ClusterNode)
  | choosing (l : Loss) (nodes : List ClusterNode) (active : List DnsNode)
  | allocating (l : Loss) (nodes : List ClusterNode) (node : DnsNode) (ports : Ports.Phase)
  | readingPorts (r : Replaced)
  | rollingBack (r : Replaced) (cause : Bytes)
  | spawning (r : Replaced) (role : NodeRole) (rest : List NodeRole)
  | inserting (r : Replaced) (role : NodeRole) (rest : List NodeRole)
  | locating (r : Replaced)
  | updating (r : Replaced) (oldIP fqdn : Bytes) (rest : List Bytes)
  | deallocating (r : Replaced)
  | removing (r : Replaced)
  | markingReady (r : Replaced)
  | replaced (r : Replaced)
  | failed (l : Loss) (error : Bytes)
deriving DecidableEq

def Loss.begin (l : Loss) (nodes : List ClusterNode) (node : DnsNode) (block : PortBlock) : Replaced where
  cluster := l.cluster
  dead := l.dead
  node := node
  block := block
  roles := (nodes.filter fun n => n.nodeID = l.dead).map ClusterNode.role
  inserted := []
  spawnErrors := 0
  moved := []
  deallocated := false
  removed := false

def services (roles : List NodeRole) : List NodeRole :=
  (if roles.contains .rqliteLeader || roles.contains .rqliteFollower then [.rqliteFollower] else []) ++
    (if roles.contains .olric then [.olric] else []) ++ (if roles.contains .gateway then [.gateway] else [])

def Replaced.spawn (r : Replaced) : List NodeRole → Phase
  | [] => .locating r
  | role :: rest => .spawning r role rest

def Replaced.update (r : Replaced) (oldIP : Bytes) : List Bytes → Phase
  | [] => .deallocating r
  | fqdn :: rest => .updating r oldIP fqdn rest

def Loss.allocated (l : Loss) (nodes : List ClusterNode) (node : DnsNode) : Ports.Phase → Phase
  | .allocated block => .readingPorts (l.begin nodes node block)
  | .failed err => .failed l (ascii "failed to allocate ports on replacement node: " ++ err.error)
  | ports => .allocating l nodes node ports

variable {ι : Type} (baseDomain : Bytes)

def fqdns (namespaceName : Bytes) : List Bytes := [mainFqdn baseDomain namespaceName, wildcardFqdn baseDomain namespaceName]

def statement (e : Event ι) (db : Database) : Phase → Database × Phase
  | .markingFailed l =>
    (if e.fault.isSome then db else db.updateClusterNodeStatus l.cluster.id l.dead .failed, .markingDegraded l)
  | .markingDegraded l =>
    (if e.fault.isSome then db else db.updateClusterStatus l.cluster.id .degraded, .readingNodes l)
  | .readingNodes l =>
    match e.fault with
    | some cause => (db, .failed l (ascii "failed to get cluster nodes: " ++ cause))
    | none => (db, .listing l (db.getClusterNodes l.cluster.id))
  | .listing l nodes =>
    match e.fault with
    | some cause => (db, .failed l (ascii "failed to select replacement node: " ++
        (ClusterError.mk (ascii "failed to query active nodes") (some cause)).error))
    | none => (db, .choosing l nodes
        ((getActiveNodes db.dnsNodes e.now).filter fun n => !(nodes.map ClusterNode.nodeID).contains n.id))
  -- A node whose capacity cannot be read is passed over, so a fault leaves none.
  | .choosing l nodes active =>
    match if e.fault.isSome then none else selectReplacementNode (eligibleNodes db.allocations active) e.best with
    | none => (db, .failed l (ascii "failed to select replacement node: " ++ errInsufficientNodes.error))
    | some node => (db, .allocating l nodes node .start)
  | .allocating l nodes node ports =>
    let next := Ports.statement ⟨.allocate, node.id, l.cluster.id⟩ e.toEvent ⟨db.dnsNodes, db.allocations⟩ ports
    ({ db with allocations := next.1.allocations }, l.allocated nodes node next.2)
  | .readingPorts r =>
    match e.fault with
    | some cause => (db, .rollingBack r cause)
    | none => (db, r.spawn (services r.roles))
  | .rollingBack r cause =>
    (if e.fault.isSome then db else db.deallocatePortBlock r.cluster.id r.node.id,
      .failed r.toLoss (ascii "failed to query surviving node ports: " ++ cause))
  | .spawning r role rest =>
    match e.fault with
    | some _ => (db, { r with spawnErrors := r.spawnErrors + 1 }.spawn rest)
    | none => (db, .inserting r role rest)
  | .inserting r role rest =>
    match if e.fault.isSome then none else db.insertClusterNode r.cluster.id r.node.id e.uuid role with
    | none => (db, r.spawn rest)
    | some db => (db, { r with inserted := role :: r.inserted }.spawn rest)
  | .locating r =>
    match if e.fault.isSome then none else db.dnsNodes.ipAddress r.dead with
    | some ip => (db, if ip ≠ [] then r.update ip (fqdns baseDomain r.cluster.namespaceName) else .deallocating r)
    | none => (db, .deallocating r)
  | .updating r oldIP fqdn rest =>
    match if e.fault.isSome then none else db.updateRecord fqdn oldIP r.node.ipAddress with
    | none => (db, r.update oldIP rest)
    | some db => (db, { r with moved := (fqdn, oldIP) :: r.moved }.update oldIP rest)
  | .deallocating r =>
    match e.fault with
    | some _ => (db, .removing r)
    | none => (db.deallocatePortBlock r.cluster.id r.dead, .removing { r with deallocated := true })
  | .removing r =>
    match e.fault with
    | some _ => (db, .markingReady r)
    | none => (db.removeClusterNodeAssignment r.cluster.id r.dead, .markingReady { r with removed := true })
  | .markingReady r =>
    (if e.fault.isSome || r.spawnErrors ≠ 0 then db else db.updateClusterStatus r.cluster.id .ready, .replaced r)
  | .replaced r => (db, .replaced r)
  | .failed l error => (db, .failed l error)

def replaceClusterNode (db : Database) (l : Loss) (events : List (Event ι)) : Database × Phase :=
  events.foldl (fun p e => statement baseDomain e p.1 p.2) (db, .markingFailed l)

end Replacement

section
variable {db db' : Database} {clusterID nodeID n : Bytes}

def Database.Staffed (db : Database) (clusterID nodeID : Bytes) : Prop :=
  ∃ x ∈ db.clusterNodes.rows, x.namespaceClusterID = clusterID ∧ x.nodeID = nodeID

def Database.Serves (db : Database) (clusterID nodeID : Bytes) : Prop :=
  ∃ x ∈ db.clusterNodes.rows, x.namespaceClusterID = clusterID ∧ x.nodeID = nodeID ∧ x.role = .gateway ∧
    x.status = .running

instance : Decidable (db.Staffed clusterID nodeID) :=
  inferInstanceAs (Decidable (∃ x ∈ db.clusterNodes.rows, x.namespaceClusterID = clusterID ∧ x.nodeID = nodeID))

instance : Decidable (db.Serves clusterID nodeID) :=
  inferInstanceAs (Decidable (∃ x ∈ db.clusterNodes.rows, x.namespaceClusterID = clusterID ∧ x.nodeID = nodeID ∧
    x.role = .gateway ∧ x.status = .running))

lemma Database.Serves.staffed (h : db.Serves clusterID nodeID) : db.Staffed clusterID nodeID := by
  obtain ⟨x, hx, hcluster, hnode, -⟩ := h
  exact ⟨x, hx, hcluster, hnode⟩

lemma ClusterNode.setStatus_keys (clusterID nodeID : Bytes) (status : NodeStatus) (x : ClusterNode) :
    (x.setStatus clusterID nodeID status).namespaceClusterID = x.namespaceClusterID ∧
    (x.setStatus clusterID nodeID status).nodeID = x.nodeID ∧
    (x.setStatus clusterID nodeID status).role = x.role := by
  rw [setStatus]
  split <;> exact ⟨rfl, rfl, rfl⟩

lemma Database.staffed_updateClusterNodeStatus (status : NodeStatus) (c m : Bytes) :
    (db.updateClusterNodeStatus clusterID nodeID status).Staffed c m ↔ db.Staffed c m := by
  constructor
  · rintro ⟨x, hx, hcluster, hnode⟩
    obtain ⟨y, hy, rfl⟩ := mem_map.1 hx
    obtain ⟨hc, hn, -⟩ := y.setStatus_keys clusterID nodeID status
    exact ⟨y, hy, hc ▸ hcluster, hn ▸ hnode⟩
  · rintro ⟨x, hx, hcluster, hnode⟩
    obtain ⟨hc, hn, -⟩ := x.setStatus_keys clusterID nodeID status
    exact ⟨x.setStatus clusterID nodeID status, mem_map_of_mem hx, hc.trans hcluster, hn.trans hnode⟩

variable {x : ClusterNode}

lemma Database.mem_getClusterNodes :
    x ∈ db.getClusterNodes clusterID ↔ x ∈ db.clusterNodes.rows ∧ x.namespaceClusterID = clusterID := by
  simp [getClusterNodes]

variable {uuid : Bytes} {role : NodeRole}

section
variable (h : db.insertClusterNode clusterID nodeID uuid role = some db')
include h

lemma Database.insertClusterNode_eq_some :
    db'.clusterNodes.rows = db.clusterNodes.rows ++ [⟨uuid, clusterID, nodeID, role, .running⟩] ∧
    db' = { db with clusterNodes := db'.clusterNodes } := by
  grind [Option.map_eq_some_iff, insert_eq_some, insertClusterNode]

lemma Database.staffed_insertClusterNode : db'.Staffed clusterID n ↔ db.Staffed clusterID n ∨ n = nodeID := by
  simp only [Staffed, (insertClusterNode_eq_some h).1, mem_append, mem_singleton]
  constructor
  · grind
  · rintro (⟨x, hx, hcluster, hnode⟩ | rfl)
    · exact ⟨x, .inl hx, hcluster, hnode⟩
    · exact ⟨_, .inr rfl, rfl, rfl⟩

lemma Database.serves_insertClusterNode :
    db'.Serves clusterID nodeID ↔ db.Serves clusterID nodeID ∨ role = .gateway := by
  simp only [Serves, (insertClusterNode_eq_some h).1, mem_append, mem_singleton]
  constructor
  · grind
  · rintro (⟨x, hx, hcluster, hnode, hrole, hstatus⟩ | rfl)
    · exact ⟨x, .inl hx, hcluster, hnode, hrole, hstatus⟩
    · exact ⟨_, .inr rfl, rfl, rfl, rfl, rfl⟩

end

lemma Database.mem_removeClusterNodeAssignment :
    x ∈ (db.removeClusterNodeAssignment clusterID nodeID).clusterNodes.rows ↔
    x ∈ db.clusterNodes.rows ∧ ¬ (x.namespaceClusterID = clusterID ∧ x.nodeID = nodeID) := by
  simp [removeClusterNodeAssignment, mem_delete]

lemma Database.staffed_removeClusterNodeAssignment :
    (db.removeClusterNodeAssignment clusterID nodeID).Staffed clusterID n ↔ db.Staffed clusterID n ∧ n ≠ nodeID := by
  grind [mem_removeClusterNodeAssignment, Staffed]

lemma Database.serves_removeClusterNodeAssignment (hne : n ≠ nodeID) :
    (db.removeClusterNodeAssignment clusterID nodeID).Serves clusterID n ↔ db.Serves clusterID n := by
  grind [mem_removeClusterNodeAssignment, Serves]

lemma Database.mem_deallocatePortBlock {b : PortBlock} :
    b ∈ (db.deallocatePortBlock clusterID nodeID).allocations.rows ↔
    b ∈ db.allocations.rows ∧ ¬ (b.namespaceClusterID = clusterID ∧ b.nodeID = nodeID) := by
  simp [deallocatePortBlock, mem_delete, Ports.Request.owns]

lemma Database.updateRecord_eq_some {fqdn oldIP newIP : Bytes} (h : db.updateRecord fqdn oldIP newIP = some db') :
    db'.dnsRecords.rows = db.dnsRecords.rows.map (DnsRecord.moveTo fqdn oldIP newIP) ∧
    db' = { db with dnsRecords := db'.dnsRecords } := by
  grind [Option.map_eq_some_iff, rows_of_modify, updateRecord]

section
variable (k : Bytes)

lemma Database.getClusterNodes_congr (h : db'.clusterNodes = db.clusterNodes) :
    db'.getClusterNodes k = db.getClusterNodes k := by
  rw [getClusterNodes, h, getClusterNodes]

lemma Database.getClusterNodes_updateClusterNodeStatus (status : NodeStatus) :
    (db.updateClusterNodeStatus clusterID nodeID status).getClusterNodes k =
    (db.getClusterNodes k).map (ClusterNode.setStatus clusterID nodeID status) := by
  rw [getClusterNodes, updateClusterNodeStatus, Unique.map, filter_map, getClusterNodes]
  grind [filter_congr, ClusterNode.setStatus_keys]

lemma Database.getClusterNodes_insertClusterNode {uuid : Bytes} {role : NodeRole}
    (h : db.insertClusterNode clusterID nodeID uuid role = some db') : db'.getClusterNodes k = db.getClusterNodes k ++
      if clusterID = k then [⟨uuid, clusterID, nodeID, role, .running⟩] else [] := by
  rw [getClusterNodes, (insertClusterNode_eq_some h).1, filter_append, getClusterNodes]
  grind

lemma Database.getClusterNodes_removeClusterNodeAssignment :
    (db.removeClusterNodeAssignment clusterID nodeID).getClusterNodes k =
    (db.getClusterNodes k).filter fun x => !(x.namespaceClusterID = clusterID && x.nodeID = nodeID) := by
  rw [getClusterNodes, removeClusterNodeAssignment, delete, getClusterNodes]
  exact filter_comm ..

end
end

open Database
namespace Replacement
variable {ι : Type} {baseDomain : Bytes} {e : Event ι} {db : Database} {phase : Phase}

def Phase.loss : Phase → Loss
  | .markingFailed l => l
  | .markingDegraded l => l
  | .readingNodes l => l
  | .listing l _ => l
  | .choosing l _ _ => l
  | .allocating l _ _ _ => l
  | .readingPorts r => r.toLoss
  | .rollingBack r _ => r.toLoss
  | .spawning r _ _ => r.toLoss
  | .inserting r _ _ => r.toLoss
  | .locating r => r.toLoss
  | .updating r _ _ _ => r.toLoss
  | .deallocating r => r.toLoss
  | .removing r => r.toLoss
  | .markingReady r => r.toLoss
  | .replaced r => r.toLoss
  | .failed l _ => l

def Phase.returned : Phase → Bool
  | .replaced _ => true
  | .failed _ _ => true
  | _ => false

lemma loss_spawn (r : Replaced) (roles : List NodeRole) : (r.spawn roles).loss = r.toLoss := by
  cases roles <;> rfl

lemma loss_update (r : Replaced) (oldIP : Bytes) (names : List Bytes) : (r.update oldIP names).loss = r.toLoss := by
  cases names <;> rfl

lemma statement_loss (baseDomain : Bytes) (e : Event ι) (db : Database) (phase : Phase) :
    (statement baseDomain e db phase).2.loss = phase.loss := by
  cases phase with
  | readingNodes l =>
    rw [statement]
    split <;> rfl
  | listing l nodes =>
    rw [statement]
    split <;> rfl
  | choosing l nodes active =>
    rw [statement]
    split <;> rfl
  | allocating l nodes node ports =>
    rw [statement]
    dsimp only
    cases (Ports.statement ⟨.allocate, node.id, l.cluster.id⟩ e.toEvent ⟨db.dnsNodes, db.allocations⟩ ports).2 <;> rfl
  | readingPorts r =>
    rw [statement]
    split
    · rfl
    · exact loss_spawn r _
  | spawning r role rest =>
    rw [statement]
    split
    · exact loss_spawn _ _
    · rfl
  | inserting r role rest =>
    rw [statement]
    split
    · exact loss_spawn r _
    · exact loss_spawn _ _
  | locating r =>
    rw [statement]
    split
    · dsimp only
      split
      · exact loss_update r _ _
      · rfl
    · rfl
  | updating r oldIP fqdn rest =>
    rw [statement]
    split
    · exact loss_update r _ _
    · exact loss_update _ _ _
  | deallocating r =>
    rw [statement]
    split <;> rfl
  | removing r =>
    rw [statement]
    split <;> rfl
  | _ => rfl

lemma statement_effect (baseDomain : Bytes) (e : Event ι) (db : Database) (phase : Phase) :
    ((statement baseDomain e db phase).1.clusterNodes = db.clusterNodes ∧
    (statement baseDomain e db phase).1.clusters = db.clusters) ∨ (∃ l, phase = .markingFailed l ∧
    (statement baseDomain e db phase).1 = db.updateClusterNodeStatus l.cluster.id l.dead .failed) ∨
    (∃ r role rest, phase = .inserting r role rest ∧
    db.insertClusterNode r.cluster.id r.node.id e.uuid role = some (statement baseDomain e db phase).1) ∨
    (∃ r, phase = .removing r ∧
    (statement baseDomain e db phase).1 = db.removeClusterNodeAssignment r.cluster.id r.dead) ∨
    ∃ id status, (status = .ready ∨ status = .degraded) ∧
    (statement baseDomain e db phase).1 = db.updateClusterStatus id status := by
  cases phase with
  | markingFailed l => grind [statement]
  | markingDegraded l => grind [statement]
  | readingNodes l =>
    rw [statement]
    split <;> exact .inl ⟨rfl, rfl⟩
  | listing l nodes =>
    rw [statement]
    split <;> exact .inl ⟨rfl, rfl⟩
  | choosing l nodes active =>
    rw [statement]
    split <;> exact .inl ⟨rfl, rfl⟩
  | allocating l nodes node ports => exact .inl ⟨rfl, rfl⟩
  | readingPorts r =>
    rw [statement]
    split <;> exact .inl ⟨rfl, rfl⟩
  | rollingBack r cause =>
    rw [statement]
    dsimp only
    split <;> exact .inl ⟨rfl, rfl⟩
  | spawning r role rest =>
    rw [statement]
    split <;> exact .inl ⟨rfl, rfl⟩
  | inserting r role rest =>
    rw [statement]
    grind
  | locating r =>
    rw [statement]
    split <;> exact .inl ⟨rfl, rfl⟩
  | updating r oldIP fqdn rest =>
    rw [statement]
    split
    · exact .inl ⟨rfl, rfl⟩
    · next db' hupdate =>
      obtain ⟨-, hupdate⟩ := Option.ite_none_left_eq_some.1 hupdate
      left
      rw [(updateRecord_eq_some hupdate).2]
      exact ⟨rfl, rfl⟩
  | deallocating r =>
    rw [statement]
    split <;> exact .inl ⟨rfl, rfl⟩
  | removing r =>
    rw [statement]
    grind
  | markingReady r =>
    rw [statement]
    grind
  | replaced r => exact .inl ⟨rfl, rfl⟩
  | failed l error => exact .inl ⟨rfl, rfl⟩

lemma getClusterNodes_statement_of_ne {k : Bytes} (hk : phase.loss.cluster.id ≠ k) :
    (statement baseDomain e db phase).1.getClusterNodes k = db.getClusterNodes k := by
  rcases statement_effect baseDomain e db phase with
    ⟨hsame, -⟩ | ⟨l, rfl, heq⟩ | ⟨r, role, rest, rfl, heq⟩ | ⟨r, rfl, heq⟩ | ⟨id, status, -, heq⟩
  · exact getClusterNodes_congr k hsame
  · rw [heq, getClusterNodes_updateClusterNodeStatus]
    have hsame : ∀ x ∈ db.getClusterNodes k, x.setStatus l.cluster.id l.dead .failed = id x := by
      intro x hx
      have hcluster := (mem_getClusterNodes.1 hx).2
      have hne : x.namespaceClusterID ≠ l.cluster.id := fun h => hk (h.symm.trans hcluster)
      simp [ClusterNode.setStatus, hne]
    rw [map_congr_left hsame, map_id]
  · change r.cluster.id ≠ k at hk
    rw [getClusterNodes_insertClusterNode k heq, if_neg hk, append_nil]
  · rw [heq, getClusterNodes_removeClusterNodeAssignment, filter_eq_self]
    intro x hx
    have hcluster := (mem_getClusterNodes.1 hx).2
    have hne : x.namespaceClusterID ≠ r.cluster.id := fun h => hk (h.symm.trans hcluster)
    simp [hne]
  · rw [heq]
    rfl

end Replacement
end Orama.Namespace
