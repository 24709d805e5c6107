import Orama.Namespace.Replacement

namespace Orama.Namespace
open Lib

def NodeRole.isDatabase : NodeRole → Bool
  | .rqliteLeader => true
  | .rqliteFollower => true
  | _ => false

def databaseNodes (nodes : List ClusterNode) : Finset Bytes :=
  ((nodes.filter fun n => n.role.isDatabase).map ClusterNode.nodeID).toFinset

def ClusterStatus.text : ClusterStatus → Bytes
  | .none => ascii "none"
  | .provisioning => ascii "provisioning"
  | .ready => ascii "ready"
  | .degraded => ascii "degraded"
  | .failed => ascii "failed"
  | .deprovisioning => ascii "deprovisioning"

def getClusterByNamespace (db : Database) (namespaceName : Bytes) : Option NamespaceCluster :=
  db.clusters.rows.find? fun c => c.namespaceName = namespaceName

def Database.addRecord (db : Database) (fqdn ip : Bytes) : Option Database :=
  (db.dnsRecords.insert ⟨fqdn, .a, ip, true⟩).map fun dnsRecords => { db with dnsRecords }

structure Managed where
  db : Database
  provisioning : List Bytes
deriving DecidableEq

def recoveryKey (clusterID : Bytes) : Bytes := ascii "recovery:" ++ clusterID
def repairKey (clusterID : Bytes) : Bytes := ascii "repair:" ++ clusterID

def errClusterNotFound : ClusterError := ⟨ascii "namespace cluster not found", none⟩

def errRecoveryInProgress : ClusterError := ⟨ascii "recovery already in progress for this cluster", none⟩

namespace Repair

structure Quest where
  cluster : NamespaceCluster
  excludeIDs : List Bytes
  missing : Nat
  added : Nat
deriving DecidableEq

inductive Phase where
  | lookingUp (namespaceName : Bytes)
  | locking (cluster : NamespaceCluster)
  | counting (cluster : NamespaceCluster)
  | readingPorts (q : Quest)
  | listing (q : Quest)
  | choosing (q : Quest) (active : List DnsNode)
  | allocating (q : Quest) (node : DnsNode) (ports : Ports.Phase)
  | spawning (q : Quest) (node : DnsNode) (role : NodeRole) (rest : List NodeRole)
  | rollingBack (q : Quest) (node : DnsNode)
  | inserting (q : Quest) (node : DnsNode) (role : NodeRole) (rest : List NodeRole)
  | recording (q : Quest) (node : DnsNode) (fqdn : Bytes) (rest : List Bytes)
  | markingReady (q : Quest)
  | releasing (clusterID : Bytes) (error : Option Bytes)
  | returned (error : Option Bytes)
deriving DecidableEq

def activeNodes (nodes : List ClusterNode) : Finset Bytes :=
  ((nodes.filter fun n => n.status = .running || n.status = .starting).map ClusterNode.nodeID).toFinset

def missingCount (cluster : NamespaceCluster) (nodes : List ClusterNode) : Nat :=
  cluster.rqliteNodeCount - (activeNodes nodes).card

def Quest.finish (q : Quest) : Phase :=
  if q.added = 0 then .releasing q.cluster.id (some (ascii "failed to add any replacement nodes")) else .markingReady q

def Quest.next (q : Quest) (node : DnsNode) : Phase :=
  let q := { q with excludeIDs := q.excludeIDs ++ [node.id], missing := q.missing - 1, added := q.added + 1 }
  if q.missing = 0 then q.finish else .listing q

def Quest.record (q : Quest) (node : DnsNode) : List Bytes → Phase
  | [] => q.next node
  | fqdn :: rest => .recording q node fqdn rest

variable {ι : Type} (baseDomain : Bytes)

def Quest.spawn (q : Quest) (node : DnsNode) : List NodeRole → Phase
  | [] => q.record node (Replacement.fqdns baseDomain q.cluster.namespaceName)
  | role :: rest => .spawning q node role rest

def Quest.allocated (q : Quest) (node : DnsNode) : Ports.Phase → Phase
  | .allocated _ => q.spawn baseDomain node [.rqliteFollower, .olric, .gateway]
  | .failed _ => q.finish
  | ports => .allocating q node ports

def statement (e : Replacement.Event ι) (s : Managed) : Phase → Managed × Phase
  | .lookingUp namespaceName =>
    match e.fault with
    | some cause => (s, .returned (some (ascii "failed to look up cluster: " ++ cause)))
    | none =>
      match getClusterByNamespace s.db namespaceName with
      | none => (s, .returned (some errClusterNotFound.error))
      | some cluster =>
        if cluster.status ≠ .ready && cluster.status ≠ .degraded then
          (s, .returned (some (ascii "cluster status is " ++ cluster.status.text ++
            ascii ", can only repair ready or degraded clusters")))
        else (s, .locking cluster)
  | .locking cluster =>
    if s.provisioning.contains (repairKey cluster.id) then (s, .returned (some errRecoveryInProgress.error))
    else ({ s with provisioning := repairKey cluster.id :: s.provisioning }, .counting cluster)
  | .counting cluster =>
    match e.fault with
    | some cause => (s, .releasing cluster.id (some (ascii "failed to get cluster nodes: " ++ cause)))
    | none =>
      let nodes := s.db.getClusterNodes cluster.id
      if missingCount cluster nodes = 0 then (s, .releasing cluster.id none)
      else (s, .readingPorts ⟨cluster, nodes.map ClusterNode.nodeID, missingCount cluster nodes, 0⟩)
  | .readingPorts q =>
    match e.fault with
    | some cause => (s, .releasing q.cluster.id (some (ascii "failed to query surviving node ports: " ++ cause)))
    | none =>
      if s.db.allocations.rows.any fun b =>
          b.namespaceClusterID = q.cluster.id && (s.db.dnsNodes.ipAddress b.nodeID).isSome then (s, .listing q)
      else (s, .releasing q.cluster.id (some (ascii "no surviving nodes found with port allocations")))
  | .listing q =>
    if e.fault.isSome then (s, q.finish)
    else (s, .choosing q ((getActiveNodes s.db.dnsNodes e.now).filter fun n => !q.excludeIDs.contains n.id))
  | .choosing q active =>
    match if e.fault.isSome then none else selectReplacementNode (eligibleNodes s.db.allocations active) e.best with
    | none => (s, q.finish)
    | some node => (s, .allocating q node .start)
  | .allocating q node ports =>
    let next := Ports.statement ⟨.allocate, node.id, q.cluster.id⟩ e.toEvent ⟨s.db.dnsNodes, s.db.allocations⟩ ports
    ({ s with db := { s.db with allocations := next.1.allocations } }, q.allocated baseDomain node next.2)
  -- Without its database the node is given up, without another service it is kept.
  | .spawning q node role rest =>
    match e.fault with
    | some _ => (s, if role = .rqliteFollower then .rollingBack q node else q.spawn baseDomain node rest)
    | none => (s, .inserting q node role rest)
  | .rollingBack q node =>
    (if e.fault.isSome then s else { s with db := s.db.deallocatePortBlock q.cluster.id node.id }, q.finish)
  | .inserting q node role rest =>
    match if e.fault.isSome then none else s.db.insertClusterNode q.cluster.id node.id e.uuid role with
    | none => (s, q.spawn baseDomain node rest)
    | some db => ({ s with db }, q.spawn baseDomain node rest)
  | .recording q node fqdn rest =>
    match if e.fault.isSome then none else s.db.addRecord fqdn node.ipAddress with
    | none => (s, q.next node)
    | some db => ({ s with db }, q.record node rest)
  | .markingReady q =>
    (if e.fault.isSome then s else { s with db := s.db.updateClusterStatus q.cluster.id .ready },
      .releasing q.cluster.id none)
  | .releasing clusterID error => ({ s with provisioning := s.provisioning.erase (repairKey clusterID) }, .returned error)
  | .returned error => (s, .returned error)

def Phase.holds : Phase → Option Bytes
  | .lookingUp _ => none
  | .locking _ => none
  | .counting cluster => some cluster.id
  | .readingPorts q => some q.cluster.id
  | .listing q => some q.cluster.id
  | .choosing q _ => some q.cluster.id
  | .allocating q _ _ => some q.cluster.id
  | .spawning q _ _ _ => some q.cluster.id
  | .rollingBack q _ => some q.cluster.id
  | .inserting q _ _ _ => some q.cluster.id
  | .recording q _ _ _ => some q.cluster.id
  | .markingReady q => some q.cluster.id
  | .releasing clusterID _ => some clusterID
  | .returned _ => none

section
variable (q : Quest) (node : DnsNode)

lemma holds_finish : q.finish.holds = some q.cluster.id := by
  rw [Quest.finish]
  split <;> rfl

lemma holds_next : (q.next node).holds = some q.cluster.id := by
  rw [Quest.next]
  dsimp only
  split
  · exact holds_finish _
  · rfl

lemma holds_record (names : List Bytes) : (q.record node names).holds = some q.cluster.id := by
  cases names with
  | nil => exact holds_next q node
  | cons fqdn rest => rfl

lemma holds_spawn (roles : List NodeRole) : (q.spawn baseDomain node roles).holds = some q.cluster.id := by
  cases roles with
  | nil => exact holds_record q node (Replacement.fqdns baseDomain q.cluster.namespaceName)
  | cons role rest => rfl

lemma holds_allocated (ports : Ports.Phase) : (q.allocated baseDomain node ports).holds = some q.cluster.id := by
  cases ports with
  | failed err => exact holds_finish q
  | _ => rfl

lemma statement_keys (e : Replacement.Event ι) (s : Managed) (phase : Phase) :
    (phase.holds = none ∧ (statement baseDomain e s phase).1 = s ∧
    ((∃ error, (statement baseDomain e s phase).2 = .returned error) ∨ ∃ namespaceName cluster,
    getClusterByNamespace s.db namespaceName = some cluster ∧
    (statement baseDomain e s phase).2 = .locking cluster)) ∨
    (∃ cluster, phase = .locking cluster ∧ repairKey cluster.id ∉ s.provisioning ∧ statement baseDomain e s phase =
    ({ s with provisioning := repairKey cluster.id :: s.provisioning }, .counting cluster)) ∨
    (∃ id, phase.holds = some id ∧ (statement baseDomain e s phase).2.holds = some id ∧
    (statement baseDomain e s phase).1.provisioning = s.provisioning) ∨
    ∃ id error, phase = .releasing id error ∧ statement baseDomain e s phase =
    ({ s with provisioning := s.provisioning.erase (repairKey id) }, .returned error) := by
  cases phase with
  | lookingUp namespaceName =>
    left
    rw [statement]
    split
    · exact ⟨rfl, rfl, .inl ⟨_, rfl⟩⟩
    · split
      · exact ⟨rfl, rfl, .inl ⟨_, rfl⟩⟩
      · next cluster hfind =>
        split
        · exact ⟨rfl, rfl, .inl ⟨_, rfl⟩⟩
        · exact ⟨rfl, rfl, .inr ⟨namespaceName, cluster, hfind, rfl⟩⟩
  | locking cluster =>
    rw [statement]
    split
    · exact .inl ⟨rfl, rfl, .inl ⟨_, rfl⟩⟩
    · grind
  | counting cluster =>
    refine .inr (.inr (.inl ⟨cluster.id, rfl, ?_⟩))
    rw [statement]
    split
    · exact ⟨rfl, rfl⟩
    · dsimp only
      split <;> exact ⟨rfl, rfl⟩
  | readingPorts q =>
    refine .inr (.inr (.inl ⟨q.cluster.id, rfl, ?_⟩))
    rw [statement]
    split
    · exact ⟨rfl, rfl⟩
    · split <;> exact ⟨rfl, rfl⟩
  | listing q =>
    refine .inr (.inr (.inl ⟨q.cluster.id, rfl, ?_⟩))
    rw [statement]
    split
    · exact ⟨holds_finish q, rfl⟩
    · exact ⟨rfl, rfl⟩
  | choosing q active =>
    refine .inr (.inr (.inl ⟨q.cluster.id, rfl, ?_⟩))
    rw [statement]
    split
    · exact ⟨holds_finish q, rfl⟩
    · exact ⟨rfl, rfl⟩
  | allocating q node ports => exact .inr (.inr (.inl ⟨q.cluster.id, rfl, holds_allocated baseDomain q node _, rfl⟩))
  | spawning q node role rest =>
    refine .inr (.inr (.inl ⟨q.cluster.id, rfl, ?_⟩))
    rw [statement]
    split
    · refine ⟨?_, rfl⟩
      dsimp only
      split
      · rfl
      · exact holds_spawn baseDomain q node rest
    · exact ⟨rfl, rfl⟩
  | rollingBack q node =>
    refine .inr (.inr (.inl ⟨q.cluster.id, rfl, ?_⟩))
    rw [statement]
    refine ⟨holds_finish q, ?_⟩
    dsimp only
    split <;> rfl
  | inserting q node role rest =>
    refine .inr (.inr (.inl ⟨q.cluster.id, rfl, ?_⟩))
    rw [statement]
    split <;> exact ⟨holds_spawn baseDomain q node rest, rfl⟩
  | recording q node fqdn rest =>
    refine .inr (.inr (.inl ⟨q.cluster.id, rfl, ?_⟩))
    rw [statement]
    split
    · exact ⟨holds_next q node, rfl⟩
    · exact ⟨holds_record q node rest, rfl⟩
  | markingReady q =>
    refine .inr (.inr (.inl ⟨q.cluster.id, rfl, rfl, ?_⟩))
    rw [statement]
    dsimp only
    split <;> rfl
  | releasing id error => exact .inr (.inr (.inr ⟨id, error, rfl, rfl⟩))
  | returned error => exact .inl ⟨rfl, rfl, .inl ⟨error, rfl⟩⟩

end

section

lemma statement_effect (e : Replacement.Event ι) (s : Managed) (phase : Phase) :
    ((statement baseDomain e s phase).1.db.clusterNodes = s.db.clusterNodes ∧
    (statement baseDomain e s phase).1.db.clusters = s.db.clusters) ∨
    (∃ q node role rest, phase = .inserting q node role rest ∧
    s.db.insertClusterNode q.cluster.id node.id e.uuid role = some (statement baseDomain e s phase).1.db) ∨
    ∃ id, (statement baseDomain e s phase).1.db = s.db.updateClusterStatus id .ready := by
  cases phase with
  | lookingUp namespaceName => grind [statement]
  | locking cluster =>
    rw [statement]
    split <;> exact .inl ⟨rfl, rfl⟩
  | counting cluster => grind [statement]
  | readingPorts q => grind [statement]
  | listing q =>
    rw [statement]
    split <;> exact .inl ⟨rfl, rfl⟩
  | choosing q active =>
    rw [statement]
    split <;> exact .inl ⟨rfl, rfl⟩
  | allocating q node ports => exact .inl ⟨rfl, rfl⟩
  | spawning q node role rest =>
    rw [statement]
    split <;> exact .inl ⟨rfl, rfl⟩
  | rollingBack q node =>
    rw [statement]
    dsimp only
    split <;> exact .inl ⟨rfl, rfl⟩
  | inserting q node role rest =>
    rw [statement]
    split
    · exact .inl ⟨rfl, rfl⟩
    · grind
  | recording q node fqdn rest =>
    rw [statement]
    split
    · exact .inl ⟨rfl, rfl⟩
    · next db hadd =>
      obtain ⟨-, hadd⟩ := Option.ite_none_left_eq_some.1 hadd
      obtain ⟨_, -, rfl⟩ := Option.map_eq_some_iff.1 hadd
      exact .inl ⟨rfl, rfl⟩
  | markingReady q =>
    rw [statement]
    dsimp only
    split
    · exact .inl ⟨rfl, rfl⟩
    · exact .inr (.inr ⟨_, rfl⟩)
  | releasing id error => exact .inl ⟨rfl, rfl⟩
  | returned error => exact .inl ⟨rfl, rfl⟩

variable {baseDomain} {e : Replacement.Event ι} {s : Managed} {phase : Phase}

lemma getClusterNodes_statement_of_ne {k : Bytes} (hk : phase.holds ≠ some k) :
    (statement baseDomain e s phase).1.db.getClusterNodes k = s.db.getClusterNodes k := by
  rcases statement_effect baseDomain e s phase with ⟨hsame, -⟩ | ⟨q, node, role, rest, rfl, hinsert⟩ | ⟨id, heq⟩
  · exact Database.getClusterNodes_congr k hsame
  · have hne : q.cluster.id ≠ k := fun h => hk (congrArg some h)
    rw [Database.getClusterNodes_insertClusterNode k hinsert, if_neg hne, List.append_nil]
  · rw [heq]
    rfl

end
end Repair
end Orama.Namespace
