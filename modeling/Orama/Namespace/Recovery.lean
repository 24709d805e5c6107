import Orama.Namespace.Repair

namespace Orama.Namespace
open Lib Database

def DnsNode.setStatus (nodeID : Bytes) (status : DnsNodeStatus) (n : DnsNode) : DnsNode :=
  if n.id = nodeID then { n with status } else n

lemma DnsNode.conflicts_setStatus (nodeID : Bytes) (status : DnsNodeStatus) (p q : DnsNode) :
    (p.setStatus nodeID status).conflicts (q.setStatus nodeID status) = p.conflicts q := by
  grind [setStatus, conflicts]

def Managed.markNode (s : Managed) (fault : Option Bytes) (nodeID : Bytes) (status : DnsNodeStatus) : Managed :=
  if fault.isSome then s
  else
    { s with
      db := { s.db with
        dnsNodes := s.db.dnsNodes.map (DnsNode.setStatus nodeID status) (DnsNode.conflicts_setStatus nodeID status) } }

def degradedNamespaces (db : Database) (nodeID : Bytes) : List Bytes :=
  ((db.clusters.rows.filter fun c => c.status = .degraded &&
    db.clusterNodes.rows.any fun n => n.namespaceClusterID = c.id && n.nodeID = nodeID).map
      NamespaceCluster.namespaceName).eraseDups

namespace Recovery

inductive Kind where
  | dead
  | recovered
  | repair
deriving DecidableEq

structure Call where
  kind : Kind
  subject : Bytes
deriving DecidableEq

inductive Phase where
  | start
  | finding
  | loading (refs : List Bytes) (clusters : List NamespaceCluster)
  | recovering (cluster : NamespaceCluster) (rest : List NamespaceCluster)
  | replacing (r : Replacement.Phase) (rest : List NamespaceCluster)
  | activating (assigned : Bool)
  | findingDegraded
  | repairing (r : Repair.Phase) (rest : List Bytes)
  | done
deriving DecidableEq

def recover : List NamespaceCluster → Phase
  | [] => .done
  | cluster :: rest => .recovering cluster rest

def load (refs : List Bytes) (clusters : List NamespaceCluster) : Phase :=
  match refs with
  | [] => recover clusters
  | ref :: refs => .loading (ref :: refs) clusters

def repair : List Bytes → Phase
  | [] => .done
  | name :: rest => .repairing (.lookingUp name) rest

variable {ι : Type} (baseDomain : Bytes)

def statement (call : Call) (e : Replacement.Event ι) (s : Managed) : Phase → Managed × Phase
  | .start =>
    match call.kind with
    | .dead => (s.markNode e.fault call.subject .offline, .finding)
    | .recovered =>
      (s, if e.fault.isSome then .done
        else .activating (s.db.clusterNodes.rows.any fun n => n.nodeID = call.subject))
    | .repair => (s, repair [call.subject])
  | .finding => (s, if e.fault.isSome then .done else load (getClustersByNodeID s.db call.subject) [])
  | .loading refs clusters =>
    match refs with
    | [] => (s, recover clusters)
    | ref :: refs =>
      (s, load refs (clusters ++ (if e.fault.isSome then none else getCluster s.db ref).toList))
  | .recovering cluster rest =>
    -- A cluster that is being recovered from the loss of another node is passed over.
    if s.provisioning.contains (recoveryKey cluster.id) then (s, recover rest)
    else ({ s with provisioning := recoveryKey cluster.id :: s.provisioning },
      .replacing (.markingFailed ⟨cluster, call.subject⟩) rest)
  | .replacing r rest =>
    if r.returned then
      ({ s with provisioning := s.provisioning.erase (recoveryKey r.loss.cluster.id) }, recover rest)
    else
      ({ s with db := (Replacement.statement baseDomain e s.db r).1 },
        .replacing (Replacement.statement baseDomain e s.db r).2 rest)
  | .activating assigned =>
    (s.markNode e.fault call.subject .active, if assigned then .findingDegraded else .done)
  | .findingDegraded => (s, if e.fault.isSome then .done else repair (degradedNamespaces s.db call.subject))
  | .repairing r rest =>
    match r with
    | .returned _ => (s, repair rest)
    | r => ((Repair.statement baseDomain e s r).1, .repairing (Repair.statement baseDomain e s r).2 rest)
  | .done => (s, .done)

def calls (call : ι → Call) : Interleaving Managed ι Phase (Replacement.Event ι) where
  process e := e.request
  act e s phase := statement baseDomain (call e.request) e s phase

def initial (s : Managed) : Config Managed ι Phase := ⟨s, fun _ => .start⟩

def Phase.holds : Phase → Option Bytes
  | .replacing r _ => some r.loss.cluster.id
  | .repairing r _ => r.holds
  | _ => none

lemma holds_recover (clusters : List NamespaceCluster) : (recover clusters).holds = none := by
  cases clusters <;> rfl

lemma holds_load (refs : List Bytes) (clusters : List NamespaceCluster) : (load refs clusters).holds = none := by
  cases refs with
  | nil => exact holds_recover clusters
  | cons ref refs => rfl

lemma holds_repair (names : List Bytes) : (repair names).holds = none := by
  cases names <;> rfl

section
variable {baseDomain} {call : Call} {e : Replacement.Event ι} {s : Managed} {phase : Phase} {k : Bytes}

lemma markNode_db (fault : Option Bytes) (nodeID : Bytes) (status : DnsNodeStatus) :
    (s.markNode fault nodeID status).db.clusterNodes = s.db.clusterNodes ∧
    (s.markNode fault nodeID status).db.clusters = s.db.clusters ∧
    (s.markNode fault nodeID status).provisioning = s.provisioning := by
  rw [Managed.markNode]
  split <;> exact ⟨rfl, rfl, rfl⟩

lemma statement_repairing {r : Repair.Phase} (hr : ∀ error, r ≠ .returned error) (rest : List Bytes) :
    statement baseDomain call e s (.repairing r rest) =
    ((Repair.statement baseDomain e s r).1, .repairing (Repair.statement baseDomain e s r).2 rest) := by
  rw [statement]
  exact hr

lemma statement_keys (baseDomain : Bytes) (call : Call) (e : Replacement.Event ι) (s : Managed) (phase : Phase) :
    (phase.holds = none ∧ (statement baseDomain call e s phase).2.holds = none ∧
    (statement baseDomain call e s phase).1.provisioning = s.provisioning) ∨
    (∃ cluster rest, phase = .recovering cluster rest ∧ statement baseDomain call e s phase =
    ({ s with provisioning := recoveryKey cluster.id :: s.provisioning },
    .replacing (.markingFailed ⟨cluster, call.subject⟩) rest)) ∨
    (∃ cluster rest, phase = .repairing (.locking cluster) rest ∧ statement baseDomain call e s phase =
    ({ s with provisioning := repairKey cluster.id :: s.provisioning }, .repairing (.counting cluster) rest)) ∨
    (∃ id, phase.holds = some id ∧ (statement baseDomain call e s phase).2.holds = some id ∧
    (statement baseDomain call e s phase).1.provisioning = s.provisioning) ∨
    ∃ id key, phase.holds = some id ∧ (statement baseDomain call e s phase).2.holds = none ∧
    (key = recoveryKey id ∨ key = repairKey id) ∧
    (statement baseDomain call e s phase).1 = { s with provisioning := s.provisioning.erase key } := by
  cases phase with
  | start =>
    left
    refine ⟨rfl, ?_⟩
    rw [statement]
    cases call.kind with
    | dead => exact ⟨rfl, (markNode_db _ _ _).2.2⟩
    | recovered =>
      dsimp only
      split <;> exact ⟨rfl, rfl⟩
    | repair => exact ⟨holds_repair [call.subject], rfl⟩
  | finding =>
    left
    refine ⟨rfl, ?_, rfl⟩
    rw [statement]
    dsimp only
    split
    · rfl
    · exact holds_load _ _
  | loading refs clusters =>
    left
    cases refs with
    | nil => exact ⟨rfl, holds_recover clusters, rfl⟩
    | cons ref refs => exact ⟨rfl, holds_load _ _, rfl⟩
  | recovering cluster rest =>
    rw [statement]
    split
    · exact .inl ⟨rfl, holds_recover rest, rfl⟩
    · exact .inr (.inl ⟨cluster, rest, rfl, rfl⟩)
  | replacing r rest =>
    rw [statement]
    split
    · exact .inr (.inr (.inr (.inr ⟨r.loss.cluster.id, _, rfl, holds_recover rest, .inl rfl, rfl⟩)))
    · grind [Replacement.statement_loss, Phase.holds]
  | activating assigned =>
    left
    refine ⟨rfl, ?_, (markNode_db _ _ _).2.2⟩
    cases assigned <;> rfl
  | findingDegraded =>
    left
    refine ⟨rfl, ?_, rfl⟩
    rw [statement]
    dsimp only
    split
    · rfl
    · exact holds_repair _
  | repairing r rest =>
    by_cases hr : ∃ error, r = .returned error
    · obtain ⟨error, rfl⟩ := hr
      exact .inl ⟨rfl, holds_repair rest, rfl⟩
    · rw [statement_repairing (fun error h => hr ⟨error, h⟩)]
      rcases Repair.statement_keys baseDomain e s r with
        ⟨hnone, hs, ⟨_, hnext⟩ | ⟨_, _, -, hnext⟩⟩ | ⟨cluster, rfl, -, heq⟩ | ⟨id, hholds, hnext, hs⟩ | ⟨id, error, rfl, heq⟩
      · rw [hnext, hs]
        exact .inl ⟨hnone, rfl, rfl⟩
      · rw [hnext, hs]
        exact .inl ⟨hnone, rfl, rfl⟩
      · grind
      · exact .inr (.inr (.inr (.inl ⟨id, hholds, hnext, hs⟩)))
      · rw [heq]
        exact .inr (.inr (.inr (.inr ⟨id, _, rfl, rfl, .inr rfl, rfl⟩)))
  | done => exact .inl ⟨rfl, rfl, rfl⟩

lemma getClusterNodes_statement_of_ne (hk : phase.holds ≠ some k) :
    (statement baseDomain call e s phase).1.db.getClusterNodes k = s.db.getClusterNodes k := by
  cases phase with
  | start => grind [getClusterNodes_congr, markNode_db, statement]
  | finding => rfl
  | loading refs clusters => cases refs <;> rfl
  | recovering cluster rest =>
    rw [statement]
    split <;> rfl
  | replacing r rest =>
    rw [statement]
    split
    · rfl
    · exact Replacement.getClusterNodes_statement_of_ne fun h => hk (congrArg some h)
  | activating assigned => exact getClusterNodes_congr k (markNode_db _ _ _).1
  | findingDegraded => rfl
  | repairing r rest =>
    by_cases hr : ∃ error, r = .returned error
    · obtain ⟨error, rfl⟩ := hr
      rfl
    · rw [statement_repairing (fun error h => hr ⟨error, h⟩)]
      exact Repair.getClusterNodes_statement_of_ne hk
  | done => rfl

def Known (id : Bytes) (count : Nat) (db : Database) : Prop :=
  ∃ c ∈ db.clusters.rows, c.id = id ∧ c.rqliteNodeCount = count ∧ (c.status = .ready ∨ c.status = .degraded)

variable {count : Nat} {db : Database}

lemma Known.congr {db' : Database} (h : Known k count db) (heq : db'.clusters = db.clusters) :
    Known k count db' := by
  rw [Known, heq]
  exact h

lemma Known.updateClusterStatus (h : Known k count db) (id : Bytes) {status : ClusterStatus}
    (hstatus : status = .ready ∨ status = .degraded) : Known k count (db.updateClusterStatus id status) := by
  obtain ⟨c, hc, rfl, rfl, hok⟩ := h
  refine ⟨c.setStatus id status, List.mem_map_of_mem hc, ?_⟩
  rw [NamespaceCluster.setStatus]
  split
  · exact ⟨rfl, rfl, hstatus⟩
  · exact ⟨rfl, rfl, hok⟩

lemma Known.step (h : Known k count s.db) : Known k count (statement baseDomain call e s phase).1.db := by
  cases phase with
  | start => grind [congr, markNode_db, statement]
  | finding => exact h
  | loading refs clusters => cases refs <;> exact h
  | recovering cluster rest =>
    rw [statement]
    split <;> exact h
  | replacing r rest =>
    rw [statement]
    split
    · exact h
    · dsimp only
      rcases Replacement.statement_effect baseDomain e s.db r with
        ⟨-, hsame⟩ | ⟨l, -, heq⟩ | ⟨_, _, _, -, hinsert⟩ | ⟨_, -, heq⟩ | ⟨id, status, hstatus, heq⟩
      · exact h.congr hsame
      · rw [heq]
        exact h
      · rw [(insertClusterNode_eq_some hinsert).2]
        exact h
      · rw [heq]
        exact h
      · rw [heq]
        exact h.updateClusterStatus id hstatus
  | activating assigned => exact h.congr (markNode_db _ _ _).2.1
  | findingDegraded => exact h
  | repairing r rest =>
    by_cases hr : ∃ error, r = .returned error
    · obtain ⟨error, rfl⟩ := hr
      exact h
    · rw [statement_repairing (fun error h => hr ⟨error, h⟩)]
      rcases Repair.statement_effect baseDomain e s r with ⟨-, hsame⟩ | ⟨_, _, _, _, -, hinsert⟩ | ⟨id, heq⟩
      · exact h.congr hsame
      · rw [(insertClusterNode_eq_some hinsert).2]
        exact h
      · rw [heq]
        exact h.updateClusterStatus id (.inl rfl)
  | done => exact h

end
end Recovery
end Orama.Namespace
