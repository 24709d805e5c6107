import Orama.Namespace.Repair

namespace Orama.Namespace.Recovery
open Lib List
section
variable {nodes : List ClusterNode} {n : Bytes}

lemma mem_databaseNodes : n ∈ databaseNodes nodes ↔ ∃ x ∈ nodes, x.role.isDatabase ∧ x.nodeID = n := by
  simp [databaseNodes, and_assoc]

lemma databaseNodes_append_singleton (nodes : List ClusterNode) (x : ClusterNode) : databaseNodes (nodes ++ [x]) =
      if x.role.isDatabase then insert x.nodeID (databaseNodes nodes) else databaseNodes nodes := by
  ext m
  grind [mem_databaseNodes]

lemma databaseNodes_map_setStatus (clusterID nodeID : Bytes) (status : NodeStatus) (nodes : List ClusterNode) :
    databaseNodes (nodes.map (ClusterNode.setStatus clusterID nodeID status)) = databaseNodes nodes := by
  grind [mem_databaseNodes, ClusterNode.setStatus_keys, mem_map_of_mem]

lemma databaseNodes_filter (nodes : List ClusterNode) (d : Bytes) :
    databaseNodes (nodes.filter fun x => x.nodeID ≠ d) = (databaseNodes nodes).erase d := by
  grind [mem_databaseNodes]

structure Full (count : Nat) (nodes : List ClusterNode) : Prop where
  card : (databaseNodes nodes).card = count
  running : ∀ x ∈ nodes, x.role.isDatabase = true → x.status = .running

structure Short (count : Nat) (dead : Bytes) (nodes : List ClusterNode) : Prop where
  card : (databaseNodes nodes).card = count
  running : ∀ x ∈ nodes, x.role.isDatabase = true → x.nodeID ≠ dead → x.status = .running

structure Refilled (count : Nat) (dead : Bytes) (nodes : List ClusterNode) : Prop where
  card : ((databaseNodes nodes).erase dead).card = count
  running : ∀ x ∈ nodes, x.role.isDatabase = true → x.nodeID ≠ dead → x.status = .running

variable {count : Nat} {dead : Bytes}

lemma Full.short (h : Full count nodes) (dead : Bytes) : Short count dead nodes :=
  ⟨h.card, fun x hx hdatabase _ => h.running x hx hdatabase⟩

lemma Short.refilled (h : Short count dead nodes) (hdead : dead ∉ databaseNodes nodes) :
    Refilled count dead nodes :=
  ⟨by rw [Finset.erase_eq_of_notMem hdead, h.card], h.running⟩

lemma Short.setStatus (h : Short count dead nodes) (clusterID : Bytes) (status : NodeStatus) :
    Short count dead (nodes.map (ClusterNode.setStatus clusterID dead status)) := by
  refine ⟨by rw [databaseNodes_map_setStatus, h.card], ?_⟩
  intro x hx hdatabase hne
  obtain ⟨y, hy, rfl⟩ := mem_map.1 hx
  obtain ⟨-, hnode, hrole⟩ := y.setStatus_keys clusterID dead status
  rw [hrole] at hdatabase
  rw [hnode] at hne
  rw [ClusterNode.setStatus, if_neg (by simp [hne])]
  exact h.running y hy hdatabase hne

variable {x : ClusterNode}

lemma Short.insert (h : Short count dead nodes) (hdead : dead ∈ databaseNodes nodes)
    (hdatabase : x.role.isDatabase) (hnew : x.nodeID ∉ databaseNodes nodes) (hrunning : x.status = .running) :
    Refilled count dead (nodes ++ [x]) := by
  constructor
  · rw [databaseNodes_append_singleton, if_pos hdatabase, Finset.card_erase_of_mem (Finset.mem_insert_of_mem hdead),
      Finset.card_insert_of_notMem hnew, h.card, Nat.add_sub_cancel]
  · intro y hy hydatabase hne
    rcases mem_append.1 hy with hy | hy
    · exact h.running y hy hydatabase hne
    · rw [mem_singleton.1 hy]
      exact hrunning

lemma Refilled.append (h : Refilled count dead nodes) (hdatabase : x.role.isDatabase = false) :
    Refilled count dead (nodes ++ [x]) := by
  constructor
  · rw [databaseNodes_append_singleton, if_neg (by simp [hdatabase]), h.card]
  · intro y hy hydatabase hne
    rcases mem_append.1 hy with hy | hy
    · exact h.running y hy hydatabase hne
    · grind

lemma Refilled.remove (h : Refilled count dead nodes) : Full count (nodes.filter fun x => x.nodeID ≠ dead) := by
  refine ⟨by rw [databaseNodes_filter, h.card], ?_⟩
  intro x hx hdatabase
  obtain ⟨hx, hne⟩ := mem_filter.1 hx
  exact h.running x hx hdatabase (by simpa using hne)

lemma Full.missingCount (h : Full count nodes) {cluster : NamespaceCluster} (hcount : cluster.rqliteNodeCount = count) :
    Repair.missingCount cluster nodes = 0 := by
  have hsub : databaseNodes nodes ⊆ Repair.activeNodes nodes := by
    intro n hn
    obtain ⟨x, hx, hdatabase, rfl⟩ := mem_databaseNodes.1 hn
    have hrunning := h.running x hx hdatabase
    grind [mem_toFinset, Repair.activeNodes]
  have hcard := Finset.card_le_card hsub
  rw [h.card] at hcard
  rw [Repair.missingCount, hcount]
  omega

end

open Replacement Database
section

structure Taking (deadNodes : List Bytes) (count : Nat) (nodes : List ClusterNode) (r : Replacement.Replaced)
    (role : NodeRole) (rest : List NodeRole) : Prop where
  alive : r.node.id ∉ deadNodes
  rest : ∀ x ∈ rest, x.isDatabase = false
  nodes : if role.isDatabase then Short count r.dead nodes ∧ r.dead ∈ databaseNodes nodes ∧
      r.node.id ∉ databaseNodes nodes
    else Refilled count r.dead nodes

def Good (deadNodes : List Bytes) (count : Nat) (nodes : List ClusterNode) : Replacement.Phase → Prop
  | .markingFailed l => Short count l.dead nodes
  | .markingDegraded l => Short count l.dead nodes
  | .readingNodes l => Short count l.dead nodes
  | .listing l seen => Short count l.dead nodes ∧ seen = nodes
  | .choosing l seen active =>
    Short count l.dead nodes ∧ seen = nodes ∧ ∀ n ∈ active, n.id ∉ nodes.map ClusterNode.nodeID
  | .allocating l seen node _ =>
    Short count l.dead nodes ∧ seen = nodes ∧ node.id ∉ nodes.map ClusterNode.nodeID ∧ node.id ∉ deadNodes
  | .readingPorts r =>
    Short count r.dead nodes ∧ r.roles = (nodes.filter fun n => n.nodeID = r.dead).map ClusterNode.role ∧
      r.node.id ∉ nodes.map ClusterNode.nodeID ∧ r.node.id ∉ deadNodes
  | .rollingBack _ _ => False
  | .spawning r role rest => Taking deadNodes count nodes r role rest
  | .inserting r role rest => Taking deadNodes count nodes r role rest
  | .locating r => Refilled count r.dead nodes
  | .updating r _ _ _ => Refilled count r.dead nodes
  | .deallocating r => Refilled count r.dead nodes
  | .removing r => Refilled count r.dead nodes
  | .markingReady r => Full count nodes ∧ r.dead ∉ nodes.map ClusterNode.nodeID
  | .replaced r => Full count nodes ∧ r.dead ∉ nodes.map ClusterNode.nodeID
  | .failed _ _ => False

def proceeds {ι : Type} (deadNodes : List Bytes) (e : Replacement.Event ι) (db : Database) : Replacement.Phase → Bool
  | .choosing _ _ active =>
    match selectReplacementNode (eligibleNodes db.allocations active) e.best with
    | none => false
    | some node => !deadNodes.contains node.id
  | .allocating l _ node ports =>
    match (Ports.statement ⟨.allocate, node.id, l.cluster.id⟩ e.toEvent ⟨db.dnsNodes, db.allocations⟩ ports).2 with
    | .failed _ => false
    | _ => true
  | .inserting r role _ => (db.insertClusterNode r.cluster.id r.node.id e.uuid role).isSome
  | _ => true

variable {ι : Type} {baseDomain k : Bytes} {deadNodes : List Bytes} {count : Nat} {e : Replacement.Event ι}
  {db : Database} {nodes : List ClusterNode}

lemma services_cases (roles : List NodeRole) :
    ((∃ x ∈ roles, x.isDatabase) ∧ ∃ rest, services roles = .rqliteFollower :: rest ∧
    ∀ x ∈ rest, x.isDatabase = false) ∨
    ((¬ ∃ x ∈ roles, x.isDatabase) ∧ ∀ x ∈ services roles, x.isDatabase = false) := by
  have hothers : ∀ x ∈ (if roles.contains .olric then [NodeRole.olric] else []) ++
      (if roles.contains .gateway then [NodeRole.gateway] else []), x.isDatabase = false := by
    intro x hx
    rcases mem_append.1 hx with hx | hx
    · split at hx
      · rw [mem_singleton.1 hx]
        rfl
      · cases hx
    · split at hx
      · rw [mem_singleton.1 hx]
        rfl
      · cases hx
  have hiff : (roles.contains .rqliteLeader || roles.contains .rqliteFollower) ↔ ∃ x ∈ roles, x.isDatabase := by
    rw [Bool.or_eq_true, contains_iff_mem, contains_iff_mem]
    constructor
    · rintro (hx | hx)
      · exact ⟨_, hx, rfl⟩
      · exact ⟨_, hx, rfl⟩
    · rintro ⟨x, hx, hdatabase⟩
      cases x with
      | rqliteLeader => exact .inl hx
      | rqliteFollower => exact .inr hx
      | _ => cases hdatabase
  rw [← hiff, services, append_assoc]
  by_cases hdatabase : (roles.contains .rqliteLeader || roles.contains .rqliteFollower)
  · rw [if_pos hdatabase]
    exact .inl ⟨hdatabase, _, rfl, hothers⟩
  · rw [if_neg hdatabase]
    exact .inr ⟨hdatabase, hothers⟩

variable {r : Replacement.Replaced}

lemma good_spawn {rest : List NodeRole} (halive : r.node.id ∉ deadNodes) (hrest : ∀ x ∈ rest, x.isDatabase = false)
    (h : Refilled count r.dead nodes) : Good deadNodes count nodes (r.spawn rest) := by
  cases rest with
  | nil => exact h
  | cons role rest =>
    refine ⟨halive, fun x hx => hrest x (mem_cons_of_mem _ hx), ?_⟩
    rw [if_neg (by simp [hrest role mem_cons_self])]
    exact h

lemma exists_database_role_iff {dead : Bytes} {roles : List NodeRole}
    (hroles : roles = (nodes.filter fun n => n.nodeID = dead).map ClusterNode.role) :
    (∃ x ∈ roles, x.isDatabase) ↔ dead ∈ databaseNodes nodes := by
  grind [mem_databaseNodes]

lemma good_services (hshort : Short count r.dead nodes)
    (hroles : r.roles = (nodes.filter fun n => n.nodeID = r.dead).map ClusterNode.role)
    (hnew : r.node.id ∉ nodes.map ClusterNode.nodeID) (halive : r.node.id ∉ deadNodes) :
    Good deadNodes count nodes (r.spawn (services r.roles)) := by
  have hdead := exists_database_role_iff hroles
  rcases services_cases r.roles with ⟨hdatabase, rest, hservices, hrest⟩ | ⟨hdatabase, hrest⟩
  · rw [hservices]
    refine ⟨halive, hrest, ?_⟩
    rw [if_pos (show NodeRole.rqliteFollower.isDatabase = true from rfl)]
    grind [mem_databaseNodes]
  · grind [good_spawn, Short.refilled]

lemma good_update (oldIP : Bytes) (names : List Bytes) (h : Refilled count r.dead nodes) :
    Good deadNodes count nodes (r.update oldIP names) := by
  cases names <;> exact h

variable {phase : Replacement.Phase}

lemma Good.step (h : Good deadNodes count (db.getClusterNodes k) phase) (hid : phase.loss.cluster.id = k)
    (hfault : e.fault = none) (hproceeds : proceeds deadNodes e db phase) :
    Good deadNodes count ((Replacement.statement baseDomain e db phase).1.getClusterNodes k)
      (Replacement.statement baseDomain e db phase).2 := by
  cases phase with
  | markingFailed l =>
    rw [Replacement.statement, hfault]
    change Short count l.dead ((db.updateClusterNodeStatus l.cluster.id l.dead .failed).getClusterNodes k)
    rw [getClusterNodes_updateClusterNodeStatus]
    exact Short.setStatus h _ _
  | markingDegraded l =>
    rw [Replacement.statement, hfault]
    exact h
  | readingNodes l =>
    rw [Replacement.statement, hfault]
    exact ⟨h, congrArg db.getClusterNodes hid⟩
  | listing l seen =>
    obtain ⟨hshort, rfl⟩ := h
    rw [Replacement.statement, hfault]
    refine ⟨hshort, rfl, fun n hn => ?_⟩
    simpa using (mem_filter.1 hn).2
  | choosing l seen active =>
    obtain ⟨hshort, rfl, hactive⟩ := h
    rw [proceeds] at hproceeds
    rw [Replacement.statement, hfault]
    simp only [Option.isSome_none, Bool.false_eq_true, if_false]
    cases hselect : selectReplacementNode (eligibleNodes db.allocations active) e.best with
    | none =>
      rw [hselect] at hproceeds
      cases hproceeds
    | some node =>
      rw [hselect] at hproceeds
      have hmem := mem_of_mem_filter (mem_of_selectReplacementNode hselect)
      exact ⟨hshort, rfl, hactive node hmem, by simpa using hproceeds⟩
  | allocating l seen node ports =>
    obtain ⟨hshort, rfl, hnew, halive⟩ := h
    rw [proceeds] at hproceeds
    rw [Replacement.statement]
    dsimp only
    cases hnext : (Ports.statement ⟨.allocate, node.id, l.cluster.id⟩ e.toEvent ⟨db.dnsNodes, db.allocations⟩ ports).2 with
    | failed err =>
      rw [hnext] at hproceeds
      cases hproceeds
    | allocated block => exact ⟨hshort, rfl, hnew, halive⟩
    | _ => exact ⟨hshort, rfl, hnew, halive⟩
  | readingPorts r =>
    obtain ⟨hshort, hroles, hnew, halive⟩ := h
    rw [Replacement.statement, hfault]
    exact good_services hshort hroles hnew halive
  | rollingBack r cause => exact h.elim
  | spawning r role rest =>
    rw [Replacement.statement, hfault]
    exact h
  | inserting r role rest =>
    change r.cluster.id = k at hid
    rw [proceeds, Option.isSome_iff_exists] at hproceeds
    obtain ⟨db', hinsert⟩ := hproceeds
    rw [Replacement.statement, hfault]
    simp only [Option.isSome_none, Bool.false_eq_true, if_false, hinsert]
    rw [getClusterNodes_insertClusterNode k hinsert, if_pos hid]
    refine good_spawn h.alive h.rest ?_
    have hnodes := h.nodes
    grind [Short.insert, Refilled.append]
  | locating r =>
    rw [Replacement.statement]
    split
    · dsimp only
      split
      · exact good_update _ _ h
      · exact h
    · exact h
  | updating r oldIP fqdn rest =>
    rw [Replacement.statement]
    split
    · exact good_update _ _ h
    · next db' hupdate =>
      rw [hfault] at hupdate
      rw [(updateRecord_eq_some hupdate).2]
      exact good_update _ _ h
  | deallocating r =>
    rw [Replacement.statement, hfault]
    exact h
  | removing r =>
    change r.cluster.id = k at hid
    rw [Replacement.statement, hfault]
    dsimp only
    have hnodes : (db.removeClusterNodeAssignment r.cluster.id r.dead).getClusterNodes k =
        (db.getClusterNodes k).filter fun x => x.nodeID ≠ r.dead := by
      grind [getClusterNodes_removeClusterNodeAssignment, filter_congr, mem_getClusterNodes]
    rw [hnodes]
    refine ⟨Refilled.remove h, ?_⟩
    grind
  | markingReady r =>
    rw [Replacement.statement]
    dsimp only
    split <;> exact h
  | replaced r => exact h
  | failed l error => exact h.elim

lemma Good.mem_of_mem (h : Good deadNodes count (db.getClusterNodes k) phase) {d : Bytes} (hd : d ∈ deadNodes)
    (hmem : d ∈ ((Replacement.statement baseDomain e db phase).1.getClusterNodes k).map ClusterNode.nodeID) :
    d ∈ (db.getClusterNodes k).map ClusterNode.nodeID := by
  rcases statement_effect baseDomain e db phase with
    ⟨hsame, -⟩ | ⟨l, -, heq⟩ | ⟨r, role, rest, rfl, hinsert⟩ | ⟨r, -, heq⟩ | ⟨id, status, -, heq⟩
  · rwa [getClusterNodes_congr k hsame] at hmem
  · grind [getClusterNodes_updateClusterNodeStatus, ClusterNode.setStatus_keys]
  · rw [getClusterNodes_insertClusterNode k hinsert, map_append] at hmem
    rcases mem_append.1 hmem with hold | hnew
    · exact hold
    · split at hnew
      · obtain rfl : d = r.node.id := mem_singleton.1 hnew
        exact absurd hd h.alive
      · cases hnew
  · grind [getClusterNodes_removeClusterNodeAssignment]
  · rwa [heq] at hmem

end
end Orama.Namespace.Recovery
