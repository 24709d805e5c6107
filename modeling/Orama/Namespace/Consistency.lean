import Orama.Namespace.Replacement

namespace Orama.Namespace
open Lib List
open Database
namespace Replacement
variable {ι : Type} {baseDomain : Bytes}

def Replaced.move (r : Replaced) (x : DnsRecord) : DnsRecord :=
  if r.moved.contains (x.fqdn, x.value) then { x with value := r.node.ipAddress, isActive := true } else x

structure Untouched (start : Database) (l : Loss) (db : Database) : Prop where
  staffed : ∀ n, db.Staffed l.cluster.id n ↔ start.Staffed l.cluster.id n
  allocations : db.allocations = start.allocations
  records : db.dnsRecords = start.dnsRecords

structure Explained (start : Database) (l : Loss) (r : Replaced) (db : Database) : Prop where
  loss : r.toLoss = l
  fresh : ¬ start.Staffed l.cluster.id r.node.id
  /-- A node that is no member of the cluster may be chosen to replace itself. -/
  alone : r.node.id = l.dead → r.roles = [] ∧ r.inserted = []
  staffed : ∀ n, db.Staffed l.cluster.id n ↔
    (start.Staffed l.cluster.id n ∧ ¬ (n = l.dead ∧ r.removed = true)) ∨ (n = r.node.id ∧ r.inserted ≠ [])
  serves : db.Serves l.cluster.id r.node.id ↔ .gateway ∈ r.inserted
  block : r.block.namespaceClusterID = l.cluster.id ∧ r.block.nodeID = r.node.id
  allocations : ∀ b, b.namespaceClusterID = l.cluster.id → (b ∈ db.allocations.rows ↔
    (b ∈ start.allocations.rows ∨ b = r.block) ∧ ¬ (b.nodeID = l.dead ∧ r.deallocated = true))
  records : db.dnsRecords.rows = start.dnsRecords.rows.map r.move

def Sound (start : Database) (l : Loss) (db : Database) : Phase → Prop
  | .markingFailed k => k = l ∧ Untouched start l db
  | .markingDegraded k => k = l ∧ Untouched start l db
  | .readingNodes k => k = l ∧ Untouched start l db
  | .listing k nodes =>
    k = l ∧ Untouched start l db ∧ ∀ n, start.Staffed l.cluster.id n ↔ n ∈ nodes.map ClusterNode.nodeID
  | .choosing k nodes active =>
    k = l ∧ Untouched start l db ∧ (∀ n, start.Staffed l.cluster.id n ↔ n ∈ nodes.map ClusterNode.nodeID) ∧
      ∀ n ∈ active, ¬ start.Staffed l.cluster.id n.id
  | .allocating k nodes node ports =>
    k = l ∧ Untouched start l db ∧ (∀ n, start.Staffed l.cluster.id n ↔ n ∈ nodes.map ClusterNode.nodeID) ∧
      ¬ start.Staffed l.cluster.id node.id ∧ ∀ block, ports ≠ .allocated block
  | .readingPorts r => Explained start l r db ∧ r.moved = []
  | .rollingBack _ _ => True
  | .spawning r _ _ => Explained start l r db ∧ r.moved = [] ∧ r.node.id ≠ l.dead
  | .inserting r _ _ => Explained start l r db ∧ r.moved = [] ∧ r.node.id ≠ l.dead
  | .locating r => Explained start l r db ∧ r.moved = []
  | .updating r _ fqdn rest => Explained start l r db ∧ (fqdn :: rest ++ r.moved.map Prod.fst).Nodup
  | .deallocating r => Explained start l r db
  | .removing r => Explained start l r db
  | .markingReady r => Explained start l r db
  | .replaced r => Explained start l r db
  | .failed _ _ => True

section
variable {start db db' : Database} {l : Loss} {r : Replaced} {e : Event ι}

lemma Explained.congr (h : Explained start l r db) (hnodes : db'.clusterNodes = db.clusterNodes)
    (hallocations : db'.allocations = db.allocations) (hrecords : db'.dnsRecords = db.dnsRecords) :
    Explained start l r db' where
  loss := h.loss
  fresh := h.fresh
  alone := h.alone
  staffed n := by
    rw [Database.Staffed, hnodes]
    exact h.staffed n
  serves := by
    rw [Database.Serves, hnodes]
    exact h.serves
  block := h.block
  allocations b hb := by
    rw [hallocations]
    exact h.allocations b hb
  records := hrecords ▸ h.records

lemma Explained.spawnError (h : Explained start l r db) :
    Explained start l { r with spawnErrors := r.spawnErrors + 1 } db :=
  ⟨h.loss, h.fresh, h.alone, h.staffed, h.serves, h.block, h.allocations, h.records⟩

lemma Explained.inserted (h : Explained start l r db) (hne : r.node.id ≠ l.dead) {uuid : Bytes} {role : NodeRole}
    (hinsert : db.insertClusterNode l.cluster.id r.node.id uuid role = some db') :
    Explained start l { r with inserted := role :: r.inserted } db' where
  loss := h.loss
  fresh := h.fresh
  alone hnode := absurd hnode hne
  staffed n := by
    rw [staffed_insertClusterNode hinsert, h.staffed n]
    constructor
    · grind
    · grind
  serves := by rw [serves_insertClusterNode hinsert, h.serves, mem_cons, or_comm, eq_comm]
  block := h.block
  allocations b hb := by
    rw [(insertClusterNode_eq_some hinsert).2]
    exact h.allocations b hb
  records := by
    rw [(insertClusterNode_eq_some hinsert).2]
    exact h.records

variable {fqdn oldIP : Bytes}

lemma moveTo_move (r : Replaced) (hfresh : fqdn ∉ r.moved.map Prod.fst) (x : DnsRecord) :
    (r.move x).moveTo fqdn oldIP r.node.ipAddress = { r with moved := (fqdn, oldIP) :: r.moved }.move x := by
  grind [Replaced.move, DnsRecord.moveTo]

lemma Explained.moved (h : Explained start l r db) (hfresh : fqdn ∉ r.moved.map Prod.fst)
    (hupdate : db.updateRecord fqdn oldIP r.node.ipAddress = some db') :
    Explained start l { r with moved := (fqdn, oldIP) :: r.moved } db' := by
  obtain ⟨hrows, hdb⟩ := updateRecord_eq_some hupdate
  refine ⟨h.loss, h.fresh, h.alone, fun n => ?_, ?_, h.block, fun b hb => ?_, ?_⟩
  · rw [hdb]
    exact h.staffed n
  · rw [hdb]
    exact h.serves
  · rw [hdb]
    exact h.allocations b hb
  · rw [hrows, h.records, map_map]
    exact map_congr_left fun x _ => moveTo_move r hfresh x

lemma Explained.deallocated (h : Explained start l r db) :
    Explained start l { r with deallocated := true } (db.deallocatePortBlock l.cluster.id l.dead) where
  loss := h.loss
  fresh := h.fresh
  alone := h.alone
  staffed := h.staffed
  serves := h.serves
  block := h.block
  allocations b hb := by
    rw [mem_deallocatePortBlock, h.allocations b hb]
    constructor
    · grind
    · grind
  records := h.records

lemma Explained.removed (h : Explained start l r db) :
    Explained start l { r with removed := true } (db.removeClusterNodeAssignment l.cluster.id l.dead) where
  loss := h.loss
  fresh := h.fresh
  alone := h.alone
  staffed n := by
    rw [staffed_removeClusterNodeAssignment, h.staffed n]
    constructor
    · grind
    · rintro (⟨hstart, hne⟩ | ⟨rfl, hinserted⟩)
      · grind
      · exact ⟨.inr ⟨rfl, hinserted⟩, fun hdead => hinserted (h.alone hdead).2⟩
  serves := by
    by_cases hdead : r.node.id = l.dead
    · have hnone : r.inserted = [] := (h.alone hdead).2
      have hnot : ¬ (db.removeClusterNodeAssignment l.cluster.id l.dead).Serves l.cluster.id r.node.id := by
        intro hserves
        exact (staffed_removeClusterNodeAssignment.1 hserves.staffed).2 hdead
      simp [hnot, hnone]
    · rw [serves_removeClusterNodeAssignment hdead]
      exact h.serves
  block := h.block
  allocations := h.allocations
  records := h.records

variable {nodes : List ClusterNode} {node : DnsNode}

lemma Explained.begin {block : PortBlock} (hstaffed : ∀ n, db.Staffed l.cluster.id n ↔ start.Staffed l.cluster.id n)
    (hrecords : db.dnsRecords = start.dnsRecords)
    (hnodes : ∀ n, start.Staffed l.cluster.id n ↔ n ∈ nodes.map ClusterNode.nodeID)
    (hfresh : ¬ start.Staffed l.cluster.id node.id)
    (hblock : block.namespaceClusterID = l.cluster.id ∧ block.nodeID = node.id)
    (hallocations : ∀ b, b ∈ db.allocations.rows ↔ b ∈ start.allocations.rows ∨ b = block) :
    Explained start l (l.begin nodes node block) db where
  loss := rfl
  fresh := hfresh
  alone hdead := by
    refine ⟨?_, rfl⟩
    change (nodes.filter fun n => n.nodeID = l.dead).map ClusterNode.role = []
    rw [map_eq_nil_iff, filter_eq_nil_iff]
    intro n hn hnode
    rw [decide_eq_true_iff] at hnode
    exact hfresh ((hnodes node.id).2 (mem_map.2 ⟨n, hn, hnode.trans hdead.symm⟩))
  staffed n := by simp [hstaffed, Loss.begin]
  serves := by grind [Database.Serves.staffed, Loss.begin]
  block := hblock
  allocations b _ := by simp [hallocations, Loss.begin]
  records := by
    rw [hrecords]
    have hid : (l.begin nodes node block).move = id := by
      funext x
      simp [Replaced.move, Loss.begin]
    rw [hid, map_id]

lemma sound_spawn (h : Explained start l r db) (hmoved : r.moved = []) {roles : List NodeRole}
    (hne : roles ≠ [] → r.node.id ≠ l.dead) : Sound start l db (r.spawn roles) := by
  cases roles with
  | nil => exact ⟨h, hmoved⟩
  | cons role rest => exact ⟨h, hmoved, hne (cons_ne_nil _ _)⟩

lemma sound_update (h : Explained start l r db) (oldIP : Bytes) {names : List Bytes}
    (hnodup : (names ++ r.moved.map Prod.fst).Nodup) : Sound start l db (r.update oldIP names) := by
  cases names with
  | nil => exact h
  | cons fqdn rest => exact ⟨h, hnodup⟩

lemma sound_allocated {ports : Ports.Phase} (h : Sound start l db (.allocating l nodes node ports)) :
    Sound start l (statement baseDomain e db (.allocating l nodes node ports)).1
      (statement baseDomain e db (.allocating l nodes node ports)).2 := by
  obtain ⟨-, huntouched, hnodes, hfresh, hports⟩ := h
  rw [statement]
  dsimp only
  have htables := Ports.statement_tables ⟨.allocate, node.id, l.cluster.id⟩ e.toEvent ⟨db.dnsNodes, db.allocations⟩ ports
  cases hnext : (Ports.statement ⟨.allocate, node.id, l.cluster.id⟩ e.toEvent ⟨db.dnsNodes, db.allocations⟩ ports).2 with
  | allocated block =>
    have hmem := Ports.statement_allocated hnext
    obtain ⟨hrow, howns⟩ := hmem.resolve_left (hports block)
    refine ⟨Explained.begin huntouched.staffed huntouched.records hnodes hfresh (Ports.Request.owns_iff.1 howns) ?_, rfl⟩
    rw [← huntouched.allocations]
    rcases htables with hsame | ⟨hkind, -⟩ | ⟨_, _, _, allocations, -, hinsert, heq⟩
    · grind
    · cases hkind
    · rw [heq] at hnext ⊢
      cases hnext
      intro b
      change b ∈ allocations.rows ↔ _
      rw [(Unique.insert_eq_some hinsert).1, mem_append, mem_singleton]
  | failed err => exact trivial
  | _ =>
    have hsame : (Ports.statement ⟨.allocate, node.id, l.cluster.id⟩ e.toEvent ⟨db.dnsNodes, db.allocations⟩ ports).1 =
        ⟨db.dnsNodes, db.allocations⟩ := by
      rcases htables with hsame | ⟨hkind, -⟩ | ⟨_, _, _, _, -, -, heq⟩
      · exact hsame
      · cases hkind
      · rw [heq] at hnext
        cases hnext
    rw [hsame]
    exact ⟨rfl, huntouched, hnodes, hfresh, fun block hblock => by cases hblock⟩

lemma Sound.step {phase : Phase} (h : Sound start l db phase) :
    Sound start l (statement baseDomain e db phase).1 (statement baseDomain e db phase).2 := by
  cases phase with
  | markingFailed k =>
    obtain ⟨rfl, huntouched⟩ := h
    refine ⟨rfl, ?_⟩
    rw [statement]
    dsimp only
    split
    · exact huntouched
    · refine ⟨fun n => ?_, huntouched.allocations, huntouched.records⟩
      exact (staffed_updateClusterNodeStatus .failed _ _).trans (huntouched.staffed n)
  | markingDegraded k =>
    obtain ⟨rfl, huntouched⟩ := h
    refine ⟨rfl, ?_⟩
    rw [statement]
    dsimp only
    split
    · exact huntouched
    · exact ⟨huntouched.staffed, huntouched.allocations, huntouched.records⟩
  | readingNodes k =>
    obtain ⟨rfl, huntouched⟩ := h
    rw [statement]
    split
    · exact trivial
    · refine ⟨rfl, huntouched, fun n => ?_⟩
      rw [← huntouched.staffed n, Database.Staffed, mem_map]
      simp only [mem_getClusterNodes, and_assoc]
  | listing k nodes =>
    obtain ⟨rfl, huntouched, hnodes⟩ := h
    rw [statement]
    split
    · exact trivial
    · refine ⟨rfl, huntouched, hnodes, fun n hn => ?_⟩
      have hout := (mem_filter.1 hn).2
      rw [hnodes n.id]
      simpa using hout
  | choosing k nodes active =>
    obtain ⟨rfl, huntouched, hnodes, hactive⟩ := h
    rw [statement]
    split
    · exact trivial
    · next node hnode =>
      obtain ⟨-, hselect⟩ := Option.ite_none_left_eq_some.1 hnode
      have hmem := mem_of_mem_filter (mem_of_selectReplacementNode hselect)
      exact ⟨rfl, huntouched, hnodes, hactive node hmem, fun block hblock => by cases hblock⟩
  | allocating k nodes node ports =>
    obtain ⟨rfl, -⟩ := id h
    exact sound_allocated h
  | readingPorts r =>
    obtain ⟨hexplained, hmoved⟩ := h
    rw [statement]
    split
    · exact trivial
    · refine sound_spawn hexplained hmoved fun hroles hdead => hroles ?_
      rw [(hexplained.alone hdead).1]
      rfl
  | rollingBack r cause => exact trivial
  | spawning r role rest =>
    obtain ⟨hexplained, hmoved, hne⟩ := h
    rw [statement]
    split
    · exact sound_spawn hexplained.spawnError hmoved fun _ => hne
    · exact ⟨hexplained, hmoved, hne⟩
  | inserting r role rest =>
    obtain ⟨hexplained, hmoved, hne⟩ := h
    obtain rfl := hexplained.loss
    rw [statement]
    grind [sound_spawn, Explained.inserted]
  | locating r =>
    obtain ⟨hexplained, hmoved⟩ := h
    rw [statement]
    split
    · dsimp only
      split
      · grind [sound_update, wildcardFqdn_ne_mainFqdn, fqdns]
      · exact hexplained
    · exact hexplained
  | updating r oldIP fqdn rest =>
    obtain ⟨hexplained, hnodup⟩ := h
    have hrest := nodup_cons.1 hnodup
    rw [statement]
    split
    · exact sound_update hexplained oldIP hrest.2
    · next db' hupdate =>
      obtain ⟨-, hupdate⟩ := Option.ite_none_left_eq_some.1 hupdate
      refine sound_update (hexplained.moved ?_ hupdate) oldIP ?_
      · exact fun hmem => hrest.1 (mem_append_right _ hmem)
      · exact (perm_middle.nodup_iff).2 hnodup
  | deallocating r =>
    obtain rfl := h.loss
    rw [statement]
    split
    · exact h
    · exact Explained.deallocated h
  | removing r =>
    obtain rfl := h.loss
    rw [statement]
    split
    · exact h
    · exact Explained.removed h
  | markingReady r =>
    rw [statement]
    dsimp only
    split
    · exact h
    · exact Explained.congr h rfl rfl rfl
  | replaced r => exact h
  | failed k error => exact trivial

lemma sound_run (baseDomain : Bytes) (start : Database) (l : Loss) (events : List (Event ι)) :
    Sound start l (replaceClusterNode baseDomain start l events).1 (replaceClusterNode baseDomain start l events).2 := by
  have hinitial : Sound start l start (.markingFailed l) := ⟨rfl, fun _ => Iff.rfl, rfl, rfl⟩
  induction events using List.reverseRecOn with
  | nil => exact hinitial
  | append_singleton events e ih =>
    rw [replaceClusterNode, foldl_append]
    exact Sound.step ih

end

section

def Backed (baseDomain : Bytes) (r : Replaced) (db : Database) : Prop :=
  ∀ x ∈ db.dnsRecords.rows, x.recordType = .a → x.fqdn ∈ fqdns baseDomain r.cluster.namespaceName →
    x.isActive = true → x.value = r.node.ipAddress → db.Serves r.cluster.id r.node.id

def Owned (db : Database) (clusterID : Bytes) : Prop :=
  ∀ b ∈ db.allocations.rows, b.namespaceClusterID = clusterID → db.Staffed clusterID b.nodeID

instance (baseDomain : Bytes) (r : Replaced) (db : Database) : Decidable (Backed baseDomain r db) :=
  inferInstanceAs (Decidable (∀ x ∈ db.dnsRecords.rows, x.recordType = .a →
    x.fqdn ∈ fqdns baseDomain r.cluster.namespaceName → x.isActive = true → x.value = r.node.ipAddress →
    db.Serves r.cluster.id r.node.id))

instance (db : Database) (clusterID : Bytes) : Decidable (Owned db clusterID) :=
  inferInstanceAs (Decidable (∀ b ∈ db.allocations.rows, b.namespaceClusterID = clusterID →
    db.Staffed clusterID b.nodeID))

variable {start db : Database} {l : Loss} {r : Replaced}

lemma Explained.backed_iff (h : Explained start l r db) : Backed baseDomain r db ↔ .gateway ∈ r.inserted ∨
      ∀ x ∈ start.dnsRecords.rows, x.recordType = .a → x.fqdn ∈ fqdns baseDomain l.cluster.namespaceName →
      (x.fqdn, x.value) ∉ r.moved ∧ ¬ (x.isActive ∧ x.value = r.node.ipAddress) := by
  obtain rfl := h.loss
  rw [Backed, h.serves, h.records, forall_mem_map]
  constructor
  · grind [Replaced.move]
  · grind [Replaced.move]

lemma Explained.owned_iff (h : Explained start l r db) :
    Owned db l.cluster.id ↔ (r.node.id = l.dead ∨ r.inserted ≠ []) ∧
    (∀ b ∈ start.allocations.rows, b.namespaceClusterID = l.cluster.id → b.nodeID ≠ l.dead → b.nodeID ≠ r.node.id →
    start.Staffed l.cluster.id b.nodeID) ∧
    ((r.node.id = l.dead ∨ ∃ b ∈ start.allocations.rows, b.namespaceClusterID = l.cluster.id ∧ b.nodeID = l.dead) →
    r.deallocated ∨ (r.removed = false ∧ start.Staffed l.cluster.id l.dead)) := by
  constructor
  · intro howned
    have hstaffed : ∀ b, b.namespaceClusterID = l.cluster.id → (b ∈ start.allocations.rows ∨ b = r.block) →
        ¬ (b.nodeID = l.dead ∧ r.deallocated) →
        (start.Staffed l.cluster.id b.nodeID ∧ ¬ (b.nodeID = l.dead ∧ r.removed)) ∨
        (b.nodeID = r.node.id ∧ r.inserted ≠ []) := by
      intro b hb hin hkept
      exact (h.staffed b.nodeID).1 (howned b ((h.allocations b hb).2 ⟨hin, hkept⟩) hb)
    refine ⟨?_, fun b hb hcluster hdead hnode => ?_, fun hblock => ?_⟩
    · by_cases hdead : r.node.id = l.dead
      · exact .inl hdead
      · have hown := hstaffed r.block h.block.1 (.inr rfl) (by simp [h.block.2, hdead])
        rw [h.block.2] at hown
        exact .inr (hown.resolve_left fun hstart => h.fresh hstart.1).2
    · grind
    · obtain ⟨b, hin, hcluster, hdead⟩ : ∃ b, (b ∈ start.allocations.rows ∨ b = r.block) ∧
          b.namespaceClusterID = l.cluster.id ∧ b.nodeID = l.dead := by
        rcases hblock with hself | ⟨b, hb, hcluster, hdead⟩
        · exact ⟨r.block, .inr rfl, h.block.1, h.block.2.trans hself⟩
        · exact ⟨b, .inl hb, hcluster, hdead⟩
      by_cases hdeallocated : r.deallocated
      · exact .inl hdeallocated
      · have hown := hstaffed b hcluster hin fun hkept => hdeallocated hkept.2
        rw [hdead] at hown
        rcases hown with ⟨hstart, hremoved⟩ | ⟨hself, hinserted⟩
        · exact .inr ⟨by simpa using hremoved, hstart⟩
        · exact absurd (h.alone hself.symm).2 hinserted
  · rintro ⟨hinserted, hothers, hdeadBlock⟩ b hb hcluster
    obtain ⟨hin, hkept⟩ := (h.allocations b hcluster).1 hb
    rw [h.staffed]
    by_cases hdead : b.nodeID = l.dead
    · have hblock : r.node.id = l.dead ∨
          ∃ b ∈ start.allocations.rows, b.namespaceClusterID = l.cluster.id ∧ b.nodeID = l.dead := by
        rcases hin with hstart | rfl
        · exact .inr ⟨b, hstart, hcluster, hdead⟩
        · exact .inl (h.block.2.symm.trans hdead)
      grind
    · by_cases hnode : b.nodeID = r.node.id
      · grind
      · have hstart : b ∈ start.allocations.rows := hin.resolve_right fun heq => hnode (heq ▸ h.block.2)
        exact .inl ⟨hothers b hstart hcluster hdead hnode, fun hgone => hdead hgone.1⟩

/-- When a replacement returns without an error, records and ports are as they should be if and only if the gateway
of the replacement is recorded or no record leads to it, some service of it is recorded, the other blocks were
owned before, and the block of the dead node is gone or its assignments have stayed. -/
theorem replacement_consistent_iff (baseDomain : Bytes) (start db : Database) (l : Loss) (events : List (Event ι))
    (r : Replaced) (h : replaceClusterNode baseDomain start l events = (db, .replaced r)) :
    (Backed baseDomain r db ∧ Owned db l.cluster.id) ↔ (.gateway ∈ r.inserted ∨
      ∀ x ∈ start.dnsRecords.rows, x.recordType = .a → x.fqdn ∈ fqdns baseDomain l.cluster.namespaceName →
      (x.fqdn, x.value) ∉ r.moved ∧ ¬ (x.isActive = true ∧ x.value = r.node.ipAddress)) ∧
      (r.node.id = l.dead ∨ r.inserted ≠ []) ∧
      (∀ b ∈ start.allocations.rows, b.namespaceClusterID = l.cluster.id → b.nodeID ≠ l.dead → b.nodeID ≠ r.node.id →
      start.Staffed l.cluster.id b.nodeID) ∧
      ((r.node.id = l.dead ∨ ∃ b ∈ start.allocations.rows, b.namespaceClusterID = l.cluster.id ∧ b.nodeID = l.dead) →
      r.deallocated = true ∨ (r.removed = false ∧ start.Staffed l.cluster.id l.dead)) := by
  have hexplained : Explained start l r db := by
    have hsound := sound_run baseDomain start l events
    rw [h] at hsound
    exact hsound
  rw [hexplained.backed_iff, hexplained.owned_iff]

def halfLost : Database where
  dnsNodes := ⟨[⟨ascii "a", ascii "1.1.1.1", none, .offline, 0⟩, ⟨ascii "b", ascii "2.2.2.2", none, .active, 0⟩,
    ⟨ascii "s", ascii "3.3.3.3", none, .active, 0⟩], by decide⟩
  clusters := ⟨[⟨ascii "c", 1, ascii "x", .ready, 2, 0, 2⟩], by decide⟩
  clusterNodes := ⟨[⟨ascii "1", ascii "c", ascii "a", .rqliteFollower, .running⟩,
    ⟨ascii "2", ascii "c", ascii "a", .gateway, .running⟩, ⟨ascii "3", ascii "c", ascii "b", .rqliteLeader, .running⟩,
    ⟨ascii "4", ascii "c", ascii "b", .gateway, .running⟩], by decide⟩
  allocations := ⟨[⟨ascii "5", ascii "a", ascii "c", 10000, 10004, 10000, 10001, 10002, 10003, 10004, 0⟩,
    ⟨ascii "6", ascii "b", ascii "c", 10000, 10004, 10000, 10001, 10002, 10003, 10004, 0⟩], by decide⟩
  dnsRecords := ⟨(fqdns (ascii "d") (ascii "x")).flatMap fun fqdn =>
    [⟨fqdn, .a, ascii "1.1.1.1", false⟩, ⟨fqdn, .a, ascii "2.2.2.2", true⟩], by decide⟩

def lossOfA : Loss := ⟨⟨ascii "c", 1, ascii "x", .ready, 2, 0, 2⟩, ascii "a"⟩

def attempts (faults : List Nat) : List (Event Unit) :=
  (List.range 21).map fun i => ⟨⟨(), if faults.contains i then some [] else none, [UInt8.ofNat i], 0⟩, ascii "s"⟩

def replacedBySpare (inserted : List NodeRole) (spawnErrors : Nat) : Replaced where
  toLoss := lossOfA
  node := ⟨ascii "s", ascii "3.3.3.3", none, .active, 0⟩
  block := ⟨[9], ascii "s", ascii "c", 10000, 10004, 10000, 10001, 10002, 10003, 10004, 0⟩
  roles := [.rqliteFollower, .gateway]
  inserted := inserted
  spawnErrors := spawnErrors
  moved := [(wildcardFqdn (ascii "d") (ascii "x"), ascii "1.1.1.1"), (mainFqdn (ascii "d") (ascii "x"), ascii "1.1.1.1")]
  deallocated := true
  removed := true

theorem replacement_consistent_without_faults : Backed (ascii "d") (replacedBySpare [.gateway, .rqliteFollower] 0)
      (replaceClusterNode (ascii "d") halfLost lossOfA (attempts [])).1 ∧
    Owned (replaceClusterNode (ascii "d") halfLost lossOfA (attempts [])).1 lossOfA.cluster.id :=
  (replacement_consistent_iff (ascii "d") halfLost _ lossOfA (attempts []) (replacedBySpare [.gateway, .rqliteFollower] 0)
    (Prod.ext rfl (by decide))).2 ⟨.inl (by decide), .inr (by decide), by decide, fun _ => .inl rfl⟩

/-- Neither service of the replacement starts: records lead to it, and nothing owns its ports. -/
theorem replacement_without_services :
    (replaceClusterNode (ascii "d") halfLost lossOfA (attempts [11, 12])).2 = .replaced (replacedBySpare [] 2) ∧
    ¬ Backed (ascii "d") (replacedBySpare [] 2)
        (replaceClusterNode (ascii "d") halfLost lossOfA (attempts [11, 12])).1 ∧
      ¬ Owned (replaceClusterNode (ascii "d") halfLost lossOfA (attempts [11, 12])).1 lossOfA.cluster.id := by
  decide

end
end Replacement
end Orama.Namespace
