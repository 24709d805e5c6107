import Orama.Namespace.Ports

namespace Orama.Namespace.WebRTCPorts
open Lib Ports List Unique

inductive ServiceType where
  | sfu
  | turn
deriving DecidableEq

def ServiceType.text : ServiceType → Bytes
  | .sfu => ascii "sfu"
  | .turn => ascii "turn"

structure WebRTCPortBlock where
  id : Bytes
  nodeID : Bytes
  namespaceClusterID : Bytes
  serviceType : ServiceType
  sfuSignalingPort : Nat
  sfuMediaPortStart : Nat
  sfuMediaPortEnd : Nat
  turnListenPort : Nat
  turnTLSPort : Nat
  turnRelayPortStart : Nat
  turnRelayPortEnd : Nat
  allocatedAt : Int
deriving DecidableEq

def WebRTCPortBlock.conflicts (p q : WebRTCPortBlock) : Bool :=
  p.id = q.id || (p.nodeID = q.nodeID && p.namespaceClusterID = q.namespaceClusterID && p.serviceType = q.serviceType)

structure Tables where
  dnsNodes : DnsNodes
  allocations : Unique WebRTCPortBlock WebRTCPortBlock.conflicts
deriving DecidableEq

inductive Column where
  | signaling
  | media
  | relay
deriving DecidableEq

def sfuSignalingPortRange : Interval := ⟨30000, 30099⟩
def sfuMediaPortRange : Interval := ⟨20000, 29999⟩
def sfuMediaPortsPerNamespace : Nat := 500
def turnRelayPortRange : Interval := ⟨49152, 65535⟩
def turnRelayPortsPerNamespace : Nat := 800
def turnDefaultPort : Nat := 3478
def turnSPort : Nat := 5349

def Column.bounds : Column → Interval
  | .signaling => sfuSignalingPortRange
  | .media => sfuMediaPortRange
  | .relay => turnRelayPortRange

def Column.size : Column → Nat
  | .signaling => 1
  | .media => sfuMediaPortsPerNamespace
  | .relay => turnRelayPortsPerNamespace

def Column.unavailable : Column → Bytes
  | .signaling => ascii "no SFU signaling port available on node"
  | .media => ascii "no SFU media port range available on node"
  | .relay => ascii "no TURN relay port range available on node"

def ServiceType.columns : ServiceType → List Column
  | .sfu => [.signaling, .media]
  | .turn => [.relay]

def WebRTCPortBlock.range (b : WebRTCPortBlock) : Column → Interval
  | .signaling => ⟨b.sfuSignalingPort, b.sfuSignalingPort⟩
  | .media => ⟨b.sfuMediaPortStart, b.sfuMediaPortEnd⟩
  | .relay => ⟨b.turnRelayPortStart, b.turnRelayPortEnd⟩

structure Pick where
  column : Column
  seen : List Nat
  port : Nat
deriving DecidableEq

inductive Kind where
  | allocate (serviceType : ServiceType)
  | deallocateAll
  | deallocateByNode (serviceType : ServiceType)
deriving DecidableEq

structure Request where
  kind : Kind
  nodeID : Bytes
  namespaceClusterID : Bytes
deriving DecidableEq

inductive Phase where
  | start
  | recheck (serviceType : ServiceType) (n : Nat)
  | attempt (serviceType : ServiceType) (n : Nat)
  | colocating (serviceType : ServiceType) (n : Nat) (ip : Bytes)
  | locating (serviceType : ServiceType) (n : Nat) (nodeIDs : List Bytes) (picks : List Pick) (column : Column)
      (rest : List Column)
  | reading (serviceType : ServiceType) (n : Nat) (nodeIDs : List Bytes) (ip : Option Bytes) (picks : List Pick)
      (column : Column) (rest : List Column)
  | inserting (serviceType : ServiceType) (n : Nat) (picks : List Pick)
  | allocated (block : WebRTCPortBlock)
  | deallocated
  | failed (error : ClusterError)
deriving DecidableEq

def getPortBlock (db : Tables) (req : Request) (serviceType : ServiceType) : Option WebRTCPortBlock :=
  db.allocations.rows.find? fun b =>
    b.namespaceClusterID = req.namespaceClusterID && b.nodeID = req.nodeID && b.serviceType = serviceType

def getAllocatedValues (db : Tables) (nodeIDs : List Bytes) (ip : Option Bytes) (serviceType : ServiceType)
    (column : Column) : List Nat :=
  let onHost (b : WebRTCPortBlock) : Bool :=
    match ip with
    | none => nodeIDs.contains b.nodeID
    | some ip => (db.dnsNodes.at ip).contains b.nodeID
  let rows := db.allocations.rows.filter fun b => onHost b && b.serviceType = serviceType
  (rows.map fun b => (b.range column).first).filter fun port => 0 < port

def findAvailablePortBlock (column : Column) (allocated : List Nat) : Option Nat :=
  firstFree column.bounds column.size allocated

def picked (picks : List Pick) (column : Column) : Nat :=
  match picks.find? fun p => p.column = column with
  | some p => p.port
  | none => 0

variable {ι : Type}

def Request.block (req : Request) (e : Event ι) (serviceType : ServiceType) (picks : List Pick) : WebRTCPortBlock :=
  match serviceType with
  | .sfu =>
    { id := e.uuid
      nodeID := req.nodeID
      namespaceClusterID := req.namespaceClusterID
      serviceType := .sfu
      sfuSignalingPort := picked picks .signaling
      sfuMediaPortStart := picked picks .media
      sfuMediaPortEnd := picked picks .media + sfuMediaPortsPerNamespace - 1
      turnListenPort := 0
      turnTLSPort := 0
      turnRelayPortStart := 0
      turnRelayPortEnd := 0
      allocatedAt := e.now }
  | .turn =>
    { id := e.uuid
      nodeID := req.nodeID
      namespaceClusterID := req.namespaceClusterID
      serviceType := .turn
      sfuSignalingPort := 0
      sfuMediaPortStart := 0
      sfuMediaPortEnd := 0
      turnListenPort := turnDefaultPort
      turnTLSPort := turnSPort
      turnRelayPortStart := picked picks .relay
      turnRelayPortEnd := picked picks .relay + turnRelayPortsPerNamespace - 1
      allocatedAt := e.now }

def tooManyRetries : ServiceType → Bytes
  | .sfu => ascii "failed to allocate SFU ports after 10 retries"
  | .turn => ascii "failed to allocate TURN ports after 10 retries"

def retry (serviceType : ServiceType) (n : Nat) (err : ClusterError) : Phase :=
  if isConflictError err then
    if n + 1 < maxRetries then .recheck serviceType (n + 1) else .failed ⟨tooManyRetries serviceType, none⟩
  else .failed err

def next (serviceType : ServiceType) (n : Nat) (nodeIDs : List Bytes) (picks : List Pick) : List Column → Phase
  | [] => .inserting serviceType n picks
  | column :: rest =>
    if nodeIDs.length = 1 then .reading serviceType n nodeIDs none picks column rest
    else .locating serviceType n nodeIDs picks column rest

def queryFailed (ip : Option Bytes) (cause : Bytes) : ClusterError :=
  match ip with
  | none => ⟨ascii "failed to query allocated WebRTC ports", some cause⟩
  | some _ => ⟨ascii "failed to query allocated WebRTC ports (colocated)", some cause⟩

def statement (req : Request) (e : Event ι) (db : Tables) : Phase → Tables × Phase
  | .start =>
    match req.kind with
    | .deallocateAll =>
      match e.fault with
      | some cause => (db, .failed ⟨ascii "failed to deallocate WebRTC port blocks", some cause⟩)
      | none =>
        ({ db with allocations := db.allocations.delete fun b => b.namespaceClusterID = req.namespaceClusterID },
          .deallocated)
    | .deallocateByNode serviceType =>
      match e.fault with
      | some cause =>
        (db, .failed ⟨ascii "failed to deallocate " ++ serviceType.text ++ ascii " port block on node " ++ req.nodeID,
          some cause⟩)
      | none =>
        ({ db with allocations := db.allocations.delete fun b =>
            b.namespaceClusterID = req.namespaceClusterID && b.nodeID = req.nodeID && b.serviceType = serviceType },
          .deallocated)
    | .allocate serviceType =>
      match if e.fault.isSome then none else getPortBlock db req serviceType with
      | some block => (db, .allocated block)
      | none => (db, .attempt serviceType 0)
  | .recheck serviceType n =>
    match if e.fault.isSome then none else getPortBlock db req serviceType with
    | some block => (db, .allocated block)
    | none => (db, .attempt serviceType n)
  | .attempt serviceType n =>
    match if e.fault.isSome then none else db.dnsNodes.ipAddress req.nodeID with
    | some ip =>
      (db, if ip ≠ [] then .colocating serviceType n ip else next serviceType n [req.nodeID] [] serviceType.columns)
    | none => (db, next serviceType n [req.nodeID] [] serviceType.columns)
  | .colocating serviceType n ip =>
    let nodeIDs := if e.fault.isSome || (db.dnsNodes.at ip).length ≤ 1 then [req.nodeID] else db.dnsNodes.at ip
    (db, next serviceType n nodeIDs [] serviceType.columns)
  | .locating serviceType n nodeIDs picks column rest =>
    match if e.fault.isSome then none else nodeIDs.head?.bind db.dnsNodes.ipAddress with
    | some ip => (db, .reading serviceType n nodeIDs (some ip) picks column rest)
    | none =>
      (db, retry serviceType n ⟨column.unavailable, some (ascii "failed to get node IP for colocated port query")⟩)
  | .reading serviceType n nodeIDs ip picks column rest =>
    match e.fault with
    | some cause => (db, retry serviceType n ⟨column.unavailable, some (queryFailed ip cause).error⟩)
    | none =>
      let seen := getAllocatedValues db nodeIDs ip serviceType column
      match findAvailablePortBlock column seen with
      | none => (db, retry serviceType n ⟨column.unavailable, some errNoWebRTCPortsAvailable.error⟩)
      | some port => (db, next serviceType n nodeIDs (picks ++ [⟨column, seen, port⟩]) rest)
  | .inserting serviceType n picks =>
    match e.fault with
    | some cause =>
      (db, retry serviceType n ⟨ascii "failed to insert " ++ serviceType.text ++ ascii " port allocation", some cause⟩)
    | none =>
      match db.allocations.insert (req.block e serviceType picks) with
      | none =>
        (db, retry serviceType n
          ⟨ascii "failed to insert " ++ serviceType.text ++ ascii " port allocation", some uniqueFailed⟩)
      | some allocations => ({ db with allocations }, .allocated (req.block e serviceType picks))
  | .allocated block => (db, .allocated block)
  | .deallocated => (db, .deallocated)
  | .failed error => (db, .failed error)

open ServiceType WebRTCPortBlock
section

lemma statement_tables (req : Request) (e : Event ι) (db : Tables) (phase : Phase) :
    (statement req e db phase).1 = db ∨
    (∃ drop, (statement req e db phase).1 = { db with allocations := db.allocations.delete drop }) ∨
    ∃ serviceType n picks allocations, phase = .inserting serviceType n picks ∧
    db.allocations.insert (req.block e serviceType picks) = some allocations ∧
    (statement req e db phase).1 = { db with allocations } := by
  cases phase with
  | start => grind [statement]
  | recheck serviceType n =>
    rw [statement]
    split
    · exact .inl rfl
    · exact .inl rfl
  | attempt serviceType n =>
    rw [statement]
    split
    · exact .inl rfl
    · exact .inl rfl
  | colocating serviceType n ip => exact .inl rfl
  | locating serviceType n nodeIDs picks column rest =>
    rw [statement]
    split
    · exact .inl rfl
    · exact .inl rfl
  | reading serviceType n nodeIDs ip picks column rest =>
    rw [statement]
    cases e.fault with
    | some cause => exact .inl rfl
    | none => grind
  | inserting serviceType n picks =>
    rw [statement]
    cases e.fault with
    | some cause => exact .inl rfl
    | none => grind
  | allocated block => exact .inl rfl
  | deallocated => exact .inl rfl
  | failed error => exact .inl rfl

def Fresh (picks : List Pick) : Prop :=
  ∀ p ∈ picks, p.port ∈ slots p.column.bounds p.column.size ∧ p.port ∉ p.seen

def Phase.Sound : Phase → Prop
  | .locating serviceType _ _ picks column rest =>
    Fresh picks ∧ picks.map Pick.column ++ column :: rest = serviceType.columns
  | .reading serviceType _ _ _ picks column rest =>
    Fresh picks ∧ picks.map Pick.column ++ column :: rest = serviceType.columns
  | .inserting serviceType _ picks => Fresh picks ∧ picks.map Pick.column = serviceType.columns
  | _ => True

lemma retry_sound (serviceType : ServiceType) (n : Nat) (err : ClusterError) : (retry serviceType n err).Sound := by
  rw [retry]
  split
  · split <;> trivial
  · trivial

variable {serviceType : ServiceType} {picks : List Pick}

lemma next_sound {n : Nat} {nodeIDs : List Bytes} {todo : List Column} (hfresh : Fresh picks)
    (htodo : picks.map Pick.column ++ todo = serviceType.columns) :
    (next serviceType n nodeIDs picks todo).Sound := by
  cases todo with
  | nil => exact ⟨hfresh, by rwa [append_nil] at htodo⟩
  | cons column rest =>
    rw [next]
    split
    · exact ⟨hfresh, htodo⟩
    · exact ⟨hfresh, htodo⟩

lemma Fresh.nil : Fresh [] := nofun

variable {column : Column}

lemma Fresh.append {seen : List Nat} {port : Nat} (h : Fresh picks)
    (hport : findAvailablePortBlock column seen = some port) : Fresh (picks ++ [⟨column, seen, port⟩]) := by
  intro p hp
  rw [mem_append, mem_singleton] at hp
  rcases hp with hp | rfl
  · exact h p hp
  · exact firstFree_eq_some hport

lemma statement_sound {req : Request} {e : Event ι} {db : Tables} {phase : Phase} (h : phase.Sound) :
    (statement req e db phase).2.Sound := by
  cases phase with
  | start =>
    rw [statement]
    cases req.kind with
    | deallocateAll => cases e.fault <;> trivial
    | deallocateByNode serviceType => cases e.fault <;> trivial
    | allocate serviceType =>
      dsimp only
      split <;> trivial
  | recheck serviceType n =>
    rw [statement]
    split <;> trivial
  | attempt serviceType n =>
    rw [statement]
    split
    · dsimp only
      split
      · trivial
      · exact next_sound .nil rfl
    · exact next_sound .nil rfl
  | colocating serviceType n ip => exact next_sound .nil rfl
  | locating serviceType n nodeIDs picks column rest =>
    rw [statement]
    split
    · exact h
    · exact retry_sound ..
  | reading serviceType n nodeIDs ip picks column rest =>
    obtain ⟨hfresh, htodo⟩ := h
    rw [statement]
    grind [retry_sound, next_sound, Fresh.append]
  | inserting serviceType n picks =>
    rw [statement]
    cases e.fault with
    | some cause => exact retry_sound ..
    | none =>
      dsimp only
      split
      · exact retry_sound ..
      · trivial
  | allocated block => trivial
  | deallocated => trivial
  | failed error => trivial

lemma WebRTCPortBlock.conflicts_iff (p q : WebRTCPortBlock) :
    p.conflicts q ↔ p.id = q.id ∨ (p.nodeID = q.nodeID ∧ p.namespaceClusterID = q.namespaceClusterID ∧
    p.serviceType = q.serviceType) := by
  simp [conflicts, and_assoc]

lemma columns_inj {s t : ServiceType} (hs : column ∈ s.columns) (ht : column ∈ t.columns) : s = t := by
  cases s <;> cases t <;> first | rfl | (cases column <;> simp [columns] at hs ht)

lemma nodeID_block (req : Request) (e : Event ι) (serviceType : ServiceType) (picks : List Pick) :
    (req.block e serviceType picks).nodeID = req.nodeID := by
  cases serviceType <;> rfl

lemma range_block (req : Request) (e : Event ι) (hcolumns : picks.map Pick.column = serviceType.columns) :
    (req.block e serviceType picks).serviceType = serviceType ∧
    ∀ column ∈ serviceType.columns, ∃ p ∈ picks, p.column = column ∧
    (req.block e serviceType picks).range column = blockAt column.size p.port := by
  cases serviceType with
  | sfu =>
    refine ⟨rfl, ?_⟩
    intro column hcolumn
    match picks, hcolumns with
    | [⟨_, seen, port⟩, ⟨_, seen', port'⟩], hcolumns =>
      simp only [map_cons, map_nil, columns, List.cons.injEq, and_true] at hcolumns
      obtain ⟨rfl, rfl⟩ := hcolumns
      simp only [columns, mem_cons, not_mem_nil, or_false] at hcolumn
      rcases hcolumn with rfl | rfl
      · exact ⟨_, mem_cons_self, rfl, rfl⟩
      · exact ⟨_, mem_cons_of_mem _ mem_cons_self, rfl, rfl⟩
  | turn =>
    refine ⟨rfl, ?_⟩
    intro column hcolumn
    match picks, hcolumns with
    | [⟨_, seen, port⟩], hcolumns =>
      simp only [map_cons, map_nil, columns, List.cons.injEq, and_true] at hcolumns
      subst hcolumns
      simp only [columns, mem_cons, not_mem_nil, or_false] at hcolumn
      subst hcolumn
      exact ⟨_, mem_cons_self, rfl, rfl⟩

end

section
variable (request : ι → Request)

def allocator : Interleaving Tables ι Phase (Event ι) where
  process := Event.request
  act e db phase := statement (request e.request) e db phase

def Tables.initial (db : Tables) : Config Tables ι Phase := ⟨db, fun _ => .start⟩

/-- Ports are inserted only while those of the service on the host are the ones that were read. Of a second
allocation for the same namespace the table takes care. -/
def upToDate (c : Config Tables ι Phase) (e : Event ι) : Bool :=
  match c.phase e.request with
  | .inserting serviceType _ picks => c.shared.allocations.rows.all fun b =>
      b.serviceType ≠ serviceType || !(c.shared.dnsNodes.shareHost b.nodeID (request e.request).nodeID) ||
        (b.nodeID = (request e.request).nodeID && b.namespaceClusterID = (request e.request).namespaceClusterID) ||
        picks.all fun p => p.seen.contains (b.range p.column).first
  | _ => true

def Tables.Aligned (db : Tables) : Prop :=
  ∀ b ∈ db.allocations.rows, ∀ column ∈ b.serviceType.columns, ∃ port ∈ slots column.bounds column.size,
    b.range column = blockAt column.size port

def Tables.Disjoint (db : Tables) : Prop :=
  (∀ b ∈ db.allocations.rows, ∀ column ∈ b.serviceType.columns, (b.range column).Within column.bounds) ∧
    ∀ b ∈ db.allocations.rows, ∀ b' ∈ db.allocations.rows, db.dnsNodes.shareHost b.nodeID b'.nodeID = true →
    ∀ column ∈ b.serviceType.columns, ∀ column' ∈ b'.serviceType.columns, (b ≠ b' ∨ column ≠ column') →
    (b.range column).Apart (b'.range column')

variable {request}

structure Invariant (c : Config Tables ι Phase) : Prop where
  aligned : c.shared.Aligned
  sound : ∀ i, (c.phase i).Sound
  apart : ∀ b ∈ c.shared.allocations.rows, ∀ b' ∈ c.shared.allocations.rows, b ≠ b' →
    c.shared.dnsNodes.shareHost b.nodeID b'.nodeID = true →
    ∀ column ∈ b.serviceType.columns, column ∈ b'.serviceType.columns →
    (b.range column).first ≠ (b'.range column).first

lemma Column.size_pos (column : Column) : 0 < column.size := by
  cases column <;> decide

variable {column : Column}

lemma Column.bounds_apart {column' : Column} (h : column ≠ column') : column.bounds.Apart column'.bounds := by
  cases column <;> cases column' <;> first | exact absurd rfl h | decide

variable {c : Config Tables ι Phase} {b : WebRTCPortBlock}

lemma Invariant.within (h : Invariant c) (hb : b ∈ c.shared.allocations.rows)
    (hcolumn : column ∈ b.serviceType.columns) : (b.range column).Within column.bounds := by
  obtain ⟨port, hport, hrange⟩ := h.aligned b hb column hcolumn
  rw [hrange]
  exact within_blockAt column.size_pos hport

lemma Invariant.disjoint (h : Invariant c) : c.shared.Disjoint := by
  refine ⟨fun b hb column hcolumn => h.within hb hcolumn, ?_⟩
  intro b hb b' hb' hhost column hcolumn column' hcolumn' hne
  by_cases hsame : column = column'
  · subst hsame
    have hblocks : b ≠ b' := hne.resolve_right (not_not_intro rfl)
    have hfirst := h.apart b hb b' hb' hblocks hhost column hcolumn hcolumn'
    obtain ⟨port, hport, hrange⟩ := h.aligned b hb column hcolumn
    obtain ⟨port', hport', hrange'⟩ := h.aligned b' hb' column hcolumn'
    rw [hrange, hrange'] at hfirst ⊢
    exact apart_blockAt column.size_pos hport hport' hfirst
  · exact (h.within hb hcolumn).apart (h.within hb' hcolumn') (Column.bounds_apart hsame)

lemma Invariant.initial {db : Tables} (haligned : db.Aligned) (hdisjoint : db.Disjoint) :
    Invariant (ι := ι) db.initial := by
  refine ⟨haligned, fun _ => trivial, ?_⟩
  intro b hb b' hb' hne hhost column hcolumn hcolumn' hfirst
  have happart := hdisjoint.2 b hb b' hb' hhost column hcolumn column hcolumn' (.inl hne)
  obtain ⟨port, -, hrange⟩ := haligned b hb column hcolumn
  obtain ⟨port', -, hrange'⟩ := haligned b' hb' column hcolumn'
  grind [Column.size_pos, Interval.Apart, blockAt]

variable {e : Event ι}

lemma Invariant.insert (h : Invariant c) (hguard : upToDate request c e) {serviceType : ServiceType}
    {n : Nat} {picks : List Pick} (hphase : c.phase e.request = .inserting serviceType n picks)
    {allocations : Unique WebRTCPortBlock conflicts}
    (hinsert : c.shared.allocations.insert ((request e.request).block e serviceType picks) = some allocations)
    (hb : b ∈ c.shared.allocations.rows)
    (hhost : c.shared.dnsNodes.shareHost b.nodeID (request e.request).nodeID)
    (hcolumn : column ∈ b.serviceType.columns) (hcolumn' : column ∈ serviceType.columns) :
    (b.range column).first ≠ (((request e.request).block e serviceType picks).range column).first := by
  intro hfirst
  have hsound := h.sound e.request
  rw [hphase] at hsound
  obtain ⟨hfresh, hcolumns⟩ := hsound
  obtain ⟨hservice, hranges⟩ := range_block (request e.request) e hcolumns
  obtain ⟨p, hp, rfl, hrange⟩ := hranges column hcolumn'
  have hsame : b.serviceType = serviceType := columns_inj hcolumn hcolumn'
  have hother : ¬ (b.nodeID = (request e.request).nodeID ∧
      b.namespaceClusterID = (request e.request).namespaceClusterID) := by
    rintro ⟨hnode, hcluster⟩
    have hfree := (insert_eq_some hinsert).2 b hb
    have hconflict : b.conflicts ((request e.request).block e serviceType picks) := by
      rw [conflicts_iff, hservice]
      cases serviceType <;> exact .inr ⟨hnode, hcluster, hsame⟩
    rw [hconflict] at hfree
    cases hfree
  rw [upToDate, hphase] at hguard
  have hrow := all_eq_true.1 hguard b hb
  simp only [Bool.or_eq_true, decide_eq_true_eq, Bool.and_eq_true, Bool.not_eq_true', hhost, hother, or_false] at hrow
  rcases hrow with (hservice' | hfalse) | hseen
  · exact hservice' hsame
  · cases hfalse
  · have hmem := contains_iff_mem.1 (all_eq_true.1 hseen p hp)
    rw [hfirst, hrange] at hmem
    exact (hfresh p hp).2 hmem

variable [DecidableEq ι]

lemma Invariant.step (h : Invariant c) (hguard : upToDate request c e) :
    Invariant ((allocator request).step c e) := by
  have hsound : ∀ i, (((allocator request).step c e).phase i).Sound := by
    intro i
    rcases Interleaving.phase_step_cases (allocator request) c e i with ⟨-, hi⟩ | ⟨-, hi⟩
    · rw [hi]
      exact statement_sound (h.sound i)
    · rw [hi]
      exact h.sound i
  have hshared : ((allocator request).step c e).shared =
      (statement (request e.request) e c.shared (c.phase e.request)).1 := rfl
  rcases statement_tables (request e.request) e c.shared (c.phase e.request) with
    hsame | ⟨drop, hdelete⟩ | ⟨serviceType, n, picks, allocations, hphase, hinsert, hnext⟩
  · rw [hsame] at hshared
    exact ⟨by rw [hshared]; exact h.aligned, hsound, by rw [hshared]; exact h.apart⟩
  · rw [hdelete] at hshared
    refine ⟨?_, hsound, ?_⟩
    · rw [hshared]
      intro b hb
      exact h.aligned b (mem_delete.1 hb).1
    · rw [hshared]
      intro b hb b' hb'
      exact h.apart b (mem_delete.1 hb).1 b' (mem_delete.1 hb').1
  · rw [hnext] at hshared
    have hrows := (insert_eq_some hinsert).1
    have hpicks := h.sound e.request
    rw [hphase] at hpicks
    obtain ⟨hservice, hranges⟩ := range_block (request e.request) e hpicks.2
    refine ⟨?_, hsound, ?_⟩
    · rw [hshared]
      intro b hb column hcolumn
      rw [hrows, mem_append, mem_singleton] at hb
      rcases hb with hb | rfl
      · exact h.aligned b hb column hcolumn
      · rw [hservice] at hcolumn
        obtain ⟨p, hp, rfl, hrange⟩ := hranges column hcolumn
        exact ⟨p.port, (hpicks.1 p hp).1, hrange⟩
    · rw [hshared]
      refine pairs_insert hinsert h.apart fun b hb => ⟨?_, ?_⟩
      · grind [nodeID_block, insert]
      · grind [nodeID_block, DnsNodes.shareHost_comm, insert]

/-- While every insertion is up to date, the ranges on a host are disjoint. -/
theorem webrtc_ranges_disjoint (request : ι → Request) (db : Tables) (haligned : db.Aligned)
    (hdisjoint : db.Disjoint) (events : List (Event ι))
    (hguarded : (allocator request).guarded (upToDate request) db.initial events = true) :
    ((allocator request).run db.initial events).shared.Disjoint := by
  have hinv : Invariant ((allocator request).run db.initial events) :=
    Interleaving.run_induction (fun c e h hguard => h.step hguard) (.initial haligned hdisjoint) hguarded
  exact hinv.disjoint

end

section

def namespaceRequest (i : Bool) : Request where
  kind := .allocate .turn
  nodeID := ascii "a"
  namespaceClusterID := if i then ascii "d" else ascii "c"

def noAllocations : Tables := ⟨colocatedNodes, .empty⟩

/-- One call after the other. -/
theorem webrtc_ranges_disjoint_in_turn :
    let turns := List.replicate 6 (colocatedEvent false) ++ List.replicate 6 (colocatedEvent true)
    ((allocator namespaceRequest).run noAllocations.initial turns).shared.allocations.rows.map
      WebRTCPortBlock.turnRelayPortStart = [49152, 49952] ∧
      ((allocator namespaceRequest).run noAllocations.initial turns).shared.Disjoint :=
  ⟨by decide, webrtc_ranges_disjoint namespaceRequest noAllocations nofun
    ⟨nofun, nofun⟩ _ (by decide)⟩

/-- Both calls read before either inserts, and both get the same relay ports. -/
theorem webrtc_ranges_overlap : ¬ ((allocator namespaceRequest).run noAllocations.initial
      (List.replicate 5 (colocatedEvent false) ++ List.replicate 5 (colocatedEvent true) ++
        [colocatedEvent false, colocatedEvent true])).shared.Disjoint := by
  intro h
  have hrows : ((allocator namespaceRequest).run noAllocations.initial
      (List.replicate 5 (colocatedEvent false) ++ List.replicate 5 (colocatedEvent true) ++
        [colocatedEvent false, colocatedEvent true])).shared =
      ⟨colocatedNodes, ⟨[(namespaceRequest false).block (colocatedEvent false) .turn [⟨.relay, [], 49152⟩],
        (namespaceRequest true).block (colocatedEvent true) .turn [⟨.relay, [], 49152⟩]], by decide⟩⟩ := by decide
  rw [hrows] at h
  have hapart := h.2 _ mem_cons_self _ (mem_cons_of_mem _ mem_cons_self) (by decide) .relay
    (by decide) .relay (by decide) (.inl (by decide))
  exact absurd hapart (by decide)

end
end Orama.Namespace.WebRTCPorts
