import Orama.Lib.Interleaving
import Orama.Namespace.Tables

namespace Orama.Namespace.Ports
open Lib List

def namespacePortRangeStart : Nat := 10000
def namespacePortRangeEnd : Nat := 10099
def portsPerNamespace : Nat := 5

def maxNamespacesPerNode : Nat := (namespacePortRangeEnd - namespacePortRangeStart + 1) / portsPerNamespace

def portRange : Interval := ⟨namespacePortRangeStart, namespacePortRangeEnd⟩
def maxRetries : Nat := 10

structure Tables where
  dnsNodes : DnsNodes
  allocations : PortAllocations
deriving DecidableEq

inductive Kind where
  | allocate
  | deallocate
deriving DecidableEq

structure Request where
  kind : Kind
  nodeID : Bytes
  namespaceClusterID : Bytes
deriving DecidableEq

structure Event (ι : Type) where
  request : ι
  fault : Option Bytes
  uuid : Bytes
  now : Int

inductive Scope where
  | node
  | host (ip : Bytes)
deriving DecidableEq

inductive Phase where
  | start
  | attempt (n : Nat)
  | counting (n : Nat) (ip : Bytes)
  | reading (n : Nat) (scope : Scope)
  | inserting (n : Nat) (seen : List Nat) (portStart : Nat)
  | allocated (block : PortBlock)
  | deallocated
  | failed (error : ClusterError)
deriving DecidableEq

def Request.owns (req : Request) (b : PortBlock) : Bool :=
  b.namespaceClusterID = req.namespaceClusterID && b.nodeID = req.nodeID

def getPortBlock (allocations : PortAllocations) (req : Request) : Option PortBlock :=
  allocations.rows.find? req.owns

def Tables.allocatedStarts (db : Tables) (nodeID : Bytes) : Scope → List Nat
  | .node => (db.allocations.rows.filter fun b => b.nodeID = nodeID).map PortBlock.portStart
  | .host ip => (db.allocations.rows.filter fun b => (db.dnsNodes.at ip).contains b.nodeID).map PortBlock.portStart

variable {ι : Type}

def Request.block (req : Request) (e : Event ι) (portStart : Nat) : PortBlock where
  id := e.uuid
  nodeID := req.nodeID
  namespaceClusterID := req.namespaceClusterID
  portStart := portStart
  portEnd := portStart + portsPerNamespace - 1
  rqliteHTTPPort := portStart + 0
  rqliteRaftPort := portStart + 1
  olricHTTPPort := portStart + 2
  olricMemberlistPort := portStart + 3
  gatewayHTTPPort := portStart + 4
  allocatedAt := e.now

def retry (n : Nat) (err : ClusterError) : Phase :=
  if isConflictError err then
    if n + 1 < maxRetries then .attempt (n + 1)
    else .failed ⟨ascii "failed to allocate port block after 10 retries", none⟩
  else .failed err

def choose (n : Nat) (seen : List Nat) : Phase :=
  if maxNamespacesPerNode ≤ seen.length then retry n errNodeAtCapacity
  else
    match firstFree portRange portsPerNamespace seen with
    | none => retry n errNoPortsAvailable
    | some portStart => .inserting n seen portStart

def statement (req : Request) (e : Event ι) (db : Tables) : Phase → Tables × Phase
  | .start =>
    match req.kind with
    | .deallocate =>
      match e.fault with
      | some cause => (db, .failed ⟨ascii "failed to deallocate port block", some cause⟩)
      | none => ({ db with allocations := db.allocations.delete req.owns }, .deallocated)
    | .allocate =>
      match if e.fault.isSome then none else getPortBlock db.allocations req with
      | some block => (db, .allocated block)
      | none => (db, .attempt 0)
  | .attempt n =>
    match if e.fault.isSome then none else db.dnsNodes.ipAddress req.nodeID with
    | some ip => (db, if ip ≠ [] then .counting n ip else .reading n .node)
    | none => (db, .reading n .node)
  | .counting n ip =>
    (db, .reading n (if e.fault.isNone && 1 < (db.dnsNodes.at ip).length then .host ip else .node))
  | .reading n scope =>
    match e.fault with
    | some cause => (db, retry n ⟨ascii "failed to query allocated ports", some cause⟩)
    | none => (db, choose n (db.allocatedStarts req.nodeID scope))
  | .inserting n _ portStart =>
    match e.fault with
    | some cause => (db, retry n ⟨ascii "failed to insert port allocation", some cause⟩)
    | none =>
      match db.allocations.insert (req.block e portStart) with
      | none => (db, retry n ⟨ascii "failed to insert port allocation", some uniqueFailed⟩)
      | some allocations => ({ db with allocations }, .allocated (req.block e portStart))
  | .allocated block => (db, .allocated block)
  | .deallocated => (db, .deallocated)
  | .failed error => (db, .failed error)

open Unique Interleaving Request
section
variable {req : Request} {e : Event ι} {db : Tables} {phase : Phase}

lemma Request.owns_iff {b : PortBlock} :
    req.owns b ↔ b.namespaceClusterID = req.namespaceClusterID ∧ b.nodeID = req.nodeID := by
  simp [owns]

lemma retry_cases (n : Nat) (err : ClusterError) : (∃ m, retry n err = .attempt m) ∨ ∃ error, retry n err = .failed error := by
  rw [retry]
  split
  · split
    · exact .inl ⟨_, rfl⟩
    · exact .inr ⟨_, rfl⟩
  · exact .inr ⟨_, rfl⟩

lemma retry_ne_inserting (n : Nat) (err : ClusterError) (m : Nat) (seen : List Nat) (portStart : Nat) :
    retry n err ≠ .inserting m seen portStart := by
  rcases retry_cases n err with ⟨_, h⟩ | ⟨_, h⟩ <;> simp [h]

lemma retry_ne_allocated (n : Nat) (err : ClusterError) (block : PortBlock) : retry n err ≠ .allocated block := by
  rcases retry_cases n err with ⟨_, h⟩ | ⟨_, h⟩ <;> simp [h]

lemma choose_cases (n : Nat) (seen : List Nat) :
    (∃ err, choose n seen = retry n err) ∨ ∃ portStart, firstFree portRange portsPerNamespace seen = some portStart ∧
    choose n seen = .inserting n seen portStart := by
  rw [choose]
  split
  · exact .inl ⟨_, rfl⟩
  · cases h : firstFree portRange portsPerNamespace seen with
    | none => exact .inl ⟨_, rfl⟩
    | some portStart => exact .inr ⟨portStart, rfl, rfl⟩

attribute [local grind] statement

lemma statement_tables (req : Request) (e : Event ι) (db : Tables) (phase : Phase) :
    (statement req e db phase).1 = db ∨ (req.kind = .deallocate ∧ statement req e db phase =
    ({ db with allocations := db.allocations.delete req.owns }, .deallocated)) ∨
    ∃ n seen portStart allocations, phase = .inserting n seen portStart ∧
    db.allocations.insert (req.block e portStart) = some allocations ∧
    statement req e db phase = ({ db with allocations }, .allocated (req.block e portStart)) := by
  cases phase with
  | start => grind
  | attempt n =>
    rw [statement]
    split
    · exact .inl rfl
    · exact .inl rfl
  | counting n ip => exact .inl rfl
  | reading n scope => grind
  | inserting n seen portStart => grind
  | allocated block => exact .inl rfl
  | deallocated => exact .inl rfl
  | failed error => exact .inl rfl

lemma statement_inserting {n : Nat} {seen : List Nat} {portStart : Nat}
    (h : (statement req e db phase).2 = .inserting n seen portStart) :
    portStart ∈ slots portRange portsPerNamespace ∧ portStart ∉ seen := by
  cases phase with
  | start => grind
  | attempt n => grind
  | counting n ip => cases h
  | reading n scope =>
    rw [statement] at h
    cases hfault : e.fault with
    | some cause =>
      rw [hfault] at h
      exact (retry_ne_inserting _ _ _ _ _ h).elim
    | none =>
      rw [hfault] at h
      dsimp only at h
      rcases choose_cases n (db.allocatedStarts req.nodeID scope) with ⟨err, heq⟩ | ⟨start, hfree, heq⟩
      all_goals grind [retry_ne_inserting, firstFree_eq_some]
  | inserting n seen portStart =>
    rw [statement] at h
    grind [retry_ne_inserting]
  | allocated block => cases h
  | deallocated => cases h
  | failed error => cases h

lemma statement_allocated {block : PortBlock} (h : (statement req e db phase).2 = .allocated block) :
    phase = .allocated block ∨ (block ∈ (statement req e db phase).1.allocations.rows ∧ req.owns block) := by
  cases phase with
  | start =>
    rw [statement] at h ⊢
    cases hkind : req.kind with
    | deallocate =>
      rw [hkind] at h
      cases hfault : e.fault <;> simp [hfault] at h
    | allocate =>
      rw [hkind] at h
      dsimp only at h ⊢
      split at h
      · next found hfound =>
        cases h
        obtain ⟨-, hget⟩ := Option.ite_none_left_eq_some.1 hfound
        exact .inr ⟨mem_of_find?_eq_some hget, find?_some hget⟩
      · cases h
  | attempt n => grind
  | counting n ip => cases h
  | reading n scope =>
    rw [statement] at h
    cases hfault : e.fault with
    | some cause =>
      rw [hfault] at h
      exact (retry_ne_allocated _ _ _ h).elim
    | none =>
      rw [hfault] at h
      dsimp only at h
      rcases choose_cases n (db.allocatedStarts req.nodeID scope) with ⟨err, heq⟩ | ⟨start, -, heq⟩
      all_goals grind [retry_ne_allocated]
  | inserting n seen portStart =>
    rw [statement] at h ⊢
    cases hfault : e.fault with
    | some cause =>
      rw [hfault] at h
      exact (retry_ne_allocated _ _ _ h).elim
    | none =>
      rw [hfault] at h
      dsimp only at h ⊢
      cases hinsert : db.allocations.insert (req.block e portStart) with
      | none => grind [retry_ne_allocated]
      | some allocations =>
        rw [hinsert] at h
        cases h
        obtain ⟨hrows, -⟩ := insert_eq_some hinsert
        grind [owns, block]
  | allocated b =>
    cases h
    exact .inl rfl
  | deallocated => cases h
  | failed error => cases h

end

section
variable (request : ι → Request)

def allocator : Interleaving Tables ι Phase (Event ι) where
  process := Event.request
  act e db phase := statement (request e.request) e db phase

def Tables.initial (db : Tables) : Config Tables ι Phase := ⟨db, fun _ => .start⟩

def upToDate (c : Config Tables ι Phase) (e : Event ι) : Bool :=
  match c.phase e.request with
  | .inserting _ seen _ => c.shared.allocations.rows.all fun b =>
      b.nodeID = (request e.request).nodeID ||
        !(c.shared.dnsNodes.shareHost b.nodeID (request e.request).nodeID) || seen.contains b.portStart
  | _ => true

variable [DecidableEq ι] in
def Returns (c : Config Tables ι Phase) (e : Event ι) (block : PortBlock) : Prop :=
  (∀ b, c.phase e.request ≠ .allocated b) ∧ ((allocator request).step c e).phase e.request = .allocated block

def Tables.Aligned (db : Tables) : Prop :=
  ∀ b ∈ db.allocations.rows, b.portStart ∈ slots portRange portsPerNamespace ∧
    b.ports = blockAt portsPerNamespace b.portStart

def Tables.Disjoint (db : Tables) : Prop :=
  (∀ b ∈ db.allocations.rows, b.ports.Within portRange) ∧
    ∀ b ∈ db.allocations.rows, ∀ b' ∈ db.allocations.rows, b ≠ b' →
    db.dnsNodes.shareHost b.nodeID b'.nodeID = true → b.ports.Apart b'.ports

variable {request}

structure Invariant (c : Config Tables ι Phase) : Prop where
  aligned : c.shared.Aligned
  chosen : ∀ i n seen portStart, c.phase i = .inserting n seen portStart →
    portStart ∈ slots portRange portsPerNamespace ∧ portStart ∉ seen
  apart : ∀ b ∈ c.shared.allocations.rows, ∀ b' ∈ c.shared.allocations.rows, b ≠ b' →
    c.shared.dnsNodes.shareHost b.nodeID b'.nodeID = true → b.portStart ≠ b'.portStart

variable {c : Config Tables ι Phase}

lemma Invariant.disjoint (h : Invariant c) : c.shared.Disjoint := by
  constructor
  · intro b hb
    obtain ⟨hslot, hports⟩ := h.aligned b hb
    rw [hports]
    exact within_blockAt (by decide) hslot
  · intro b hb b' hb' hne hhost
    obtain ⟨hslot, hports⟩ := h.aligned b hb
    obtain ⟨hslot', hports'⟩ := h.aligned b' hb'
    rw [hports, hports']
    exact apart_blockAt (by decide) hslot hslot' (h.apart b hb b' hb' hne hhost)

lemma Invariant.initial {db : Tables} (haligned : db.Aligned) (hdisjoint : db.Disjoint) :
    Invariant (ι := ι) db.initial := by
  refine ⟨haligned, nofun, ?_⟩
  intro b hb b' hb' hne hhost hstart
  have happart := hdisjoint.2 b hb b' hb' hne hhost
  rw [(haligned b hb).2, (haligned b' hb').2, hstart] at happart
  exact happart.elim (by simp [blockAt, portsPerNamespace]) (by simp [blockAt, portsPerNamespace])

lemma Invariant.insert {e : Event ι} (h : Invariant c) (hguard : upToDate request c e) {n : Nat}
    {seen : List Nat} {portStart : Nat} (hphase : c.phase e.request = .inserting n seen portStart)
    {allocations : PortAllocations}
    (hinsert : c.shared.allocations.insert ((request e.request).block e portStart) = some allocations) :
    ∀ b ∈ c.shared.allocations.rows,
      c.shared.dnsNodes.shareHost b.nodeID (request e.request).nodeID → b.portStart ≠ portStart := by
  intro b hb hhost hstart
  by_cases hnode : b.nodeID = (request e.request).nodeID
  · -- the table itself refuses a second block of the node at this number
    have hfree := (insert_eq_some hinsert).2 b hb
    have hconflict : b.conflicts ((request e.request).block e portStart) :=
      (PortBlock.conflicts_iff _ _).2 (.inr (.inl ⟨hnode, hstart⟩))
    rw [hconflict] at hfree
    cases hfree
  · rw [upToDate, hphase] at hguard
    have hseen := all_eq_true.1 hguard b hb
    simp only [hnode, hhost, hstart, decide_false, Bool.not_true, Bool.false_or, contains_iff_mem] at hseen
    exact (h.chosen _ _ _ _ hphase).2 hseen

variable [DecidableEq ι]

lemma Invariant.step {e : Event ι} (h : Invariant c) (hguard : upToDate request c e) :
    Invariant ((allocator request).step c e) := by
  have hchosen : ∀ i n seen portStart, ((allocator request).step c e).phase i = .inserting n seen portStart →
      portStart ∈ slots portRange portsPerNamespace ∧ portStart ∉ seen := by
    intro i n seen portStart hphase
    rcases phase_step_cases (allocator request) c e i with ⟨-, hi⟩ | ⟨-, hi⟩
    · exact statement_inserting (hi.symm.trans hphase)
    · exact h.chosen i n seen portStart (hi.symm.trans hphase)
  have hshared : ((allocator request).step c e).shared =
      (statement (request e.request) e c.shared (c.phase e.request)).1 := rfl
  rcases statement_tables (request e.request) e c.shared (c.phase e.request) with
    hsame | ⟨-, hdelete⟩ | ⟨n, seen, portStart, allocations, hphase, hinsert, hnext⟩
  · rw [hsame] at hshared
    exact ⟨by rw [hshared]; exact h.aligned, hchosen, by rw [hshared]; exact h.apart⟩
  · rw [hdelete] at hshared
    refine ⟨?_, hchosen, ?_⟩
    · rw [hshared]
      intro b hb
      exact h.aligned b (mem_delete.1 hb).1
    · rw [hshared]
      intro b hb b' hb'
      exact h.apart b (mem_delete.1 hb).1 b' (mem_delete.1 hb').1
  · rw [hnext] at hshared
    have hrows := (insert_eq_some hinsert).1
    have hnew := h.insert hguard hphase hinsert
    refine ⟨?_, hchosen, ?_⟩
    · rw [hshared]
      intro b hb
      rw [hrows, mem_append, mem_singleton] at hb
      rcases hb with hb | rfl
      · exact h.aligned b hb
      · exact ⟨(h.chosen _ _ _ _ hphase).1, rfl⟩
    · rw [hshared]
      refine pairs_insert hinsert h.apart fun b hb => ⟨hnew b hb, fun hhost => ?_⟩
      rw [DnsNodes.shareHost_comm] at hhost
      exact (hnew b hb hhost).symm

variable {b : PortBlock}

lemma mem_rows_step {e : Event ι} (hb : b ∈ c.shared.allocations.rows)
    (hkeep : (request e.request).kind = .deallocate →
      (statement (request e.request) e c.shared (c.phase e.request)).2 = .deallocated →
      (request e.request).owns b = false) : b ∈ ((allocator request).step c e).shared.allocations.rows := by
  change b ∈ (statement (request e.request) e c.shared (c.phase e.request)).1.allocations.rows
  rcases statement_tables (request e.request) e c.shared (c.phase e.request) with
    hsame | ⟨hkind, hdelete⟩ | ⟨_, _, _, allocations, -, hinsert, hnext⟩
  · rwa [hsame]
  · grind [mem_delete]
  · rw [hnext]
    dsimp only
    rw [(insert_eq_some hinsert).1]
    exact mem_append_left _ hb

lemma mem_rows_run {events : List (Event ι)} (hb : b ∈ c.shared.allocations.rows)
    (hkeep : ∀ e ∈ events, (request e.request).kind = .deallocate → (request e.request).owns b = false) :
    b ∈ ((allocator request).run c events).shared.allocations.rows := by
  induction events generalizing c with
  | nil => exact hb
  | cons e events ih =>
    exact ih (mem_rows_step hb fun hkind _ => hkeep e mem_cons_self hkind) fun e' he' =>
      hkeep e' (mem_cons_of_mem _ he')

variable {block : PortBlock}

section
variable {e : Event ι} (h : Returns request c e block)
include h

lemma Returns.statement_snd : (statement (request e.request) e c.shared (c.phase e.request)).2 = .allocated block :=
  (phase_step_self (allocator request) c e).symm.trans h.2

lemma Returns.mem_rows :
    block ∈ ((allocator request).step c e).shared.allocations.rows ∧ (request e.request).owns block :=
  (statement_allocated h.statement_snd).resolve_left (h.1 block)

lemma Returns.eq {e' : Event ι} {between : List (Event ι)} {block' : PortBlock}
    (h' : Returns request ((allocator request).run ((allocator request).step c e) between) e' block')
    (hcluster : (request e'.request).namespaceClusterID = (request e.request).namespaceClusterID)
    (hnode : (request e'.request).nodeID = (request e.request).nodeID)
    (hkeep : ∀ d ∈ between, (request d.request).kind = .deallocate →
      ¬ ((request d.request).namespaceClusterID = (request e.request).namespaceClusterID ∧
      (request d.request).nodeID = (request e.request).nodeID)) : block' = block := by
  obtain ⟨hmem, howns⟩ := h.mem_rows
  obtain ⟨hmem', howns'⟩ := h'.mem_rows
  rw [owns_iff] at howns howns'
  have hbetween : block ∈ ((allocator request).run ((allocator request).step c e) between).shared.allocations.rows := by
    grind [mem_rows_run, owns_iff]
  refine eq_of_conflicts _ PortBlock.conflicts_comm hmem' (mem_rows_step hbetween ?_) ?_
  · intro _ hnext
    rw [h'.statement_snd] at hnext
    cases hnext
  · grind [PortBlock.conflicts_iff]

end

/-- While every insertion is up to date the blocks on a host are disjoint. Between releases a cluster
gets one block on a node, whatever the other calls do. -/
theorem port_blocks_disjoint_and_idempotent (request : ι → Request) (db : Tables) (haligned : db.Aligned)
    (hdisjoint : db.Disjoint) :
    (∀ events, (allocator request).guarded (upToDate request) db.initial events = true →
      ((allocator request).run db.initial events).shared.Disjoint) ∧
    ∀ before e between e' block block', Returns request ((allocator request).run db.initial before) e block →
      Returns request ((allocator request).run db.initial (before ++ e :: between)) e' block' →
      (request e'.request).namespaceClusterID = (request e.request).namespaceClusterID →
      (request e'.request).nodeID = (request e.request).nodeID →
      (∀ d ∈ between, (request d.request).kind = .deallocate →
      ¬ ((request d.request).namespaceClusterID = (request e.request).namespaceClusterID ∧
      (request d.request).nodeID = (request e.request).nodeID)) → block' = block := by
  constructor
  · intro events hguarded
    have hinv : Invariant ((allocator request).run db.initial events) :=
      run_induction (fun c e h hguard => h.step hguard) (.initial haligned hdisjoint) hguarded
    exact hinv.disjoint
  · intro before e between e' block block' h h' hcluster hnode hkeep
    rw [run_append] at h'
    exact h.eq h' hcluster hnode hkeep

end

section

def colocatedRequest (i : Bool) : Request where
  kind := .allocate
  nodeID := if i then ascii "b" else ascii "a"
  namespaceClusterID := ascii "c"

def colocatedTables : Tables := ⟨colocatedNodes, .empty⟩

def colocatedEvent (i : Bool) : Event Bool := ⟨i, none, if i then ascii "2" else ascii "1", 0⟩

lemma colocatedTables_aligned : colocatedTables.Aligned := nofun

lemma colocatedTables_disjoint : colocatedTables.Disjoint :=
  ⟨nofun, nofun⟩

/-- One call after the other. -/
theorem port_blocks_disjoint_in_turn :
    let turns := List.replicate 5 (colocatedEvent false) ++ List.replicate 5 (colocatedEvent true)
    (((allocator colocatedRequest).run colocatedTables.initial turns).shared.allocations.rows.map
      PortBlock.portStart = [10000, 10005]) ∧
      ((allocator colocatedRequest).run colocatedTables.initial turns).shared.Disjoint :=
  ⟨by decide, (port_blocks_disjoint_and_idempotent colocatedRequest colocatedTables colocatedTables_aligned
    colocatedTables_disjoint).1 _ (by decide)⟩

/-- Both calls read before either inserts, and both get the same ports. -/
theorem port_blocks_overlap : ¬ ((allocator colocatedRequest).run colocatedTables.initial
      (List.replicate 4 (colocatedEvent false) ++ List.replicate 4 (colocatedEvent true) ++
        [colocatedEvent false, colocatedEvent true])).shared.Disjoint := by
  intro h
  have hrows : ((allocator colocatedRequest).run colocatedTables.initial
      (List.replicate 4 (colocatedEvent false) ++ List.replicate 4 (colocatedEvent true) ++
        [colocatedEvent false, colocatedEvent true])).shared =
      ⟨colocatedNodes, ⟨[(colocatedRequest false).block (colocatedEvent false) 10000,
        (colocatedRequest true).block (colocatedEvent true) 10000], by decide⟩⟩ := by decide
  rw [hrows] at h
  have hapart := h.2 _ mem_cons_self _ (mem_cons_of_mem _ mem_cons_self) (by decide) (by decide)
  exact absurd hapart (by decide)

end
end Orama.Namespace.Ports
