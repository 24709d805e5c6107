import Orama.Deployments.Health
import Orama.Deployments.Replicas

namespace Orama.Deployments.Reconcile
open Lib Namespace Deployments.Health

structure Reading where
  now : Int
  fault : Bool
  loads : Bytes → Option Load

/-- A statement or a request of the set-up of a replica: whether it fails, the port with which the node has registered the
replica itself, if it came that far, and the port that it answers. -/
structure Event where
  deploymentID : Bytes
  nodeID : Bytes
  fault : Bool
  registered : Option Int
  response : Option Int
  now : Int

inductive Phase where
  | selected
  | registering
  | calling
  | answered
  | finished
deriving DecidableEq

def statement (e : Event) (db : Database) : Phase → Database × Phase
  | .selected => (db, if e.fault || (db.dnsNodes.ipAddress e.nodeID).isNone then .finished else .registering)
  | .registering =>
    if e.fault then (db, .finished)
    else (createReplica db e.deploymentID e.nodeID 0 false .pending e.now, .calling)
  | .calling =>
    (match e.registered with
      | none => db
      | some port => createReplica db e.deploymentID e.nodeID port false .active e.now, .answered)
  | .answered =>
    (if e.fault then db
      else match e.response with
        | none => setReplicaStatus db e.deploymentID e.nodeID .failed e.now
        | some port =>
          if port ≤ 0 then setReplicaStatus db e.deploymentID e.nodeID .failed e.now
          else createReplica db e.deploymentID e.nodeID port false .active e.now, .finished)
  | .finished => (db, .finished)

section
variable {R : Type} (a : Arithmetic R) (readings : Bytes → Reading) (db : Database) (deploymentID : Bytes)

def needed : Nat :=
  match db.deployments.get deploymentID with
  | none => 0
  | some d =>
    if (d.status = .active || d.status = .degraded) && isProcess d.type && !(readings deploymentID).fault then
      defaultDesiredReplicas - activeCount db deploymentID
    else 0

def candidates : List (NodeCapacity R) :=
  match db.deployments.get deploymentID with
  | none => []
  | some d => eligible a (readings deploymentID).loads (getActiveNodes db (readings deploymentID).now) d.homeNodeID

def newNodes : List Bytes :=
  match db.deployments.get deploymentID with
  | none => []
  | some d =>
    if (d.status = .active || d.status = .degraded) && isProcess d.type then
      if defaultDesiredReplicas ≤ activeCount db deploymentID || (readings deploymentID).fault then []
      else selectReplicaNodes a (readings deploymentID).loads (getActiveNodes db (readings deploymentID).now) d.homeNodeID
        (defaultDesiredReplicas - activeCount db deploymentID)
    else []

def reconciler : Interleaving Database (Bytes × Bytes) Phase Event where
  process e := (e.deploymentID, e.nodeID)
  act := statement

def start : Config Database (Bytes × Bytes) Phase :=
  ⟨db, fun target => if (newNodes a readings db target.1).contains target.2 then .selected else .finished⟩

/-- What a pass may do to a deployment: replicas that were active stay as they are, and as long as an eligible node has none
replicas are set up on such nodes. -/
structure OnlyAdds (after : Database) : Prop where
  kept : ∀ r ∈ db.replicas.rows, r.deploymentID = deploymentID → r.status = .active →
    after.replicas.get (deploymentID, r.nodeID) = some r
  fresh : (∃ c ∈ candidates a readings db deploymentID, db.replicas.get (deploymentID, c.nodeID) = none) →
    ∀ nodeID, after.replicas.get (deploymentID, nodeID) ≠ db.replicas.get (deploymentID, nodeID) →
    (∃ c ∈ candidates a readings db deploymentID, c.nodeID = nodeID) ∧ db.replicas.get (deploymentID, nodeID) = none

def Occupied (nodeID : Bytes) : Prop :=
  ∃ r, db.replicas.get (deploymentID, nodeID) = some r ∧
    (r.status = .active ∨ ∃ c ∈ candidates a readings db deploymentID, db.replicas.get (deploymentID, c.nodeID) = none)

def Spared : Prop :=
  ∀ c ∈ candidates a readings db deploymentID, Occupied a readings db deploymentID c.nodeID →
    selectedCount (needed readings db deploymentID) (candidates a readings db deploymentID).length ≤
    a.preference.rank (candidates a readings db deploymentID) c

end

section
variable {R : Type} {a : Arithmetic R} {readings : Bytes → Reading} {db : Database} {deploymentID nodeID : Bytes}

lemma mem_newNodes :
    nodeID ∈ newNodes a readings db deploymentID ↔ ∃ c ∈ candidates a readings db deploymentID, c.nodeID = nodeID ∧
    a.preference.rank (candidates a readings db deploymentID) c <
    selectedCount (needed readings db deploymentID) (candidates a readings db deploymentID).length := by
  rw [newNodes, candidates, needed]
  cases db.deployments.get deploymentID with
  | none => simp
  | some d =>
    dsimp only
    by_cases hrow : (d.status = .active || d.status = .degraded) && isProcess d.type
    · rw [if_pos hrow, hrow, Bool.true_and]
      split
      · grind [selectedCount]
      · next hgo =>
        rw [Bool.or_eq_true, not_or, Bool.not_eq_true] at hgo
        simp only [hgo.2, Bool.not_false, ↓reduceIte]
        exact mem_selectFrom (ordered_eligible a _ db _ d.homeNodeID) _ 0
    · grind [selectedCount]

lemma setReplicaStatus_get_of_ne {key : Bytes × Bytes} (status : ReplicaStatus) (now : Int)
    (h : key ≠ (deploymentID, nodeID)) :
    (setReplicaStatus db deploymentID nodeID status now).replicas.get key = db.replicas.get key := by
  rw [setReplicaStatus, Keyed.get_update]
  cases hget : db.replicas.get key with
  | none => rfl
  | some r =>
    have hkey : r.key = key := (Keyed.get_eq_some.1 hget).2
    have hother : ¬ (r.deploymentID = deploymentID ∧ r.nodeID = nodeID) := by
      rintro ⟨rfl, rfl⟩
      exact h hkey.symm
    simp [hother]

lemma statement_frame (e : Event) (db : Database) (phase : Phase) {key : Bytes × Bytes}
    (h : key ≠ (e.deploymentID, e.nodeID)) : (statement e db phase).1.replicas.get key = db.replicas.get key := by
  cases phase with
  | selected => rfl
  | registering => grind [replica_createReplica_of_ne, statement]
  | calling => grind [replica_createReplica_of_ne, statement]
  | answered =>
    rw [statement]
    dsimp only
    split
    · rfl
    · grind [setReplicaStatus_get_of_ne, replica_createReplica_of_ne]
  | finished => rfl

lemma get_run_of_notMem (h : nodeID ∉ newNodes a readings db deploymentID) (events : List Event) :
    (reconciler.run (start a readings db) events).shared.replicas.get (deploymentID, nodeID) =
    db.replicas.get (deploymentID, nodeID) := by
  have hinv : (reconciler.run (start a readings db) events).phase (deploymentID, nodeID) = .finished ∧
      (reconciler.run (start a readings db) events).shared.replicas.get (deploymentID, nodeID) =
      db.replicas.get (deploymentID, nodeID) := by
    refine Interleaving.run_invariant (P := fun c : Config Database (Bytes × Bytes) Phase =>
      c.phase (deploymentID, nodeID) = .finished ∧
        c.shared.replicas.get (deploymentID, nodeID) = db.replicas.get (deploymentID, nodeID)) ?_ events ⟨?_, rfl⟩
    · rintro c e ⟨hphase, hget⟩
      rcases reconciler.phase_step_cases c e (deploymentID, nodeID) with ⟨hself, hnext⟩ | ⟨hother, hnext⟩
      · have hact : reconciler.act e c.shared (c.phase (deploymentID, nodeID)) = (c.shared, .finished) := by
          rw [hphase]
          rfl
        refine ⟨by rw [hnext, hact], ?_⟩
        have hshared : (reconciler.step c e).shared = (reconciler.act e c.shared (c.phase (deploymentID, nodeID))).1 := by
          rw [hself]
          rfl
        rw [hshared, hact]
        exact hget
      · exact ⟨hnext.trans hphase, (statement_frame e c.shared _ hother).trans hget⟩
    · simp [start, h]
  exact hinv.2

def register (deploymentID nodeID : Bytes) (now : Int) : List Event :=
  List.replicate 2 ⟨deploymentID, nodeID, false, none, none, now⟩

lemma run_register (h : nodeID ∈ newNodes a readings db deploymentID)
    (hnode : (db.dnsNodes.ipAddress nodeID).isSome) (now : Int) :
    (reconciler.run (start a readings db) (register deploymentID nodeID now)).shared =
      createReplica db deploymentID nodeID 0 false .pending now := by
  have hstart : (start a readings db).phase (deploymentID, nodeID) = .selected := by simp [start, h]
  have hselected : (statement ⟨deploymentID, nodeID, false, none, none, now⟩ db .selected) = (db, .registering) := by
    grind [Option.isNone_iff_eq_none, statement]
  have hfirst : reconciler.step (start a readings db) ⟨deploymentID, nodeID, false, none, none, now⟩ =
      ⟨db, Function.update (start a readings db).phase (deploymentID, nodeID) .registering⟩ := by
    rw [Interleaving.step]
    change Config.mk (statement _ db ((start a readings db).phase (deploymentID, nodeID))).1 _ = _
    rw [hstart, hselected]
    change Config.mk db (Function.update _ _ (statement _ db ((start a readings db).phase (deploymentID, nodeID))).2) = _
    rw [hstart, hselected]
    rfl
  rw [register, List.replicate_succ, List.replicate_one]
  change (reconciler.step (reconciler.step (start a readings db) _) _).shared = _
  rw [hfirst]
  change (statement _ db (Function.update (start a readings db).phase (deploymentID, nodeID) Phase.registering
    (deploymentID, nodeID))).1 = _
  rw [Function.update_self]
  rfl

lemma ipAddress_of_candidate {c : NodeCapacity R} (h : c ∈ candidates a readings db deploymentID) :
    (db.dnsNodes.ipAddress c.nodeID).isSome := by
  rw [candidates] at h
  cases hget : db.deployments.get deploymentID with
  | none =>
    rw [hget] at h
    cases h
  | some d =>
    rw [hget] at h
    obtain ⟨n, hn, hid⟩ := exists_of_mem_getActiveNodes (mem_activeNodes_of_eligible h)
    rw [DnsNodes.ipAddress, Option.isSome_map, List.find?_isSome]
    exact ⟨n, hn, by simp [hid]⟩

/-- A pass only adds replicas, whatever happens to them, exactly if no node that is occupied is among the best ones. -/
theorem reconcile_only_adds_iff (a : Arithmetic R) (readings : Bytes → Reading) (db : Database) (deploymentID : Bytes) :
    (∀ events, OnlyAdds a readings db deploymentID (reconciler.run (start a readings db) events).shared) ↔
    Spared a readings db deploymentID := by
  constructor
  · intro h c hc hoccupied
    by_contra hrank
    have hselected : c.nodeID ∈ newNodes a readings db deploymentID := mem_newNodes.2 ⟨c, hc, rfl, Nat.not_le.1 hrank⟩
    obtain ⟨r, hr, hwhy⟩ := hoccupied
    obtain ⟨hmem, hkey⟩ := Keyed.get_eq_some.1 hr
    obtain ⟨hd, hn⟩ := Prod.mk.inj hkey
    -- The set-up registers the replica at a time other than that of the row.
    have hrun := run_register hselected (ipAddress_of_candidate hc) (r.updatedAt + 1)
    have hadds := h (register deploymentID c.nodeID (r.updatedAt + 1))
    rw [hrun] at hadds
    obtain ⟨r', hr', hpending, htime⟩ :=
      replica_createReplica db deploymentID c.nodeID 0 false .pending (r.updatedAt + 1)
    rcases hwhy with hactive | hfree
    · have hkept := hadds.kept r hmem hd hactive
      rw [hn, hr', Option.some_inj] at hkept
      rw [hkept, hactive] at hpending
      cases hpending
    · have hchanged : (createReplica db deploymentID c.nodeID 0 false .pending (r.updatedAt + 1)).replicas.get
          (deploymentID, c.nodeID) ≠ db.replicas.get (deploymentID, c.nodeID) := by
        grind
      have hnone := (hadds.fresh hfree c.nodeID hchanged).2
      rw [hr] at hnone
      cases hnone
  · intro h events
    -- A node that was selected is not occupied.
    have hfreed : ∀ nodeID ∈ newNodes a readings db deploymentID,
        (∃ c ∈ candidates a readings db deploymentID, c.nodeID = nodeID) ∧ ¬ Occupied a readings db deploymentID nodeID := by
      intro nodeID hselected
      obtain ⟨c, hc, rfl, hrank⟩ := mem_newNodes.1 hselected
      exact ⟨⟨c, hc, rfl⟩, fun hoccupied => absurd (h c hc hoccupied) (Nat.not_le.2 hrank)⟩
    constructor
    · intro r hr hd hactive
      have hget : db.replicas.get (deploymentID, r.nodeID) = some r := Keyed.get_eq_some.2 ⟨hr, by rw [Replica.key, hd]⟩
      rw [get_run_of_notMem ?_ events]
      · exact hget
      · intro hselected
        exact (hfreed r.nodeID hselected).2 ⟨r, hget, .inl hactive⟩
    · intro hfree nodeID hchanged
      have hselected : nodeID ∈ newNodes a readings db deploymentID := by
        by_contra hnot
        exact hchanged (get_run_of_notMem hnot events)
      obtain ⟨hcandidate, hnot⟩ := hfreed nodeID hselected
      refine ⟨hcandidate, ?_⟩
      cases hget : db.replicas.get (deploymentID, nodeID) with
      | none => rfl
      | some r => exact absurd ⟨r, hget, .inr hfree⟩ hnot

def halfDown : Database where
  dnsNodes := ⟨[⟨ascii "a", ascii "10.0.0.1", none, .active, 0⟩, ⟨ascii "b", ascii "10.0.0.2", none, .active, 0⟩,
    ⟨ascii "c", ascii "10.0.0.3", none, .active, 0⟩], by decide⟩
  deployments := ⟨[⟨ascii "app", .goBackend, .degraded, ascii "a", .always, 0⟩], by decide⟩
  replicas := onePart.db.replicas
  portAllocations := .empty
  homeNodeAssignments := .empty

def idleNodes (_ : Bytes) : Reading := ⟨0, false, fun _ => some ⟨0, 0, 9900, (0, 0)⟩⟩

/-- Of two nodes without a load the first is selected, which has the only active replica, although the other one has none; its
row is replaced and no replica is active. -/
theorem reconcile_replaces_active :
    let after := (reconciler.run (start exactArithmetic idleNodes halfDown) (register (ascii "app") (ascii "b") 1)).shared
    ¬ OnlyAdds exactArithmetic idleNodes halfDown (ascii "app") after ∧ activeCount after (ascii "app") = 0 := by
  refine ⟨fun h => ?_, by decide +kernel⟩
  have hkept := h.kept ⟨ascii "app", ascii "b", 10100, .active, false, 0, 0⟩ (by decide) rfl rfl
  exact absurd hkept (by decide +kernel)

end
end Orama.Deployments.Reconcile
