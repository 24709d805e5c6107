import Orama.Deployments.Tables
import Orama.Lib.Interleaving

namespace Orama.Deployments.Health
open Lib

def consecutiveFailuresThreshold : Nat := 3
def defaultDesiredReplicas : Nat := defaultReplicaCount

structure ReplicaState where
  consecutiveMisses : Nat
  restartCount : Nat
deriving DecidableEq

structure Check where
  nodeID : Bytes
  deploymentID : Bytes
  hasProcessManager : Bool
deriving DecidableEq

structure DeploymentRow where
  port : Int
  restartPolicy : RestartPolicy
  maxRestartCount : Int
  replicaStatus : ReplicaStatus
deriving DecidableEq

def setStatus (status : ReplicaStatus) (now : Int) (r : Replica) : Replica := { r with status, updatedAt := now }

lemma key_setStatus (status : ReplicaStatus) (now : Int) (r : Replica) : (setStatus status now r).key = r.key := rfl

def markFailed (r : Replica) : Replica := { r with status := .failed }

lemma key_markFailed (r : Replica) : (markFailed r).key = r.key := rfl

def mapStatus (f : DeploymentStatus → DeploymentStatus) (d : Deployment) : Deployment := { d with status := f d.status }

lemma id_mapStatus (f : DeploymentStatus → DeploymentStatus) (d : Deployment) : (mapStatus f d).id = d.id := rfl

section
variable (db : Database) (deploymentID nodeID : Bytes)

def activeCount : Nat := db.replicas.rows.countP fun r => r.deploymentID = deploymentID && r.status = .active

def statusOf : Option DeploymentStatus := (db.deployments.get deploymentID).map Deployment.status

def isProcess (type : DeploymentType) : Bool := type = .nextJS || type = .nodeJSBackend || type = .goBackend

def deploymentRow : Option DeploymentRow :=
  match db.deployments.get deploymentID, db.replicas.get (deploymentID, nodeID) with
  | some d, some r =>
    if (d.status = .active || d.status = .degraded) && (r.status = .active || r.status = .failed) && isProcess d.type then
      some ⟨r.port, d.restartPolicy, d.maxRestartCount, r.status⟩
    else none
  | _, _ => none

def affected (deadNodeID : Bytes) : List Bytes :=
  ((db.replicas.rows.filter fun r => r.nodeID = deadNodeID && r.status = .active).map Replica.deploymentID).dedup

def setReplicaStatus (status : ReplicaStatus) (now : Int) : Database :=
  { db with
    replicas := db.replicas.update (fun r => r.deploymentID = deploymentID && r.nodeID = nodeID)
      (setStatus status now) (key_setStatus status now) }

def deleteFailedReplica : Database :=
  { db with
    replicas := db.replicas.delete fun r => r.deploymentID = deploymentID && r.nodeID = nodeID && r.status = .failed }

def markReplicas (deadNodeID : Bytes) : Database :=
  { db with
    replicas := db.replicas.update (fun r => r.nodeID = deadNodeID && r.status = .active) markFailed key_markFailed }

def updateStatus (f : DeploymentStatus → DeploymentStatus) : Database :=
  { db with
    deployments := db.deployments.update (fun d => d.id = deploymentID) (mapStatus f) (id_mapStatus f) }

end

def newStatus (activeCount : Nat) : DeploymentStatus :=
  if activeCount = 0 then .failed
  else if activeCount < defaultDesiredReplicas then .degraded
  else .active

def markedStatus (activeCount : Nat) (status : DeploymentStatus) : DeploymentStatus :=
  if 0 < activeCount then
    if status = .active then .degraded else status
  else if status = .active || status = .degraded then .failed else status

def handleUnhealthy (q : Check) (row : DeploymentRow) (state : Option ReplicaState) : Option ReplicaState × Bool :=
  if row.replicaStatus = .failed then (state, false)
  else
    let st := state.getD ⟨0, 0⟩
    let misses := st.consecutiveMisses + 1
    let maxRestarts := if row.maxRestartCount = 0 then defaultMaxRestartCount else row.maxRestartCount
    if misses < consecutiveFailuresThreshold then (some ⟨misses, st.restartCount⟩, false)
    else if row.restartPolicy ≠ .never && st.restartCount < maxRestarts && q.hasProcessManager then
      (some ⟨0, st.restartCount + 1⟩, false)
    else (some ⟨misses, st.restartCount⟩, true)

structure Cluster where
  db : Database
  states : Bytes → Bytes → Option ReplicaState

def Cluster.remember (s : Cluster) (q : Check) (state : Option ReplicaState) : Cluster :=
  { s with states := Function.update s.states q.nodeID (Function.update (s.states q.nodeID) q.deploymentID state) }

inductive Request where
  | check (q : Check)
  | nodeDeath (deadNodeID : Bytes)
deriving DecidableEq

structure Event (ι : Type) where
  request : ι
  fault : Bool
  answer : Bool
  now : Int

inductive Phase where
  | start
  | probing (q : Check) (row : DeploymentRow)
  | counting (q : Check)
  | deleting (q : Check)
  | activating (q : Check)
  | failing (q : Check)
  | recounting (deploymentID : Bytes)
  | writing (deploymentID : Bytes) (status : DeploymentStatus)
  | marking (deadNodeID : Bytes) (affected : List Bytes)
  | tallying (deploymentID : Bytes) (rest : List Bytes)
  | settling (deploymentID : Bytes) (activeCount : Nat) (rest : List Bytes)
  | finished
deriving DecidableEq

def tally : List Bytes → Phase
  | [] => .finished
  | deploymentID :: rest => .tallying deploymentID rest

variable {ι : Type}

def statement (req : Request) (e : Event ι) (s : Cluster) : Phase → Cluster × Phase
  | .start =>
    match req with
    | .check q =>
      match if e.fault then none else deploymentRow s.db q.deploymentID q.nodeID with
      | none => (s, .finished)
      | some row => (s, .probing q row)
    | .nodeDeath deadNodeID =>
      match if e.fault then [] else affected s.db deadNodeID with
      | [] => (s, .finished)
      | deploymentID :: rest => (s, .marking deadNodeID (deploymentID :: rest))
  | .probing q row =>
    -- A replica without a port is healthy in any case.
    if row.port = 0 || e.answer then
      (s.remember q none, if row.replicaStatus = .failed then .counting q else .finished)
    else
      let verdict := handleUnhealthy q row (s.states q.nodeID q.deploymentID)
      (s.remember q verdict.1, if verdict.2 then .failing q else .finished)
  | .counting q =>
    if e.fault then (s, .finished)
    else if defaultDesiredReplicas ≤ activeCount s.db q.deploymentID then (s, .deleting q)
    else (s, .activating q)
  | .deleting q => (if e.fault then s else { s with db := deleteFailedReplica s.db q.deploymentID q.nodeID }, .finished)
  | .activating q =>
    if e.fault then (s, .finished)
    else ({ s with db := setReplicaStatus s.db q.deploymentID q.nodeID .active e.now }, .recounting q.deploymentID)
  | .failing q =>
    (if e.fault then s else { s with db := setReplicaStatus s.db q.deploymentID q.nodeID .failed e.now },
      .recounting q.deploymentID)
  | .recounting deploymentID =>
    if e.fault then (s, .finished) else (s, .writing deploymentID (newStatus (activeCount s.db deploymentID)))
  | .writing deploymentID status =>
    (if e.fault then s else { s with db := updateStatus s.db deploymentID fun _ => status }, .finished)
  | .marking deadNodeID affected =>
    if e.fault then (s, .finished) else ({ s with db := markReplicas s.db deadNodeID }, tally affected)
  | .tallying deploymentID rest =>
    if e.fault then (s, tally rest) else (s, .settling deploymentID (activeCount s.db deploymentID) rest)
  | .settling deploymentID count rest =>
    (if e.fault then s else { s with db := updateStatus s.db deploymentID (markedStatus count) }, tally rest)
  | .finished => (s, .finished)

def Follows (db : Database) (deploymentID : Bytes) : Prop :=
  ∀ status, statusOf db deploymentID = some status → status = newStatus (activeCount db deploymentID)

def Phase.Owes (deploymentID : Bytes) : Phase → Prop
  | .recounting d => d = deploymentID
  | .writing d _ => d = deploymentID
  | .tallying d rest => deploymentID ∈ d :: rest
  | .settling d _ rest => deploymentID ∈ d :: rest
  | _ => False

/-- A status is written while the count that it comes from is, no statement fails between a change of a replica and the status,
and the replicas that are marked are those of the deployments that were found. -/
def upToDate (deploymentID : Bytes) (s : Cluster) (fault : Bool) : Phase → Bool
  | .recounting d => d ≠ deploymentID || !fault
  | .writing d status => d ≠ deploymentID || (!fault && status = newStatus (activeCount s.db d))
  | .marking deadNodeID found =>
    found.contains deploymentID || !(affected s.db deadNodeID).contains deploymentID
  | .tallying d _ => d ≠ deploymentID || !fault
  | .settling d count _ => d ≠ deploymentID ||
      (!fault && (statusOf s.db d).all fun status => markedStatus count status = newStatus (activeCount s.db d))
  | _ => true

open Bool
section
variable {db : Database} {deploymentID nodeID d : Bytes}

lemma statusOf_updateStatus (db : Database) (deploymentID : Bytes) (f : DeploymentStatus → DeploymentStatus) :
    statusOf (updateStatus db deploymentID f) deploymentID = (statusOf db deploymentID).map f := by
  rw [statusOf, updateStatus, Keyed.get_update, statusOf]
  cases h : db.deployments.get deploymentID with
  | none => rfl
  | some dep => grind [Keyed.get_eq_some, mapStatus]

lemma statusOf_updateStatus_of_ne (f : DeploymentStatus → DeploymentStatus) (hd : d ≠ deploymentID) :
    statusOf (updateStatus db d f) deploymentID = statusOf db deploymentID := by
  rw [statusOf, updateStatus, Keyed.get_update, statusOf]
  cases h : db.deployments.get deploymentID with
  | none => rfl
  | some dep => grind [Keyed.get_eq_some]

lemma activeCount_setReplicaStatus_of_ne (status : ReplicaStatus) (now : Int) (hd : d ≠ deploymentID) :
    activeCount (setReplicaStatus db d nodeID status now) deploymentID = activeCount db deploymentID := by
  refine db.replicas.countP_update (key_setStatus status now) fun r _ hr => ?_
  have hrd : r.deploymentID = d := by simp at hr; exact hr.1
  simp [setStatus, hrd, hd]

lemma activeCount_deleteFailedReplica (db : Database) (d nodeID deploymentID : Bytes) :
    activeCount (deleteFailedReplica db d nodeID) deploymentID = activeCount db deploymentID := by
  rw [activeCount, deleteFailedReplica, Keyed.delete, List.countP_filter, activeCount]
  apply List.countP_congr
  intro r _
  simp only [and_eq_true, decide_eq_true_iff, not_eq_true']
  constructor
  · exact fun h => h.1
  · intro h
    simp [h.1, h.2]

variable {deadNodeID : Bytes}

lemma mem_affected : deploymentID ∈ affected db deadNodeID ↔
      ∃ r ∈ db.replicas.rows, r.deploymentID = deploymentID ∧ r.nodeID = deadNodeID ∧ r.status = .active := by
  grind [List.mem_dedup, affected]

lemma activeCount_markReplicas (h : deploymentID ∉ affected db deadNodeID) :
    activeCount (markReplicas db deadNodeID) deploymentID = activeCount db deploymentID := by
  refine db.replicas.countP_update key_markFailed fun r hr hmark => ?_
  have hne : r.deploymentID ≠ deploymentID := by grind [mem_affected]
  simp [markFailed, hne]

lemma owes_tally {rest : List Bytes} : (tally rest).Owes deploymentID ↔ deploymentID ∈ rest := by
  cases rest with
  | nil => simp [tally, Phase.Owes]
  | cons d rest => exact Iff.rfl

variable {req : Request} {e : Event ι} {s : Cluster} {phase : Phase}

def Kept (deploymentID : Bytes) (s : Cluster) (phase : Phase) (next : Cluster × Phase) : Prop :=
  statusOf next.1.db deploymentID = statusOf s.db deploymentID ∧
    activeCount next.1.db deploymentID = activeCount s.db deploymentID ∧ (phase.Owes deploymentID → next.2.Owes deploymentID)

variable {f : DeploymentStatus → DeploymentStatus}

lemma follows_updateStatus
    (hf : ∀ status, statusOf db deploymentID = some status → f status = newStatus (activeCount db deploymentID)) :
    Follows (updateStatus db deploymentID f) deploymentID := by
  intro status hstatus
  rw [statusOf_updateStatus, Option.map_eq_some_iff] at hstatus
  obtain ⟨before, hbefore, rfl⟩ := hstatus
  exact hf before hbefore

lemma kept_updateStatus (fault : Bool) {next : Phase} (hd : d ≠ deploymentID)
    (howes : phase.Owes deploymentID → next.Owes deploymentID) :
    Kept deploymentID s phase (if fault then s else { s with db := updateStatus s.db d f }, next) := by
  cases fault with
  | true => exact ⟨rfl, rfl, howes⟩
  | false => exact ⟨statusOf_updateStatus_of_ne f hd, rfl, howes⟩

lemma statement_effect (req : Request) (e : Event ι) (s : Cluster) (phase : Phase) (deploymentID : Bytes)
    (hguard : upToDate deploymentID s e.fault phase) :
    Follows (statement req e s phase).1.db deploymentID ∨ (statement req e s phase).2.Owes deploymentID ∨
      Kept deploymentID s phase (statement req e s phase) := by
  cases phase with
  | start =>
    refine .inr (.inr ?_)
    cases req with
    | check q =>
      rw [statement]
      split <;> exact ⟨rfl, rfl, False.elim⟩
    | nodeDeath deadNodeID =>
      rw [statement]
      split <;> exact ⟨rfl, rfl, False.elim⟩
  | probing q row =>
    refine .inr (.inr ?_)
    rw [statement]
    split <;> exact ⟨rfl, rfl, False.elim⟩
  | counting q =>
    refine .inr (.inr ?_)
    rw [statement]
    split
    · exact ⟨rfl, rfl, False.elim⟩
    · split <;> exact ⟨rfl, rfl, False.elim⟩
  | deleting q =>
    refine .inr (.inr ?_)
    rw [statement]
    split
    · exact ⟨rfl, rfl, False.elim⟩
    · exact ⟨rfl, activeCount_deleteFailedReplica s.db q.deploymentID q.nodeID deploymentID, False.elim⟩
  | activating q =>
    by_cases hd : q.deploymentID = deploymentID
    · rw [statement]
      split
      · exact .inr (.inr ⟨rfl, rfl, False.elim⟩)
      · exact .inr (.inl hd)
    · refine .inr (.inr ?_)
      rw [statement]
      split
      · exact ⟨rfl, rfl, False.elim⟩
      · exact ⟨rfl, activeCount_setReplicaStatus_of_ne .active e.now hd, False.elim⟩
  | failing q =>
    by_cases hd : q.deploymentID = deploymentID
    · exact .inr (.inl hd)
    · refine .inr (.inr ?_)
      rw [statement]
      split
      · exact ⟨rfl, rfl, False.elim⟩
      · exact ⟨rfl, activeCount_setReplicaStatus_of_ne .failed e.now hd, False.elim⟩
  | recounting d =>
    rw [statement]
    split
    · next hfault =>
      simp only [upToDate, hfault, Bool.not_true, Bool.or_false, decide_eq_true_iff] at hguard
      exact .inr (.inr ⟨rfl, rfl, fun h => (hguard h).elim⟩)
    · exact .inr (.inr ⟨rfl, rfl, id⟩)
  | writing d status =>
    rw [statement]
    by_cases hd : d = deploymentID
    · subst hd
      simp only [upToDate, ne_eq, not_true_eq_false, decide_false, Bool.false_or, and_eq_true, not_eq_true',
        decide_eq_true_iff] at hguard
      obtain ⟨hfault, hstatus⟩ := hguard
      rw [if_neg (eq_false_iff.1 hfault)]
      exact .inl (follows_updateStatus fun _ _ => hstatus)
    · exact .inr (.inr (kept_updateStatus e.fault hd fun h => (hd h).elim))
  | marking deadNodeID found =>
    rw [statement]
    split
    · exact .inr (.inr ⟨rfl, rfl, False.elim⟩)
    · by_cases hfound : deploymentID ∈ found
      · exact .inr (.inl (owes_tally.2 hfound))
      · have hnot : deploymentID ∉ affected s.db deadNodeID := by
          simpa [upToDate, hfound] using hguard
        exact .inr (.inr ⟨rfl, activeCount_markReplicas hnot, False.elim⟩)
  | tallying d rest =>
    rw [statement]
    split
    · next hfault =>
      simp only [upToDate, hfault, Bool.not_true, Bool.or_false, decide_eq_true_iff] at hguard
      refine .inr (.inr ⟨rfl, rfl, fun h => owes_tally.2 ?_⟩)
      exact (List.mem_cons.1 h).resolve_left (Ne.symm hguard)
    · exact .inr (.inr ⟨rfl, rfl, id⟩)
  | settling d count rest =>
    rw [statement]
    by_cases hd : d = deploymentID
    · subst hd
      simp only [upToDate, ne_eq, not_true_eq_false, decide_false, Bool.false_or, and_eq_true, not_eq_true'] at hguard
      obtain ⟨hfault, hstatus⟩ := hguard
      rw [if_neg (eq_false_iff.1 hfault)]
      refine .inl (follows_updateStatus fun status hbefore => ?_)
      rw [hbefore, Option.all_some, decide_eq_true_iff] at hstatus
      exact hstatus
    · refine .inr (.inr (kept_updateStatus e.fault hd fun h => owes_tally.2 ?_))
      exact (List.mem_cons.1 h).resolve_left (Ne.symm hd)
  | finished => exact .inr (.inr ⟨rfl, rfl, id⟩)

end

section
variable (request : ι → Request)

def checkers : Interleaving Cluster ι Phase (Event ι) where
  process := Event.request
  act e s phase := statement (request e.request) e s phase

def Cluster.initial (s : Cluster) : Config Cluster ι Phase := ⟨s, fun _ => .start⟩

def Quiet (c : Config Cluster ι Phase) : Prop := ∀ i, c.phase i = .start ∨ c.phase i = .finished

def current (deploymentID : Bytes) (c : Config Cluster ι Phase) (e : Event ι) : Bool :=
  upToDate deploymentID c.shared e.fault (c.phase e.request)

structure Settled (db : Database) (deploymentID : Bytes) : Prop where
  follows : Follows db deploymentID
  recovered : ∀ r ∈ db.replicas.rows, r.deploymentID = deploymentID → r.status = .active →
    statusOf db deploymentID ≠ some .failed

lemma Follows.settled {db : Database} {deploymentID : Bytes} (h : Follows db deploymentID) : Settled db deploymentID := by
  refine ⟨h, fun r hr hd hactive hfailed => ?_⟩
  have hpos : 0 < activeCount db deploymentID := by grind [activeCount]
  have hstatus := h .failed hfailed
  rw [newStatus, if_neg (Nat.ne_of_gt hpos)] at hstatus
  split at hstatus <;> cases hstatus

variable {request} {c : Config Cluster ι Phase} {e : Event ι} {deploymentID : Bytes}

def Accounted (deploymentID : Bytes) (c : Config Cluster ι Phase) : Prop :=
  Follows c.shared.db deploymentID ∨ ∃ i, (c.phase i).Owes deploymentID

variable [DecidableEq ι]

lemma Accounted.step (h : Accounted deploymentID c) (hguard : current deploymentID c e) :
    Accounted deploymentID ((checkers request).step c e) := by
  have hself := (checkers request).phase_step_self c e
  rcases statement_effect (request e.request) e c.shared (c.phase e.request) deploymentID hguard with
    hfollows | howes | ⟨hstatus, hcount, hkept⟩
  · exact .inl hfollows
  · refine .inr ⟨e.request, ?_⟩
    change ((checkers request).step c e).phase e.request = _ at hself
    rw [hself]
    exact howes
  · rcases h with hfollows | ⟨i, hi⟩
    · refine .inl fun status hst => ?_
      change statusOf (statement (request e.request) e c.shared (c.phase e.request)).1.db deploymentID = _ at hst
      change status = newStatus (activeCount (statement (request e.request) e c.shared (c.phase e.request)).1.db deploymentID)
      rw [hstatus] at hst
      rw [hcount]
      exact hfollows status hst
    · refine .inr ⟨i, ?_⟩
      rcases (checkers request).phase_step_cases c e i with ⟨rfl, hphase⟩ | ⟨-, hphase⟩
      · rw [hphase]
        exact hkept hi
      · rw [hphase]
        exact hi

/-- In a run in which every status that is written is that of the active replicas at that moment, the status of the deployment
is the one that is recalculated from its active replicas, once all have finished. -/
theorem deployment_status_follows (request : ι → Request) (s : Cluster) (deploymentID : Bytes) (events : List (Event ι))
    (hinitial : Follows s.db deploymentID)
    (hguard : (checkers request).guarded (current deploymentID) s.initial events = true)
    (hquiet : Quiet ((checkers request).run s.initial events)) :
    Settled ((checkers request).run s.initial events).shared.db deploymentID := by
  have haccounted : Accounted deploymentID ((checkers request).run s.initial events) :=
    Interleaving.run_induction (fun c e hc he => hc.step he) (.inl hinitial) hguard
  rcases haccounted with hfollows | ⟨i, hi⟩
  · exact hfollows.settled
  · rcases hquiet i with h | h <;> rw [h] at hi <;> exact hi.elim

def onePart : Cluster where
  db :=
    { dnsNodes := .empty
      deployments := ⟨[⟨ascii "app", .goBackend, .degraded, ascii "a", .never, 0⟩], by decide⟩
      replicas := ⟨[⟨ascii "app", ascii "a", 10100, .failed, true, 0, 0⟩,
        ⟨ascii "app", ascii "b", 10100, .active, false, 0, 0⟩], by decide⟩
      portAllocations := .empty
      homeNodeAssignments := .empty }
  states _ _ := some ⟨2, 0⟩

def bothChecked (onB : Bool) : Request := .check ⟨if onB then ascii "b" else ascii "a", ascii "app", true⟩

def turns (onB answer : Bool) (count : Nat) : List (Event Bool) := List.replicate count ⟨onB, false, answer, 0⟩

/-- The checker that gives one replica up has counted none that is active; the checker on the other node finds its replica
healthy and recalculates the status before the first one writes that the deployment has failed. Nothing looks at the replicas
of a deployment that has failed. -/
theorem deployment_status_stale :
    let c := (checkers bothChecked).run onePart.initial
      (turns false true 1 ++ turns true false 4 ++ turns false true 5 ++ turns true false 1)
    Follows onePart.db (ascii "app") ∧ (∀ i, c.phase i = .finished) ∧ activeCount c.shared.db (ascii "app") = 1 ∧
      statusOf c.shared.db (ascii "app") = some .failed ∧
      deploymentRow c.shared.db (ascii "app") (ascii "a") = none := by
  refine ⟨?_, by decide, by decide, by decide, by decide⟩
  intro status hstatus
  cases hstatus
  decide

/-- The checks one after the other. -/
theorem deployment_status_follows_sequential :
    Settled ((checkers bothChecked).run onePart.initial (turns false true 6 ++ turns true false 5)).shared.db (ascii "app") := by
  have hinitial : Follows onePart.db (ascii "app") := by
    intro status hstatus
    cases hstatus
    decide
  have hquiet : Quiet ((checkers bothChecked).run onePart.initial (turns false true 6 ++ turns true false 5)) := by
    intro i
    cases i <;> exact .inr (by decide)
  exact deployment_status_follows bothChecked onePart (ascii "app") _ hinitial (by decide) hquiet

end
end Orama.Deployments.Health
