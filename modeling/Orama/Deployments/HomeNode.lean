import Orama.Deployments.Tables
import Orama.Lib.Interleaving

namespace Orama.Deployments
open Lib Namespace

def HomeNodeAssignment.moveTo (homeNodeID : Bytes) (now : Int) (a : HomeNodeAssignment) : HomeNodeAssignment :=
  { a with homeNodeID, assignedAt := now, lastHeartbeat := now }

lemma HomeNodeAssignment.ns_moveTo (homeNodeID : Bytes) (now : Int) (a : HomeNodeAssignment) :
    (a.moveTo homeNodeID now).ns = a.ns := rfl

section
variable (db : Database)

def getActiveNodes (now : Int) : List Bytes :=
  Ranking.arrange Net.less ((db.dnsNodes.rows.filter fun n => n.status = .active && now - 120 < n.lastSeen).map DnsNode.id)

def getDeploymentCount (nodeID : Bytes) : Nat :=
  db.deployments.rows.countP fun d => d.homeNodeID = nodeID && (d.status = .active || d.status = .deploying)

def getNodePortCount (nodeID : Bytes) : Nat := db.portAllocations.rows.countP fun a => a.nodeID = nodeID

def getNodeResourceUsage (nodeID : Bytes) : Int × Int :=
  let onNode := db.homeNodeAssignments.rows.filter fun a => a.homeNodeID = nodeID
  ((onNode.map HomeNodeAssignment.totalMemoryMB).sum, (onNode.map HomeNodeAssignment.totalCPUPercent).sum)

def homeNode (ns : Bytes) : Option Bytes := (db.homeNodeAssignments.get ns).map HomeNodeAssignment.homeNodeID

def getHomeNode (ns : Bytes) (fault : Option Bytes) : Except DeploymentError Bytes :=
  match fault with
  | some cause => .error ⟨ascii "failed to query home node", some cause⟩
  | none =>
    match homeNode db ns with
    | none => .error errNamespaceNotAssigned
    | some homeNodeID => .ok homeNodeID

def insertAssignment (ns homeNodeID : Bytes) (now : Int) : Database :=
  { db with
    homeNodeAssignments := db.homeNodeAssignments.upsert ⟨ns, homeNodeID, now, now, 0, 0, 0⟩
      (HomeNodeAssignment.moveTo homeNodeID now) (HomeNodeAssignment.ns_moveTo homeNodeID now) }

end

def maxDeploymentsPerNode : Int := 100
def maxMemoryMB : Int := 8192
def maxCPUPercent : Int := 400
def maxPortsPerNode : Int := 9900

structure Arithmetic (R : Type) where
  ofInt : Int → R
  add : R → R → R
  sub : R → R → R
  mul : R → R → R
  div : R → R → R
  less : R → R → Bool
  less_irrefl : ∀ x, less x x = false
  less_trans : ∀ x y z, less x y = true → less y z = true → less x z = true
  less_negTrans : ∀ x y z, less x y = false → less y z = false → less x z = false

def exactArithmetic : Arithmetic Rat where
  ofInt := Rat.ofInt
  add := Rat.add
  sub := Rat.sub
  mul := Rat.mul
  div := Rat.div
  less := Rat.blt
  less_irrefl x := Bool.eq_false_iff.2 (Rat.lt_irrefl (a := x))
  less_trans x y z hxy hyz := by
    have hle : y ≤ z := Rat.le_of_lt hyz
    exact Rat.not_le.1 fun hzx => Rat.not_le.2 hxy (Rat.le_trans hle hzx)
  less_negTrans x y z hxy hyz := by
    have hyx : y ≤ x := Rat.not_lt.1 (Bool.eq_false_iff.1 hxy)
    have hzy : z ≤ y := Rat.not_lt.1 (Bool.eq_false_iff.1 hyz)
    exact Bool.eq_false_iff.2 (Rat.not_lt.2 (Rat.le_trans hzy hyx))

structure NodeCapacity (R : Type) where
  nodeID : Bytes
  deploymentCount : Nat
  allocatedPorts : Nat
  availablePorts : Nat
  usedMemoryMB : Int
  availableMemoryMB : Int
  usedCPUPercent : Int
  score : R
deriving DecidableEq

section
variable {R : Type} (a : Arithmetic R)

def componentScore (used limit : Int) : R :=
  let score := a.sub (a.ofInt 1) (a.div (a.ofInt used) (a.ofInt limit))
  if a.less score (a.ofInt 0) then a.ofInt 0 else score

def calculateCapacityScore (deploymentCount allocatedPorts : Nat) (usedMemoryMB usedCPUPercent : Int) : R :=
  let weigh (score : R) (tenths : Int) := a.mul score (a.div (a.ofInt tenths) (a.ofInt 10))
  a.add (a.add (a.add (weigh (componentScore a deploymentCount maxDeploymentsPerNode) 4)
    (weigh (componentScore a allocatedPorts maxPortsPerNode) 2))
    (weigh (componentScore a usedMemoryMB maxMemoryMB) 2))
    (weigh (componentScore a usedCPUPercent maxCPUPercent) 2)

def availablePortCount (allocatedCount : Nat) : Nat := maxPort - userMinPort + 1 - allocatedCount

def nodeCapacity (nodeID : Bytes) (deploymentCount allocatedPorts availablePorts : Nat) (usage : Int × Int) :
    NodeCapacity R where
  nodeID := nodeID
  deploymentCount := deploymentCount
  allocatedPorts := allocatedPorts
  availablePorts := availablePorts
  usedMemoryMB := usage.1
  availableMemoryMB := maxMemoryMB - usage.1
  usedCPUPercent := usage.2
  score := calculateCapacityScore a deploymentCount allocatedPorts usage.1 usage.2

def selectBestNode : List (NodeCapacity R) → Option (NodeCapacity R)
  | [] => none
  | first :: rest => some (rest.foldl (fun best capacity => if a.less best.score capacity.score then capacity else best) first)

end

open HomeNodeAssignment
namespace HomeNode

inductive Reading where
  | deployments
  | ports (deploymentCount : Nat)
  | available (deploymentCount allocatedPorts : Nat)
  | usage (deploymentCount allocatedPorts availablePorts : Nat)
deriving DecidableEq

inductive Phase (R : Type) where
  | start
  | listing
  | measuring (nodeID : Bytes) (reading : Reading) (rest : List Bytes) (capacities : List (NodeCapacity R))
  | assigning (homeNodeID : Bytes)
  | assigned (homeNodeID : Bytes)
  | failed (error : DeploymentError)
deriving DecidableEq

inductive Event (ι : Type) where
  | statement (call : ι) (fault : Option Bytes) (now : Int)
  | elsewhere (next : Database)

section
variable {R : Type} (a : Arithmetic R)

def measure (capacities : List (NodeCapacity R)) : List Bytes → Phase R
  | nodeID :: rest => .measuring nodeID .deployments rest capacities
  | [] =>
    match selectBestNode a capacities with
    | none => .failed errNoNodesAvailable
    | some best => .assigning best.nodeID

def query (fault : Option Bytes) (db : Database) (nodeID : Bytes) (rest : List Bytes) (capacities : List (NodeCapacity R))
    (reading : Reading) : Phase R :=
  if fault.isSome then measure a capacities rest
  else
    match reading with
    | .deployments => .measuring nodeID (.ports (getDeploymentCount db nodeID)) rest capacities
    | .ports deploymentCount => .measuring nodeID (.available deploymentCount (getNodePortCount db nodeID)) rest capacities
    | .available deploymentCount allocatedPorts =>
      let availablePorts := availablePortCount (getNodePortCount db nodeID)
      .measuring nodeID (.usage deploymentCount allocatedPorts availablePorts) rest capacities
    | .usage deploymentCount allocatedPorts availablePorts =>
      let usage := getNodeResourceUsage db nodeID
      measure a (capacities ++ [nodeCapacity a nodeID deploymentCount allocatedPorts availablePorts usage]) rest

def statement (ns : Bytes) (fault : Option Bytes) (now : Int) (db : Database) : Phase R → Database × Phase R
  | .start =>
    match getHomeNode db ns fault with
    | .ok existing => (db, if existing ≠ [] then .assigned existing else .listing)
    | .error _ => (db, .listing)
  | .listing =>
    match fault with
    | some cause => (db, .failed ⟨ascii "failed to query active nodes", some cause⟩)
    | none =>
      match getActiveNodes db now with
      | [] => (db, .failed errNoNodesAvailable)
      | nodeID :: rest => (db, measure a [] (nodeID :: rest))
  | .measuring nodeID reading rest capacities => (db, query a fault db nodeID rest capacities reading)
  | .assigning homeNodeID =>
    match fault with
    | some cause => (db, .failed ⟨ascii "failed to create home node assignment", some cause⟩)
    | none => (insertAssignment db ns homeNodeID now, .assigned homeNodeID)
  | .assigned homeNodeID => (db, .assigned homeNodeID)
  | .failed error => (db, .failed error)

variable {a} {ns homeNodeID : Bytes} {fault : Option Bytes} {now : Int} {db : Database} {phase : Phase R}

@[simp]
lemma homeNode_insertAssignment (db : Database) (ns homeNodeID : Bytes) (now : Int) :
    homeNode (insertAssignment db ns homeNodeID now) ns = some homeNodeID := by
  rw [homeNode, insertAssignment]
  dsimp only
  have hget := db.homeNodeAssignments.get_upsert_self ⟨ns, homeNodeID, now, now, 0, 0, 0⟩
    (moveTo homeNodeID now) (ns_moveTo homeNodeID now)
  rw [hget]
  cases db.homeNodeAssignments.get ns <;> rfl

lemma getHomeNode_eq_ok : getHomeNode db ns fault = .ok homeNodeID ↔ fault = none ∧ homeNode db ns = some homeNodeID := by
  cases fault with
  | some cause => simp [getHomeNode]
  | none =>
    rw [getHomeNode]
    cases homeNode db ns <;> simp

lemma measure_ne_assigned (capacities : List (NodeCapacity R)) (nodes : List Bytes) (homeNodeID : Bytes) :
    measure a capacities nodes ≠ .assigned homeNodeID := by
  cases nodes with
  | cons nodeID rest => simp [measure]
  | nil =>
    rw [measure]
    split <;> simp

lemma query_ne_assigned (nodeID : Bytes) (rest : List Bytes) (capacities : List (NodeCapacity R)) (reading : Reading)
    (homeNodeID : Bytes) : query a fault db nodeID rest capacities reading ≠ .assigned homeNodeID := by
  unfold query
  split
  · exact measure_ne_assigned capacities rest homeNodeID
  · grind [measure_ne_assigned]

lemma statement_tables (a : Arithmetic R) (ns : Bytes) (fault : Option Bytes) (now : Int) (db : Database) (phase : Phase R) :
    (statement a ns fault now db phase).1 = db ∨ ∃ homeNodeID, fault = none ∧ phase = .assigning homeNodeID ∧
    statement a ns fault now db phase = (insertAssignment db ns homeNodeID now, .assigned homeNodeID) := by
  cases phase with
  | start =>
    rw [statement]
    split <;> exact .inl rfl
  | listing =>
    cases fault with
    | some cause => exact .inl rfl
    | none =>
      rw [statement]
      split <;> exact .inl rfl
  | measuring nodeID reading rest capacities => exact .inl rfl
  | assigning homeNodeID =>
    cases fault with
    | some cause => exact .inl rfl
    | none => exact .inr ⟨homeNodeID, rfl, rfl, rfl⟩
  | assigned homeNodeID => exact .inl rfl
  | failed error => exact .inl rfl

lemma statement_assigned (h : (statement a ns fault now db phase).2 = .assigned homeNodeID) :
    phase = .assigned homeNodeID ∨ homeNode (statement a ns fault now db phase).1 ns = some homeNodeID := by
  cases phase with
  | start => grind [getHomeNode_eq_ok, statement]
  | listing =>
    cases fault with
    | some cause => cases h
    | none => grind [measure_ne_assigned, statement]
  | measuring nodeID reading rest capacities => exact (query_ne_assigned _ _ _ _ _ h).elim
  | assigning best =>
    cases fault with
    | some cause => cases h
    | none =>
      cases h
      exact .inr (homeNode_insertAssignment db ns homeNodeID now)
  | assigned existing =>
    cases h
    exact .inl rfl
  | failed error => cases h

end

section
variable {R ι : Type} (a : Arithmetic R) (ns : Bytes)

def assigner : Interleaving Database (Option ι) (Phase R) (Event ι) where
  process
    | .statement call _ _ => some call
    | .elsewhere _ => none
  act
    | .statement _ fault now, db, phase => statement a ns fault now db phase
    | .elsewhere next, db, phase => (if homeNode next ns = homeNode db ns then next else db, phase)

def initial (db : Database) : Config Database (Option ι) (Phase R) := ⟨db, fun _ => .start⟩

def unassigned (c : Config Database (Option ι) (Phase R)) : Event ι → Bool
  | .statement call none _ =>
    match c.phase (some call) with
    | .assigning homeNodeID => (homeNode c.shared ns).all fun assigned => assigned = homeNodeID
    | _ => true
  | _ => true

structure Agreed (c : Config Database (Option ι) (Phase R)) : Prop where
  same : ∀ i j n m, c.phase (some i) = .assigned n → c.phase (some j) = .assigned m → n = m
  stored : ∀ i n, c.phase (some i) = .assigned n → getHomeNode c.shared ns none = .ok n

variable {a ns} {c : Config Database (Option ι) (Phase R)} {e : Event ι}

lemma agreed_iff : Agreed ns c ↔ ∀ i n, c.phase (some i) = .assigned n → homeNode c.shared ns = some n := by
  constructor
  · intro h i n hi
    exact (getHomeNode_eq_ok.1 (h.stored i n hi)).2
  · intro h
    refine ⟨fun i j n m hi hj => ?_, fun i n hi => getHomeNode_eq_ok.2 ⟨rfl, h i n hi⟩⟩
    exact Option.some_inj.1 ((h i n hi).symm.trans (h j m hj))

variable [DecidableEq ι]

lemma Agreed.homeNode_step (h : Agreed ns c) (hguard : unassigned ns c e) (i : ι) (n : Bytes)
    (hi : c.phase (some i) = .assigned n) : homeNode ((assigner a ns).step c e).shared ns = some n := by
  have hhome : homeNode c.shared ns = some n := agreed_iff.1 h i n hi
  cases e with
  | elsewhere next =>
    change homeNode (if homeNode next ns = homeNode c.shared ns then next else c.shared) ns = some n
    split
    · next hnext => exact hnext.trans hhome
    · exact hhome
  | statement call fault now =>
    change homeNode (statement a ns fault now c.shared (c.phase (some call))).1 ns = some n
    rcases statement_tables a ns fault now c.shared (c.phase (some call)) with heq | ⟨best, rfl, hphase, heq⟩
    · rw [heq]
      exact hhome
    · grind [homeNode_insertAssignment, unassigned]

lemma Agreed.step (h : Agreed ns c) (hguard : unassigned ns c e) : Agreed ns ((assigner a ns).step c e) := by
  refine agreed_iff.2 fun i n hi => ?_
  rcases (assigner a ns).phase_step_cases c e (some i) with ⟨hself, hphase⟩ | ⟨-, hphase⟩
  · cases e with
    | elsewhere next => cases hself
    | statement call fault now =>
      cases hself
      rw [hi] at hphase
      rcases statement_assigned hphase.symm with hbefore | hstored
      · exact h.homeNode_step hguard i n hbefore
      · exact hstored
  · exact h.homeNode_step hguard i n (hphase ▸ hi)

/-- In a run in which a node is only assigned to a namespace that has none, or has that one, the calls that return a node all
return the one that is assigned from then on. -/
theorem home_node_agreed (a : Arithmetic R) (ns : Bytes) (db : Database) (events : List (Event ι))
    (hguard : (assigner a ns).guarded (unassigned ns) (initial db) events = true) :
    Agreed ns ((assigner a ns).run (initial db) events) := by
  refine Interleaving.run_induction (fun c e hc he => hc.step he) ?_ hguard
  refine agreed_iff.2 fun i n hi => ?_
  cases hi

def turns (call : Bool) (count : Nat) (now : Int) : List (Event Bool) := List.replicate count (.statement call none now)

def freshNodes : Database where
  dnsNodes := ⟨[⟨ascii "a", ascii "10.0.0.1", none, .active, 0⟩, ⟨ascii "b", ascii "10.0.0.2", none, .active, 100⟩], by decide⟩
  deployments := .empty
  replicas := .empty
  portAllocations := .empty
  homeNodeAssignments := .empty

/-- Two calls find no assignment. The first one chooses the first of two nodes; the second one comes when that node has not
been seen for two minutes, and its insertion replaces what the first one has returned. -/
theorem home_node_replaced :
    ¬ Agreed (ascii "shop") ((assigner exactArithmetic (ascii "shop")).run (initial freshNodes)
      (turns false 10 100 ++ turns true 6 130 ++ turns false 1 130 ++ turns true 1 130)) := by
  intro h
  have heq := h.same false true (ascii "a") (ascii "b") (by decide +kernel) (by decide +kernel)
  exact absurd heq (by decide)

/-- The calls agree when the second one comes after the first one. -/
theorem home_node_agreed_sequential :
    (assigner exactArithmetic (ascii "shop")).guarded (unassigned (ascii "shop")) (initial freshNodes)
        (turns false 11 100 ++ turns true 1 130) = true ∧
      Agreed (ascii "shop") ((assigner exactArithmetic (ascii "shop")).run (initial freshNodes)
        (turns false 11 100 ++ turns true 1 130)) := by
  have hguard : (assigner exactArithmetic (ascii "shop")).guarded (unassigned (ascii "shop")) (initial freshNodes)
      (turns false 11 100 ++ turns true 1 130) = true := by decide +kernel
  exact ⟨hguard, home_node_agreed exactArithmetic (ascii "shop") freshNodes _ hguard⟩

end
end HomeNode
end Orama.Deployments
