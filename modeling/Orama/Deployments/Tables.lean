import Orama.Lib.Keyed
import Orama.Lib.Net
import Orama.Lib.Ranking
import Orama.Namespace.Tables

namespace Orama.Deployments
open Lib Namespace

inductive DeploymentType where
  | static
  | nextJS
  | nextJSStatic
  | goBackend
  | goWASM
  | nodeJSBackend
deriving DecidableEq

inductive DeploymentStatus where
  | deploying
  | active
  | failed
  | degraded
  | stopped
  | updating
deriving DecidableEq

inductive RestartPolicy where
  | always
  | onFailure
  | never
deriving DecidableEq

inductive ReplicaStatus where
  | pending
  | active
  | failed
  | removing
deriving DecidableEq

def defaultReplicaCount : Nat := 2
def defaultMaxRestartCount : Int := 10
def userMinPort : Nat := 10100
def maxPort : Nat := 19999

structure Deployment where
  id : Bytes
  type : DeploymentType
  status : DeploymentStatus
  homeNodeID : Bytes
  restartPolicy : RestartPolicy
  maxRestartCount : Int
deriving DecidableEq

structure Replica where
  deploymentID : Bytes
  nodeID : Bytes
  port : Int
  status : ReplicaStatus
  isPrimary : Bool
  createdAt : Int
  updatedAt : Int
deriving DecidableEq

def Replica.key (r : Replica) : Bytes × Bytes := (r.deploymentID, r.nodeID)

structure PortAllocation where
  nodeID : Bytes
  port : Nat
  deploymentID : Bytes
deriving DecidableEq

def PortAllocation.key (a : PortAllocation) : Bytes × Nat := (a.nodeID, a.port)

structure HomeNodeAssignment where
  ns : Bytes
  homeNodeID : Bytes
  assignedAt : Int
  lastHeartbeat : Int
  deploymentCount : Int
  totalMemoryMB : Int
  totalCPUPercent : Int
deriving DecidableEq

structure DeploymentError where
  message : Bytes
  cause : Option Bytes
deriving DecidableEq

def DeploymentError.error (e : DeploymentError) : Bytes :=
  match e.cause with
  | some cause => e.message ++ ascii ": " ++ cause
  | none => e.message

def errNoNodesAvailable : DeploymentError := ⟨ascii "no nodes available for deployment", none⟩

def errNamespaceNotAssigned : DeploymentError := ⟨ascii "namespace has no home node assigned", none⟩

structure Database where
  dnsNodes : DnsNodes
  deployments : Keyed Deployment Deployment.id
  replicas : Keyed Replica Replica.key
  portAllocations : Keyed PortAllocation PortAllocation.key
  homeNodeAssignments : Keyed HomeNodeAssignment HomeNodeAssignment.ns

end Orama.Deployments
