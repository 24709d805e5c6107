import Orama.Shamir.Correctness

namespace Orama.Vault.Client
open Shamir

structure Endpoint where
  address : String
  port : Nat
deriving DecidableEq, Repr

def Endpoint.render (ep : Endpoint) : String := ep.address ++ ":" ++ toString ep.port

structure VaultConfig where
  guardians : List Endpoint
  distinct : guardians.Nodup

def adaptiveThreshold (n : Nat) : Nat := max 3 (n / 3)

def writeQuorum (n : Nat) : Nat :=
  if n = 0 then 0 else if n ≤ 2 then n else (2 * n + 2) / 3

inductive ErrorCode
  | timeout
  | notFound
  | auth
  | conflict
  | serverError
  | network
deriving DecidableEq, Repr

structure GuardianError where
  code : ErrorCode
  message : String
deriving DecidableEq, Repr

def classifyHttpStatus (status : Nat) : ErrorCode :=
  if status = 404 then .notFound
  else if status = 401 ∨ status = 403 then .auth
  else if status = 409 then .conflict
  else if status ≥ 500 then .serverError
  else .network

structure Held where
  version : Nat
  share : List UInt8
deriving DecidableEq, Repr

abbrev Cluster := Endpoint → Option Held

def accept (held : Option Held) (version : Nat) (share : List UInt8) : Option Held × Except GuardianError Unit :=
  if held.any fun h => version ≤ h.version then
    (held, .error ⟨classifyHttpStatus 400, "version must be greater than current stored version"⟩)
  else (some ⟨version, share⟩, .ok ())

inductive Delivery
  | lost (err : GuardianError)
  | unanswered (err : GuardianError)
  | answered
deriving Repr

def putSecret (d : Delivery) (held : Option Held) (version : Nat) (share : List UInt8) :
    Option Held × Except GuardianError Unit :=
  match d with
  | .lost err => (held, .error err)
  | .unanswered err => ((accept held version share).1, .error err)
  | .answered => accept held version share

section
variable {σ α : Type}

def withRetry (fn : Nat → σ → σ × Except GuardianError α) : Nat → Nat → σ → σ × Except GuardianError α
  | 0, i, s => fn i s
  | left + 1, i, s =>
    match fn i s with
    | (s, .ok a) => (s, .ok a)
    | (s, .error err) =>
      if err.code = .auth ∨ err.code = .notFound then (s, .error err)
      else withRetry fn left (i + 1) s

lemma withRetry_rule (fn : Nat → σ → σ × Except GuardianError α) (P Q : σ → Prop)
    (hP : ∀ i s, P s → P (fn i s).1) (hQ : ∀ i s a, P s → (fn i s).2 = .ok a → Q (fn i s).1)
    (left i : Nat) (s : σ) (hs : P s) :
    P (withRetry fn left i s).1 ∧ ∀ a, (withRetry fn left i s).2 = .ok a → Q (withRetry fn left i s).1 := by
  induction left generalizing i s with
  | zero => exact ⟨hP i s hs, fun a => hQ i s a hs⟩
  | succ left ih =>
    have hp := hP i s hs
    have hq := fun a => hQ i s a hs
    unfold withRetry
    generalize fn i s = r at hp hq
    obtain ⟨s', r⟩ := r
    cases r with
    | ok a => exact ⟨hp, hq⟩
    | error err =>
      dsimp only
      split
      · exact ⟨hp, hq⟩
      · exact ih (i + 1) s' hp

end

def shareBytes (s : Share) : List UInt8 := s.x :: s.y

def push (cfg : VaultConfig) (shares : List Share) (version : Nat) (put : Nat → Delivery)
    (held : Option Held) (ep : Endpoint) : Option Held × Except String Unit :=
  match shares[cfg.guardians.idxOf ep]? with
  | none => (held, .error "share index out of bounds")
  | some share =>
    let r := withRetry (fun i held => putSecret (put i) held version (shareBytes share)) 2 0 held
    (r.1, r.2.mapError GuardianError.message)

structure GuardianResult where
  endpoint : String
  success : Bool
  error : Option String
deriving DecidableEq, Repr

structure StoreResult where
  ackCount : Nat
  totalContacted : Nat
  failCount : Nat
  quorumMet : Bool
  guardianResults : List GuardianResult
deriving DecidableEq, Repr

structure StoreNet where
  auth : Endpoint → Bool
  put : Endpoint → Nat → Delivery

def authenticateAll (auth : Endpoint → Bool) (endpoints : List Endpoint) : List Endpoint :=
  endpoints.filter auth

def guardianResult (ep : Endpoint) : Except String Unit → GuardianResult
  | .ok _ => ⟨ep.render, true, none⟩
  | .error message => ⟨ep.render, false, some message⟩

def isFulfilled {α : Type} : Except String α → Bool
  | .ok _ => true
  | .error _ => false

structure StoreCall where
  data : List UInt8
  version : Nat
  tape : Tape
  net : StoreNet

def store (cfg : VaultConfig) (c : StoreCall) (cluster : Cluster) : Except Ts.Error (Cluster × StoreResult) := do
  let n := cfg.guardians.length
  let k := adaptiveThreshold n
  let shares ← Ts.split c.data n k c.tape
  let authed := authenticateAll c.net.auth cfg.guardians
  let pushed := fun ep => push cfg shares c.version (c.net.put ep) (cluster ep) ep
  let results := authed.map fun ep => (pushed ep).2
  let ackCount := (results.filter isFulfilled).length
  let failCount := (results.filter fun r => !isFulfilled r).length
  .ok (fun ep => if ep ∈ authed then (pushed ep).1 else cluster ep,
    ⟨ackCount, authed.length, failCount, decide (ackCount ≥ writeQuorum n),
    authed.map fun ep => guardianResult ep (pushed ep).2⟩)

def acks (cfg : VaultConfig) (c : StoreCall) (cluster : Cluster) : List Endpoint :=
  match Ts.split c.data cfg.guardians.length (adaptiveThreshold cfg.guardians.length) c.tape with
  | .error _ => []
  | .ok shares => (authenticateAll c.net.auth cfg.guardians).filter fun ep =>
      isFulfilled (push cfg shares c.version (c.net.put ep) (cluster ep) ep).2

/-- The network during a retrieval: which guardians can be authenticated with,
and which requests fail before an answer arrives. -/
structure PullNet where
  auth : Endpoint → Bool
  failure : Endpoint → Option GuardianError

def getSecret (failure : Option GuardianError) (held : Option Held) : Except GuardianError Held :=
  match failure, held with
  | some err, _ => .error err
  | none, none => .error ⟨classifyHttpStatus 404, "secret not found"⟩
  | none, some h => .ok h

def pull (failure : Option GuardianError) (held : Option Held) : Except String Share :=
  match getSecret failure held with
  | .error err => .error err.message
  | .ok h =>
    match h.share with
    | x :: y₀ :: ys => .ok ⟨x, y₀ :: ys⟩
    | _ => .error "Share too short"

inductive RetrieveError
  | notEnoughShares (collected required contacted : Nat)
  | combine (err : Ts.Error)
deriving DecidableEq, Repr

def RetrieveError.message : RetrieveError → String
  | notEnoughShares collected required contacted =>
    "Not enough shares: collected " ++ toString collected ++ " of " ++ toString required ++
      " required (contacted " ++ toString contacted ++ " guardians)"
  | combine err => err.message

structure RetrieveResult where
  data : List UInt8
  sharesCollected : Nat
deriving DecidableEq, Repr

def collect (cfg : VaultConfig) (net : PullNet) (cluster : Cluster) : List Share :=
  (authenticateAll net.auth cfg.guardians).filterMap fun ep =>
    (pull (net.failure ep) (cluster ep)).toOption

def retrieve (cfg : VaultConfig) (net : PullNet) (cluster : Cluster) : Except RetrieveError RetrieveResult :=
  let k := adaptiveThreshold cfg.guardians.length
  let shares := collect cfg net cluster
  if shares.length < k then
    .error (.notEnoughShares shares.length k (authenticateAll net.auth cfg.guardians).length)
  else
    match Ts.combine shares with
    | .error err => .error (.combine err)
    | .ok data => .ok ⟨data, shares.length⟩

def step (cfg : VaultConfig) (cluster : Cluster) (c : StoreCall) : Cluster :=
  match store cfg c cluster with
  | .error _ => cluster
  | .ok r => r.1

def run (cfg : VaultConfig) (calls : List StoreCall) : Cluster := calls.foldl (step cfg) fun _ => none

end Orama.Vault.Client
