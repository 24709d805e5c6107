import Orama.Lib.Interleaving
import Orama.Lib.Text

namespace Orama.Gateway.Circuit
open Lib

inductive CircuitState where
  | closed
  | open
  | halfOpen
deriving DecidableEq

def failureThreshold : Nat := 5
def openDuration : Int := 30000000000

structure CircuitBreaker where
  state : CircuitState
  failures : Nat
  lastFailure : Int
deriving DecidableEq

def newCircuitBreaker : CircuitBreaker := ⟨.closed, 0, 0⟩

namespace CircuitBreaker

def allow (cb : CircuitBreaker) (now : Int) : CircuitBreaker × Bool :=
  match cb.state with
  | .closed => (cb, true)
  | .open => if openDuration ≤ now - cb.lastFailure then ({ cb with state := .halfOpen }, true) else (cb, false)
  | .halfOpen => (cb, false)

def recordSuccess (cb : CircuitBreaker) : CircuitBreaker := { cb with failures := 0, state := .closed }

def recordFailure (cb : CircuitBreaker) (now : Int) : CircuitBreaker where
  failures := cb.failures + 1
  lastFailure := now
  state := if failureThreshold ≤ cb.failures + 1 then .open else cb.state

def Sound (cb : CircuitBreaker) : Prop := cb.state ≠ .closed → failureThreshold ≤ cb.failures

structure Recovers (cb : CircuitBreaker) : Prop where
  not_halfOpen : cb.state ≠ .halfOpen
  allows : ∀ now, cb.lastFailure + openDuration ≤ now → (cb.allow now).2 = true

variable {cb : CircuitBreaker} {now : Int}

lemma allow_cases (cb : CircuitBreaker) (now : Int) : (cb.state = .closed ∧ cb.allow now = (cb, true)) ∨
      (cb.state = .open ∧ openDuration ≤ now - cb.lastFailure ∧ cb.allow now = ({ cb with state := .halfOpen }, true)) ∨
      (cb.state ≠ .closed ∧ cb.allow now = (cb, false)) := by
  grind [allow]

lemma Sound.recordFailure (h : cb.Sound) (now : Int) : (cb.recordFailure now).Sound := by
  intro hstate
  rw [CircuitBreaker.recordFailure] at hstate ⊢
  dsimp only at hstate ⊢
  split at hstate
  · assumption
  · exact Nat.le_succ_of_le (h hstate)

lemma sound_recordSuccess (cb : CircuitBreaker) : cb.recordSuccess.Sound := fun h => absurd rfl h

lemma Sound.recordFailure_ne_halfOpen (h : cb.Sound) (now : Int) : (cb.recordFailure now).state ≠ .halfOpen := by
  rw [CircuitBreaker.recordFailure]
  dsimp only
  split
  · simp
  · next hfew =>
    intro hstate
    exact hfew (Nat.le_succ_of_le (h (by simp [hstate])))

lemma recovers_of_ne_halfOpen (h : cb.state ≠ .halfOpen) : cb.Recovers := by
  refine ⟨h, fun now hnow => ?_⟩
  rw [allow]
  cases hstate : cb.state with
  | closed => rfl
  | «open» =>
    dsimp only
    rw [if_pos (by omega)]
  | halfOpen => exact absurd hstate h

end CircuitBreaker

structure Target where
  ip : Bytes
  port : Nat
  ip_ne_nil : ip ≠ []
deriving DecidableEq

def Target.cbKey (t : Target) : Bytes := ascii "ns:" ++ t.ip

def orderedTargets (localWireGuardIP : Bytes) (hash : Nat) (targets : List Target) : List Target :=
  let localIdx := if localWireGuardIP ≠ [] then targets.findIdx? fun t => t.ip = localWireGuardIP else none
  let hashIdx := hash % targets.length
  (localIdx.bind fun i => targets[i]?).toList ++ (if some hashIdx ≠ localIdx then targets[hashIdx]?.toList else []) ++
    (targets.zipIdx.filter fun t => some t.2 ≠ localIdx && t.2 ≠ hashIdx).map Prod.fst

structure ProxyRequest where
  localWireGuardIP : Bytes
  /-- Of the key by which requests stay on one node. -/
  hash : Nat
  targets : List Target
  isWebSocketUpgrade : Bool
  /-- A request for the target can be made from the method and the path. -/
  requestable : Bool
deriving DecidableEq

def ProxyRequest.records (r : ProxyRequest) : Bool := !r.isWebSocketUpgrade && r.requestable

inductive Outcome where
  | error
  | answer (status : Nat)
deriving DecidableEq

def isResponseFailure (statusCode : Nat) : Bool := statusCode = 502 || statusCode = 503 || statusCode = 504

def CircuitBreaker.record (cb : CircuitBreaker) (now : Int) : Outcome → CircuitBreaker
  | .error => cb.recordFailure now
  | .answer status => if isResponseFailure status then cb.recordFailure now else cb.recordSuccess

inductive Phase where
  | selecting (candidates : List Target)
  | admitted (target : Target)
  | relaying (target : Target)
  | sent (target : Target)
  | finished
deriving DecidableEq

structure Event (ι : Type) where
  request : ι
  now : Int
  outcome : Outcome

abbrev Breakers := Bytes → CircuitBreaker

variable {ι : Type}

def handle (r : ProxyRequest) (e : Event ι) (breakers : Breakers) : Phase → Breakers × Phase
  | .selecting [] => (breakers, .finished)
  | .selecting (candidate :: rest) =>
    let allowed := (breakers candidate.cbKey).allow e.now
    (Function.update breakers candidate.cbKey allowed.1, if allowed.2 then .admitted candidate else .selecting rest)
  | .admitted target =>
    (breakers, if r.isWebSocketUpgrade then .relaying target else if r.requestable then .sent target else .finished)
  | .relaying _ => (breakers, .finished)
  | .sent target =>
    (Function.update breakers target.cbKey ((breakers target.cbKey).record e.now e.outcome), .finished)
  | .finished => (breakers, .finished)

def Phase.target : Phase → Option Target
  | .selecting _ => none
  | .admitted target => some target
  | .relaying target => some target
  | .sent target => some target
  | .finished => none

def Phase.inProgress (phase : Phase) (key : Bytes) : Bool := phase.target.any fun t => t.cbKey = key

attribute [local grind] Phase.inProgress Phase.target

section
variable (requests : ι → ProxyRequest)

def proxy : Interleaving Breakers ι Phase (Event ι) where
  process := Event.request
  act e breakers phase := handle (requests e.request) e breakers phase

def initial : Config Breakers ι Phase :=
  ⟨fun _ => newCircuitBreaker, fun i =>
    .selecting (orderedTargets (requests i).localWireGuardIP (requests i).hash (requests i).targets)⟩

def probes (c : Config Breakers ι Phase) (e : Event ι) (key : Bytes) : Bool :=
  match c.phase e.request with
  | .selecting (candidate :: _) =>
    candidate.cbKey = key && (c.shared key).state = .open && openDuration ≤ e.now - (c.shared key).lastFailure
  | _ => false

def SingleProbe (key : Bytes) (c : Config Breakers ι Phase) (e : Event ι) : Prop :=
  probes c e key = true → (requests e.request).records = true ∧ ∀ i, (c.phase i).inProgress key = false

instance [Fintype ι] (key : Bytes) (c : Config Breakers ι Phase) (e : Event ι) : Decidable (SingleProbe requests key c e) :=
  inferInstanceAs (Decidable (_ → _))

structure Healthy (key : Bytes) (c : Config Breakers ι Phase) : Prop where
  recovers : (∀ i, (c.phase i).inProgress key = false) → (c.shared key).Recovers
  alone : (c.shared key).state = .halfOpen →
    ∀ i j, (c.phase i).inProgress key = true → (c.phase j).inProgress key = true → i = j

structure Invariant (key : Bytes) (c : Config Breakers ι Phase) : Prop where
  sound : (c.shared key).Sound
  relaying : ∀ i t, c.phase i = .relaying t → (requests i).isWebSocketUpgrade = true
  probe : (c.shared key).state = .halfOpen → ∃ i, (c.phase i).inProgress key = true ∧ (requests i).records = true ∧
    ∀ j, (c.phase j).inProgress key = true → j = i

variable {requests} {c : Config Breakers ι Phase} {e : Event ι} {key : Bytes}

lemma Invariant.healthy (h : Invariant requests key c) : Healthy key c := by
  refine ⟨fun hnone => CircuitBreaker.recovers_of_ne_halfOpen fun hhalf => ?_, fun hhalf i j hi hj => ?_⟩
  · obtain ⟨i, hi, -⟩ := h.probe hhalf
    rw [hnone i] at hi
    cases hi
  · obtain ⟨k, -, -, hk⟩ := h.probe hhalf
    rw [hk i hi, hk j hj]

lemma CircuitBreaker.Sound.record {cb : CircuitBreaker} (h : cb.Sound) (now : Int) (outcome : Outcome) :
    (cb.record now outcome).Sound ∧ (cb.record now outcome).state ≠ .halfOpen := by
  cases outcome with
  | error => exact ⟨h.recordFailure now, h.recordFailure_ne_halfOpen now⟩
  | answer status =>
    rw [CircuitBreaker.record]
    split
    · exact ⟨h.recordFailure now, h.recordFailure_ne_halfOpen now⟩
    · exact ⟨cb.sound_recordSuccess, by simp [CircuitBreaker.recordSuccess]⟩

lemma relaying_of_handle {r : ProxyRequest} {breakers : Breakers} {phase : Phase} {t : Target}
    (h : (handle r e breakers phase).2 = .relaying t) : r.isWebSocketUpgrade := by
  cases phase with
  | selecting candidates =>
    cases candidates with
    | nil => cases h
    | cons candidate rest =>
      rw [handle] at h
      dsimp only at h
      split at h <;> cases h
  | admitted target => grind [handle]
  | relaying target => cases h
  | sent target => cases h
  | finished => cases h

/-- What a step does to a breaker and to its requests in progress: nothing; or the breaker is closed or open afterwards; or the
step lets its request through as a probe; or it sends a request whose outcome is recorded. -/
lemma handle_effect (requests : ι → ProxyRequest) (c : Config Breakers ι Phase) (e : Event ι) (key : Bytes)
    (hsound : (c.shared key).Sound) :
    let next := handle (requests e.request) e c.shared (c.phase e.request)
    (next.1 key).Sound ∧ ((next.1 key = c.shared key ∧ next.2.inProgress key = (c.phase e.request).inProgress key) ∨
        (next.1 key).state ≠ .halfOpen ∨ (probes c e key ∧ next.2.inProgress key) ∨
        (next.1 key = c.shared key ∧ (c.phase e.request).inProgress key ∧
        ((requests e.request).records = false ∨ ∃ t, c.phase e.request = .relaying t))) := by
  cases hphase : c.phase e.request with
  | selecting candidates =>
    cases candidates with
    | nil => exact ⟨hsound, .inl ⟨rfl, rfl⟩⟩
    | cons candidate rest =>
      rw [handle]
      dsimp only
      by_cases hkey : candidate.cbKey = key
      · subst hkey
        rw [Function.update_self]
        rcases (c.shared candidate.cbKey).allow_cases e.now with ⟨hclosed, heq⟩ | ⟨hopen, hsince, heq⟩ | ⟨hnot, heq⟩
        · grind
        · rw [heq]
          refine ⟨fun _ => hsound (by simp [hopen]), .inr (.inr (.inl ⟨?_, ?_⟩))⟩
          · simp [probes, hphase, hopen, hsince]
          · simp [Phase.inProgress, Phase.target]
        · grind
      · grind
  | admitted target =>
    rw [handle]
    dsimp only
    refine ⟨hsound, ?_⟩
    by_cases hkey : target.cbKey = key
    · by_cases hrecords : (requests e.request).records
      · grind [ProxyRequest.records]
      · grind
    · grind
  | relaying target =>
    rw [handle]
    refine ⟨hsound, ?_⟩
    by_cases hkey : target.cbKey = key
    · grind
    · exact .inl ⟨rfl, by simp [Phase.inProgress, Phase.target, hkey]⟩
  | sent target =>
    rw [handle]
    dsimp only
    by_cases hkey : target.cbKey = key
    · grind [CircuitBreaker.Sound.record]
    · grind
  | finished => exact ⟨hsound, .inl ⟨rfl, rfl⟩⟩

variable [DecidableEq ι]

lemma Invariant.step (h : Invariant requests key c) (hprobe : SingleProbe requests key c e) :
    Invariant requests key ((proxy requests).step c e) := by
  obtain ⟨hsound, heffect⟩ := handle_effect requests c e key h.sound
  have hself : ((proxy requests).step c e).phase e.request =
      (handle (requests e.request) e c.shared (c.phase e.request)).2 := (proxy requests).phase_step_self c e
  have hother : ∀ i, i ≠ e.request → ((proxy requests).step c e).phase i = c.phase i := fun i hi =>
    (proxy requests).phase_step_of_ne hi
  refine ⟨hsound, fun i t hi => ?_, fun hhalf => ?_⟩
  · by_cases hie : i = e.request
    · subst hie
      rw [hself] at hi
      exact relaying_of_handle hi
    · rw [hother i hie] at hi
      exact h.relaying i t hi
  · rcases heffect with ⟨hbreaker, hprogress⟩ | hnot | ⟨hopen, hprogress⟩ | ⟨hbreaker, hprogress, hlost⟩
    · -- The breaker waits for the same request as before.
      obtain ⟨i, hi, hrecords, honly⟩ := h.probe ((congrArg CircuitBreaker.state hbreaker).symm.trans hhalf)
      have hsame : ∀ j, (((proxy requests).step c e).phase j).inProgress key = (c.phase j).inProgress key := by
        intro j
        by_cases hje : j = e.request
        · rw [hje, hself, hprogress]
        · rw [hother j hje]
      exact ⟨i, (hsame i).trans hi, hrecords, fun j hj => honly j ((hsame j).symm.trans hj)⟩
    · exact absurd hhalf hnot
    · obtain ⟨hrecords, hnone⟩ := hprobe hopen
      refine ⟨e.request, by rw [hself]; exact hprogress, hrecords, fun j hj => ?_⟩
      by_contra hje
      rw [hother j hje, hnone j] at hj
      cases hj
    · -- A request that is not recorded is not the one that the breaker waits for.
      obtain ⟨i, -, hrecords, honly⟩ := h.probe ((congrArg CircuitBreaker.state hbreaker).symm.trans hhalf)
      rw [← honly e.request hprogress] at hrecords
      rcases hlost with hnot | ⟨t, hrelaying⟩
      · rw [hnot] at hrecords
        cases hrecords
      · rw [ProxyRequest.records, h.relaying e.request t hrelaying] at hrecords
        cases hrecords

/-- In a run in which every probe has its outcome recorded and comes when no other request is in progress, a circuit recovers. -/
theorem circuit_recovers (requests : ι → ProxyRequest) (key : Bytes) (events : List (Event ι))
    (hprobe : (proxy requests).Respects (SingleProbe requests key) (initial requests) events) :
    Healthy key ((proxy requests).run (initial requests) events) := by
  have hinv : Invariant requests key ((proxy requests).run (initial requests) events) := by
    refine hprobe.induction (fun c e hc he => hc.step he) ⟨fun h => absurd rfl h, fun i t hi => ?_, fun hhalf => ?_⟩
    · cases hi
    · cases hhalf
  exact hinv.healthy

def soleTarget : Target := ⟨ascii "10.0.0.2", 10004, by decide⟩

def sixRequests (webSocket : Bool) (i : Fin 6) : ProxyRequest := ⟨[], 0, [soleTarget], webSocket && i = 5, true⟩

def fiveFailures (outcome : Outcome) : List (Event (Fin 6)) :=
  ([0, 1, 2, 3, 4] : List (Fin 6)).flatMap (fun i => List.replicate 3 ⟨i, 0, .error⟩) ++
    List.replicate 3 ⟨5, openDuration, outcome⟩

/-- After five failures a web socket is let through and ends. Nothing is in progress, and the breaker lets nothing through. -/
theorem circuit_stuck_half_open :
    let c := (proxy (sixRequests true)).run (initial (sixRequests true)) (fiveFailures .error)
    (∀ i, c.phase i = .finished) ∧ (c.shared soleTarget.cbKey).state = .halfOpen ∧
      ∀ now, ((c.shared soleTarget.cbKey).allow now).2 = false := by
  have hbreaker : ((proxy (sixRequests true)).run (initial (sixRequests true)) (fiveFailures .error)).shared
      soleTarget.cbKey = ⟨.halfOpen, 5, 0⟩ := by decide
  refine ⟨by decide, ?_, fun now => ?_⟩
  · rw [hbreaker]
  · rw [hbreaker]
    rfl

/-- The circuit recovers when the probe is an ordinary request. -/
theorem circuit_recovers_probed :
    Healthy soleTarget.cbKey ((proxy (sixRequests false)).run (initial (sixRequests false)) (fiveFailures (.answer 200))) :=
  circuit_recovers (sixRequests false) soleTarget.cbKey (fiveFailures (.answer 200)) (by decide)

end
end Orama.Gateway.Circuit
