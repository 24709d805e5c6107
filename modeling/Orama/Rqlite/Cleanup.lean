import Orama.Lib.Keyed
import Orama.Lib.Text

namespace Orama.Rqlite.Discovery
open Lib

structure Peer where
  nodeID : Bytes
  raftAddress : Bytes

structure PeerHealth where
  nodeID : Bytes
  lastSeen : Int

inductive Holder
  | cleanup
  | other
deriving DecidableEq

inductive Phase
  | start
  | writing
  | returned

structure ClusterDiscoveryService where
  writer : Option Holder
  readers : Nat
  knownPeers : Keyed Peer Peer.nodeID
  peerHealth : Keyed PeerHealth PeerHealth.nodeID
  inactivityLimit : Int
  peersFile : List Bytes
  phase : Phase

/-- A turn of the cleanup, or what other goroutines do with the lock and, before they give it back, with the peers. -/
inductive Event
  | cleanup (now : Int)
  | lock
  | unlock (knownPeers : Keyed Peer Peer.nodeID) (peerHealth : Keyed PeerHealth PeerHealth.nodeID)
  | rLock
  | rUnlock

variable (c : ClusterDiscoveryService)

def inactive (now : Int) (health : PeerHealth) : Bool :=
  c.inactivityLimit < min (now - health.lastSeen) 9223372036854775807

def removeInactivePeers (now : Int) : ClusterDiscoveryService :=
  match c.phase with
  | .start =>
    if c.writer ≠ none ∨ 0 < c.readers then c
    else
      let removed := (c.peerHealth.rows.filter (inactive c now)).map PeerHealth.nodeID
      if removed = [] then { c with phase := .returned }
      else { c with
        writer := some .cleanup
        knownPeers := c.knownPeers.delete fun p => removed.contains p.nodeID
        peerHealth := c.peerHealth.delete (inactive c now)
        phase := .writing }
  -- writePeersJSON takes the read lock
  | .writing =>
    if c.writer ≠ none then c
    else { c with peersFile := c.knownPeers.rows.map Peer.raftAddress, phase := .returned }
  | .returned => c

def step : Event → ClusterDiscoveryService
  | .cleanup now => removeInactivePeers c now
  | .lock => if c.writer ≠ none ∨ 0 < c.readers then c else { c with writer := some .other }
  | .unlock knownPeers peerHealth =>
    if c.writer = some .other then { c with writer := none, knownPeers, peerHealth } else c
  | .rLock => if c.writer ≠ none then c else { c with readers := c.readers + 1 }
  | .rUnlock => { c with readers := c.readers - 1 }

variable {c}

/-- The cleanup waits for the read lock and is the one that holds the lock. -/
def Stuck (c : ClusterDiscoveryService) : Prop := c.phase = .writing ∧ c.writer = some .cleanup

lemma Stuck.step (h : Stuck c) (e : Event) : Stuck (step c e) := by
  obtain ⟨hphase, hwriter⟩ := h
  cases e <;> simp [Discovery.step, removeInactivePeers, Stuck, hphase, hwriter]

lemma Stuck.foldl (h : Stuck c) (events : List Event) : Stuck (events.foldl Discovery.step c) := by
  induction events generalizing c with
  | nil => exact h
  | cons e events ih => exact ih (h.step e)

/-- Once it has the lock, the cleanup returns exactly when there is nothing to remove, and leaves all as it is. -/
theorem cleanup_returns_iff (c : ClusterDiscoveryService) (hphase : c.phase = .start) (hwriter : c.writer = none)
    (hreaders : c.readers = 0) (now : Int) :
    ((∃ events : List Event, (events.foldl step (step c (.cleanup now))).phase = .returned) ↔
      ∀ health ∈ c.peerHealth.rows, inactive c now health = false) ∧
    ((∀ health ∈ c.peerHealth.rows, inactive c now health = false) →
      step c (.cleanup now) = { c with phase := .returned }) := by
  have hquiet : (∀ health ∈ c.peerHealth.rows, inactive c now health = false) →
      step c (.cleanup now) = { c with phase := .returned } := by
    intro hnone
    simpa [step, removeInactivePeers, hphase, hwriter, hreaders] using hnone
  refine ⟨⟨?_, fun hnone => ⟨[], congrArg ClusterDiscoveryService.phase (hquiet hnone)⟩⟩, hquiet⟩
  rintro ⟨events, hreturned⟩
  by_contra hsome
  have hstuck : Stuck (step c (.cleanup now)) := by
    simp [Stuck, step, removeInactivePeers, hphase, hwriter, hreaders, hsome]
  rw [(hstuck.foldl events).1] at hreturned
  cases hreturned

def seenAt (lastSeen : Int) : ClusterDiscoveryService :=
  ⟨none, 0, ⟨[⟨[1], [2]⟩], by simp⟩, ⟨[⟨[1], lastSeen⟩], by simp⟩, 10, [[2]], .start⟩

theorem cleanup_of_seen : step (seenAt 5) (.cleanup 9) = { seenAt 5 with phase := .returned } :=
  (cleanup_returns_iff (seenAt 5) rfl rfl rfl 9).2 (by simp [seenAt, inactive])

/-- The goroutine that holds the lock for writing asks for it for reading. -/
theorem cleanup_deadlocks :
    ¬ ∃ events : List Event, (events.foldl step (step (seenAt 5) (.cleanup 99))).phase = .returned := by
  rintro ⟨events, hreturned⟩
  rw [(Stuck.foldl ⟨rfl, rfl⟩ events).1] at hreturned
  cases hreturned

end Orama.Rqlite.Discovery
