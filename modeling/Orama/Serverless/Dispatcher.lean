import Orama.Lib.Interleaving
import Orama.Lib.Net
import Orama.Serverless.Triggers

namespace Orama.Serverless
open Lib

structure Subscription where
  ns : Bytes
  topic : Bytes
deriving DecidableEq

def subKey (s : Subscription) : Bytes := s.ns ++ 124 :: s.topic

def Subscription.before (a b : Subscription) : Prop := ¬ (Net.less b.ns a.ns ∨ (b.ns = a.ns ∧ Net.less b.topic a.topic))

instance (a b : Subscription) : Decidable (a.before b) :=
  inferInstanceAs (Decidable (¬ (Net.less b.ns a.ns ∨ (b.ns = a.ns ∧ Net.less b.topic a.topic))))

def PubSubTriggerStore.listDistinctTopicPatterns (store : PubSubTriggerStore) : List Subscription :=
  (store.triggers.rows.filterMap fun t =>
    match store.functions.get t.functionID with
    | none => none
    | some f => if t.enabled && f.active then some ⟨f.ns, t.topicPattern⟩ else none).dedup.insertionSort
      Subscription.before

def lastOfKey : List Subscription → List Subscription
  | [] => []
  | s :: rest => if rest.any fun r => subKey r = subKey s then lastOfKey rest else s :: lastOfKey rest

def desired (store : PubSubTriggerStore) : List Subscription :=
  lastOfKey (store.listDistinctTopicPatterns.filter fun s => !isWildcard s.topic)

def refresh (store : PubSubTriggerStore) (subscribed : List Subscription) (accepts : Subscription → Bool) :
    List Subscription :=
  (subscribed.filter fun s => (desired store).any fun d => subKey d = subKey s) ++
    (desired store).filter fun d => !(subscribed.any fun s => subKey s = subKey d) && accepts d

structure DedupEntry where
  key : Bytes
  expiry : Int
deriving DecidableEq

def DedupEntry.renew (expiry : Int) (e : DedupEntry) : DedupEntry := { e with expiry := expiry }

lemma DedupEntry.key_renew (expiry : Int) (e : DedupEntry) : (e.renew expiry).key = e.key := rfl

def localDedupTTL : Int := 30000000000
def localDedupMaxEntries : Nat := 4096

def sweepExpired (entries : Keyed DedupEntry DedupEntry.key) (now : Int) : Keyed DedupEntry DedupEntry.key :=
  entries.delete fun e => e.expiry ≤ now

def claim (entries : Keyed DedupEntry DedupEntry.key) (now : Int) (key : Bytes) :
    Bool × Keyed DedupEntry DedupEntry.key :=
  if (entries.get key).any fun e => now < e.expiry then (false, entries)
  else
    let entries := if localDedupMaxEntries ≤ entries.rows.length then sweepExpired entries now else entries
    if localDedupMaxEntries ≤ entries.rows.length then (true, entries)
    else
      (true, entries.upsert ⟨key, now + localDedupTTL⟩ (DedupEntry.renew (now + localDedupTTL))
        (DedupEntry.key_renew (now + localDedupTTL)))

def dispatchDedupKey (s : Subscription) (data : Option Bytes) : Bytes :=
  s.ns ++ 124 :: s.topic ++ 124 :: bytesToHex ((Sha256.hash (data.getD [])).take 16)

structure PubSubEvent where
  topic : Bytes
  data : Option Bytes
  ns : Bytes
  triggerDepth : Nat
  timestamp : Int
deriving DecidableEq

def marshals (data : Option Bytes) : Bool :=
  match data with
  | none => true
  | some text => Json.valid text

structure Firing where
  trigger : TriggerMatch
  event : PubSubEvent
  buffered : Bool
deriving DecidableEq

def fire (found : List TriggerMatch) (event : PubSubEvent) : List Firing :=
  found.filterMap fun m =>
    if 0 < m.aggregationWindowMs then some ⟨m, event, true⟩
    else if marshals event.data then some ⟨m, event, false⟩
    else none

def filterWildcardMatches (found : List TriggerMatch) (resolvedTopic : Bytes) : List TriggerMatch :=
  found.filter fun m => m.topicPattern ≠ resolvedTopic

def maxTriggerDepth : Nat := 5
def maxPublishesPerInvocation : Nat := 1000

/-- A call of the host function, with what it finds: the network, the dispatcher, how many
messages the invocation has published with this one, its namespace and its depth. -/
structure PublishCall where
  topic : Bytes
  data : Option Bytes
  pubsub : Bool
  dispatcher : Bool
  publishes : Nat
  ns : Bytes
  depth : Nat

inductive HostError
  | notAvailable
  | budgetExceeded
  | publishFailed
deriving DecidableEq, Repr

inductive OlricAnswer
  | noClient
  | stored
  | keyFound
  | failed
deriving DecidableEq, Repr

structure DispatchEvent (ι : Type) where
  process : Option ι
  now : Int
  fault : Bool
  olric : OlricAnswer

inductive DispatchPhase
  | start
  | claimed
  | looking
  | fired
  | skipped
  | failed (error : HostError)
deriving DecidableEq, Repr

structure Dispatched (ι : Type) where
  entries : Keyed DedupEntry DedupEntry.key
  fired : List (Option ι × Firing)

section
variable {ι : Type} (store : PubSubTriggerStore) (call : PublishCall) (handler : ι → Subscription)

def publishError (fault : Bool) : Option HostError :=
  if !call.pubsub then some .notAvailable
  else if maxPublishesPerInvocation < call.publishes then some .budgetExceeded
  else if fault then some .publishFailed
  else none

def output (now : Int) : Option ι → List Firing
  | none =>
    fire (filterWildcardMatches (store.getByTopicAndNamespace call.topic call.ns) call.topic)
      ⟨call.topic, call.data, call.ns, call.depth + 1, now / 1000000000⟩
  | some i =>
    fire (store.getByTopicAndNamespace (handler i).topic (handler i).ns)
      ⟨(handler i).topic, call.data, (handler i).ns, 1, now / 1000000000⟩

def PublishCall.dispatches : Bool := call.dispatcher && call.ns ≠ [] && call.depth < maxTriggerDepth

def lookup (process : Option ι) (now : Int) (fault : Bool) (s : Dispatched ι) : Dispatched ι × DispatchPhase :=
  if fault then (s, .skipped)
  else ({ s with fired := s.fired ++ (output store call handler now process).map fun f => (process, f) }, .fired)

def pubSubPublish (e : DispatchEvent ι) (s : Dispatched ι) : DispatchPhase → Dispatched ι × DispatchPhase
  | .start =>
    match publishError call e.fault with
    | some error => (s, .failed error)
    | none => (s, .looking)
  | .looking => if call.dispatches then lookup store call handler none e.now e.fault s else (s, .skipped)
  | phase => (s, phase)

def dispatch (i : ι) (e : DispatchEvent ι) (s : Dispatched ι) : DispatchPhase → Dispatched ι × DispatchPhase
  | .start =>
    let next := claim s.entries e.now (dispatchDedupKey (handler i) call.data)
    ({ s with entries := next.2 }, if next.1 then .claimed else .skipped)
  | .claimed => (s, if e.olric = .keyFound then .skipped else .looking)
  | .looking => lookup store call handler (some i) e.now e.fault s
  | phase => (s, phase)

def publishing : Interleaving (Dispatched ι) (Option ι) DispatchPhase (DispatchEvent ι) where
  process := DispatchEvent.process
  act e s phase :=
    match e.process with
    | none => pubSubPublish store call handler e s phase
    | some i => dispatch store call handler i e s phase

end

def Prompt {ι : Type} (start : Int) (c : Config (Dispatched ι) (Option ι) DispatchPhase) (e : DispatchEvent ι) : Prop :=
  ∀ i, i ∈ e.process → c.phase (some i) = .start →
    start ≤ e.now ∧ e.now < start + localDedupTTL ∧ c.shared.entries.rows.length < localDedupMaxEntries

instance {ι : Type} (start : Int) (c : Config (Dispatched ι) (Option ι) DispatchPhase) (e : DispatchEvent ι) :
    Decidable (Prompt start c e) :=
  inferInstanceAs (Decidable (∀ i, i ∈ e.process → c.phase (some i) = .start →
    start ≤ e.now ∧ e.now < start + localDedupTTL ∧ c.shared.entries.rows.length < localDedupMaxEntries))

def unsent {ι : Type} (entries : Keyed DedupEntry DedupEntry.key) : Config (Dispatched ι) (Option ι) DispatchPhase :=
  ⟨⟨entries, []⟩, fun _ => .start⟩

/-- No trigger is invoked or buffered twice, however often and in whatever order the message is
delivered to the handlers of its topic. -/
def AtMostOnce (store : PubSubTriggerStore) (subscribed : List Subscription) (call : PublishCall) : Prop :=
  ∀ (n : Nat) (handler : Fin n → Subscription) (entries : Keyed DedupEntry DedupEntry.key) (start : Int)
    (events : List (DispatchEvent (Fin n))),
    (∀ i, handler i ∈ subscribed ∧ (handler i).topic = call.topic) →
    (publishing store call handler).Respects (Prompt start) (unsent entries) events →
    (((publishing store call handler).run (unsent entries) events).shared.fired.map
      fun f => f.2.trigger.triggerID).Nodup

end Orama.Serverless
