import Mathlib.Data.List.AList
import Orama.Lib.Strings

namespace Orama.PubSub
open Lib

abbrev HandlerID := Bytes

structure TopicSubscription (H : Type) where
  topic : Bytes
  handlers : AList fun _ : HandlerID => H
  refCount : Int

structure Manager (H : Type) where
  pubsub : Bool
  topics : List Bytes
  subscriptions : AList fun _ : Bytes => TopicSubscription H
  ns : Bytes

def newManager (H : Type) (pubsub : Bool) (ns : Bytes) : Manager H := ⟨pubsub, [], ∅, ns⟩

structure LibP2P where
  join : Option Bytes
  act : Option Bytes

abbrev NamespaceOverride := Option Bytes
def namespacedTopic (ns topic : Bytes) : Bytes := ns ++ [46] ++ topic
def discoveryMsg : Bytes := ascii "PEER_DISCOVERY_PING"

namespace Manager
variable {H : Type} (m : Manager H)

def callNamespace (ctx : NamespaceOverride) : Bytes :=
  match ctx with
  | some s => if s ≠ [] then s else m.ns
  | none => m.ns

def getOrCreateTopic (topicName : Bytes) (lib : LibP2P) : Except Bytes (Manager H) :=
  if m.topics.contains topicName then .ok m
  else
    match lib.join with
    | some e => .error (ascii "failed to join topic: " ++ e)
    | none => .ok { m with topics := m.topics ++ [topicName] }

def addHandler (namespacedTopic : Bytes) (ts : TopicSubscription H) (id : HandlerID) (handler : H) : Manager H :=
  { m with
    subscriptions := m.subscriptions.insert namespacedTopic
      { ts with handlers := ts.handlers.insert id handler, refCount := ts.refCount + 1 } }

def subscribe (ctx : NamespaceOverride) (topic : Bytes) (id : HandlerID) (handler : H) (lib : LibP2P) :
    Option Bytes × Manager H :=
  if !m.pubsub then (some (ascii "pubsub not initialized"), m)
  else
    let name := namespacedTopic (m.callNamespace ctx) topic
    match m.subscriptions.lookup name with
    | some existing => (none, m.addHandler name existing id handler)
    | none =>
      match m.getOrCreateTopic name lib with
      | .error e => (some (ascii "failed to get topic: " ++ e), m)
      | .ok m =>
        match lib.act with
        | some e => (some (ascii "failed to subscribe to topic: " ++ e), m)
        | none => (none, m.addHandler name ⟨topic, ∅, 0⟩ id handler)

def unsubscribe (ctx : NamespaceOverride) (topic : Bytes) : Manager H :=
  let name := namespacedTopic (m.callNamespace ctx) topic
  match m.subscriptions.lookup name with
  | none => m
  | some ts =>
    if ts.refCount - 1 ≤ 0 then { m with subscriptions := m.subscriptions.erase name }
    else
      { m with subscriptions := m.subscriptions.insert name { ts with refCount := ts.refCount - 1 } }

def publish (ctx : NamespaceOverride) (topic : Bytes) (lib : LibP2P) : Except Bytes Bytes × Manager H :=
  if !m.pubsub then (.error (ascii "pubsub not initialized"), m)
  else
    let name := namespacedTopic (m.callNamespace ctx) topic
    match m.getOrCreateTopic name lib with
    | .error e => (.error (ascii "failed to get topic for publishing: " ++ e), m)
    | .ok m =>
      match lib.act with
      | some e => (.error (ascii "failed to publish message: " ++ e), m)
      | none => (.ok name, m)

def listTopics (ctx : NamespaceOverride) : List Bytes :=
  let start := m.callNamespace ctx ++ [46]
  m.subscriptions.keys.filterMap fun topic =>
    if start.length < topic.length ∧ topic.take start.length = start then some (topic.drop start.length)
    else none

def close : Manager H := { m with topics := [], subscriptions := ∅ }

end Manager

def TopicSubscription.broadcast {H : Type} (ts : TopicSubscription H) (data : Bytes) : List (H × Bytes × Bytes) :=
  if data = discoveryMsg then [] else ts.handlers.entries.map fun e => (e.2, ts.topic, data)

def Manager.Keeps {H : Type} (m : Manager H) (name : H → Bytes) : Prop :=
  ∀ topic ts, m.subscriptions.lookup topic = some ts → ∀ e ∈ ts.handlers.entries, name e.2 = topic

open AList
namespace Manager
variable {H : Type} {m : Manager H} {name : H → Bytes}
variable {lib : LibP2P}

lemma subscriptions_getOrCreateTopic {m' : Manager H} {topicName : Bytes}
    (h : m.getOrCreateTopic topicName lib = .ok m') : m'.subscriptions = m.subscriptions := by
  grind [getOrCreateTopic]

variable {topic : Bytes} {handler : H}

lemma Keeps.addHandler (hm : m.Keeps name) {ts : TopicSubscription H}
    (hts : ∀ e ∈ ts.handlers.entries, name e.2 = topic) {id : HandlerID} (hhandler : name handler = topic) :
    (m.addHandler topic ts id handler).Keeps name := by
  intro other ts' hlookup e he
  by_cases hother : other = topic
  · subst hother
    rw [Manager.addHandler, lookup_insert] at hlookup
    cases hlookup
    rw [entries_insert, List.mem_cons] at he
    rcases he with rfl | he
    · exact hhandler
    · exact hts e ((List.kerase_sublist id _).subset he)
  · rw [Manager.addHandler, lookup_insert_ne hother] at hlookup
    exact hm other ts' hlookup e he

variable {ctx : NamespaceOverride}

lemma Keeps.subscribe (hm : m.Keeps name) (hhandler : name handler = namespacedTopic (m.callNamespace ctx) topic)
    (id : HandlerID) (lib : LibP2P) : (m.subscribe ctx topic id handler lib).2.Keeps name := by
  rw [Manager.subscribe]
  split
  · exact hm
  dsimp only
  split
  · next existing hexisting => exact hm.addHandler (hm _ _ hexisting) hhandler
  · split
    · exact hm
    · next m' hm' =>
      have hkeeps : m'.Keeps name := by
        rw [Keeps, subscriptions_getOrCreateTopic hm']
        exact hm
      split
      · exact hkeeps
      · exact hkeeps.addHandler (by simp) hhandler

lemma Keeps.unsubscribe (hm : m.Keeps name) (ctx : NamespaceOverride) (topic : Bytes) :
    (m.unsubscribe ctx topic).Keeps name := by
  rw [Manager.unsubscribe]
  split
  · exact hm
  next ts hts =>
  generalize namespacedTopic (m.callNamespace ctx) topic = key at hts
  split
  · intro other ts' hlookup
    by_cases hother : other = key
    · subst hother
      simp at hlookup
    · rw [lookup_erase_ne hother] at hlookup
      exact hm other ts' hlookup
  · intro other ts' hlookup
    by_cases hother : other = key
    · subst hother
      rw [lookup_insert] at hlookup
      cases hlookup
      exact hm other ts hts
    · rw [lookup_insert_ne hother] at hlookup
      exact hm other ts' hlookup

lemma subscriptions_publish (ctx : NamespaceOverride) (topic : Bytes) (lib : LibP2P) :
    (m.publish ctx topic lib).2.subscriptions = m.subscriptions := by
  grind [subscriptions_getOrCreateTopic, publish]

lemma publish_eq_ok {sent : Bytes} (h : (m.publish ctx topic lib).1 = .ok sent) :
    sent = namespacedTopic (m.callNamespace ctx) topic := by
  grind [publish]

lemma mem_listTopics (h : topic ∈ m.listTopics ctx) :
    ∃ ts, m.subscriptions.lookup (namespacedTopic (m.callNamespace ctx) topic) = some ts := by
  obtain ⟨key, hkey, hsome⟩ := List.mem_filterMap.1 h
  split at hsome
  · next hstart =>
    obtain ⟨hlen, htake⟩ := hstart
    cases hsome
    have hjoin : namespacedTopic (m.callNamespace ctx) (key.drop (m.callNamespace ctx ++ [46]).length) = key := by
      rw [namespacedTopic, ← htake, List.length_take, Nat.min_eq_left hlen.le]
      exact List.take_append_drop _ key
    rw [hjoin]
    exact Option.isSome_iff_exists.1 (lookup_isSome.2 (mem_keys.2 hkey))
  · cases hsome

end Manager

lemma TopicSubscription.mem_broadcast {H : Type} {ts : TopicSubscription H} {data : Bytes}
    {call : H × Bytes × Bytes} (h : call ∈ ts.broadcast data) :
    data ≠ discoveryMsg ∧ ∃ e ∈ ts.handlers.entries, call = (e.2, ts.topic, data) := by
  grind [broadcast]

end Orama.PubSub
