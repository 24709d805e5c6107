import Orama.Gateway.Database
import Orama.PubSub.Manager

namespace Orama.PubSub
open Lib

structure Subscriber (C : Type) where
  ns : Bytes
  topic : Bytes
  client : C

def Subscriber.name {C : Type} (h : Subscriber C) : Bytes := namespacedTopic h.ns h.topic

structure Message where
  origin : Option (Bytes × Bytes)
  topic : Bytes
  data : Bytes
deriving DecidableEq

structure HandlerCall (C : Type) where
  handler : Subscriber C
  topic : Bytes
  data : Bytes
  message : Message

structure Network (ι C : Type) where
  managers : ι → Manager (Subscriber C)
  sent : List Message
  calls : List (HandlerCall C)

inductive Event (ι C : Type)
  | subscribe (node : ι) (ctx : NamespaceOverride) (topic : Bytes) (id : HandlerID) (client : C)
    (lib : LibP2P)
  | unsubscribe (node : ι) (ctx : NamespaceOverride) (topic : Bytes)
  | publish (node : ι) (ctx : NamespaceOverride) (topic data : Bytes) (lib : LibP2P)
  | announceTopicInterest (node : ι) (topicName : Bytes)
  | receive (node : ι) (message : Message)
  | close (node : ι)

open List
namespace Network
variable {ι C : Type}

def init (pubsub : ι → Bool) (ns : ι → Bytes) : Network ι C :=
  ⟨fun i => newManager (Subscriber C) (pubsub i) (ns i), [], []⟩

structure Sound (net : Network ι C) : Prop where
  keeps : ∀ i, (net.managers i).Keeps Subscriber.name
  sent : ∀ message ∈ net.sent, message.data ≠ discoveryMsg →
    ∃ ns topic, message.origin = some (ns, topic) ∧ message.topic = namespacedTopic ns topic
  calls : ∀ call ∈ net.calls,
    ∃ ns topic, call.message.origin = some (ns, topic) ∧ namespacedTopic ns topic = call.handler.name

lemma sound_init (pubsub : ι → Bool) (ns : ι → Bytes) : (init pubsub ns : Network ι C).Sound := by
  constructor
  · intro i topic ts hlookup
    simp [init, newManager] at hlookup
  · simp [init]
  · simp [init]

variable {net : Network ι C} {message : Message}

lemma Sound.send (hnet : net.Sound) (hmessage : message.data ≠ discoveryMsg →
      ∃ ns topic, message.origin = some (ns, topic) ∧ message.topic = namespacedTopic ns topic) :
      Sound { net with sent := message :: net.sent } := by
  constructor
  · exact hnet.keeps
  · rw [forall_mem_cons]
    exact ⟨hmessage, hnet.sent⟩
  · exact hnet.calls

lemma Sound.receive (hnet : net.Sound) {i : ι} (hsent : message ∈ net.sent) {ts : TopicSubscription (Subscriber C)}
    (hts : (net.managers i).subscriptions.lookup message.topic = some ts) : Sound { net with
      calls := (ts.broadcast message.data).map (fun c => ⟨c.1, c.2.1, c.2.2, message⟩) ++ net.calls } := by
  constructor
  · exact hnet.keeps
  · exact hnet.sent
  · intro call hcall
    rcases mem_append.1 hcall with hnew | hold
    · obtain ⟨c, hc, rfl⟩ := mem_map.1 hnew
      obtain ⟨hdata, e, he, rfl⟩ := TopicSubscription.mem_broadcast hc
      obtain ⟨ns, topic, horigin, htopic⟩ := hnet.sent message hsent hdata
      exact ⟨ns, topic, horigin, htopic.symm.trans (hnet.keeps i _ _ hts e he).symm⟩
    · exact hnet.calls call hold

variable [DecidableEq ι]

def setManager (net : Network ι C) (i : ι) (m : Manager (Subscriber C)) : Network ι C :=
  { net with managers := Function.update net.managers i m }

def step (net : Network ι C) : Event ι C → Network ι C
  | .subscribe i ctx topic id client lib =>
    let m := net.managers i
    net.setManager i (m.subscribe ctx topic id ⟨m.callNamespace ctx, topic, client⟩ lib).2
  | .unsubscribe i ctx topic => net.setManager i ((net.managers i).unsubscribe ctx topic)
  | .publish i ctx topic data lib =>
    let m := net.managers i
    let net := net.setManager i (m.publish ctx topic lib).2
    match (m.publish ctx topic lib).1 with
    | .error _ => net
    | .ok name => { net with sent := ⟨some (m.callNamespace ctx, topic), name, data⟩ :: net.sent }
  | .announceTopicInterest i topicName =>
    if (net.managers i).topics.contains topicName then
      { net with sent := ⟨none, topicName, discoveryMsg⟩ :: net.sent }
    else net
  | .receive i message =>
    match (net.managers i).subscriptions.lookup message.topic with
    | none => net
    | some ts =>
      if net.sent.contains message then
        { net with
          calls := (ts.broadcast message.data).map (fun c => ⟨c.1, c.2.1, c.2.2, message⟩) ++ net.calls }
      else net
  | .close i => net.setManager i (net.managers i).close

def run (net : Network ι C) (events : List (Event ι C)) : Network ι C := events.foldl step net

lemma Sound.setManager (hnet : net.Sound) {i : ι} {m : Manager (Subscriber C)}
    (hm : m.Keeps Subscriber.name) : (net.setManager i m).Sound := by
  constructor
  · intro j
    by_cases hj : j = i
    · subst hj
      simpa [Network.setManager] using hm
    · simpa [Network.setManager, hj] using hnet.keeps j
  · exact hnet.sent
  · exact hnet.calls

lemma Sound.step (hnet : net.Sound) (event : Event ι C) : (net.step event).Sound := by
  cases event with
  | subscribe i ctx topic id client lib => exact hnet.setManager ((hnet.keeps i).subscribe rfl id lib)
  | unsubscribe i ctx topic => exact hnet.setManager ((hnet.keeps i).unsubscribe ctx topic)
  | publish i ctx topic data lib =>
    have hkeeps : ((net.managers i).publish ctx topic lib).2.Keeps Subscriber.name := by
      rw [Manager.Keeps, Manager.subscriptions_publish]
      exact hnet.keeps i
    rw [Network.step]
    split
    · exact hnet.setManager hkeeps
    · grind [send, setManager, Manager.publish_eq_ok]
  | announceTopicInterest i topicName => grind [send, Network.step]
  | receive i message =>
    rw [Network.step]
    split
    · exact hnet
    · grind [receive]
  | close i =>
    apply hnet.setManager
    intro topic ts hlookup
    simp [Manager.close] at hlookup

lemma sound_run (pubsub : ι → Bool) (ns : ι → Bytes) (events : List (Event ι C)) :
    ((init pubsub ns).run events).Sound :=
  foldlRecOn events step (sound_init pubsub ns) fun _ hnet event _ => hnet.step event

end Network

structure Isolated (ι C : Type) [DecidableEq ι] (ns₁ ns₂ : Bytes) : Prop where
  topics : ∀ topic₁ topic₂, namespacedTopic ns₁ topic₁ ≠ namespacedTopic ns₂ topic₂
  calls : ∀ (pubsub : ι → Bool) (ns : ι → Bytes) (events : List (Event ι C)),
    ∀ call ∈ ((Network.init pubsub ns).run events).calls, ∀ topic,
    call.message.origin = some (ns₁, topic) → call.handler.ns ≠ ns₂
  listed : ∀ (pubsub : ι → Bool) (ns : ι → Bytes) (events : List (Event ι C)) (i : ι) (ctx : NamespaceOverride),
    let m := ((Network.init pubsub ns).run events).managers i
    m.callNamespace ctx = ns₁ → ∀ topic ∈ m.listTopics ctx,
      ∃ ts, m.subscriptions.lookup (namespacedTopic ns₁ topic) = some ts ∧ ∀ e ∈ ts.handlers.entries, e.2.ns ≠ ns₂

lemma namespacedTopic_ne_iff {ns₁ ns₂ : Bytes} :
    (∀ topic₁ topic₂, namespacedTopic ns₁ topic₁ ≠ namespacedTopic ns₂ topic₂) ↔
    Differ (ns₁ ++ [46]) (ns₂ ++ [46]) := by
  constructor
  · intro hne
    constructor
    · rintro ⟨topic, htopic⟩
      refine hne topic [] ?_
      rw [namespacedTopic, htopic, namespacedTopic, append_nil]
    · rintro ⟨topic, htopic⟩
      refine hne [] topic ?_
      rw [namespacedTopic, namespacedTopic, htopic, append_nil]
  · intro hdiffer topic₁ topic₂ heq
    have h₁ : ns₁ ++ [46] <+: namespacedTopic ns₁ topic₁ := prefix_append _ _
    have h₂ : ns₂ ++ [46] <+: namespacedTopic ns₁ topic₁ := heq ▸ prefix_append _ _
    exact ( List.prefix_or_prefix_of_prefix h₁ h₂).elim hdiffer.1 hdiffer.2

/-- Two namespaces are apart exactly if their names differ before the first of them
ends, with a dot after each. -/
theorem isolated_iff (ι C : Type) [DecidableEq ι] (ns₁ ns₂ : Bytes) :
    Isolated ι C ns₁ ns₂ ↔ Differ (ns₁ ++ [46]) (ns₂ ++ [46]) := by
  constructor
  · exact fun h => namespacedTopic_ne_iff.1 h.topics
  · intro hdiffer
    have hne := namespacedTopic_ne_iff.2 hdiffer
    refine ⟨hne, ?_, ?_⟩
    · rintro pubsub ns events call hcall topic horigin rfl
      obtain ⟨ns', topic', horigin', hname⟩ := (Network.sound_run pubsub ns events).calls call hcall
      rw [horigin] at horigin'
      cases horigin'
      exact hne topic call.handler.topic hname
    · rintro pubsub ns events i ctx m rfl topic htopic
      obtain ⟨ts, hts⟩ := Manager.mem_listTopics htopic
      refine ⟨ts, hts, ?_⟩
      rintro e he rfl
      exact hne topic e.2.topic ((Network.sound_run pubsub ns events).keeps i _ _ hts e he).symm

def works : LibP2P := ⟨none, none⟩

def crossing : List (Event Unit Unit) :=
  [.subscribe () (some (ascii "a.b")) (ascii "c") [1] () works,
    .publish () (some (ascii "a")) (ascii "b.c") (ascii "secret") works,
    .receive () ⟨some (ascii "a", ascii "b.c"), ascii "a.b.c", ascii "secret"⟩]

def crossed : Network Unit Unit := (Network.init (fun _ => true) fun _ => ascii "default").run crossing

/-- Topic `b.c` of namespace `a` and topic `c` of namespace `a.b` are one topic on the wire. -/
theorem crossed_not_isolated : (Gateway.resolveNamespaceID Gateway.Database.empty (ascii "a")).1 = some 2 ∧
    (Gateway.resolveNamespaceID
        (Gateway.resolveNamespaceID Gateway.Database.empty (ascii "a")).2 (ascii "a.b")).1 = some 3 ∧
      namespacedTopic (ascii "a") (ascii "b.c") = namespacedTopic (ascii "a.b") (ascii "c") ∧
      (crossed.calls.map fun call => (call.message.origin, call.handler.ns, call.data)) =
        [(some (ascii "a", ascii "b.c"), ascii "a.b", ascii "secret")] ∧
      (crossed.managers ()).listTopics (some (ascii "a")) = [ascii "b.c"] := by
  refine ⟨by decide +kernel, by decide +kernel, by decide, by decide +kernel, by decide +kernel⟩

end Orama.PubSub
