import Orama.Lib.Maps
import Orama.Lib.Tasks
import Orama.Lib.Text

namespace Orama.Serverless.WebSocket
open Lib Multiset

structure WSManager where
  connections : Bytes → Option Nat
  topics : Nat → List Bytes
  allocated : Nat
  subscriptions : SetMap Bytes Bytes

inductive Task
  | register (clientID : Bytes)
  | unregister (clientID : Bytes)
  | dropTopics (clientID : Bytes) (address : Nat)
  | subscribe (clientID topic : Bytes)
  | addTopic (clientID topic : Bytes) (address : Nat)
  | addClient (clientID topic : Bytes)
  | unsubscribe (clientID topic : Bytes)
  | removeTopic (clientID topic : Bytes) (address : Nat)
  | removeClient (clientID topic : Bytes)
deriving DecidableEq

inductive Call
  | register (clientID : Bytes)
  | unregister (clientID : Bytes)
  | subscribe (clientID topic : Bytes)
  | unsubscribe (clientID topic : Bytes)

def Call.task : Call → Task
  | .register clientID => .register clientID
  | .unregister clientID => .unregister clientID
  | .subscribe clientID topic => .subscribe clientID topic
  | .unsubscribe clientID topic => .unsubscribe clientID topic

namespace WSManager

def new : WSManager := ⟨fun _ => none, fun _ => [], 0, .empty⟩

variable (m : WSManager)

def connect (clientID : Bytes) : WSManager :=
  { m with
    connections := Function.update m.connections clientID (some m.allocated)
    topics := Function.update m.topics m.allocated []
    allocated := m.allocated + 1 }

def disconnect (clientID : Bytes) : WSManager :=
  { m with connections := Function.update m.connections clientID none }

def setTopics (address : Nat) (topics : List Bytes) : WSManager :=
  { m with topics := Function.update m.topics address topics }

def perform (order : Iteration Bytes) (m : WSManager) : Task → WSManager × List Task
  | .register clientID => (m.connect clientID, [])
  | .unregister clientID =>
    match m.connections clientID with
    | none => (m, [])
    | some address => (m.disconnect clientID, [.dropTopics clientID address])
  | .dropTopics clientID address =>
    ({ m with subscriptions := m.subscriptions.removeAll (order.list (m.topics address)) clientID }, [])
  | .subscribe clientID topic =>
    match m.connections clientID with
    | none => (m, [])
    | some address => (m, [.addTopic clientID topic address])
  | .addTopic clientID topic address =>
    (m.setTopics address ((m.topics address).insert topic), [.addClient clientID topic])
  | .addClient clientID topic => ({ m with subscriptions := m.subscriptions.add topic clientID }, [])
  | .unsubscribe clientID topic =>
    match m.connections clientID with
    | none => (m, [.removeClient clientID topic])
    | some address => (m, [.removeTopic clientID topic address])
  | .removeTopic clientID topic address =>
    (m.setTopics address ((m.topics address).filter fun t => t ≠ topic), [.removeClient clientID topic])
  | .removeClient clientID topic => ({ m with subscriptions := m.subscriptions.remove topic clientID }, [])

end WSManager

def wsManager : Scheduler WSManager Task Call (Iteration Bytes) where
  entry := Call.task
  perform := WSManager.perform

namespace Task

def client : Task → Bytes
  | .register c | .unregister c | .dropTopics c _ | .subscribe c _ | .addTopic c _ _ | .addClient c _
  | .unsubscribe c _ | .removeTopic c _ _ | .removeClient c _ => c

def midway : Task → Bool
  | .dropTopics _ _ | .addTopic _ _ _ | .addClient _ _ | .removeTopic _ _ _ | .removeClient _ _ => true
  | _ => false

def pointer : Task → Option Nat
  | .addTopic _ _ a | .removeTopic _ _ a => some a
  | _ => none

def adds (t : Bytes) : Task → Bool
  | .addTopic _ t' _ | .addClient _ t' => t' = t
  | _ => false

def removes (t : Bytes) : Task → Bool
  | .removeTopic _ t' _ | .removeClient _ t' => t' = t
  | _ => false

end Task

def Adding (ts : Multiset Task) (c t : Bytes) : Prop := ∃ x ∈ ts, x.client = c ∧ x.adds t = true

def Removing (ts : Multiset Task) (c t : Bytes) : Prop := ∃ x ∈ ts, x.client = c ∧ x.removes t = true

def WSManager.Has (m : WSManager) (c t : Bytes) : Prop := ∃ a, m.connections c = some a ∧ t ∈ m.topics a

structure Heap (m : WSManager) (ts : Multiset Task) : Prop where
  below : ∀ c a, m.connections c = some a → a < m.allocated
  single : ∀ c c' a, m.connections c = some a → m.connections c' = some a → c = c'
  dropped : ∀ c a, .dropTopics c a ∈ ts → a < m.allocated ∧ ∀ c', m.connections c' ≠ some a

structure Fits (c : Bytes) (m : WSManager) (ts : Multiset Task) : Prop where
  points : ∀ x ∈ ts, x.client = c → ∀ a, x.pointer = some a → m.connections c = some a
  added : ∀ t, .addClient c t ∈ ts → m.Has c t
  removed : ∀ t, .removeClient c t ∈ ts → ¬ m.Has c t
  dropping : ∀ a, .dropTopics c a ∈ ts → m.connections c = none
  apart : ∀ t, Adding ts c t → ¬ Removing ts c t
  listed : ∀ t, m.Has c t → c ∈ m.subscriptions.members t ∨ .addClient c t ∈ ts
  known : ∀ t, c ∈ m.subscriptions.members t →
    m.Has c t ∨ .removeClient c t ∈ ts ∨ ∃ a, .dropTopics c a ∈ ts ∧ t ∈ m.topics a

/-- A client is registered or unregistered when no call of it is halfway, and registered again only without topics. It
does not subscribe to a topic and unsubscribe from it at once. -/
def Orderly (m : WSManager) (ts : Multiset Task) : Task → Prop
  | .register c => (∀ x ∈ ts, x.client = c → x.midway = false) ∧ ∀ t, ¬ m.Has c t
  | .unregister c => ∀ x ∈ ts, x.client = c → x.midway = false
  | .subscribe c t => ¬ Removing ts c t
  | .unsubscribe c t => ¬ Adding ts c t
  | _ => True

variable {m m' : WSManager} {c c' t : Bytes} {a : Nat} {x : Task} {ts : Multiset Task} {new : List Task}

@[grind =]
lemma adding_cons : Adding (x ::ₘ ts) c t ↔ (x.client = c ∧ x.adds t) ∨ Adding ts c t := by
  simp [Adding, or_and_right, exists_or]

@[grind =]
lemma removing_cons : Removing (x ::ₘ ts) c t ↔ (x.client = c ∧ x.removes t) ∨ Removing ts c t := by
  simp [Removing, or_and_right, exists_or]

@[grind →]
lemma Adding.of_addClient (h : .addClient c t ∈ ts) : Adding ts c t := ⟨_, h, rfl, decide_eq_true rfl⟩

@[grind →]
lemma Removing.of_removeClient (h : .removeClient c t ∈ ts) : Removing ts c t := ⟨_, h, rfl, decide_eq_true rfl⟩

attribute [grind =] Task.client Task.midway Task.pointer Task.adds Task.removes

lemma Fits.frame (h : Fits c m (x ::ₘ ts)) (hne : x.client ≠ c) (hnew : ∀ y ∈ new, y.client ≠ c)
    (hconnections : m'.connections c = m.connections c)
    (htopics : ∀ a, m.connections c = some a ∨ .dropTopics c a ∈ ts → m'.topics a = m.topics a)
    (hmembers : ∀ t, c ∈ m'.subscriptions.members t ↔ c ∈ m.subscriptions.members t) : Fits c m' (ts + ↑new) := by
  have hmem : ∀ y : Task, y.client = c → (y ∈ ts + ↑new ↔ y ∈ x ::ₘ ts) := by grind [mem_coe]
  have hhas : ∀ t, m'.Has c t ↔ m.Has c t := by
    intro t
    rw [WSManager.Has, WSManager.Has, hconnections]
    refine exists_congr fun a => and_congr_right fun ha => ?_
    rw [htopics a (.inl ha)]
  have hadding : ∀ t, Adding (ts + ↑new) c t ↔ Adding (x ::ₘ ts) c t := by
    simp only [Adding]
    grind
  have hremoving : ∀ t, Removing (ts + ↑new) c t ↔ Removing (x ::ₘ ts) c t := by
    simp only [Removing]
    grind
  cases h
  constructor
  case points => grind
  case added => grind
  case removed => grind
  case dropping => grind
  case apart => grind
  case listed => grind
  case known => grind

lemma has_iff (hc : m.connections c = some a) : m.Has c t ↔ t ∈ m.topics a := by simp [WSManager.Has, hc]

open Fits SetMap

lemma has_setTopics (hc : m.connections c = some a) (topics : List Bytes) :
    (m.setTopics a topics).Has c t ↔ t ∈ topics := by
  have hc' : (m.setTopics a topics).connections c = some a := hc
  have htopics : (m.setTopics a topics).topics a = topics := Function.update_self ..
  rw [has_iff hc', htopics]

open WSManager

lemma Fits.addTopic (h : Fits c m (.addTopic c t a ::ₘ ts)) :
    Fits c (m.setTopics a ((m.topics a).insert t)) (.addClient c t ::ₘ ts) := by
  have hc : m.connections c = some a := h.points _ (mem_cons_self ..) rfl a rfl
  have hhas : ∀ t', (m.setTopics a ((m.topics a).insert t)).Has c t' ↔ t' = t ∨ m.Has c t' := by
    intro t'
    rw [has_setTopics hc, has_iff hc, List.mem_insert_iff]
  cases h
  simp only [adding_cons, removing_cons, mem_cons] at *
  constructor <;> grind [setTopics]

lemma Fits.removeTopic (h : Fits c m (.removeTopic c t a ::ₘ ts)) :
    Fits c (m.setTopics a ((m.topics a).filter fun t' => t' ≠ t)) (.removeClient c t ::ₘ ts) := by
  have hc : m.connections c = some a := h.points _ (mem_cons_self ..) rfl a rfl
  have hhas : ∀ t', (m.setTopics a ((m.topics a).filter fun t' => t' ≠ t)).Has c t' ↔ m.Has c t' ∧ t' ≠ t := by
    grind [has_setTopics, has_iff]
  cases h
  simp only [adding_cons, removing_cons, mem_cons] at *
  constructor <;> grind [setTopics]

variable {subscriptions : SetMap Bytes Bytes}

lemma has_subscriptions : { m with subscriptions }.Has c t ↔ m.Has c t := Iff.rfl

lemma Fits.addClient (h : Fits c m (.addClient c t ::ₘ ts)) :
    Fits c { m with subscriptions := m.subscriptions.add t c } ts := by
  cases h
  simp only [adding_cons, removing_cons, mem_cons] at *
  constructor <;> grind [has_subscriptions, members_add]

lemma Fits.removeClient (h : Fits c m (.removeClient c t ::ₘ ts)) :
    Fits c { m with subscriptions := m.subscriptions.remove t c } ts := by
  cases h
  simp only [adding_cons, removing_cons, mem_cons] at *
  constructor <;> grind [has_subscriptions, members_remove]

variable {topics : List Bytes}

lemma Fits.dropTopics (h : Fits c m (.dropTopics c a ::ₘ ts)) (htopics : ∀ t, t ∈ topics ↔ t ∈ m.topics a) :
    Fits c { m with subscriptions := m.subscriptions.removeAll topics c } ts := by
  cases h
  simp only [adding_cons, removing_cons, mem_cons] at *
  constructor <;> grind [has_subscriptions, mem_members_removeAll, WSManager.Has]

lemma Fits.begun (h : Fits c m (x ::ₘ ts)) (hx : x.midway = false) : Fits c m ts := by
  cases h
  simp only [adding_cons, removing_cons, mem_cons] at *
  constructor <;> grind

lemma midway_of_pointer (h : x.pointer = some a) : x.midway := by
  cases x <;> first | rfl | cases h

lemma midway_of_adds (h : x.adds t) : x.midway := by
  cases x <;> first | rfl | cases h

lemma midway_of_removes (h : x.removes t) : x.midway := by
  cases x <;> first | rfl | cases h

lemma Fits.entered (h : Fits c m ts) (hx : x.midway = false) : Fits c m (x ::ₘ ts) := by
  cases h
  constructor <;> simp only [adding_cons, removing_cons, mem_cons] <;>
    grind [midway_of_pointer, midway_of_adds, midway_of_removes]

lemma Fits.subscribe (h : Fits c m (.subscribe c t ::ₘ ts)) (hc : m.connections c = some a)
    (horderly : ¬ Removing (.subscribe c t ::ₘ ts) c t) : Fits c m (.addTopic c t a ::ₘ ts) := by
  cases h
  simp only [adding_cons, removing_cons, mem_cons] at *
  constructor <;> simp only [adding_cons, removing_cons, mem_cons] <;> grind

lemma Fits.unsubscribe (h : Fits c m (.unsubscribe c t ::ₘ ts)) (horderly : ¬ Adding (.unsubscribe c t ::ₘ ts) c t)
    (hx : x = .removeClient c t ∧ m.connections c = none ∨ x = .removeTopic c t a ∧ m.connections c = some a) :
    Fits c m (x ::ₘ ts) := by
  cases h
  simp only [adding_cons, removing_cons, mem_cons] at *
  obtain ⟨rfl, hc⟩ | ⟨rfl, hc⟩ := hx <;> constructor <;>
    simp only [adding_cons, removing_cons, mem_cons] <;> grind [WSManager.Has]

lemma Fits.agrees (h : Fits c m ts) (hidle : ∀ x ∈ ts, x.client = c → x.midway = false) :
    c ∈ m.subscriptions.members t ↔ m.Has c t := by
  obtain ⟨-, -, -, -, -, hlisted, hknown⟩ := h
  grind

lemma Fits.unregistered (hidle : ∀ x ∈ ts, x.client = c → x.midway = false) (hnone : m.connections c = none)
    (hknown : ∀ t, c ∈ m.subscriptions.members t → t ∈ m.topics a) : Fits c m (.dropTopics c a ::ₘ ts) := by
  constructor <;> simp only [adding_cons, removing_cons, mem_cons] <;>
    grind [WSManager.Has, Adding, midway_of_adds, midway_of_pointer]

lemma Fits.registered (hidle : ∀ x ∈ ts, x.client = c → x.midway = false)
    (hnone : ∀ t, c ∉ m.subscriptions.members t) (hhas : ∀ t, ¬ m.Has c t) : Fits c m ts := by
  constructor <;> grind [Adding, midway_of_adds, midway_of_pointer]

lemma connections_connect (m : WSManager) (c c' : Bytes) :
    (m.connect c).connections c' = if c' = c then some m.allocated else m.connections c' := Function.update_apply ..

lemma topics_connect (m : WSManager) (c : Bytes) (a : Nat) :
    (m.connect c).topics a = if a = m.allocated then [] else m.topics a := Function.update_apply ..

lemma connections_disconnect (m : WSManager) (c c' : Bytes) :
    (m.disconnect c).connections c' = if c' = c then none else m.connections c' := Function.update_apply ..

lemma Heap.mono (h : Heap m (x ::ₘ ts)) (hallocated : m'.allocated = m.allocated)
    (hconnections : ∀ c a, m'.connections c = some a → m.connections c = some a)
    (hnew : ∀ c a, .dropTopics c a ∈ new → a < m.allocated ∧ ∀ c', m'.connections c' ≠ some a) :
    Heap m' (ts + ↑new) := by
  cases h
  constructor <;> grind [mem_coe]

lemma Heap.connect (h : Heap m (x ::ₘ ts)) (c : Bytes) : Heap (m.connect c) ts := by
  cases h
  have hallocated : (m.connect c).allocated = m.allocated + 1 := rfl
  constructor <;> grind [connections_connect]

structure Consistent (m : WSManager) (ts : Multiset Task) : Prop where
  heap : Heap m ts
  fits : ∀ c, Fits c m ts

lemma Consistent.goesOn (h : Consistent m (x ::ₘ ts)) (hheap : Heap m' (ts + ↑new))
    (hnew : ∀ y ∈ new, y.client = x.client) (hconnections : ∀ c ≠ x.client, m'.connections c = m.connections c)
    (htopics : ∀ c ≠ x.client, ∀ a, m.connections c = some a ∨ .dropTopics c a ∈ ts → m'.topics a = m.topics a)
    (hmembers : ∀ c ≠ x.client, ∀ t, c ∈ m'.subscriptions.members t ↔ c ∈ m.subscriptions.members t)
    (hown : Fits x.client m' (ts + ↑new)) : Consistent m' (ts + ↑new) := by
  refine ⟨hheap, fun c => ?_⟩
  by_cases hc : c = x.client
  · exact hc ▸ hown
  · refine (h.fits c).frame (Ne.symm hc) (fun y hy heq => hc ?_) (hconnections c hc) (htopics c hc) (hmembers c hc)
    exact heq.symm.trans (hnew y hy)

lemma add_singleton (ts : Multiset Task) (x : Task) : ts + ↑[x] = x ::ₘ ts := by
  rw [coe_singleton, add_comm, singleton_add]

section
variable (h : Consistent m (x ::ₘ ts))
include h

lemma Consistent.setTopics (hc : m.connections x.client = some a) {y : Task}
    (hy : y.client = x.client) (hdrop : ∀ c a, y ≠ .dropTopics c a)
    (hown : Fits x.client (m.setTopics a topics) (y ::ₘ ts)) : Consistent (m.setTopics a topics) (ts + ↑[y]) := by
  refine h.goesOn (h.heap.mono rfl (fun _ _ => id) (by simp [Ne.symm, hdrop])) (by simp [hy]) (fun _ _ => rfl) ?_
    (fun _ _ _ => Iff.rfl) (add_singleton ts y ▸ hown)
  refine fun c hne b hb => Function.update_of_ne ?_ ..
  rintro rfl
  obtain hb | hb := hb
  · exact hne (h.heap.single c _ b hb hc)
  · exact (h.heap.dropped c b (mem_cons_of_mem hb)).2 _ hc

lemma Consistent.setSubscriptions
    (hmembers : ∀ c ≠ x.client, ∀ t, c ∈ subscriptions.members t ↔ c ∈ m.subscriptions.members t)
    (hown : Fits x.client { m with subscriptions } ts) :
    Consistent { m with subscriptions } (ts + ↑([] : List Task)) := by
  refine h.goesOn (h.heap.mono rfl (fun _ _ => id) (by simp)) (by simp) (fun _ _ => rfl) (fun _ _ _ _ => rfl)
    hmembers ?_
  rw [coe_nil, add_zero]
  exact hown

lemma Consistent.reads (hnew : ∀ y ∈ new, y.client = x.client)
    (hdrop : ∀ c a, .dropTopics c a ∉ new) (hown : Fits x.client m (ts + ↑new)) : Consistent m (ts + ↑new) :=
  h.goesOn (h.heap.mono rfl (fun _ _ => id) fun c a ha => absurd ha (hdrop c a)) hnew (fun _ _ => rfl)
    (fun _ _ _ _ => rfl) (fun _ _ _ => Iff.rfl) hown

lemma Consistent.begun (hx : x.midway = false) : Consistent m (ts + ↑([] : List Task)) := by
  refine h.reads (by simp) (by simp) ?_
  rw [coe_nil, add_zero]
  exact (h.fits x.client).begun hx

end

lemma Consistent.register (h : Consistent m (.register c ::ₘ ts))
    (horderly : Orderly m (.register c ::ₘ ts) (.register c)) : Consistent (m.connect c) (ts + ↑([] : List Task)) := by
  have hheap : Heap (m.connect c) (ts + ↑([] : List Task)) := by
    rw [coe_nil, add_zero]
    exact h.heap.connect c
  refine h.goesOn hheap (by simp) (fun c' hne => ?_) (fun c' hne a ha => ?_) (fun _ _ _ => Iff.rfl) ?_
  · exact (connections_connect m c c').trans (if_neg hne)
  · rw [topics_connect, if_neg]
    obtain ha | ha := ha
    · exact (h.heap.below c' a ha).ne
    · exact (h.heap.dropped c' a (mem_cons_of_mem ha)).1.ne
  · rw [coe_nil, add_zero]
    refine .registered (fun x hx => horderly.1 x (mem_cons_of_mem hx)) (fun t ht => ?_) fun t => ?_
    · exact horderly.2 t (((h.fits c).agrees horderly.1).1 ht)
    · have hc : (m.connect c).connections c = some m.allocated := Function.update_self ..
      simp [Task.client, has_iff hc, topics_connect]

lemma Consistent.unregister (h : Consistent m (.unregister c ::ₘ ts))
    (horderly : Orderly m (.unregister c ::ₘ ts) (.unregister c)) (hc : m.connections c = some a) :
    Consistent (m.disconnect c) (ts + ↑[Task.dropTopics c a]) := by
  have hheap : Heap (m.disconnect c) (ts + ↑[Task.dropTopics c a]) := by
    obtain ⟨hbelow, hsingle, -⟩ := h.heap
    refine h.heap.mono rfl ?_ ?_ <;> grind [connections_disconnect]
  refine h.goesOn hheap (by simp [Task.client]) (fun c' hne => ?_) (fun _ _ _ _ => rfl) (fun _ _ _ => Iff.rfl) ?_
  · exact (connections_disconnect m c c').trans (if_neg hne)
  · rw [add_singleton]
    refine .unregistered (fun x hx => horderly x (mem_cons_of_mem hx)) ?_ fun t ht => ?_
    · exact (connections_disconnect m c c).trans (if_pos rfl)
    · exact (has_iff hc).1 (((h.fits c).agrees horderly).1 ht)

lemma Consistent.perform (h : Consistent m (x ::ₘ ts)) (horderly : Orderly m (x ::ₘ ts) x) (order : Iteration Bytes) :
    Consistent (m.perform order x).1 (ts + ↑(m.perform order x).2) := by
  cases x with
  | register c => exact h.register horderly
  | unregister c => grind [begun, unregister, perform]
  | dropTopics c a =>
    refine h.setSubscriptions (fun c' hne t => ?_) ((h.fits c).dropTopics fun t => order.mem_list)
    grind [mem_members_removeAll]
  | subscribe c t =>
    rw [perform]
    split
    · exact h.begun rfl
    · next a ha =>
      exact h.reads (by simp [Task.client]) (by simp) (add_singleton ts _ ▸ (h.fits c).subscribe ha horderly)
  | addTopic c t a =>
    have hc := (h.fits c).points _ (mem_cons_self ..) rfl a rfl
    exact h.setTopics hc rfl (by simp) (h.fits c).addTopic
  | addClient c t =>
    refine h.setSubscriptions (fun c' hne t' => ?_) (h.fits c).addClient
    grind [members_add]
  | unsubscribe c t =>
    rw [perform]
    split
    · next hnone =>
      exact h.reads (by simp [Task.client]) (by simp)
        (add_singleton ts _ ▸ (h.fits c).unsubscribe (a := 0) horderly (.inl ⟨rfl, hnone⟩))
    · next a ha =>
      exact h.reads (by simp [Task.client]) (by simp)
        (add_singleton ts _ ▸ (h.fits c).unsubscribe horderly (.inr ⟨rfl, ha⟩))
  | removeTopic c t a =>
    have hc := (h.fits c).points _ (mem_cons_self ..) rfl a rfl
    exact h.setTopics hc rfl (by simp) (h.fits c).removeTopic
  | removeClient c t =>
    refine h.setSubscriptions (fun c' hne t' => ?_) (h.fits c).removeClient
    grind [members_remove]

lemma Consistent.call (h : Consistent m ts) (k : Call) : Consistent m (k.task ::ₘ ts) where
  heap := by
    refine ⟨h.heap.below, h.heap.single, fun c a ha => h.heap.dropped c a ((mem_cons.1 ha).resolve_left ?_)⟩
    cases k <;> simp [Call.task]
  fits c := by
    refine (h.fits c).entered ?_
    cases k <;> rfl

lemma keeps_consistent : wsManager.Keeps Orderly Consistent where
  call _ _ k h := h.call k
  go _ _ _ order horderly h := h.perform horderly order

lemma full_perform (h : m.subscriptions.Full) (order : Iteration Bytes) (x : Task) :
    (m.perform order x).1.subscriptions.Full := by
  cases x with
  | dropTopics c a => exact SetMap.Full.removeAll h _ _
  | addClient c t => exact SetMap.Full.add h _ _
  | removeClient c t => exact SetMap.Full.remove h _ _
  | unregister c =>
    rw [perform]
    split <;> exact h
  | subscribe c t =>
    rw [perform]
    split <;> exact h
  | unsubscribe c t =>
    rw [perform]
    split <;> exact h
  | _ => exact h

lemma keeps_full : wsManager.Keeps (fun _ _ _ => True) fun m _ => m.subscriptions.Full where
  call _ _ _ h := h
  go _ _ x order _ h := full_perform h order x

def start : Tasks WSManager Task := ⟨.new, []⟩

lemma consistent_start : Consistent start.shared start.tasks where
  heap := ⟨nofun, (fun c c' a ha => by cases ha), nofun⟩
  fits c := by
    refine registered nofun nofun ?_
    rintro t ⟨a, ha, -⟩
    cases ha

/-- No topic has an empty set in any run. After a run of orderly calls, all of which have ended, a client is in the set
of a topic exactly when it is connected and its connection has the topic. -/
theorem subscriptions_of_orderly (moves : List (Move Call (Iteration Bytes))) :
    (wsManager.run start moves).shared.subscriptions.Full ∧
    (wsManager.Respects Orderly start moves → (wsManager.run start moves).tasks = [] →
    ∀ c t, c ∈ (wsManager.run start moves).shared.subscriptions.members t ↔
    ∃ a, (wsManager.run start moves).shared.connections c = some a ∧
    t ∈ (wsManager.run start moves).shared.topics a) := by
  refine ⟨keeps_full.run full_empty moves, fun hrespects hended c t => ?_⟩
  have h := keeps_consistent.run_of_respects consistent_start hrespects
  rw [hended] at h
  exact (h.fits c).agrees nofun

def alice : Bytes := ascii "alice"
def chat : Bytes := ascii "chat"
def turn : Move Call (Iteration Bytes) := .go 0 .inOrder

def oneSession : List (Move Call (Iteration Bytes)) :=
  [.call (.register alice), turn, .call (.subscribe alice chat), turn, turn, turn, .call (.unregister alice), turn,
    turn]

theorem subscriptions_of_oneSession : ∀ c t, c ∈ (wsManager.run start oneSession).shared.subscriptions.members t ↔
    ∃ a, (wsManager.run start oneSession).shared.connections c = some a ∧
    t ∈ (wsManager.run start oneSession).shared.topics a := by
  have hrespects : wsManager.Respects Orderly start oneSession := by
    refine ⟨?_, ?_, ?_, ?_, ?_, ?_, trivial⟩
    · rintro _ ⟨⟩
      refine ⟨by decide +kernel, ?_⟩
      rintro t ⟨a, ha, -⟩
      cases ha
    · rintro _ ⟨⟩
      rintro ⟨x, hx, -, hremoves⟩
      cases mem_singleton.1 hx
      cases hremoves
    · rintro _ ⟨⟩
      trivial
    · rintro _ ⟨⟩
      trivial
    · rintro _ ⟨⟩
      intro x hx _
      cases mem_singleton.1 hx
      rfl
    · rintro _ ⟨⟩
      trivial
  exact (subscriptions_of_orderly oneSession).2 hrespects (by decide +kernel)

def secondSession : List (Move Call (Iteration Bytes)) :=
  [.call (.register alice), turn, .call (.subscribe alice chat), turn, turn, turn, .call (.register alice), turn]

def lateSubscription : List (Move Call (Iteration Bytes)) :=
  [.call (.register alice), turn, .call (.subscribe alice chat), turn, .call (.unregister alice), .go 1 .inOrder,
    .go 1 .inOrder, turn, turn]

/-- All calls have ended, and the client is in the set of the topic although its new connection has no topics, or
although it is not connected. -/
theorem stale_subscriptions : ((wsManager.run start secondSession).tasks = [] ∧
    alice ∈ (wsManager.run start secondSession).shared.subscriptions.members chat ∧
    (wsManager.run start secondSession).shared.connections alice = some 1 ∧
    (wsManager.run start secondSession).shared.topics 1 = []) ∧ (wsManager.run start lateSubscription).tasks = [] ∧
    alice ∈ (wsManager.run start lateSubscription).shared.subscriptions.members chat ∧
    (wsManager.run start lateSubscription).shared.connections alice = none := by
  decide +kernel

end Orama.Serverless.WebSocket
