import Orama.Lib.Interleaving
import Orama.Lib.Json
import Orama.Serverless.Ephemeral

namespace Orama.Serverless.Ephemeral
open Lib List

def Publication.stateKey (p : Publication) : EphemeralStateKey := ⟨p.ns, p.event.topic, p.event.key⟩

def EphemeralStateKey.received (k : EphemeralStateKey) : EphemeralStateKey :=
  ⟨k.ns, Json.roundTrip k.topic, Json.roundTrip k.key⟩

def EphemeralEvent.value (e : EphemeralEvent) : Option Bytes :=
  match e.type with
  | .set => some e.payload
  | .clear => none

def View : Type := EphemeralStateKey → Option Bytes

def View.apply (view : View) (p : Publication) : View := Function.update view p.stateKey.received p.event.value

open Function

lemma View.apply_apply (view : View) (p : Publication) (k : EphemeralStateKey) :
    view.apply p k = if k = p.stateKey.received then p.event.value else view k := update_apply ..

structure Shared where
  store : EphemeralStore
  view : View

inductive Phase
  | start
  | publishing (pending : List Publication)
deriving DecidableEq

def Phase.pending : Phase → List Publication
  | .start => []
  | .publishing pending => pending

structure Event (ι : Type) where
  process : ι
  now : Int
  order : Iteration EphemeralEntry

variable {ι : Type}

def act (call : Call) (now : Int) (order : Iteration EphemeralEntry) (s : Shared) : Phase → Shared × Phase
  | .start => ({ s with store := (change s.store now order call).1 }, .publishing (change s.store now order call).2)
  | .publishing [] => (s, .publishing [])
  | .publishing (p :: pending) => ({ s with view := s.view.apply p }, .publishing pending)

def publisher (calls : ι → Call) : Interleaving Shared ι Phase (Event ι) where
  process := Event.process
  act e := act (calls e.process) e.now e.order

def initial : Config Shared ι Phase := ⟨⟨newEphemeralStore, fun _ => none⟩, fun _ => .start⟩

def Touches (s : EphemeralStore) (now : Int) (call : Call) (k : EphemeralStateKey) : Prop :=
  match call with
  | .set ns _ topic key _ _ => k = ⟨ns, topic, key⟩
  | .clear ns c topic key => k = ⟨ns, topic, key⟩ ∧ ∃ e, s.values.get k = some e ∧ e.clientID = c
  | .clearClient c => ∃ e, s.values.get k = some e ∧ e.clientID = c
  | .sweepExpired => ∃ e, s.values.get k = some e ∧ e.expiresAt < now

def Readable : Call → Prop
  | .set ns _ topic key _ _ => EphemeralStateKey.received ⟨ns, topic, key⟩ = ⟨ns, topic, key⟩
  | _ => True

def Orderly (calls : ι → Call) (c : Config Shared ι Phase) (e : Event ι) : Prop :=
  match c.phase e.process with
  | .publishing _ => True
  | .start =>
    Readable (calls e.process) ∧
      ∀ i, ∀ p ∈ (c.phase i).pending, ¬ Touches c.shared.store e.now (calls e.process) p.stateKey

def EphemeralStore.value (s : EphemeralStore) (k : EphemeralStateKey) : Option Bytes :=
  (s.values.get k).map EphemeralEntry.payload

structure Announced (s s' : EphemeralStore) (touched : EphemeralStateKey → Prop) (events : List Publication) :
    Prop where
  nodup : (events.map Publication.stateKey).Nodup
  touches : ∀ p ∈ events, touched p.stateKey
  value : ∀ p ∈ events, s'.value p.stateKey = p.event.value
  others : ∀ k, k ∉ events.map Publication.stateKey → s'.value k = s.value k

variable {s s' : EphemeralStore} {now : Int} {order : Iteration EphemeralEntry} {call : Call}
  {events : List Publication}

variable {touched : EphemeralStateKey → Prop}
open Publication

lemma announced_of_removed {l : List EphemeralEntry} (client : EphemeralEntry → Bytes) {reason : Bytes}
    (hl : (l.map EphemeralEntry.stateKey).Nodup)
    (hget : ∀ k, s'.values.get k = if k ∈ l.map EphemeralEntry.stateKey then none else s.values.get k)
    (htouched : ∀ e ∈ l, touched e.stateKey) :
    Announced s s' touched (l.map fun e => clearEvent (client e) reason e.stateKey) where
  nodup := by simpa [comp_def, clearEvent, stateKey] using hl
  touches := by simpa [clearEvent, stateKey] using htouched
  value := by
    intro p hp
    obtain ⟨e, he, rfl⟩ := mem_map.1 hp
    have hkey : (clearEvent (client e) reason e.stateKey).stateKey = e.stateKey := rfl
    rw [EphemeralStore.value, hget, hkey, if_pos (mem_map_of_mem he)]
    rfl
  others := by
    intro k hk
    have hk' : k ∉ l.map EphemeralEntry.stateKey := by
      simpa [comp_def, clearEvent, stateKey] using hk
    rw [EphemeralStore.value, hget, if_neg hk']
    rfl

def ownedEntries (s : EphemeralStore) (order : Iteration EphemeralEntry) (c : Bytes) : List EphemeralEntry :=
  order.list (s.values.rows.filter fun r => r.stateKey ∈ s.owned.members c)

section
variable (s : EphemeralStore) (order : Iteration EphemeralEntry) (c : Bytes)

lemma events_clearClient :
    (clearClient s order c).2 = (ownedEntries s order c).map fun e => clearEvent c (ascii "disconnect") e.stateKey := by
  rw [clearClient, clearClientWithReason, ownedEntries]
  split
  · next hempty =>
    have hperm := order.perm []
    simp [Finset.card_eq_zero.1 hempty, perm_nil.1 hperm]
  · rfl

lemma nodup_ownedEntries : ((ownedEntries s order c).map EphemeralEntry.stateKey).Nodup := by
  refine ((order.perm _).map _).nodup_iff.2 ?_
  exact s.values.nodup_keys.sublist (filter_sublist.map _)

end

variable {k : EphemeralStateKey}

lemma Sound.mem_ownedEntries (h : Sound s) {c : Bytes} :
    k ∈ (ownedEntries s order c).map EphemeralEntry.stateKey ↔ k ∈ s.owned.members c := by
  simp only [ownedEntries, mem_map, Iteration.mem_list, mem_filter, decide_eq_true_eq]
  constructor
  · rintro ⟨e, ⟨-, hmem⟩, rfl⟩
    exact hmem
  · intro hk
    obtain ⟨e, he, -⟩ := (h.mem_owned c k).1 hk
    obtain ⟨hrow, rfl⟩ := Keyed.get_eq_some.1 he
    exact ⟨e, ⟨hrow, hk⟩, rfl⟩

lemma Effect.announced (h : Sound s) (heffect : Effect s now order call s' events) :
    Announced s s' (Touches s now call) events := by
  cases heffect with
  | nothing => exact ⟨nodup_nil, forall_mem_nil _, forall_mem_nil _, fun _ _ => rfl⟩
  | set ns c topic key payload ttlMs hcap =>
    have hget := Keyed.get_put s.values (setEntry now ns c topic key payload ttlMs)
    refine ⟨nodup_singleton _, ?_, ?_, ?_⟩
    · exact forall_mem_singleton.2 rfl
    · refine forall_mem_singleton.2 ?_
      exact congrArg (Option.map EphemeralEntry.payload) ((hget _).trans (if_pos rfl))
    · intro k hk
      rw [map_singleton, mem_singleton] at hk
      exact congrArg (Option.map EphemeralEntry.payload) ((hget k).trans (if_neg (Ne.symm hk)))
  | clear e he =>
    refine announced_of_removed (l := [e]) EphemeralEntry.clientID (nodup_singleton _) ?_ ?_
    · simpa using get_removeLocked s e
    · exact forall_mem_singleton.2 ⟨rfl, e, he, rfl⟩
  | clearClient c =>
    rw [events_clearClient]
    refine announced_of_removed (fun _ => c) (nodup_ownedEntries s order c) ?_ ?_
    · intro k
      rw [get_clearClient]
      simp only [h.mem_ownedEntries]
    · intro e he
      exact (h.mem_owned c _).1 (h.mem_ownedEntries.1 (mem_map_of_mem he))
  | sweepExpired =>
    refine announced_of_removed EphemeralEntry.clientID (nodup_expired s order now) ?_ ?_
    · exact get_foldl_removeLocked _ s
    · intro e he
      exact ⟨e, mem_expired.1 he⟩

structure Tracked (c : Config Shared ι Phase) : Prop where
  sound : Sound c.shared.store
  readable : ∀ k e, c.shared.store.values.get k = some e → k.received = k
  pending_readable : ∀ i, ∀ p ∈ (c.phase i).pending, p.stateKey.received = p.stateKey
  nodup : ∀ i, ((c.phase i).pending.map Publication.stateKey).Nodup
  disjoint : ∀ i j, i ≠ j → ∀ p ∈ (c.phase i).pending, ∀ q ∈ (c.phase j).pending, p.stateKey ≠ q.stateKey
  value : ∀ i, ∀ p ∈ (c.phase i).pending, c.shared.store.value p.stateKey = p.event.value
  view : ∀ k, (∀ i, k ∉ (c.phase i).pending.map Publication.stateKey) → c.shared.view k = c.shared.store.value k

lemma tracked_initial : Tracked (initial : Config Shared ι Phase) where
  sound := sound_newEphemeralStore
  readable := by
    intro k e he
    cases he
  pending_readable i := forall_mem_nil _
  nodup i := nodup_nil
  disjoint i j _ := forall_mem_nil _
  value i := forall_mem_nil _
  view k _ := rfl

lemma received_of_touches (hstore : ∀ k e, s.values.get k = some e → k.received = k) (hcall : Readable call)
    (hk : Touches s now call k) : k.received = k := by
  cases call with
  | set ns c topic key payload ttlMs =>
    cases hk
    exact hcall
  | clear ns c topic key =>
    obtain ⟨-, e, he, -⟩ := hk
    exact hstore k e he
  | clearClient c =>
    obtain ⟨e, he, -⟩ := hk
    exact hstore k e he
  | sweepExpired =>
    obtain ⟨e, he, -⟩ := hk
    exact hstore k e he

variable [DecidableEq ι] {calls : ι → Call} {c : Config Shared ι Phase} {e : Event ι} {i j : ι} {p : Publication}
  {pending : List Publication}

lemma pending_update (phase : ι → Phase) (i j : ι) (pending : List Publication) :
    (update phase i (.publishing pending) j).pending = if j = i then pending else (phase j).pending := by
  rw [update_apply]
  split <;> rfl

lemma Announced.received (h : Announced s s' touched events)
    (hstore : ∀ k e, s.values.get k = some e → k.received = k) (htouched : ∀ k, touched k → k.received = k)
    (k : EphemeralStateKey) (e : EphemeralEntry) (he : s'.values.get k = some e) : k.received = k := by
  by_cases hk : k ∈ events.map stateKey
  · obtain ⟨p, hp, rfl⟩ := mem_map.1 hk
    exact htouched _ (h.touches p hp)
  · have hvalue := h.others k hk
    grind [Option.map_eq_some_iff, EphemeralStore.value]

lemma Tracked.begin (h : Tracked c) (hi : (c.phase i).pending = []) (hsound : Sound s')
    (hannounced : Announced c.shared.store s' touched events) (hreceived : ∀ k, touched k → k.received = k)
    (hfree : ∀ j, ∀ p ∈ (c.phase j).pending, ¬ touched p.stateKey) :
    Tracked ⟨⟨s', c.shared.view⟩, update c.phase i (.publishing events)⟩ where
  sound := hsound
  readable := hannounced.received h.readable hreceived
  pending_readable := by
    intro j q hq
    rw [pending_update] at hq
    split at hq
    · exact hreceived _ (hannounced.touches q hq)
    · exact h.pending_readable j q hq
  nodup := by
    intro j
    rw [pending_update]
    split
    · exact hannounced.nodup
    · exact h.nodup j
  disjoint := by
    intro j j' hne q hq q' hq'
    rw [pending_update] at hq hq'
    split at hq <;> split at hq'
    · next hj hj' => exact absurd (hj.trans hj'.symm) hne
    · intro heq
      exact hfree j' q' hq' (heq ▸ hannounced.touches q hq)
    · intro heq
      exact hfree j q hq (heq ▸ hannounced.touches q' hq')
    · exact h.disjoint j j' hne q hq q' hq'
  value := by
    intro j q hq
    rw [pending_update] at hq
    split at hq
    · exact hannounced.value q hq
    · refine (hannounced.others _ ?_).trans (h.value j q hq)
      intro hmem
      obtain ⟨q', hq', heq⟩ := mem_map.1 hmem
      exact hfree j q hq (heq ▸ hannounced.touches q' hq')
  view := by
    intro k hk
    have hnew : k ∉ events.map stateKey := by simpa [Phase.pending] using hk i
    refine (h.view k fun j => ?_).trans (hannounced.others k hnew).symm
    by_cases hj : j = i
    · rw [hj, hi]
      exact not_mem_nil
    · simpa [pending_update, hj] using hk j

lemma Tracked.publish (h : Tracked c) (hi : c.phase i = .publishing (p :: pending)) :
    Tracked ⟨⟨c.shared.store, c.shared.view.apply p⟩, update c.phase i (.publishing pending)⟩ := by
  have hold : (c.phase i).pending = p :: pending := by rw [hi, Phase.pending]
  have hnodup := h.nodup i
  rw [hold, map_cons, nodup_cons] at hnodup
  have hpending : ∀ {j q}, q ∈ (update c.phase i (.publishing pending) j).pending → q ∈ (c.phase j).pending := by
    grind [pending_update]
  refine ⟨h.sound, h.readable, fun j q hq => h.pending_readable j q (hpending hq), ?_,
    fun j j' hne q hq q' hq' => h.disjoint j j' hne q (hpending hq) q' (hpending hq'),
    fun j q hq => h.value j q (hpending hq), ?_⟩
  · intro j
    dsimp only
    rw [pending_update]
    split
    · exact hnodup.2
    · exact h.nodup j
  · intro k hk
    have hp : p ∈ (c.phase i).pending := hold ▸ mem_cons_self
    dsimp only
    rw [View.apply_apply, h.pending_readable i p hp]
    split
    · next hkey =>
      rw [hkey]
      exact (h.value i p hp).symm
    · next hkey =>
      refine h.view k fun j => ?_
      grind [pending_update]

lemma Tracked.step (h : Tracked c) (horderly : Orderly calls c e) : Tracked ((publisher calls).step c e) := by
  have hnext : (publisher calls).step c e = ⟨(act (calls e.process) e.now e.order c.shared (c.phase e.process)).1,
      update c.phase e.process (act (calls e.process) e.now e.order c.shared (c.phase e.process)).2⟩ := rfl
  rw [hnext]
  rw [Orderly] at horderly
  cases hphase : c.phase e.process with
  | start =>
    rw [hphase] at horderly
    have heffect := change_effect c.shared.store e.now e.order (calls e.process)
    exact h.begin (by rw [hphase, Phase.pending]) (h.sound.effect heffect) (heffect.announced h.sound)
      (fun k => received_of_touches h.readable horderly.1) horderly.2
  | publishing pending =>
    cases pending with
    | nil =>
      have hsame : update c.phase e.process (.publishing []) = c.phase := by rw [← hphase, update_eq_self]
      rw [act, hsame]
      exact h
    | cons p pending => exact h.publish hphase

/-- When no call changes a key about which an event is still to be published, a subscriber has what the store has in
the end. -/
theorem view_eq_of_orderly (calls : ι → Call) (events : List (Event ι))
    (h : (publisher calls).Respects (Orderly calls) initial events)
    (hfinished : ∀ i, ((publisher calls).run initial events).phase i = .publishing []) (k : EphemeralStateKey) :
    ((publisher calls).run initial events).shared.view k =
      ((publisher calls).run initial events).shared.store.value k := by
  have htracked : Tracked ((publisher calls).run initial events) :=
    h.induction (fun c e hc horderly => hc.step horderly) tracked_initial
  refine htracked.view k fun i => ?_
  rw [hfinished i]
  exact not_mem_nil

def turn {ι : Type} (i : ι) : Event ι := ⟨i, 0, .inOrder⟩

def sampleKey (key : Bytes) : EphemeralStateKey := ⟨ascii "ns", ascii "chat", key⟩

def twoSets (key : Bytes) (second : Bool) : Call :=
  .set (ascii "ns") (ascii "a") (ascii "chat") key (ascii (if second then "2" else "1")) 0

theorem view_of_twoSets :
    let c := (publisher (twoSets (ascii "cursor"))).run initial [turn false, turn false, turn true, turn true]
    c.shared.view (sampleKey (ascii "cursor")) = c.shared.store.value (sampleKey (ascii "cursor")) := by
  refine view_eq_of_orderly _ _ ?_ (by decide +kernel) _
  have hreadable : (sampleKey (ascii "cursor")).received = sampleKey (ascii "cursor") := by decide +kernel
  refine ⟨⟨hreadable, ?_⟩, trivial, ⟨hreadable, ?_⟩, trivial, trivial⟩
  · intro i p hp
    cases hp
  · intro i p hp
    cases i <;> cases hp

def overtaken : Config Shared Bool Phase :=
  (publisher (twoSets (ascii "cursor"))).run initial [turn false, turn true, turn true, turn false]

def unreadable : Config Shared Unit Phase :=
  (publisher fun _ => twoSets [0xff] false).run initial [turn (), turn ()]

/-- Two events are published in the other order than the changes were made. A key that is not UTF-8 is published as
another one. -/
theorem view_ne_store : ((∀ i, overtaken.phase i = .publishing []) ∧
    overtaken.shared.view (sampleKey (ascii "cursor")) = some (ascii "1") ∧
    overtaken.shared.store.value (sampleKey (ascii "cursor")) = some (ascii "2")) ∧
    (∀ i, unreadable.phase i = .publishing []) ∧ unreadable.shared.view (sampleKey [0xff]) = none ∧
    unreadable.shared.store.value (sampleKey [0xff]) = some (ascii "1") := by
  decide +kernel

end Orama.Serverless.Ephemeral
