import Orama.Serverless.Dispatcher

namespace Orama.Serverless
open Lib List
section
variable {ι : Type} {store : PubSubTriggerStore} {call : PublishCall} {handler : ι → Subscription} {now : Int}
variable {f : Firing} {found : List TriggerMatch} {event : PubSubEvent}

lemma mem_fire (h : f ∈ fire found event) : f.trigger ∈ found := by
  obtain ⟨m, hm, hf⟩ := mem_filterMap.1 h
  grind

lemma nodup_fire (h : (found.map TriggerMatch.triggerID).Nodup)
    (event : PubSubEvent) : ((fire found event).map fun f => f.trigger.triggerID).Nodup := by
  refine (⟨found, h⟩ : Keyed TriggerMatch TriggerMatch.triggerID).nodup_filterMap fun m f hf => ?_
  split at hf
  · cases hf
    rfl
  · split at hf
    · cases hf
      rfl
    · cases hf

lemma exists_mem_fire (event : PubSubEvent) {m : TriggerMatch} (hm : m ∈ found)
    (h : ¬ (m.aggregationWindowMs ≤ 0 ∧ marshals event.data = false)) : ∃ f ∈ fire found event, f.trigger = m := by
  by_cases hwindow : 0 < m.aggregationWindowMs
  · exact ⟨⟨m, event, true⟩, mem_filterMap.2 ⟨m, hm, by simp [hwindow]⟩, rfl⟩
  · have hmarshals : marshals event.data := by
      rw [not_and, Bool.not_eq_false] at h
      exact h (by omega)
    exact ⟨⟨m, event, false⟩, mem_filterMap.2 ⟨m, hm, by simp [hwindow, hmarshals]⟩, rfl⟩

lemma not_fired_of_unencoded (h : f ∈ fire found event) :
    ¬ (f.trigger.aggregationWindowMs ≤ 0 ∧ marshals event.data = false) := by
  rintro ⟨hwindow, hmarshals⟩
  obtain ⟨m, -, hf⟩ := mem_filterMap.1 h
  rw [hmarshals] at hf
  split at hf
  · grind
  · cases hf

def scope (call : PublishCall) (handler : ι → Subscription) : Option ι → Bytes
  | none => call.ns
  | some i => (handler i).ns

lemma mem_output (htopic : ∀ i, (handler i).topic = call.topic) {process : Option ι}
    (h : f ∈ output store call handler now process) :
    f.trigger ∈ store.getByTopicAndNamespace call.topic (scope call handler process) := by
  cases process with
  | none => exact mem_of_mem_filter (mem_fire h)
  | some i =>
    have hmem := mem_fire h
    rw [htopic i] at hmem
    exact hmem

lemma nodup_output (store : PubSubTriggerStore) (call : PublishCall) (handler : ι → Subscription) (now : Int)
    (process : Option ι) : ((output store call handler now process).map fun f => f.trigger.triggerID).Nodup := by
  cases process with
  | none => exact nodup_fire ((store.nodup_triggerIDs ..).sublist (filter_sublist.map _)) _
  | some i => exact nodup_fire (store.nodup_triggerIDs ..) _

end

open DedupEntry
section
variable {entries : Keyed DedupEntry DedupEntry.key} {now until' : Int} {key k : Bytes}

lemma claim_of_roomy (hroom : entries.rows.length < localDedupMaxEntries) :
    claim entries now key = if (entries.get key).any fun e => now < e.expiry then (false, entries)
      else (true, entries.upsert ⟨key, now + localDedupTTL⟩ (renew (now + localDedupTTL))
        (key_renew (now + localDedupTTL))) := by
  rw [claim]
  simp [Nat.not_le.2 hroom]

lemma fst_claim_empty (now : Int) (key : Bytes) : (claim .empty now key).1 := by
  rw [claim_of_roomy (by decide)]
  rfl

def Remembers (entries : Keyed DedupEntry DedupEntry.key) (key : Bytes) (until' : Int) : Prop :=
  ∃ e, entries.get key = some e ∧ until' ≤ e.expiry

lemma Remembers.claim_fst (h : Remembers entries key until') (hroom : entries.rows.length < localDedupMaxEntries)
    (hnow : now < until') : (claim entries now key).1 = false := by
  obtain ⟨e, hget, he⟩ := h
  grind [claim_of_roomy]

lemma Remembers.claim (h : Remembers entries k until') (hroom : entries.rows.length < localDedupMaxEntries)
    (hnow : now < until') : Remembers (claim entries now key).2 k until' := by
  obtain ⟨e, hget, he⟩ := h
  rw [claim_of_roomy hroom]
  split
  · exact ⟨e, hget, he⟩
  · next hany =>
    have hne : k ≠ key := by
      grind
    refine ⟨e, ?_, he⟩
    rw [Keyed.get_upsert_of_ne _ _ _ _ hne]
    exact hget

lemma remembers_of_claim (hroom : entries.rows.length < localDedupMaxEntries)
    (h : (Serverless.claim entries now key).1) :
    Remembers (Serverless.claim entries now key).2 key (now + localDedupTTL) := by
  rw [claim_of_roomy hroom] at h ⊢
  split at h
  · cases h
  · next hany =>
    rw [if_neg hany]
    refine ⟨_, Keyed.get_upsert_self entries ⟨key, now + localDedupTTL⟩ _ _, ?_⟩
    cases entries.get key with
    | none => exact Int.le_refl _
    | some e => exact Int.le_refl _

end

def DispatchPhase.won : DispatchPhase → Bool
  | .claimed | .looking | .fired => true
  | _ => false

def PublishCall.sends (call : PublishCall) : Bool := publishError call false = none

section
variable {ι : Type} {store : PubSubTriggerStore} {call : PublishCall} {handler : ι → Subscription}

lemma sends_of_publishError {fault : Bool} (h : publishError call fault = none) : call.sends := by
  cases fault with
  | false => exact decide_eq_true h
  | true => grind [publishError]

inductive StepEffect (store : PubSubTriggerStore) (call : PublishCall) (handler : ι → Subscription)
    (e : DispatchEvent ι) (s : Dispatched ι) (phase : DispatchPhase) : Dispatched ι × DispatchPhase → Prop
  | quiet (next : DispatchPhase) (hfired : phase = .fired → next = .fired)
      (hwon : e.process ≠ none → next.won = true → phase.won = true)
      (hsent : e.process = none → next = .looking ∨ next = .fired → phase = next ∨ call.sends = true) :
      StepEffect store call handler e s phase (s, next)
  | claims (i : ι) (hprocess : e.process = some i) (hstart : phase = .start) : StepEffect store call handler e s phase
        ({ s with entries := (claim s.entries e.now (dispatchDedupKey (handler i) call.data)).2 },
          if (claim s.entries e.now (dispatchDedupKey (handler i) call.data)).1 then .claimed else .skipped)
  | fires (hlooking : phase = .looking) (hdispatches : e.process = none → call.dispatches = true) :
      StepEffect store call handler e s phase
        ({ s with fired := s.fired ++ (output store call handler e.now e.process).map fun f => (e.process, f) }, .fired)

lemma act_effect (store : PubSubTriggerStore) (call : PublishCall) (handler : ι → Subscription)
    (e : DispatchEvent ι) (s : Dispatched ι) (phase : DispatchPhase) :
    StepEffect store call handler e s phase ((publishing store call handler).act e s phase) := by
  obtain ⟨process, now, fault, olric⟩ := e
  have hsame : ∀ process, StepEffect store call handler ⟨process, now, fault, olric⟩ s phase (s, phase) :=
    fun _ => .quiet phase id (fun _ h => h) (fun _ _ => .inl rfl)
  cases process with
  | none =>
    change StepEffect _ _ _ _ _ _ (pubSubPublish store call handler ⟨none, now, fault, olric⟩ s phase)
    cases phase with
    | start =>
      rw [pubSubPublish]
      split
      · exact .quiet _ nofun (fun h => absurd rfl h) (fun _ h => by rcases h with h | h <;> cases h)
      · next herror =>
        exact .quiet _ nofun (fun h => absurd rfl h) (fun _ _ => .inr (sends_of_publishError herror))
    | looking =>
      rw [pubSubPublish]
      split
      · next hdispatches =>
        rw [lookup]
        split
        · exact .quiet _ nofun (fun h => absurd rfl h) (fun _ h => by rcases h with h | h <;> cases h)
        · exact .fires rfl fun _ => hdispatches
      · exact .quiet _ nofun (fun h => absurd rfl h) (fun _ h => by rcases h with h | h <;> cases h)
    | claimed => exact hsame none
    | fired => exact hsame none
    | skipped => exact hsame none
    | failed error => exact hsame none
  | some i =>
    change StepEffect _ _ _ _ _ _ (dispatch store call handler i ⟨some i, now, fault, olric⟩ s phase)
    cases phase with
    | start => exact .claims i rfl rfl
    | claimed =>
      rw [dispatch]
      split
      · exact .quiet _ nofun nofun nofun
      · exact .quiet _ nofun (fun _ _ => rfl) nofun
    | looking =>
      rw [dispatch, lookup]
      split
      · exact .quiet _ nofun nofun nofun
      · exact .fires rfl nofun
    | fired => exact hsame (some i)
    | skipped => exact hsame (some i)
    | failed error => exact hsame (some i)

/-- What is known of the processes of a run: a delivery that has the claim is the only one of its
namespace, and each process that has fired its triggers has done so once. -/
structure Ledger (store : PubSubTriggerStore) (call : PublishCall) (handler : ι → Subscription) (start : Int)
    (c : Config (Dispatched ι) (Option ι) DispatchPhase) : Prop where
  remembers : ∀ i, (c.phase (some i)).won = true →
    Remembers c.shared.entries (dispatchDedupKey (handler i) call.data) (start + localDedupTTL)
  alone : ∀ i j, (c.phase (some i)).won = true → (c.phase (some j)).won = true → handler i = handler j → i = j
  sends : c.phase none = .looking ∨ c.phase none = .fired → call.sends = true
  fired : ∀ x ∈ c.shared.fired, c.phase x.1 = .fired ∧ (x.1 = none → call.dispatches = true) ∧
    ∃ now, x.2 ∈ output store call handler now x.1
  nodup : (c.shared.fired.map fun x => (x.1, x.2.trigger.triggerID)).Nodup

lemma ledger_unsent (entries : Keyed DedupEntry key) (start : Int) :
    Ledger store call handler start (unsent entries) where
  remembers i h := by cases h
  alone i j h := by cases h
  sends h := by rcases h with h | h <;> cases h
  fired x hx := absurd hx not_mem_nil
  nodup := nodup_nil

variable {i j : ι}

lemma Ledger.claim_fst {start now : Int} {c : Config (Dispatched ι) (Option ι) DispatchPhase}
    (h : Ledger store call handler start c) (hwon : (c.phase (some j)).won) (hij : handler j = handler i)
    (hroom : c.shared.entries.rows.length < localDedupMaxEntries) (hlt : now < start + localDedupTTL) :
    (claim c.shared.entries now (dispatchDedupKey (handler i) call.data)).1 = false := by
  have hremembers := h.remembers j hwon
  rw [hij] at hremembers
  exact hremembers.claim_fst hroom hlt

/-- The call does not fire a trigger that the handler of its own namespace fires too: it has no
such handler, or no trigger with another pattern than the topic can be fired. -/
def Separate (store : PubSubTriggerStore) (subscribed : List Subscription) (call : PublishCall) : Prop :=
  call.sends = true → call.dispatches = true → ⟨call.ns, call.topic⟩ ∈ subscribed →
    ∀ m ∈ store.getByTopicAndNamespace call.topic call.ns, m.topicPattern ≠ call.topic →
    m.aggregationWindowMs ≤ 0 ∧ marshals call.data = false

variable {subscribed : List Subscription}

section
variable {c : Config (Dispatched ι) (Option ι) DispatchPhase} {start : Int} (h : Ledger store call handler start c)
  (hseparate : Separate store subscribed call) (hhandler : ∀ i, handler i ∈ subscribed ∧
  (handler i).topic = call.topic)
include h hseparate hhandler

lemma Ledger.disjoint {x y : Option ι × Firing}
    (hx : x ∈ c.shared.fired) (hy : y ∈ c.shared.fired) (hnone : x.1 = none) (hsome : y.1 = some i) :
    x.2.trigger.triggerID ≠ y.2.trigger.triggerID := by
  intro hid
  obtain ⟨hphase, hdispatches, now, hf⟩ := h.fired x hx
  obtain ⟨-, -, now', hg⟩ := h.fired y hy
  have hfmem := mem_output (fun i => (hhandler i).2) hf
  have hgmem := mem_output (fun i => (hhandler i).2) hg
  rw [hnone] at hf hfmem hphase
  rw [hsome] at hgmem
  obtain ⟨hns, -⟩ := store.ns_eq_of_triggerID hfmem hgmem hid
  have hsub : (⟨call.ns, call.topic⟩ : Subscription) ∈ subscribed := by
    have heq : (⟨call.ns, call.topic⟩ : Subscription) = handler i := by
      rw [Subscription.mk.injEq]
      exact ⟨hns, (hhandler i).2.symm⟩
    rw [heq]
    exact (hhandler i).1
  have hpattern : x.2.trigger.topicPattern ≠ call.topic := by
    have hkept := of_mem_filter (mem_fire hf)
    simpa using hkept
  exact not_fired_of_unencoded hf
    (hseparate (h.sends (.inr hphase)) (hdispatches hnone) hsub x.2.trigger hfmem hpattern)

lemma Ledger.atMostOnce : (c.shared.fired.map fun f => f.2.trigger.triggerID).Nodup := by
  have hinj : ∀ p ∈ c.shared.fired.map (fun x => (x.1, x.2.trigger.triggerID)),
      ∀ q ∈ c.shared.fired.map (fun x => (x.1, x.2.trigger.triggerID)), p.2 = q.2 → p = q := by
    intro p hp q hq hid
    obtain ⟨x, hx, rfl⟩ := mem_map.1 hp
    obtain ⟨y, hy, rfl⟩ := mem_map.1 hq
    dsimp only at hid ⊢
    suffices hprocess : x.1 = y.1 by rw [hprocess, hid]
    cases hxp : x.1 with
    | none =>
      cases hyp : y.1 with
      | none => rfl
      | some j => exact absurd hid (h.disjoint hseparate hhandler hx hy hxp hyp)
    | some i =>
      cases hyp : y.1 with
      | none => exact absurd hid.symm (h.disjoint hseparate hhandler hy hx hyp hxp)
      | some j =>
        -- both deliveries have the claim of the one namespace of the trigger
        obtain ⟨hwon, -, now, hf⟩ := h.fired x hx
        obtain ⟨hwon', -, now', hg⟩ := h.fired y hy
        have hfmem := mem_output (fun i => (hhandler i).2) hf
        have hgmem := mem_output (fun i => (hhandler i).2) hg
        rw [hxp] at hfmem hwon
        rw [hyp] at hgmem hwon'
        obtain ⟨hns, -⟩ := store.ns_eq_of_triggerID hfmem hgmem hid
        have heq : handler i = handler j := by
          cases hi : handler i
          cases hj : handler j
          grind [scope]
        rw [h.alone i j (by rw [hwon]; rfl) (by rw [hwon']; rfl) heq]
  have hnodup := h.nodup.map_on hinj
  rw [map_map] at hnodup
  exact hnodup

end

variable [DecidableEq ι] {start now : Int} {c : Config (Dispatched ι) (Option ι) DispatchPhase} {process : Option ι}
  {next : DispatchPhase}

lemma won_of_won_update (c : Config (Dispatched ι) (Option ι) DispatchPhase) (process : Option ι)
    (next : DispatchPhase) (hwon : ∀ i, process = some i → next.won → (c.phase (some i)).won) (i : ι)
    (h : (Function.update c.phase process next (some i)).won) : (c.phase (some i)).won := by
  grind

lemma fired_update (hnext : c.phase process = .fired → next = .fired) {p : Option ι} (hp : c.phase p = .fired) :
    Function.update c.phase process next p = .fired := by
  grind

lemma Ledger.quiet (h : Ledger store call handler start c) (hfired : c.phase process = .fired → next = .fired)
    (hwon : process ≠ none → next.won → (c.phase process).won)
    (hsent : process = none → next = .looking ∨ next = .fired → c.phase process = next ∨ call.sends) :
    Ledger store call handler start ⟨c.shared, Function.update c.phase process next⟩ := by
  have hback := won_of_won_update c process next fun i hi hn => by
    subst hi
    exact hwon (by simp) hn
  refine ⟨fun i hi => h.remembers i (hback i hi), fun i j hi hj => h.alone i j (hback i hi) (hback j hj),
    fun hphase => ?_, fun x hx => ?_, h.nodup⟩
  · dsimp only at hphase
    by_cases hp : none = process
    · subst hp
      rw [Function.update_self] at hphase
      rcases hsent rfl hphase with hold | hsends
      · exact h.sends (hold ▸ hphase)
      · exact hsends
    · rw [Function.update_of_ne hp] at hphase
      exact h.sends hphase
  · obtain ⟨hphase, hrest⟩ := h.fired x hx
    exact ⟨fired_update hfired hphase, hrest⟩

lemma won_of_claims {claimed : Bool}
    (h : (Function.update c.phase (some i) (if claimed then .claimed else .skipped) (some j)).won) :
    (j = i ∧ claimed) ∨ (c.phase (some j)).won := by
  by_cases hji : j = i
  · subst hji
    rw [Function.update_self] at h
    split at h
    · next hclaimed => exact .inl ⟨rfl, hclaimed⟩
    · cases h
  · rw [Function.update_of_ne (by simpa using hji)] at h
    exact .inr h

section
variable (h : Ledger store call handler start c)
include h

lemma Ledger.claims (hstart : c.phase (some i) = .start)
    (hprompt : start ≤ now ∧ now < start + localDedupTTL ∧ c.shared.entries.rows.length < localDedupMaxEntries) :
    Ledger store call handler start
      ⟨{ c.shared with entries := (claim c.shared.entries now (dispatchDedupKey (handler i) call.data)).2 },
        Function.update c.phase (some i)
          (if (claim c.shared.entries now (dispatchDedupKey (handler i) call.data)).1 then .claimed else .skipped)⟩ := by
  obtain ⟨hle, hlt, hroom⟩ := hprompt
  refine ⟨fun j hj => ?_, fun j k hj hk hjk => ?_, fun hphase => ?_, fun x hx => ?_, h.nodup⟩
  · rcases won_of_claims hj with ⟨rfl, hclaim⟩ | hold
    · obtain ⟨entry, hget, hexpiry⟩ := remembers_of_claim hroom hclaim
      exact ⟨entry, hget, by omega⟩
    · exact (h.remembers j hold).claim hroom hlt
  · rcases won_of_claims hj with ⟨rfl, hclaim⟩ | holdj
    · rcases won_of_claims hk with ⟨rfl, -⟩ | holdk
      · rfl
      · rw [h.claim_fst holdk hjk.symm hroom hlt] at hclaim
        cases hclaim
    · rcases won_of_claims hk with ⟨rfl, hclaim⟩ | holdk
      · rw [h.claim_fst holdj hjk hroom hlt] at hclaim
        cases hclaim
      · exact h.alone j k holdj holdk hjk
  · dsimp only at hphase
    rw [Function.update_of_ne (by simp)] at hphase
    exact h.sends hphase
  · obtain ⟨hphase, hrest⟩ := h.fired x hx
    refine ⟨fired_update (fun hi => ?_) hphase, hrest⟩
    rw [hstart] at hi
    cases hi

lemma Ledger.fires (hlooking : c.phase process = .looking) (hdispatches : process = none → call.dispatches) :
    Ledger store call handler start
      ⟨{ c.shared with fired := c.shared.fired ++ (output store call handler now process).map fun f => (process, f) },
        Function.update c.phase process .fired⟩ := by
  have hback := won_of_won_update c process .fired fun i hi _ => by
    rw [← hi, hlooking]
    rfl
  refine ⟨fun i hi => h.remembers i (hback i hi), fun i j hi hj => h.alone i j (hback i hi) (hback j hj),
    fun hphase => ?_, fun x hx => ?_, ?_⟩
  · dsimp only at hphase
    by_cases hp : none = process
    · subst hp
      exact h.sends (.inl hlooking)
    · rw [Function.update_of_ne hp] at hphase
      exact h.sends hphase
  · rcases mem_append.1 hx with hold | hnew
    · obtain ⟨hphase, hrest⟩ := h.fired x hold
      exact ⟨fired_update (fun _ => rfl) hphase, hrest⟩
    · grind
  · dsimp only
    rw [map_append, map_map]
    refine List.Nodup.append h.nodup ?_ ?_
    · grind [nodup_output]
    · -- what has been fired before was fired by others
      intro y hold hnew
      obtain ⟨x, hx, rfl⟩ := mem_map.1 hold
      obtain ⟨f, -, hf⟩ := mem_map.1 hnew
      have hphase := (h.fired x hx).1
      rw [← (Prod.mk.inj hf).1, hlooking] at hphase
      cases hphase

lemma Ledger.step {e : DispatchEvent ι} (he : Prompt start c e) :
    Ledger store call handler start ((publishing store call handler).step c e) := by
  have heffect := act_effect store call handler e c.shared (c.phase e.process)
  have hstep : (publishing store call handler).step c e =
      ⟨((publishing store call handler).act e c.shared (c.phase e.process)).1,
      Function.update c.phase e.process ((publishing store call handler).act e c.shared (c.phase e.process)).2⟩ := rfl
  rw [hstep]
  generalize (publishing store call handler).act e c.shared (c.phase e.process) = next at heffect
  cases heffect with
  | quiet next hfired hwon hsent => exact h.quiet hfired hwon hsent
  | claims i hprocess hstart =>
    rw [hprocess] at hstart ⊢
    exact h.claims hstart (he i hprocess hstart)
  | fires hlooking hdispatches => exact h.fires hlooking hdispatches

end
end

def loopback : List (DispatchEvent (Fin 1)) :=
  [⟨none, 0, false, .noClient⟩, ⟨none, 0, false, .noClient⟩, ⟨some 0, 0, false, .noClient⟩,
    ⟨some 0, 0, false, .noClient⟩, ⟨some 0, 0, false, .noClient⟩]

section
variable {call : PublishCall} (store : PubSubTriggerStore) (hsends : call.sends = true)
  (hdispatches : call.dispatches = true)
include hsends hdispatches

attribute [local simp] loopback Interleaving.step publishing unsent pubSubPublish dispatch lookup fst_claim_empty

lemma fired_loopback :
    ((publishing store call fun _ => ⟨call.ns, call.topic⟩).run (unsent .empty) loopback).shared.fired =
    (output store call (fun _ : Fin 1 => ⟨call.ns, call.topic⟩) 0 none).map (fun f => (none, f)) ++
    (output store call (fun _ : Fin 1 => ⟨call.ns, call.topic⟩) 0 (some 0)).map fun f => (some 0, f) := by
  have herror : publishError call false = none := of_decide_eq_true hsends
  simp [Interleaving.run, herror, hdispatches]

lemma prompt_loopback :
    (publishing store call fun _ => ⟨call.ns, call.topic⟩).Respects (Prompt 0) (unsent .empty) loopback := by
  have herror : publishError call false = none := of_decide_eq_true hsends
  have hroom : (Keyed.empty : Keyed DedupEntry key).rows.length < localDedupMaxEntries := by decide
  have httl : 0 < localDedupTTL := by decide
  simp [Interleaving.Respects, Prompt, herror, hdispatches, hroom, httl]

end

/-- One publish fires each trigger at most once, whatever is delivered, exactly when the
gateway has no handler for the topic in the namespace of the call or no wildcard trigger of it is fired. -/
theorem publish_fires_once_iff (store : PubSubTriggerStore) (previous : List Subscription)
    (accepts : Subscription → Bool) (call : PublishCall) :
    AtMostOnce store (refresh store previous accepts) call ↔
      Separate store (refresh store previous accepts) call := by
  constructor
  · intro honce hsends hdispatches hsub m hm hpattern
    by_contra hfires
    have hrun := honce 1 (fun _ => ⟨call.ns, call.topic⟩) .empty 0 loopback (fun _ => ⟨hsub, rfl⟩)
      (prompt_loopback store hsends hdispatches)
    rw [fired_loopback store hsends hdispatches, map_append, map_map, map_map] at hrun
    have hwild : m ∈ filterWildcardMatches (store.getByTopicAndNamespace call.topic call.ns) call.topic :=
      mem_filter.2 ⟨hm, by simpa using hpattern⟩
    obtain ⟨f, hf, hfm⟩ :=
      exists_mem_fire ⟨call.topic, call.data, call.ns, call.depth + 1, 0 / 1000000000⟩ hwild hfires
    obtain ⟨g, hg, hgm⟩ := exists_mem_fire ⟨call.topic, call.data, call.ns, 1, 0 / 1000000000⟩ hm hfires
    refine disjoint_of_nodup_append hrun (mem_map.2 ⟨f, hf, rfl⟩) (mem_map.2 ⟨g, hg, ?_⟩)
    simp [hfm, hgm]
  · intro hseparate n handler entries start events hhandler hprompt
    have hledger := hprompt.induction (P := Ledger store call handler start) (fun _ _ h he => h.step he)
      (ledger_unsent entries start)
    exact hledger.atMostOnce hseparate hhandler

def presenceStore : PubSubTriggerStore where
  triggers := ⟨[⟨ascii "concrete", ascii "f", ascii "presence:user-1", true, 0, 0⟩,
    ⟨ascii "wildcard", ascii "f", ascii "presence:*", true, 0, 0⟩], by decide⟩
  functions := ⟨[⟨ascii "f", ascii "on-presence", ascii "app", true⟩], by decide⟩
  glob := strictGlobMatch

def presenceCall : PublishCall :=
  ⟨ascii "presence:user-1", some (ascii "\x7b\x7d"), true, true, 1, ascii "app", 0⟩

/-- The wildcard trigger is fired by the call, and again by the delivery to the handler of the topic. -/
theorem publish_fires_twice : ¬ AtMostOnce presenceStore (refresh presenceStore [] fun _ => true) presenceCall := by
  intro h
  have hnodup := h 1 (fun _ => ⟨presenceCall.ns, presenceCall.topic⟩) .empty 0 loopback
    (fun _ => ⟨by decide +kernel, rfl⟩) (by decide +kernel)
  revert hnodup
  decide +kernel

end Orama.Serverless
