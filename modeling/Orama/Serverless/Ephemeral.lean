import Orama.Lib.Keyed
import Orama.Lib.Maps
import Orama.Lib.Text

namespace Orama.Serverless.Ephemeral
open Lib Ephemeral

def ephemeralMaxKeysPerClient : Nat := 256
def ephemeralMaxPayloadBytes : Nat := 16384
def ephemeralMaxTTL : Int64 := 1800000000000
def ephemeralDefaultTTL : Int64 := 60000000000

structure EphemeralStateKey where
  ns : Bytes
  topic : Bytes
  key : Bytes
deriving DecidableEq

structure EphemeralEntry where
  stateKey : EphemeralStateKey
  clientID : Bytes
  payload : Bytes
  expiresAt : Int
deriving DecidableEq

inductive EphemeralEventType
  | set
  | clear
deriving DecidableEq, Repr

structure EphemeralEvent where
  type : EphemeralEventType
  topic : Bytes
  key : Bytes
  clientID : Bytes
  payload : Bytes
  reason : Bytes
deriving DecidableEq

structure Publication where
  ns : Bytes
  topic : Bytes
  event : EphemeralEvent
deriving DecidableEq

structure EphemeralStore where
  values : Keyed EphemeralEntry EphemeralEntry.stateKey
  owned : SetMap Bytes EphemeralStateKey

def newEphemeralStore : EphemeralStore := ⟨.empty, .empty⟩

def setEvent (e : EphemeralEntry) : Publication :=
  ⟨e.stateKey.ns, e.stateKey.topic, ⟨.set, e.stateKey.topic, e.stateKey.key, e.clientID, e.payload, []⟩⟩

def clearEvent (clientID reason : Bytes) (sk : EphemeralStateKey) : Publication :=
  ⟨sk.ns, sk.topic, ⟨.clear, sk.topic, sk.key, clientID, [], reason⟩⟩

def ttl (ttlMs : Int64) : Int64 :=
  let t := ttlMs * 1000000
  if t ≤ 0 then ephemeralDefaultTTL else if ephemeralMaxTTL < t then ephemeralMaxTTL else t

def EphemeralStore.alreadyOwned (s : EphemeralStore) (sk : EphemeralStateKey) (clientID : Bytes) : Bool :=
  (s.values.get sk).any fun e => e.clientID = clientID

def EphemeralStore.disown (s : EphemeralStore) (sk : EphemeralStateKey) (clientID : Bytes) :
    SetMap Bytes EphemeralStateKey :=
  match s.values.get sk with
  | none => s.owned
  | some prev => if prev.clientID ≠ clientID then s.owned.remove prev.clientID sk else s.owned

def EphemeralStore.put (s : EphemeralStore) (entry : EphemeralEntry) : EphemeralStore :=
  ⟨s.values.put entry, (s.disown entry.stateKey entry.clientID).add entry.clientID entry.stateKey⟩

def setEntry (now : Int) (ns clientID topic key payload : Bytes) (ttlMs : Int64) : EphemeralEntry :=
  ⟨⟨ns, topic, key⟩, clientID, payload, now + (ttl ttlMs).toInt⟩

def set (s : EphemeralStore) (now : Int) (ns clientID topic key payload : Bytes) (ttlMs : Int64) :
    Except Bytes (EphemeralStore × Publication) :=
  if clientID = [] then
    .error (ascii "ephemeral_state_set: requires a WebSocket client (no ws_client_id in invocation context)")
  else if topic = [] || key = [] then .error (ascii "ephemeral_state_set: topic and key are required")
  else if ephemeralMaxPayloadBytes < payload.length then
    .error (ascii "ephemeral_state_set: payload too large (" ++ decimal payload.length ++ ascii " > " ++
      decimal ephemeralMaxPayloadBytes ++ ascii " bytes)")
  else if !s.alreadyOwned ⟨ns, topic, key⟩ clientID && ephemeralMaxKeysPerClient ≤ (s.owned.members clientID).card then
    .error (ascii "ephemeral_state_set: client " ++ clientID ++ ascii " exceeded max " ++
      decimal ephemeralMaxKeysPerClient ++ ascii " ephemeral keys")
  else
    let entry := setEntry now ns clientID topic key payload ttlMs
    .ok (s.put entry, setEvent entry)

def removeLocked (s : EphemeralStore) (e : EphemeralEntry) : EphemeralStore :=
  ⟨s.values.delete fun r => r.stateKey = e.stateKey, s.owned.remove e.clientID e.stateKey⟩

def clear (s : EphemeralStore) (ns clientID topic key : Bytes) : Except Bytes (EphemeralStore × Option Publication) :=
  if clientID = [] then
    .error (ascii "ephemeral_state_clear: requires a WebSocket client (no ws_client_id in invocation context)")
  else if topic = [] || key = [] then .error (ascii "ephemeral_state_clear: topic and key are required")
  else
    match s.values.get ⟨ns, topic, key⟩ with
    | none => .ok (s, none)
    | some entry =>
      if entry.clientID ≠ clientID then .ok (s, none)
      else .ok (removeLocked s entry, some (clearEvent clientID (ascii "explicit") ⟨ns, topic, key⟩))

def clearClientWithReason (s : EphemeralStore) (order : Iteration EphemeralEntry) (clientID reason : Bytes) :
    EphemeralStore × List Publication :=
  let ownedSet := s.owned.members clientID
  if ownedSet.card = 0 then ({ s with owned := s.owned.erase clientID }, [])
  else
    (⟨s.values.delete fun r => r.stateKey ∈ ownedSet, s.owned.erase clientID⟩,
      (order.list (s.values.rows.filter fun r => r.stateKey ∈ ownedSet)).map
        fun r => clearEvent clientID reason r.stateKey)

def clearClient (s : EphemeralStore) (order : Iteration EphemeralEntry) (clientID : Bytes) :
    EphemeralStore × List Publication := clearClientWithReason s order clientID (ascii "disconnect")

def expired (s : EphemeralStore) (order : Iteration EphemeralEntry) (now : Int) : List EphemeralEntry :=
  order.list (s.values.rows.filter fun r => r.expiresAt < now)

def sweepExpired (s : EphemeralStore) (order : Iteration EphemeralEntry) (now : Int) :
    EphemeralStore × List Publication :=
  ((expired s order now).foldl removeLocked s,
    (expired s order now).map fun e => clearEvent e.clientID (ascii "expired") e.stateKey)

inductive Call
  | set (ns clientID topic key payload : Bytes) (ttlMs : Int64)
  | clear (ns clientID topic key : Bytes)
  | clearClient (clientID : Bytes)
  | sweepExpired
deriving DecidableEq

def change (s : EphemeralStore) (now : Int) (order : Iteration EphemeralEntry) :
    Call → EphemeralStore × List Publication
  | .set ns clientID topic key payload ttlMs =>
    match set s now ns clientID topic key payload ttlMs with
    | .error _ => (s, [])
    | .ok (s', event) => (s', [event])
  | .clear ns clientID topic key =>
    match clear s ns clientID topic key with
    | .error _ => (s, [])
    | .ok (s', event) => (s', event.toList)
  | .clearClient clientID => clearClient s order clientID
  | .sweepExpired => sweepExpired s order now

structure Op where
  call : Call
  now : Int
  order : Iteration EphemeralEntry

def step (s : EphemeralStore) (op : Op) : EphemeralStore := (change s op.now op.order op.call).1

def run (s : EphemeralStore) (ops : List Op) : EphemeralStore := ops.foldl step s

structure Sound (s : EphemeralStore) : Prop where
  mem_owned : ∀ c k, k ∈ s.owned.members c ↔ ∃ e, s.values.get k = some e ∧ e.clientID = c
  full : s.owned.Full
  card_le : ∀ c, (s.owned.members c).card ≤ ephemeralMaxKeysPerClient

variable {s s' : EphemeralStore} {e e' : EphemeralEntry} {k sk : EphemeralStateKey} {c c' : Bytes} {now : Int}

lemma sound_newEphemeralStore : Sound newEphemeralStore where
  mem_owned := by
    intro c k
    constructor
    · intro h
      cases h
    · rintro ⟨e, he, -⟩
      cases he
  full := SetMap.full_empty
  card_le c := Nat.zero_le _

open EphemeralStore

lemma disown_eq_of_forall (h : ∀ e, s.values.get sk = some e → e.clientID = c) : s.disown sk c = s.owned := by
  grind [disown]

lemma disown_eq_remove (he : s.values.get sk = some e) (hc : e.clientID ≠ c) :
    s.disown sk c = s.owned.remove e.clientID sk := by
  rw [disown, he]
  exact if_pos hc

lemma Sound.mem_disown (h : Sound s) :
    k ∈ (s.disown sk c).members c' ↔ k ∈ s.owned.members c' ∧ (k = sk → c' = c) := by
  by_cases hprev : ∀ e, s.values.get sk = some e → e.clientID = c
  · rw [disown_eq_of_forall hprev]
    constructor
    · intro hk
      refine ⟨hk, ?_⟩
      rintro rfl
      obtain ⟨e, he, rfl⟩ := (h.mem_owned c' k).1 hk
      exact hprev e he
    · exact And.left
  · push Not at hprev
    obtain ⟨prev, hget, hne⟩ := hprev
    rw [disown_eq_remove hget hne, SetMap.members_remove]
    split
    · grind
    · next heq =>
      constructor
      · intro hk
        refine ⟨hk, ?_⟩
        rintro rfl
        obtain ⟨e, he, rfl⟩ := (h.mem_owned c' k).1 hk
        rw [hget] at he
        cases he
        exact absurd rfl heq
      · exact And.left

lemma Sound.mem_put (h : Sound s) :
    k ∈ (s.put e).owned.members c ↔ (k = e.stateKey ∧ c = e.clientID) ∨ (k ≠ e.stateKey ∧ k ∈ s.owned.members c) := by
  grind [SetMap.members_add, mem_disown, put]

lemma alreadyOwned_iff : s.alreadyOwned sk c ↔ ∃ e, s.values.get sk = some e ∧ e.clientID = c := by
  simp [alreadyOwned, Option.any_eq_true]

open Finset

lemma Sound.put (h : Sound s) (hcap : s.alreadyOwned e.stateKey e.clientID ∨
    (s.owned.members e.clientID).card < ephemeralMaxKeysPerClient) : Sound (s.put e) where
  mem_owned := by
    intro c k
    rw [h.mem_put, EphemeralStore.put, Keyed.get_put]
    split
    · next hk =>
      subst hk
      simp [eq_comm]
    · next hk =>
      rw [h.mem_owned]
      simp [Ne.symm hk]
  full := by
    apply SetMap.Full.add
    rw [EphemeralStore.disown]
    split
    · exact h.full
    · split
      · exact SetMap.Full.remove h.full _ _
      · exact h.full
  card_le := by
    intro c
    by_cases hc : c = e.clientID
    · subst hc
      have hsub : (s.put e).owned.members e.clientID ⊆ insert e.stateKey (s.owned.members e.clientID) := by
        grind [mem_put]
      have hle := card_le_card hsub
      obtain hcap | hcap := hcap
      · rw [alreadyOwned_iff, ← h.mem_owned] at hcap
        rw [insert_eq_of_mem hcap] at hle
        exact hle.trans (h.card_le e.clientID)
      · exact hle.trans ((card_insert_le ..).trans hcap)
    · refine (card_le_card ?_).trans (h.card_le c)
      intro k hk
      rw [h.mem_put] at hk
      tauto

lemma Sound.of_removed {Gone : EphemeralStateKey → Prop} [DecidablePred Gone] (h : Sound s)
    (hvalues : ∀ k, s'.values.get k = if Gone k then none else s.values.get k)
    (howned : ∀ c k, k ∈ s'.owned.members c ↔ ¬ Gone k ∧ k ∈ s.owned.members c) (hfull : s'.owned.Full) : Sound s' where
  mem_owned := by
    intro c k
    rw [howned, hvalues, h.mem_owned]
    split
    · next hk => simp [hk]
    · next hk => simp [hk]
  full := hfull
  card_le := by
    intro c
    refine (card_le_card ?_).trans (h.card_le c)
    intro k hk
    exact ((howned c k).1 hk).2

lemma get_removeLocked (s : EphemeralStore) (e : EphemeralEntry) (k : EphemeralStateKey) :
    (removeLocked s e).values.get k = if k = e.stateKey then none else s.values.get k := by
  rw [removeLocked, Keyed.get_delete_key s.values fun k => k = e.stateKey]
  simp

lemma Sound.removeLocked (h : Sound s) (he : s.values.get e.stateKey = some e) : Sound (removeLocked s e) := by
  refine h.of_removed (get_removeLocked s e) ?_ (SetMap.Full.remove h.full _ _)
  intro c k
  rw [Ephemeral.removeLocked, SetMap.members_remove]
  split
  · next hc =>
    subst hc
    rw [mem_erase]
  · next hc =>
    refine ⟨fun hk => ⟨?_, hk⟩, And.right⟩
    rintro rfl
    obtain ⟨e', he', rfl⟩ := (h.mem_owned c _).1 hk
    rw [he] at he'
    cases he'
    exact hc rfl

section
variable (s : EphemeralStore) (order : Iteration EphemeralEntry) (c : Bytes)

lemma get_clearClient (k : EphemeralStateKey) :
    (clearClient s order c).1.values.get k = if k ∈ s.owned.members c then none else s.values.get k := by
  rw [clearClient, clearClientWithReason]
  split
  · next hempty => simp [card_eq_zero.1 hempty]
  · dsimp only
    rw [Keyed.get_delete_key s.values fun k => k ∈ s.owned.members c]
    simp

lemma owned_clearClient : (clearClient s order c).1.owned = s.owned.erase c := by
  rw [clearClient, clearClientWithReason]
  split <;> rfl

end

lemma Sound.clearClient (h : Sound s) (order : Iteration EphemeralEntry) (c : Bytes) :
    Sound (clearClient s order c).1 := by
  have howned := owned_clearClient s order c
  refine h.of_removed (get_clearClient s order c) ?_ (howned ▸ h.full.erase c)
  intro c' k
  rw [howned, SetMap.members_erase, h.mem_owned c]
  split
  · next hc =>
    subst hc
    simp [h.mem_owned]
  · next hc =>
    refine ⟨fun hk => ⟨?_, hk⟩, And.right⟩
    rintro ⟨e, he, rfl⟩
    obtain ⟨e', he', rfl⟩ := (h.mem_owned c' k).1 hk
    rw [he] at he'
    cases he'
    exact hc rfl

lemma get_foldl_removeLocked (l : List EphemeralEntry) (s : EphemeralStore) (k : EphemeralStateKey) :
    (l.foldl removeLocked s).values.get k = if k ∈ l.map EphemeralEntry.stateKey then none else s.values.get k := by
  induction l generalizing s with
  | nil => rfl
  | cons e l ih => grind [get_removeLocked]

lemma Sound.foldl_removeLocked {l : List EphemeralEntry} (h : Sound s) (hkeys : (l.map EphemeralEntry.stateKey).Nodup)
    (hl : ∀ e ∈ l, s.values.get e.stateKey = some e) : Sound (l.foldl Ephemeral.removeLocked s) := by
  induction l generalizing s with
  | nil => exact h
  | cons e l ih =>
    rw [List.map_cons, List.nodup_cons] at hkeys
    grind [removeLocked, get_removeLocked]

variable {order : Iteration EphemeralEntry}

lemma mem_expired : e ∈ expired s order now ↔ s.values.get e.stateKey = some e ∧ e.expiresAt < now := by
  simp [expired, Keyed.get_eq_some]

lemma nodup_expired (s : EphemeralStore) (order : Iteration EphemeralEntry) (now : Int) :
    ((expired s order now).map EphemeralEntry.stateKey).Nodup := by
  refine ((order.perm _).map _).nodup_iff.2 ?_
  exact s.values.nodup_keys.sublist (List.filter_sublist.map _)

lemma Sound.sweepExpired (h : Sound s) (order : Iteration EphemeralEntry) (now : Int) :
    Sound (sweepExpired s order now).1 :=
  h.foldl_removeLocked (nodup_expired s order now) fun _ he => (mem_expired.1 he).1

inductive Effect (s : EphemeralStore) (now : Int) (order : Iteration EphemeralEntry) :
    Call → EphemeralStore → List Publication → Prop
  | nothing (call : Call) : Effect s now order call s []
  | set (ns c topic key payload : Bytes) (ttlMs : Int64)
      (hcap : s.alreadyOwned ⟨ns, topic, key⟩ c = true ∨ (s.owned.members c).card < ephemeralMaxKeysPerClient) :
      Effect s now order (.set ns c topic key payload ttlMs) (s.put (setEntry now ns c topic key payload ttlMs))
        [setEvent (setEntry now ns c topic key payload ttlMs)]
  | clear (e : EphemeralEntry) (he : s.values.get e.stateKey = some e) :
      Effect s now order (.clear e.stateKey.ns e.clientID e.stateKey.topic e.stateKey.key) (removeLocked s e)
        [clearEvent e.clientID (ascii "explicit") e.stateKey]
  | clearClient (c : Bytes) : Effect s now order (.clearClient c) (clearClient s order c).1 (clearClient s order c).2
  | sweepExpired : Effect s now order .sweepExpired (sweepExpired s order now).1 (sweepExpired s order now).2

lemma change_effect (s : EphemeralStore) (now : Int) (order : Iteration EphemeralEntry) (call : Call) :
    Effect s now order call (change s now order call).1 (change s now order call).2 := by
  cases call with
  | set ns c topic key payload ttlMs =>
    rw [change, set]
    split_ifs with hclient hnames hpayload hcap
    · exact .nothing _
    · exact .nothing _
    · exact .nothing _
    · exact .nothing _
    · refine .set ns c topic key payload ttlMs ?_
      simpa [or_iff_not_imp_left] using hcap
  | clear ns c topic key =>
    rw [change, clear]
    split_ifs with hclient hnames
    · exact .nothing _
    · exact .nothing _
    · cases he : s.values.get ⟨ns, topic, key⟩ with
      | none => exact .nothing _
      | some e =>
        have hkey := (Keyed.get_eq_some.1 he).2
        dsimp only
        split_ifs with hc
        · exact .nothing _
        · rw [not_not] at hc
          subst hc
          have heffect : Effect s now order _ _ _ := .clear e (hkey ▸ he)
          rw [hkey] at heffect
          exact heffect
  | clearClient c => exact .clearClient c
  | sweepExpired => exact .sweepExpired

variable {events : List Publication} {call : Call}

lemma Sound.effect (h : Sound s) (heffect : Effect s now order call s' events) : Sound s' := by
  cases heffect with
  | nothing => exact h
  | set ns c topic key payload ttlMs hcap => exact h.put hcap
  | clear e he => exact h.removeLocked he
  | clearClient c => exact h.clearClient order c
  | sweepExpired => exact h.sweepExpired order now

lemma Sound.step (h : Sound s) (op : Op) : Sound (step s op) := h.effect (change_effect s op.now op.order op.call)

lemma sound_run (ops : List Op) : Sound (run newEphemeralStore ops) := by
  rw [run]
  induction ops using List.reverseRecOn with
  | nil => exact sound_newEphemeralStore
  | append_singleton ops op ih =>
    rw [List.foldl_append]
    exact ih.step op

def Names (call : Call) (now : Int) (e : EphemeralEntry) : Prop :=
  match call with
  | .set _ c _ _ _ _ | .clear _ c _ _ | .clearClient c => e.clientID = c
  | .sweepExpired => e.expiresAt < now

def Takes (call : Call) (s' : EphemeralStore) (k : EphemeralStateKey) : Prop :=
  ∃ c payload ttlMs e, call = .set k.ns c k.topic k.key payload ttlMs ∧ s'.values.get k = some e ∧ e.clientID = c

lemma names_or_takes (h : Sound s) (heffect : Effect s now order call s' events)
    (he : s.values.get k = some e) (hchange : s'.values.get k ≠ some e) : Names call now e ∨ Takes call s' k := by
  cases heffect with
  | nothing => exact absurd he hchange
  | set ns c topic key payload ttlMs hcap =>
    have hget := Keyed.get_put s.values (setEntry now ns c topic key payload ttlMs) k
    split_ifs at hget with hk
    · cases hk
      exact .inr ⟨c, payload, ttlMs, _, rfl, hget, rfl⟩
    · exact absurd (hget.trans he) hchange
  | clear e' he' =>
    left
    rw [get_removeLocked] at hchange
    split_ifs at hchange with hk
    · subst hk
      rw [he] at he'
      cases he'
      rfl
    · exact absurd he hchange
  | clearClient c =>
    left
    rw [get_clearClient] at hchange
    split_ifs at hchange with hk
    · obtain ⟨e', he', rfl⟩ := (h.mem_owned c k).1 hk
      rw [he] at he'
      cases he'
      rfl
    · exact absurd he hchange
  | sweepExpired =>
    left
    rw [sweepExpired, get_foldl_removeLocked] at hchange
    split_ifs at hchange with hk
    · obtain ⟨e', hexpired, rfl⟩ := List.mem_map.1 hk
      obtain ⟨he', hlt⟩ := mem_expired.1 hexpired
      rw [he] at he'
      cases he'
      exact hlt
    · exact absurd he hchange

/-- In every run the two maps agree and are bounded, and a call changes an entry of the client that it names, or an
expired one, or the one at the key that it sets. -/
theorem ownership_of_run (ops : List Op) :
    let s := run newEphemeralStore ops
    (∀ c k, k ∈ s.owned.members c ↔ ∃ e, s.values.get k = some e ∧ e.clientID = c) ∧ s.owned.Full ∧
      (∀ c, (s.owned.members c).card ≤ ephemeralMaxKeysPerClient) ∧
      ∀ op k e, s.values.get k = some e → (step s op).values.get k ≠ some e →
      Names op.call op.now e ∨ Takes op.call (step s op) k := by
  intro s
  have h : Sound s := sound_run ops
  refine ⟨h.mem_owned, h.full, h.card_le, ?_⟩
  intro op k e he hchange
  exact names_or_takes h (change_effect s op.now op.order op.call) he hchange

def setOf (clientID payload : Bytes) : Op :=
  ⟨.set (ascii "ns") clientID (ascii "chat") (ascii "cursor") payload 0, 0, .inOrder⟩

def cursorKey : EphemeralStateKey := ⟨ascii "ns", ascii "chat", ascii "cursor"⟩

theorem ownership_of_setOf :
    let s := run newEphemeralStore [setOf (ascii "a") []]
    let op := setOf (ascii "b") []
    Names op.call op.now (setEntry 0 (ascii "ns") (ascii "a") (ascii "chat") (ascii "cursor") [] 0) ∨
      Takes op.call (step s op) cursorKey :=
  (ownership_of_run [setOf (ascii "a") []]).2.2.2 _ _ _ (by decide +kernel) (by decide +kernel)

/-- The key of one client is set by another one. -/
theorem set_takes_key_of_other : ¬ ∀ (ops : List Op) (op : Op) (k : EphemeralStateKey) (e : EphemeralEntry),
    (run newEphemeralStore ops).values.get k = some e →
    (step (run newEphemeralStore ops) op).values.get k ≠ some e → Names op.call op.now e := by
  intro h
  have hnames : ascii "a" = ascii "b" := h [setOf (ascii "a") []] (setOf (ascii "b") []) cursorKey
    (setEntry 0 (ascii "ns") (ascii "a") (ascii "chat") (ascii "cursor") [] 0) (by decide +kernel) (by decide +kernel)
  revert hnames
  decide +kernel

structure EphemeralListEntry where
  key : Bytes
  clientID : Bytes
  payload : Bytes
  expiresInMs : Int
deriving DecidableEq

/-- A difference of two times is at most the greatest Duration. -/
def EphemeralEntry.listed (now : Int) (e : EphemeralEntry) : EphemeralListEntry :=
  ⟨e.stateKey.key, e.clientID, e.payload, min (e.expiresAt - now) 9223372036854775807 / 1000000⟩

def list (s : EphemeralStore) (ns topic : Bytes) (now : Int) : List EphemeralListEntry :=
  ((s.values.rows.filter fun e => e.stateKey.ns = ns && e.stateKey.topic = topic && now < e.expiresAt).map
    (EphemeralEntry.listed now)).mergeSort fun a b => a.key ≤ b.key

/-- What was asked for, over the integers. -/
def lifetime (ttlMs : Int) : Int :=
  if ttlMs ≤ 0 then ephemeralDefaultTTL.toInt else min (ttlMs * 1000000) ephemeralMaxTTL.toInt

/-- The call is about another key or another client. -/
def Leaves (e : EphemeralEntry) : Call → Prop
  | .set ns _ topic key _ _ => ⟨ns, topic, key⟩ ≠ e.stateKey
  | .clear ns c topic key => c = e.clientID → ⟨ns, topic, key⟩ ≠ e.stateKey
  | .clearClient c => c ≠ e.clientID
  | .sweepExpired => True

/-- The entry is there, or was swept after its time. -/
def Lasts (e : EphemeralEntry) (t : Int) (s : EphemeralStore) : Prop :=
  s.values.get e.stateKey = some e ∨ s.values.get e.stateKey = none ∧ e.expiresAt < t

variable {ns topic key : Bytes} {ttlMs : Int64} {t : Int}

lemma toInt_ttl (hfits : |ttlMs.toInt| * 1000000 < 2 ^ 63) : (ttl ttlMs).toInt = lifetime ttlMs.toInt := by
  have hmul : (ttlMs * 1000000).toInt = ttlMs.toInt * 1000000 := by
    have hbounds := abs_lt.1 (show |ttlMs.toInt| < 9223372036855 by omega)
    rw [Int64.toInt_mul]
    exact Int.bmod_eq_of_le (by change _ ≤ ttlMs.toInt * 1000000; omega) (by change ttlMs.toInt * 1000000 < _; omega)
  have hmax : ephemeralMaxTTL.toInt = 1800000000000 := rfl
  have hzero : (0 : Int64).toInt = 0 := rfl
  rw [ttl, lifetime]
  simp only [Int64.le_iff_toInt_le, Int64.lt_iff_toInt_lt, hmul, hzero]
  split_ifs <;> omega

lemma Lasts.effect (h : Lasts e t s) (hsound : Sound s) (heffect : Effect s now order call s' events)
    (hleaves : Leaves e call) (hnow : now ≤ t) : Lasts e t s' := by
  cases heffect with
  | nothing => exact h
  | set => rwa [Lasts, EphemeralStore.put, Keyed.get_put, if_neg (by exact hleaves)]
  | clear e' he =>
    rw [Lasts, get_removeLocked]
    split
    · next hkey =>
      rw [Lasts, hkey, he] at h
      obtain h | ⟨h, -⟩ := h <;> cases h
      exact absurd rfl (hleaves rfl)
    · exact h
  | clearClient c =>
    rw [Lasts, get_clearClient]
    split
    · next hmem =>
      obtain ⟨e', he, rfl⟩ := (hsound.mem_owned c _).1 hmem
      grind [Leaves, Lasts]
    · exact h
  | sweepExpired =>
    rw [Lasts, sweepExpired, get_foldl_removeLocked]
    split
    · grind [Lasts, mem_expired]
    · exact h

lemma Lasts.run {ops : List Op} (h : Lasts e t s) (hsound : Sound s)
    (hops : ∀ op ∈ ops, Leaves e op.call ∧ op.now ≤ t) : Lasts e t (run s ops) := by
  induction ops generalizing s with
  | nil => exact h
  | cons op ops ih =>
    rw [List.forall_mem_cons] at hops
    exact ih (h.effect hsound (change_effect s op.now op.order op.call) hops.1.1 hops.1.2) (hsound.step op) hops.2

lemma mem_list (entry : EphemeralListEntry) : entry ∈ list s ns topic now ∧ entry.key = key ↔
    ∃ e, s.values.get ⟨ns, topic, key⟩ = some e ∧ now < e.expiresAt ∧ e.listed now = entry := by
  simp only [list, List.mem_mergeSort, List.mem_map, List.mem_filter, Keyed.get_eq_some, Bool.and_eq_true,
    decide_eq_true_eq]
  constructor
  · rintro ⟨⟨e, ⟨hmem, ⟨rfl, rfl⟩, hlive⟩, rfl⟩, rfl⟩
    exact ⟨e, ⟨hmem, rfl⟩, hlive, rfl⟩
  · rintro ⟨e, ⟨hmem, hkey⟩, hlive, rfl⟩
    simp only [EphemeralEntry.listed, hkey, and_true]
    exact ⟨e, ⟨hmem, by simp [hkey, hlive]⟩, by rw [hkey]⟩

end Orama.Serverless.Ephemeral
