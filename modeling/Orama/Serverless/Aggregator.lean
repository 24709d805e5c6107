import Orama.Serverless.Dispatcher

namespace Orama.Serverless.Aggregator
open Lib List

structure BufferKey where
  ns : Bytes
  functionID : Bytes
  triggerID : Bytes
deriving DecidableEq

structure BufferRequest where
  key : BufferKey
  windowMs : Int
  maxBatchSize : Int
  event : PubSubEvent
deriving DecidableEq

structure BufferEntry where
  key : BufferKey
  events : List PubSubEvent
  timer : Bool
  windowMs : Int
  maxBatch : Nat
deriving DecidableEq

inductive FlushReason
  | timer
  | size
  | shutdown
deriving DecidableEq, Repr

structure Flush where
  key : BufferKey
  events : List PubSubEvent
  maxBatch : Nat
  reason : FlushReason
deriving DecidableEq

structure State where
  buffers : Keyed BufferEntry BufferEntry.key
  flushes : List Flush

def defaultMaxBatchSize : Nat := 100

def BufferEntry.add (event : PubSubEvent) (b : BufferEntry) : BufferEntry :=
  { b with events := b.events ++ [event], timer := true }

lemma BufferEntry.key_add (event : PubSubEvent) (b : BufferEntry) : (b.add event).key = b.key := rfl

def flushLocked (s : State) (b : BufferEntry) (reason : FlushReason) : State :=
  let buffers := s.buffers.delete fun r => r.key = b.key
  if b.events = [] then { s with buffers := buffers }
  else if b.events.all fun e => marshals e.data then ⟨buffers, s.flushes ++ [⟨b.key, b.events, b.maxBatch, reason⟩]⟩
  else { s with buffers := buffers }

def maxBatch (req : BufferRequest) : Nat :=
  if req.maxBatchSize ≤ 0 then defaultMaxBatchSize else req.maxBatchSize.toNat

def entryOf (s : State) (req : BufferRequest) : BufferEntry :=
  (s.buffers.get req.key).getD ⟨req.key, [], false, req.windowMs, maxBatch req⟩

def buffer (s : State) (req : BufferRequest) : State :=
  if req.windowMs ≤ 0 then s
  else
    let b := (entryOf s req).add req.event
    let s := { s with
      buffers := s.buffers.upsert ⟨req.key, [req.event], true, req.windowMs, maxBatch req⟩
        (BufferEntry.add req.event) (BufferEntry.key_add req.event) }
    if b.maxBatch ≤ b.events.length then flushLocked s b .size else s

def flushByTimer (s : State) (key : BufferKey) : State :=
  match s.buffers.get key with
  | none => s
  | some b =>
    if b.events = [] then { s with buffers := s.buffers.delete fun r => r.key = key } else flushLocked s b .timer

structure IterationOrder where
  keys : List BufferKey → List BufferKey
  perm : ∀ l, (keys l).Perm l

def flushKey (s : State) (key : BufferKey) : State :=
  match s.buffers.get key with
  | none => s
  | some b => flushLocked s b .shutdown

def shutdown (s : State) (order : IterationOrder) : State :=
  (order.keys (s.buffers.rows.map BufferEntry.key)).foldl flushKey s

inductive Op
  | buffer (req : BufferRequest)
  | timer (key : BufferKey)

def step (s : State) : Op → State
  | .buffer req => buffer s req
  | .timer key => flushByTimer s key

def run (s : State) (ops : List Op) : State := ops.foldl step s
def new : State := ⟨.empty, []⟩

def Op.bufferedAs (key : BufferKey) : Op → Option PubSubEvent
  | .buffer req => if 0 < req.windowMs ∧ req.key = key then some req.event else none
  | .timer _ => none

def buffered (ops : List Op) (key : BufferKey) : List PubSubEvent := ops.filterMap (Op.bufferedAs key)

def State.flushed (s : State) (key : BufferKey) : List PubSubEvent :=
  s.flushes.flatMap fun f => if f.key = key then f.events else []

def State.pending (s : State) (key : BufferKey) : List PubSubEvent := (s.buffers.get key).elim [] BufferEntry.events

structure ExactlyOnce (ops : List Op) (s : State) : Prop where
  delivered : ∀ key, s.flushed key = buffered ops key
  sized : ∀ f ∈ s.flushes, 1 ≤ f.events.length ∧ f.events.length ≤ f.maxBatch
  drained : s.buffers.rows = []

open Keyed BufferEntry
open State
section
variable {s : State} {b : BufferEntry} {reason : FlushReason} {key : BufferKey}

lemma buffers_flushLocked (s : State) (b : BufferEntry) (reason : FlushReason) :
    (flushLocked s b reason).buffers = s.buffers.delete fun r => r.key = b.key := by
  rw [flushLocked]
  split
  · rfl
  · split <;> rfl

lemma get_flushLocked (s : State) (b : BufferEntry) (reason : FlushReason) (key : BufferKey) :
    (flushLocked s b reason).buffers.get key = if key = b.key then none else s.buffers.get key := by
  rw [buffers_flushLocked, get_delete]
  cases hget : s.buffers.get key with
  | none => simp
  | some r => grind [get_eq_some]

lemma mem_flushes_flushLocked {f : Flush} (h : f ∈ (flushLocked s b reason).flushes) :
    f ∈ s.flushes ∨ (f = ⟨b.key, b.events, b.maxBatch, reason⟩ ∧ b.events ≠ [] ∧
    ∀ e ∈ b.events, marshals e.data) := by
  grind [flushLocked]

lemma flushed_flushLocked (hvalid : ∀ e ∈ b.events, marshals e.data) (key : BufferKey) :
    (flushLocked s b reason).flushed key = s.flushed key ++ if key = b.key then b.events else [] := by
  grind [flushLocked, flushed]

lemma balance_flushLocked (hget : s.buffers.get b.key = some b) (hvalid : ∀ e ∈ b.events, marshals e.data)
    (key : BufferKey) :
    (flushLocked s b reason).flushed key ++ (flushLocked s b reason).pending key = s.flushed key ++ s.pending key := by
  grind [flushed_flushLocked, get_flushLocked, pending]

end

structure Sound (s : State) : Prop where
  open' : ∀ b ∈ s.buffers.rows, b.events ≠ [] ∧ b.events.length < b.maxBatch
  sized : ∀ f ∈ s.flushes, 1 ≤ f.events.length ∧ f.events.length ≤ f.maxBatch
  encoded : ∀ f ∈ s.flushes, ∀ e ∈ f.events, marshals e.data = true

section
variable {s : State} {b : BufferEntry} {reason : FlushReason} {key : BufferKey}

lemma sound_new : Sound new :=
  ⟨nofun, nofun, nofun⟩

lemma sound_flushLocked (hopen : ∀ r ∈ s.buffers.rows, r.key ≠ b.key → r.events ≠ [] ∧ r.events.length < r.maxBatch)
    (hsized : ∀ f ∈ s.flushes, 1 ≤ f.events.length ∧ f.events.length ≤ f.maxBatch)
    (hencoded : ∀ f ∈ s.flushes, ∀ e ∈ f.events, marshals e.data) (hle : b.events.length ≤ b.maxBatch) :
    Sound (flushLocked s b reason) where
  open' r hr := by
    rw [buffers_flushLocked] at hr
    obtain ⟨hmem, hkey⟩ := mem_filter.1 hr
    exact hopen r hmem (by simpa using hkey)
  sized f hf := by
    rcases mem_flushes_flushLocked hf with hold | ⟨rfl, hne, -⟩
    · exact hsized f hold
    · exact ⟨length_pos_iff.2 hne, hle⟩
  encoded f hf := by
    rcases mem_flushes_flushLocked hf with hold | ⟨rfl, -, hvalid⟩
    · exact hencoded f hold
    · exact hvalid

lemma Sound.flush (h : Sound s) (hget : s.buffers.get key = some b) : Sound (flushLocked s b reason) :=
  sound_flushLocked (fun r hr _ => h.open' r hr) h.sized h.encoded
    (Nat.le_of_lt (h.open' b (get_eq_some.1 hget).1).2)

lemma Sound.timer (h : Sound s) (key : BufferKey) : Sound (flushByTimer s key) := by
  rw [flushByTimer]
  split
  · exact h
  · next b hget =>
    rw [if_neg (h.open' b (get_eq_some.1 hget).1).1]
    exact h.flush hget

lemma Sound.flushKey (h : Sound s) (key : BufferKey) : Sound (flushKey s key) := by
  grind [flush, Aggregator.flushKey]

def added (s : State) (req : BufferRequest) : State :=
  { s with
    buffers := s.buffers.upsert ⟨req.key, [req.event], true, req.windowMs, maxBatch req⟩
      (BufferEntry.add req.event) (BufferEntry.key_add req.event) }

variable {req : BufferRequest}

lemma buffer_eq (s : State) (hwindow : 0 < req.windowMs) :
    buffer s req = if ((entryOf s req).add req.event).maxBatch ≤ ((entryOf s req).add req.event).events.length then
        flushLocked (added s req) ((entryOf s req).add req.event) .size else added s req := by
  rw [buffer, if_neg (Int.not_le.2 hwindow)]
  rfl

lemma get_added_self (s : State) (req : BufferRequest) :
    (added s req).buffers.get req.key = some ((entryOf s req).add req.event) := by
  have h := s.buffers.get_upsert_self ⟨req.key, [req.event], true, req.windowMs, maxBatch req⟩
    (add req.event) (key_add req.event)
  refine h.trans ?_
  rw [entryOf]
  cases s.buffers.get req.key with
  | none => rfl
  | some b => rfl

lemma get_added_of_ne (s : State) (hne : key ≠ req.key) :
    (added s req).buffers.get key = s.buffers.get key := s.buffers.get_upsert_of_ne _ _ _ hne

lemma key_entryOf (s : State) (req : BufferRequest) : (entryOf s req).key = req.key := by
  rw [entryOf]
  cases hget : s.buffers.get req.key with
  | none => rfl
  | some b => exact (get_eq_some.1 hget).2

lemma pending_added (s : State) (req : BufferRequest) (key : BufferKey) :
    (added s req).pending key = s.pending key ++ if key = req.key then [req.event] else [] := by
  rw [pending, pending]
  split
  · next hk =>
    subst hk
    rw [get_added_self, entryOf]
    cases s.buffers.get req.key with
    | none => rfl
    | some b => rfl
  · next hk => rw [get_added_of_ne s hk, append_nil]

lemma one_le_maxBatch (req : BufferRequest) : 1 ≤ maxBatch req := by
  rw [maxBatch]
  split
  · decide
  · omega

lemma Sound.length_entryOf (h : Sound s) (req : BufferRequest) :
    ((entryOf s req).add req.event).events.length ≤ ((entryOf s req).add req.event).maxBatch := by
  rw [entryOf]
  cases hget : s.buffers.get req.key with
  | none => exact one_le_maxBatch req
  | some b =>
    have hlt := (h.open' b (get_eq_some.1 hget).1).2
    simp only [Option.getD_some, add, length_append, length_singleton]
    omega

variable {r : BufferEntry}

lemma Sound.open_added (h : Sound s) (hr : r ∈ (added s req).buffers.rows) (hne : r.key ≠ req.key) :
    r.events ≠ [] ∧ r.events.length < r.maxBatch := by
  have hget : (added s req).buffers.get r.key = some r := get_eq_some.2 ⟨hr, rfl⟩
  rw [get_added_of_ne s hne] at hget
  exact h.open' r (get_eq_some.1 hget).1

lemma Sound.buffer (h : Sound s) (req : BufferRequest) : Sound (buffer s req) := by
  by_cases hwindow : 0 < req.windowMs
  · rw [buffer_eq s hwindow]
    split
    · refine sound_flushLocked (fun r hr hne => h.open_added hr ?_) h.sized h.encoded (h.length_entryOf req)
      rwa [key_add, key_entryOf] at hne
    · next hroom =>
      refine ⟨fun r hr => ?_, h.sized, h.encoded⟩
      by_cases hne : r.key = req.key
      · have hget : (added s req).buffers.get req.key = some r := get_eq_some.2 ⟨hr, hne⟩
        rw [get_added_self] at hget
        cases hget
        exact ⟨by simp [add], Nat.lt_of_not_le hroom⟩
      · exact h.open_added hr hne
  · rw [Aggregator.buffer, if_pos (Int.not_lt.1 hwindow)]
    exact h

lemma Sound.step (h : Sound s) (op : Op) : Sound (step s op) := by
  cases op with
  | buffer req => exact h.buffer req
  | timer key => exact h.timer key

lemma sound_run (ops : List Op) : Sound (run new ops) := by
  have hrun : ∀ (ops : List Op) (s : State), Sound s → Sound (run s ops) := by
    intro ops
    induction ops with
    | nil => exact fun _ h => h
    | cons op ops ih => exact fun s h => ih _ (h.step op)
  exact hrun ops new sound_new

def Balanced (ops : List Op) (s : State) : Prop := ∀ key, s.flushed key ++ s.pending key = buffered ops key

def Encodable (ops : List Op) : Prop := ∀ key, ∀ e ∈ buffered ops key, marshals e.data = true

variable {ops : List Op}

section
variable (h : Balanced ops s) (hops : Encodable ops)
include h hops

lemma Balanced.valid (hget : s.buffers.get key = some b) : ∀ e ∈ b.events, marshals e.data := by
  intro e he
  refine hops key e ?_
  rw [← h key, pending, hget]
  exact mem_append_right _ he

lemma Balanced.flush (hget : s.buffers.get b.key = some b) : Balanced ops (flushLocked s b reason) := fun key => by
  rw [balance_flushLocked hget (h.valid hops hget)]
  exact h key

lemma Balanced.flushKey (key : BufferKey) : Balanced ops (flushKey s key) := by
  grind [get_eq_some, flush, Aggregator.flushKey]

end

lemma buffered_concat (ops : List Op) (op : Op) (key : BufferKey) :
    buffered (ops ++ [op]) key = buffered ops key ++ (op.bufferedAs key).toList := by
  grind [buffered]

lemma Balanced.added (h : Balanced ops s) (hwindow : 0 < req.windowMs) :
    Balanced (ops ++ [.buffer req]) (added s req) := by
  intro key
  have hflushed : (Aggregator.added s req).flushed key = s.flushed key := rfl
  rw [hflushed, pending_added, ← append_assoc, h key, buffered_concat, Op.bufferedAs]
  by_cases hk : req.key = key
  · simp [hwindow, hk]
  · simp [hk, Ne.symm hk]

lemma Balanced.timer (h : Balanced ops s) (hsound : Sound s) (hops : Encodable ops) (key : BufferKey) :
    Balanced ops (flushByTimer s key) := by
  rw [flushByTimer]
  split
  · exact h
  · next b hget =>
    rw [if_neg (hsound.open' b (get_eq_some.1 hget).1).1]
    obtain rfl := (get_eq_some.1 hget).2
    exact h.flush hops hget

lemma Balanced.buffer (h : Balanced ops s) (hops : Encodable (ops ++ [.buffer req])) :
    Balanced (ops ++ [.buffer req]) (buffer s req) := by
  by_cases hwindow : 0 < req.windowMs
  · grind [added, buffer_eq, flush, key_add, key_entryOf, get_added_self]
  · rw [Aggregator.buffer, if_pos (Int.not_lt.1 hwindow)]
    intro key
    rw [h key, buffered_concat, Op.bufferedAs, if_neg fun h => hwindow h.1]
    exact (append_nil _).symm

lemma balanced_run (hops : Encodable ops) : Balanced ops (run new ops) := by
  induction ops using List.reverseRecOn with
  | nil => exact fun _ => rfl
  | append_singleton ops op ih =>
    have hbefore : Encodable ops := by
      intro key e he
      refine hops key e ?_
      rw [buffered_concat]
      exact mem_append_left _ he
    have hbalanced := ih hbefore
    have hrun : run new (ops ++ [op]) = step (run new ops) op := by
      rw [run, foldl_append]
      rfl
    rw [hrun]
    cases op with
    | timer key =>
      have hsame : buffered (ops ++ [.timer key]) = buffered ops := by
        funext k
        rw [buffered_concat]
        exact append_nil _
      rw [Balanced, hsame]
      exact hbalanced.timer (sound_run ops) hbefore key
    | buffer req => exact hbalanced.buffer hops

lemma get_flushKey (s : State) (k key : BufferKey) :
    (flushKey s k).buffers.get key = if key = k then none else s.buffers.get key := by
  grind [get_eq_some, get_flushLocked, flushKey]

lemma get_foldl_flushKey {keys : List BufferKey} (h : (keys.foldl flushKey s).buffers.get key = some r) :
    key ∉ keys ∧ s.buffers.get key = some r := by
  induction keys generalizing s with
  | nil => exact ⟨not_mem_nil, h⟩
  | cons k keys ih => grind [get_flushKey]

lemma rows_shutdown (s : State) (order : IterationOrder) : (shutdown s order).buffers.rows = [] := by
  rw [eq_nil_iff_forall_not_mem]
  intro r hr
  have hget : (shutdown s order).buffers.get r.key = some r := get_eq_some.2 ⟨hr, rfl⟩
  obtain ⟨hnot, hbefore⟩ := get_foldl_flushKey hget
  rw [(order.perm _).mem_iff] at hnot
  exact hnot (mem_map.2 ⟨r, (get_eq_some.1 hbefore).1, rfl⟩)

lemma shutdown_induction {P : State → Prop} (hstep : ∀ s key, P s → P (flushKey s key)) (order : IterationOrder)
    (h : P s) : P (shutdown s order) := by
  rw [shutdown]
  generalize order.keys (s.buffers.rows.map key) = keys
  induction keys generalizing s with
  | nil => exact h
  | cons key keys ih => exact ih (hstep s key h)

end

/-- After a shutdown each event has been handed on exactly once, in order, exactly when all
events that were buffered can be encoded. -/
theorem aggregator_exactly_once_iff (ops : List Op) (order : IterationOrder) :
    ExactlyOnce ops (shutdown (run new ops) order) ↔ ∀ key, ∀ e ∈ buffered ops key, marshals e.data = true := by
  have hsound : Sound (shutdown (run new ops) order) :=
    shutdown_induction (fun _ key h => h.flushKey key) order (sound_run ops)
  constructor
  · intro h key e he
    rw [← h.delivered key] at he
    obtain ⟨f, hf, hef⟩ := mem_flatMap.1 he
    split at hef
    · exact hsound.encoded f hf e hef
    · cases hef
  · intro hops
    have hbalanced : Balanced ops (shutdown (run new ops) order) :=
      shutdown_induction (fun _ key h => h.flushKey hops key) order (balanced_run hops)
    refine ⟨fun key => ?_, hsound.sized, rows_shutdown _ order⟩
    have hnone : (shutdown (run new ops) order).pending key = [] := by
      grind [get_eq_none, rows_shutdown, pending]
    have h := hbalanced key
    rwa [hnone, append_nil] at h

def presenceKey : BufferKey := ⟨ascii "app", ascii "f", ascii "t"⟩

def presenceEvent (text : Bytes) : PubSubEvent := ⟨ascii "presence:user-1", some text, ascii "app", 1, 0⟩

def mixedOps : List Op :=
  [.buffer ⟨presenceKey, 500, 0, presenceEvent (ascii "\x7b\x7d")⟩, .buffer ⟨presenceKey, 500, 0, presenceEvent (ascii "hello")⟩]

/-- One event that cannot be encoded takes the others of its bucket with it. -/
theorem aggregator_drops_batch : presenceEvent (ascii "\x7b\x7d") ∈ buffered mixedOps presenceKey ∧
    (shutdown (run new mixedOps) ⟨id, fun _ => .refl _⟩).flushes = [] ∧
    ¬ ExactlyOnce mixedOps (shutdown (run new mixedOps) ⟨id, fun _ => .refl _⟩) := by
  have hflushes : (shutdown (run new mixedOps) ⟨id, fun _ => .refl _⟩).flushes = [] := by decide +kernel
  refine ⟨by decide +kernel, hflushes, fun h => ?_⟩
  have hdelivered := h.delivered presenceKey
  rw [flushed, hflushes] at hdelivered
  revert hdelivered
  decide +kernel

end Orama.Serverless.Aggregator
