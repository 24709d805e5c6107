import Mathlib.Data.List.Basic

namespace Orama.Serverless

def invocationLogQueueSize : Nat := 4096

/-- The channel with its worker, and what enqueue has accepted and the sink was given. -/
structure InvocationLogQueue (Record : Type) where
  ch : List Record
  closed : Bool
  writing : Option Record
  returned : Bool
  dropped : Nat
  panicked : Bool
  accepted : List Record
  written : List Record

inductive LogEvent (Record : Type)
  | enqueue (rec : Option Record)
  | worker
  | close

namespace InvocationLogQueue
variable {Record : Type}

def new : InvocationLogQueue Record := ⟨[], false, none, false, 0, false, [], []⟩

/-- A send on a closed channel panics, in a select with a default too. -/
def enqueue (q : InvocationLogQueue Record) : Option Record → InvocationLogQueue Record × Option Bool
  | none => (q, some false)
  | some rec =>
    if q.closed then ({ q with panicked := true }, none)
    else if q.ch.length < invocationLogQueueSize then
      ({ q with ch := q.ch ++ [rec], accepted := q.accepted ++ [rec] }, some true)
    else ({ q with dropped := q.dropped + 1 }, some false)

/-- A turn of the worker, which gives the sink the record it holds or takes the next one. -/
def run (q : InvocationLogQueue Record) : InvocationLogQueue Record :=
  match q.writing, q.ch with
  | some rec, _ => { q with writing := none, written := q.written ++ [rec] }
  | none, rec :: ch => { q with ch, writing := some rec }
  | none, [] => if q.closed then { q with returned := true } else q

def step (q : InvocationLogQueue Record) : LogEvent Record → InvocationLogQueue Record
  | .enqueue rec => (q.enqueue rec).1
  | .worker => q.run
  | .close => { q with closed := true }

/-- No invocation is logged once the channel is closed. -/
def OnTime : InvocationLogQueue Record → List (LogEvent Record) → Prop
  | _, [] => True
  | q, e :: events => (∀ rec, e = .enqueue (some rec) → q.closed = false) ∧ OnTime (q.step e) events

/-- What was accepted is written, held by the worker or waiting, in this order. The worker returns when the channel is
closed and empty. -/
structure Kept (q : InvocationLogQueue Record) : Prop where
  calm : q.panicked = false
  order : q.accepted = q.written ++ (q.writing.toList ++ q.ch)
  done : q.returned = true → q.closed = true ∧ q.writing = none ∧ q.ch = []

variable {q : InvocationLogQueue Record} {e : LogEvent Record} {events : List (LogEvent Record)}

lemma Kept.enqueue (h : Kept q) {rec : Record} (hopen : q.closed = false) : Kept (q.enqueue (some rec)).1 := by
  obtain ⟨hcalm, horder, hdone⟩ := h
  rw [InvocationLogQueue.enqueue, if_neg (by simp [hopen])]
  split
  · refine ⟨hcalm, by simp [horder], fun hreturned => ?_⟩
    rw [hopen] at hdone
    cases (hdone hreturned).1
  · exact ⟨hcalm, horder, hdone⟩

lemma Kept.run (h : Kept q) : Kept q.run := by
  obtain ⟨hcalm, horder, hdone⟩ := h
  rw [InvocationLogQueue.run]
  split
  · constructor <;> simp_all
  · constructor <;> simp_all
  · split
    · next hwriting hch hclosed => exact ⟨hcalm, horder, fun _ => ⟨hclosed, hwriting, hch⟩⟩
    · exact ⟨hcalm, horder, hdone⟩

lemma Kept.foldl (h : Kept q) (htime : OnTime q events) : Kept (events.foldl step q) := by
  induction events generalizing q with
  | nil => exact h
  | cons e events ih =>
    refine ih ?_ htime.2
    match e with
    | .enqueue none => exact h
    | .enqueue (some rec) => exact h.enqueue (htime.1 rec rfl)
    | .worker => exact h.run
    | .close => exact ⟨h.calm, h.order, fun hreturned => ⟨rfl, (h.done hreturned).2⟩⟩

/-- Once the channel is closed, the worker returns after two turns for each record that waits. -/
lemma Kept.returns (h : Kept q) (hclosed : q.closed) : ∃ n, ((List.replicate n .worker).foldl step q).returned ∧
    ((List.replicate n .worker).foldl step q).written = q.accepted := by
  induction hn : q.ch.length + q.ch.length + q.writing.toList.length generalizing q with
  | zero =>
    obtain ⟨hch, hwriting⟩ : q.ch = [] ∧ q.writing = none := by simpa using hn
    exact ⟨1, by simp [step, InvocationLogQueue.run, hwriting, hch, hclosed, h.order]⟩
  | succ n ih =>
    have hrun : q.run.ch.length + q.run.ch.length + q.run.writing.toList.length = n ∧ q.run.closed = q.closed ∧
        q.run.accepted = q.accepted := by
      grind [InvocationLogQueue.run]
    obtain ⟨hless, hsame, haccepted⟩ := hrun
    obtain ⟨k, hreturned, hwritten⟩ := ih h.run (hsame.trans hclosed) hless
    exact ⟨k + 1, hreturned, hwritten.trans haccepted⟩

/-- Where no invocation is logged after Close, no send panics, and when the worker has returned the sink was given what
was accepted, once and in order. -/
theorem log_queue_flushes (events : List (LogEvent Record)) (htime : OnTime new events) :
    let q := events.foldl step new
    q.panicked = false ∧ q.written <+: q.accepted ∧ (q.returned = true → q.written = q.accepted) ∧
      (q.closed = true → ∃ n, ((List.replicate n .worker).foldl step q).returned = true ∧
      ((List.replicate n .worker).foldl step q).written = q.accepted) := by
  have h : Kept (events.foldl step new) := Kept.foldl ⟨rfl, rfl, nofun⟩ htime
  refine ⟨h.calm, ⟨_, h.order.symm⟩, fun hreturned => ?_, h.returns⟩
  obtain ⟨-, hwriting, hch⟩ := h.done hreturned
  simp [h.order, hwriting, hch]

theorem log_queue_flushes_one : ([.enqueue (some 1), .close].foldl step new).written <+: [1] :=
  (log_queue_flushes [.enqueue (some 1), .close] (by simp [OnTime, new])).2.1

/-- Close does not wait for the invocations that still run. -/
theorem log_queue_panics : ([.enqueue (some 1), .close, .enqueue (some 2)].foldl step new).panicked = true := rfl

/-- What is true of every run, also of one in which a send panics. -/
structure Accounted (q : InvocationLogQueue Record) : Prop where
  order : q.accepted = q.written ++ (q.writing.toList ++ q.ch)
  bounded : q.ch.length ≤ invocationLogQueueSize
  done : q.returned → q.closed ∧ q.writing = none ∧ q.ch = []

lemma Accounted.step (h : Accounted q) (e : LogEvent Record) : Accounted (q.step e) := by
  obtain ⟨horder, hbounded, hdone⟩ := h
  cases e with
  | enqueue rec => cases rec <;> constructor <;> grind [InvocationLogQueue.step, InvocationLogQueue.enqueue]
  | worker => constructor <;> grind [InvocationLogQueue.step, InvocationLogQueue.run]
  | close => exact ⟨horder, hbounded, fun hreturned => ⟨rfl, (hdone hreturned).2⟩⟩

theorem queue_accounted (events : List (LogEvent Record)) : Accounted (events.foldl step new) :=
  List.foldlRecOn events step ⟨rfl, by simp [new], by simp [new]⟩ fun _ h e _ => h.step e

end InvocationLogQueue
end Orama.Serverless
