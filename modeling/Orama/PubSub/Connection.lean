import Orama.Lib.Text

namespace Orama.PubSub.WebSocket
open Lib

structure Connection where
  reading : Bool
  -- the channel that the writer closes when it ends
  done : Bool
  returned : Bool
  subscribed : Bool
  present : Bool
  network : Bool
deriving DecidableEq

inductive Iteration
  | message (written : Bool)
  | tick (written : Bool)
  | cancelled
deriving DecidableEq

inductive Event
  | read
  | readFails
  | writes (i : Iteration)
  | readerWakes
  | networkWakes
deriving DecidableEq

namespace Connection

def opened : Connection := ⟨true, false, false, true, true, true⟩

def writerLoop (c : Connection) : Iteration → Connection
  | .message written => if written then c else { c with done := true }
  | .tick _ => c
  | .cancelled => if c.returned then { c with done := true } else c

def step (c : Connection) : Event → Connection
  | .read => c
  | .readFails => { c with reading := false }
  | .writes i => if c.done then c else c.writerLoop i
  | .readerWakes =>
    if c.reading = false ∧ c.done then { c with returned := true, subscribed := false, present := false } else c
  | .networkWakes => if c.done then { c with network := false } else c

def run (c : Connection) (events : List Event) : Connection := events.foldl step c

variable {c : Connection} {events : List Event} {e : Event}

structure Ended (c c' : Connection) : Prop where
  reading : c.reading = false → c'.reading = false
  done : c.done = true → c'.done = true
  returned : c.returned = true → c'.returned = true ∧ (c.subscribed = false → c'.subscribed = false) ∧
    (c.present = false → c'.present = false)
  network : c.network = false → c'.network = false

lemma Ended.trans {c' c'' : Connection} (h : Ended c c') (h' : Ended c' c'') : Ended c c'' where
  reading hreading := h'.reading (h.reading hreading)
  done hdone := h'.done (h.done hdone)
  returned hreturned := by
    obtain ⟨hreturned', hsubscribed, hpresent⟩ := h.returned hreturned
    obtain ⟨hreturned'', hsubscribed', hpresent'⟩ := h'.returned hreturned'
    exact ⟨hreturned'', hsubscribed' ∘ hsubscribed, hpresent' ∘ hpresent⟩
  network hnetwork := h'.network (h.network hnetwork)

lemma ended_step (c : Connection) (e : Event) : Ended c (c.step e) := by
  cases e with
  | writes i => cases i <;> constructor <;> grind [step, writerLoop]
  | _ => constructor <;> grind [step]

lemma ended_run (c : Connection) (events : List Event) : Ended c (c.run events) := by
  induction events generalizing c with
  | nil => exact ⟨id, id, fun h => ⟨h, id, id⟩, id⟩
  | cons e events ih => exact (ended_step c e).trans (ih (c.step e))

lemma run_append (c : Connection) (before after : List Event) :
    c.run (before ++ after) = (c.run before).run after := List.foldl_append

def iterations (events : List Event) : List Iteration :=
  events.filterMap fun e => match e with
    | .writes i => some i
    | _ => none

lemma done_of_message (h : .message false ∈ iterations events) : (c.run events).done := by
  induction events generalizing c with
  | nil => simp [iterations] at h
  | cons e events ih =>
    rw [iterations, List.filterMap_cons] at h
    cases e with
    | writes i =>
      obtain rfl | h := List.mem_cons.1 h
      · have hdone : (c.step (.writes (.message false))).done := by
          by_cases hdone : c.done = true <;> simp [step, writerLoop, hdone]
        exact (ended_run _ events).done hdone
      · exact ih h
    | _ => exact ih h

lemma readerWakes_of_done (hreading : c.reading = false) (hdone : c.done) :
    (c.step .readerWakes).returned ∧ (c.step .readerWakes).subscribed = false ∧
    (c.step .readerWakes).present = false := by
  simp [step, hreading, hdone]

/-- However often the ticker fires, a handler that no message comes for waits for its writer. -/
lemma run_ticks (n : Nat) :
    (opened.step .readFails).run (List.replicate n [.writes (.tick false), .readerWakes, .networkWakes]).flatten =
    opened.step .readFails := by
  induction n with
  | zero => rfl
  | succ n ih => exact ih

end Connection
end Orama.PubSub.WebSocket
