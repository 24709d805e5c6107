import Orama.Lib.Keyed
import Orama.Lib.Tasks
import Orama.Lib.Text

namespace Orama.Sfu
open Lib Multiset

structure Room where
  id : Bytes
  peers : List Bytes
  closed : Bool

/-- The rooms are objects with an address, which the map finds by their ID. A peer that joined and has not left is
recorded with the room ID it asked for and the object it was added to. -/
structure RoomManager where
  rooms : Keyed (Bytes × Nat) Prod.fst
  room : Nat → Room
  allocated : Nat
  joined : List (Bytes × Bytes × Nat)
  closedAll : Bool

inductive Task
  | join (roomID peer : Bytes)
  | addPeer (address : Nat) (peer : Bytes)
  | insertPeer (address : Nat) (peer : Bytes)
  | removePeer (address : Nat) (peer : Bytes)
  | timer (address : Nat)
  | deleteRoom (address : Nat)
  | close (address : Nat)
  | clearPeers (address : Nat)
  | closeAll
deriving DecidableEq

inductive Call
  | join (roomID peer : Bytes)
  | removePeer (address : Nat) (peer : Bytes)
  | closeAll

def Call.task : Call → Task
  | .join roomID peer => .join roomID peer
  | .removePeer address peer => .removePeer address peer
  | .closeAll => .closeAll

namespace RoomManager
variable (m : RoomManager)

def new : RoomManager := ⟨.empty, fun _ => ⟨[], [], false⟩, 0, [], false⟩
def find (roomID : Bytes) : Option Nat := (m.rooms.get roomID).map Prod.snd

def setRoom (address : Nat) (room : Room) : RoomManager := { m with room := Function.update m.room address room }

def create (roomID : Bytes) : RoomManager :=
  { m.setRoom m.allocated ⟨roomID, [], false⟩ with
    rooms := m.rooms.put (roomID, m.allocated), allocated := m.allocated + 1 }

def getOrCreateRoom (roomID : Bytes) : RoomManager × Nat :=
  match m.find roomID with
  | some address => if (m.room address).closed then (m.create roomID, m.allocated) else (m, address)
  | none => (m.create roomID, m.allocated)

def enter (address : Nat) (peer : Bytes) : RoomManager :=
  { m.setRoom address { m.room address with peers := (m.room address).peers.insert peer } with
    joined := (peer, (m.room address).id, address) :: m.joined }

def leave (address : Nat) (peer : Bytes) : RoomManager :=
  { m.setRoom address { m.room address with peers := (m.room address).peers.filter (· ≠ peer) } with
    joined := m.joined.filter fun j => (j.1, j.2.2) ≠ (peer, address) }

def drop (roomID : Bytes) : RoomManager := { m with rooms := m.rooms.delete fun r => r.1 = roomID }

def perform (connects : Bool) (m : RoomManager) : Task → RoomManager × List Task
  | .join roomID peer => ((m.getOrCreateRoom roomID).1, [.addPeer (m.getOrCreateRoom roomID).2 peer])
  | .addPeer a peer => (m, if (m.room a).closed then [] else [.insertPeer a peer])
  | .insertPeer a peer =>
    if 100 ≤ (m.room a).peers.length || !connects then (m, []) else (m.enter a peer, [])
  | .removePeer a peer =>
    if (m.room a).peers.contains peer then
      (m.leave a peer, if ((m.leave a peer).room a).peers = [] then [.timer a] else [])
    else (m, [])
  | .timer a => (m, if (m.room a).peers = [] then [.deleteRoom a] else [])
  | .deleteRoom a => (m.drop (m.room a).id, [.close a])
  | .close a =>
    if (m.room a).closed then (m, [])
    else (m.setRoom a { m.room a with closed := true }, [.clearPeers a])
  | .clearPeers a => (m.setRoom a { m.room a with peers := [] }, [])
  | .closeAll => ({ m with rooms := .empty, closedAll := true }, m.rooms.rows.map fun r => .close r.2)

end RoomManager

def manager : Scheduler RoomManager Task Call Bool := ⟨Call.task, RoomManager.perform⟩

def Task.joining (a : Nat) : Task → Bool
  | .addPeer b _ | .insertPeer b _ => a = b
  | _ => false

def Task.cleaning (a : Nat) : Task → Bool
  | .close b | .clearPeers b => a = b
  | _ => false

/-- A timer takes a room out of the map only while the map has that room for the ID, nobody is in it and no join is
under way to it. -/
def Undisturbed (m : RoomManager) (ts : Multiset Task) : Task → Prop
  | .deleteRoom a =>
    m.find (m.room a).id = some a ∧ (m.room a).peers = [] ∧ ∀ t ∈ ts, t.joining a = false
  | _ => True

instance : ∀ m ts t, Decidable (Undisturbed m ts t)
  | _, ts, .deleteRoom a => inferInstanceAs (Decidable (_ ∧ _ ∧ ∀ t ∈ ts, t.joining a = false))
  | _, _, .join _ _ | _, _, .addPeer _ _ | _, _, .insertPeer _ _ | _, _, .removePeer _ _ | _, _, .timer _
  | _, _, .close _ | _, _, .clearPeers _ | _, _, .closeAll => .isTrue trivial

structure Sound (m : RoomManager) : Prop where
  found : ∀ r a, m.find r = some a → (m.room a).id = r ∧ (m.room a).closed = false ∧ a < m.allocated
  peers : ∀ a, (m.room a).peers ≠ [] → m.find (m.room a).id = some a
  joined : ∀ p r a, (p, r, a) ∈ m.joined → p ∈ (m.room a).peers ∧ (m.room a).id = r

def Fits (m : RoomManager) (t : Task) : Prop :=
  ∀ a, (t.joining a = true → m.find (m.room a).id = some a) ∧
    (t.cleaning a = true → m.find (m.room a).id ≠ some a ∧ a < m.allocated)

namespace RoomManager
variable (m : RoomManager)

@[grind =]
lemma room_setRoom (a b : Nat) (room : Room) : (m.setRoom a room).room b = if b = a then room else m.room b :=
  Function.update_apply ..

@[grind =]
lemma find_setRoom (a : Nat) (room : Room) (r : Bytes) : (m.setRoom a room).find r = m.find r := rfl

@[grind =]
lemma find_create (r r' : Bytes) : (m.create r).find r' = if r = r' then some m.allocated else m.find r' := by
  rw [find, create, Keyed.get_put]
  split <;> rfl

@[grind =]
lemma room_create (r : Bytes) (a : Nat) :
    (m.create r).room a = if a = m.allocated then ⟨r, [], false⟩ else m.room a := Function.update_apply ..

@[grind =]
lemma find_drop (id r : Bytes) : (m.drop id).find r = if r = id then none else m.find r := by
  rw [find, drop, Keyed.get_delete_key m.rooms fun k => k = id]
  by_cases h : r = id <;> simp [h, find]

@[grind =]
lemma find_enter (a : Nat) (p r : Bytes) : (m.enter a p).find r = m.find r := rfl

@[grind =]
lemma find_leave (a : Nat) (p r : Bytes) : (m.leave a p).find r = m.find r := rfl

@[grind =]
lemma room_enter (a b : Nat) (p : Bytes) :
    (m.enter a p).room b = if b = a then { m.room a with peers := (m.room a).peers.insert p } else m.room b :=
  Function.update_apply ..

@[grind =]
lemma room_leave (a b : Nat) (p : Bytes) :
    (m.leave a p).room b = if b = a then { m.room a with peers := (m.room a).peers.filter (· ≠ p) } else m.room b :=
  Function.update_apply ..

lemma getOrCreateRoom_cases (r : Bytes) :
    (∃ a, m.find r = some a ∧ (m.room a).closed = false ∧ m.getOrCreateRoom r = (m, a)) ∨
    (∀ a, m.find r = some a → (m.room a).closed) ∧ m.getOrCreateRoom r = (m.create r, m.allocated) := by
  cases h : m.find r <;> grind [getOrCreateRoom]

end RoomManager

open RoomManager

structure Next (m m' : RoomManager) (ts : Multiset Task) (tasks : List Task) : Prop where
  sound : Sound m'
  kept : ∀ t ∈ ts, Fits m t → Fits m' t
  begun : ∀ t ∈ tasks, Fits m' t

open Sfu.Task

attribute [local grind] setRoom Fits cleaning joining drop create enter leave

section
variable {m : RoomManager} {ts : Multiset Task} {a : Nat} {r peer : Bytes} {t : Task} {tasks : List Task}

lemma sound_new : Sound .new := by
  constructor <;> simp [new, find, Keyed.empty, Keyed.get]

section
variable (h : Sound m)
include h

/-- A section that changes nothing, and goes on with what fits. -/
lemma Next.same (htasks : ∀ t ∈ tasks, Fits m t) : Next m m ts tasks := ⟨h, fun _ _ => id, htasks⟩

lemma next_create (hr : m.find r = none) : Next m (m.create r) ts [.addPeer m.allocated peer] := by
  cases h
  constructor
  · constructor <;> grind
  · intro t _ ht b
    have hb := ht b
    grind
  · grind

lemma next_join : Next m (m.getOrCreateRoom r).1 ts [.addPeer (m.getOrCreateRoom r).2 peer] := by
  obtain ⟨a, hfind, -, heq⟩ | ⟨hclosed, heq⟩ := m.getOrCreateRoom_cases r
  · rw [heq]
    have hid := (h.found r a hfind).1
    exact .same h (by grind)
  · have hnone : m.find r = none := by
      cases hr : m.find r with
      | none => rfl
      | some a => exact absurd (hclosed a hr) (by simp [(h.found r a hr).2.1])
    rw [heq]
    exact next_create h hnone

lemma next_enter (ht : Fits m (.insertPeer a peer)) : Next m (m.enter a peer) ts [] := by
  have hfind := (ht a).1 (by simp [joining])
  cases h
  constructor
  · constructor <;> grind
  · intro t _ ht b
    have hb := ht b
    grind
  · simp

lemma next_leave (htasks : ∀ t ∈ tasks, ∀ b, t.joining b = false ∧ t.cleaning b = false) :
    Next m (m.leave a peer) ts tasks := by
  cases h
  constructor
  · constructor <;> grind
  · intro t _ ht b
    have hb := ht b
    grind
  · grind

lemma next_drop (hclean : Undisturbed m ts (.deleteRoom a)) : Next m (m.drop (m.room a).id) ts [.close a] := by
  obtain ⟨hfind, hempty, hnone⟩ := hclean
  cases h
  constructor
  · constructor <;> grind
  · intro t hmem ht b
    have hb := ht b
    have hfree := hnone t hmem
    grind
  · grind

lemma next_out {room : Room} (hout : m.find (m.room a).id ≠ some a ∧ a < m.allocated)
    (hid : room.id = (m.room a).id) (hpeers : room.peers = [])
    (htasks : ∀ t ∈ tasks, ∀ b, t.joining b = false ∧ (t.cleaning b → b = a)) :
    Next m (m.setRoom a room) ts tasks := by
  have hempty : (m.room a).peers = [] := by
    by_contra hne
    exact hout.1 (h.peers a hne)
  cases h
  constructor
  · constructor <;> grind
  · intro t _ ht b
    have hb := ht b
    grind
  · grind

end

lemma next_perform (connects : Bool) (h : Sound m) (ht : Fits m t) (hclean : Undisturbed m ts t)
    (hclosed : t ≠ .closeAll) : Next m (m.perform connects t).1 ts (m.perform connects t).2 := by
  have hempty : ∀ a, Fits m (.close a) ∨ Fits m (.clearPeers a) → (m.room a).peers = [] := by
    intro a hfits
    by_contra hne
    have hfind := h.peers a hne
    grind
  cases t with
  | join r peer => exact next_join h
  | addPeer a peer =>
    refine .same h fun t' ht' => ?_
    rw [perform] at ht'
    split at ht'
    · cases ht'
    · rw [List.mem_singleton.1 ht']
      exact fun b => ht b
  | insertPeer a peer =>
    rw [perform]
    split
    · exact .same h (by simp)
    · exact next_enter h ht
  | removePeer a peer =>
    rw [perform]
    split
    · exact next_leave h (by grind)
    · exact .same h (by simp)
  | timer a =>
    refine .same h fun t' ht' => ?_
    rw [perform] at ht'
    split at ht'
    · rw [List.mem_singleton.1 ht']
      simp [Fits, joining, cleaning]
    · cases ht'
  | deleteRoom a => exact next_drop h hclean
  | close a =>
    rw [perform]
    split
    · exact .same h (by simp)
    · exact next_out h ((ht a).2 (by simp [cleaning])) rfl (hempty a (.inl ht))
        (by simp [joining, cleaning])
  | clearPeers a =>
    have hroom : ({ m.room a with peers := [] } : Room).peers = [] := rfl
    exact next_out h ((ht a).2 (by simp [cleaning])) rfl hroom nofun
  | closeAll => exact absurd rfl hclosed

end

lemma closedAll_perform {m : RoomManager} (h : m.closedAll) (connects : Bool) (t : Task) :
    (m.perform connects t).1.closedAll := by
  cases t <;> grind [perform, getOrCreateRoom]

lemma sound_keeps : manager.Keeps Undisturbed fun m ts => m.closedAll ∨ Sound m ∧ ∀ t ∈ ts, Fits m t where
  call := by
    rintro m ts k (hclosed | ⟨hsound, hts⟩)
    · exact .inl hclosed
    · refine .inr ⟨hsound, fun t ht => ?_⟩
      obtain rfl | ht := mem_cons.1 ht
      · cases k <;> simp [Fits, manager, Call.task, joining, cleaning]
      · exact hts t ht
  go := by
    rintro m ts t e hclean (hclosed | ⟨hsound, hts⟩)
    · exact .inl (closedAll_perform hclosed e t)
    · by_cases ht : t = .closeAll
      · subst ht
        exact .inl rfl
      · have hnext := next_perform e hsound (hts t (mem_cons_self t ts)) hclean ht
        exact .inr ⟨hnext.sound, forall_mem_move (fun t' ht' => hnext.kept t' ht' (hts t' ht')) fun _ => hnext.begun⟩

/-- Two peers that have joined one room ID are in one room, which is open and which the map has, unless everything
was closed: whenever cleanups take out only rooms that the map has, that are empty and that no join is on its way to. -/
theorem one_room_of_undisturbed (moves : List (Move Call Bool))
    (h : manager.Respects Undisturbed ⟨.new, []⟩ moves) (hopen : (manager.run ⟨.new, []⟩ moves).shared.closedAll = false)
    (p q r : Bytes) (a b : Nat) (hp : (p, r, a) ∈ (manager.run ⟨.new, []⟩ moves).shared.joined)
    (hq : (q, r, b) ∈ (manager.run ⟨.new, []⟩ moves).shared.joined) :
    a = b ∧ ((manager.run ⟨.new, []⟩ moves).shared.room a).closed = false ∧
      (manager.run ⟨.new, []⟩ moves).shared.find r = some a := by
  obtain hclosed | ⟨⟨hfound, hpeers, hjoined⟩, -⟩ :=
    sound_keeps.run_of_respects (.inr ⟨sound_new, by simp⟩) h
  · rw [hopen] at hclosed
    cases hclosed
  · obtain ⟨hpa, ha⟩ := hjoined p r a hp
    obtain ⟨hqb, hb⟩ := hjoined q r b hq
    have hfa := hpeers a (List.ne_nil_of_mem hpa)
    have hfb := hpeers b (List.ne_nil_of_mem hqb)
    rw [ha] at hfa
    rw [hb, hfa] at hfb
    cases hfb
    exact ⟨rfl, (hfound r a hfa).2.1, hfa⟩

def meeting : List (Move Call Bool) :=
  [.call (.join [1] [10]), .go 0 true, .go 0 true, .go 0 true, .call (.removePeer 0 [10]), .go 0 true, .go 0 true,
    .go 0 true, .go 0 true, .go 0 true, .call (.join [1] [11]), .go 0 true, .go 0 true, .go 0 true,
    .call (.join [1] [12]), .go 0 true, .go 0 true, .go 0 true]

/-- A room is left twice, and the second timer, which is still to come when the first has taken the room away, takes
away the next room while it is in use. -/
def staleTimer : List (Move Call Bool) :=
  [.call (.join [1] [10]), .go 0 true, .go 0 true, .go 0 true, .call (.removePeer 0 [10]), .go 0 true,
    .call (.join [1] [11]), .go 1 true, .go 1 true, .go 1 true, .call (.removePeer 0 [11]), .go 1 true,
    .go 0 true, .go 1 true, .go 1 true, .go 1 true,
    .call (.join [1] [12]), .go 1 true, .go 1 true, .go 1 true, .go 0 true, .go 0 true,
    .call (.join [1] [13]), .go 1 true, .go 1 true, .go 1 true]

/-- Two peers are in rooms of their own, and the first of these rooms is not in the map. -/
theorem two_rooms :
    let m := (manager.run ⟨.new, []⟩ staleTimer).shared
    m.closedAll = false ∧ ([12], [1], 1) ∈ m.joined ∧ ([13], [1], 2) ∈ m.joined ∧ m.find [1] = some 2 := by
  decide

theorem one_room_of_meeting : ((manager.run ⟨.new, []⟩ meeting).shared.room 1).closed = false ∧
    (manager.run ⟨.new, []⟩ meeting).shared.find [1] = some 1 :=
  (one_room_of_undisturbed meeting (by decide) (by decide) [11] [12] [1] 1 1 (by decide) (by decide)).2

end Orama.Sfu
