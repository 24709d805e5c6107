import Mathlib.Data.Finset.Card

namespace Orama.Lib

structure Iteration (α : Type) where
  list : List α → List α
  perm : ∀ l, (list l).Perm l

namespace Iteration
variable {α : Type}

def inOrder : Iteration α := ⟨id, fun _ => .rfl⟩

@[simp]
lemma mem_list (order : Iteration α) {l : List α} {x : α} : x ∈ order.list l ↔ x ∈ l := (order.perm l).mem_iff

end Iteration

structure SetMap (κ α : Type) where
  set : κ → Option (Finset α)

namespace SetMap
variable {κ α : Type}

def empty : SetMap κ α := ⟨fun _ => none⟩
def members (m : SetMap κ α) (k : κ) : Finset α := (m.set k).getD ∅
def Full (m : SetMap κ α) : Prop := ∀ k s, m.set k = some s → s.Nonempty

lemma full_empty : Full (empty : SetMap κ α) := by
  intro k s h
  cases h

variable [DecidableEq κ] {m : SetMap κ α} {k k' : κ}

def put (m : SetMap κ α) (k : κ) (s : Option (Finset α)) : SetMap κ α := ⟨Function.update m.set k s⟩

lemma set_put (m : SetMap κ α) (k k' : κ) (s : Option (Finset α)) :
    (m.put k s).set k' = if k' = k then s else m.set k' := Function.update_apply ..

lemma members_put (m : SetMap κ α) (k k' : κ) (s : Option (Finset α)) :
    (m.put k s).members k' = if k' = k then s.getD ∅ else m.members k' := by
  rw [members, set_put]
  split <;> rfl

lemma Full.put (h : m.Full) {s : Option (Finset α)} (hs : ∀ t, s = some t → t.Nonempty) : (m.put k s).Full := by
  intro k' t ht
  rw [set_put] at ht
  split at ht
  · exact hs t ht
  · exact h k' t ht

def erase (m : SetMap κ α) (k : κ) : SetMap κ α := m.put k none

lemma members_erase (m : SetMap κ α) (k k' : κ) : (m.erase k).members k' = if k' = k then ∅ else m.members k' :=
  members_put ..

lemma Full.erase (h : m.Full) (k : κ) : (m.erase k).Full := by
  refine h.put fun t ht => ?_
  cases ht

variable [DecidableEq α]

def add (m : SetMap κ α) (k : κ) (x : α) : SetMap κ α := m.put k (some (insert x (m.members k)))

def remove (m : SetMap κ α) (k : κ) (x : α) : SetMap κ α :=
  match m.set k with
  | none => m
  | some s => m.put k (if s.erase x = ∅ then none else some (s.erase x))

lemma members_add (m : SetMap κ α) (k k' : κ) (x : α) :
    (m.add k x).members k' = if k' = k then insert x (m.members k) else m.members k' := members_put ..

lemma members_remove (m : SetMap κ α) (k k' : κ) (x : α) :
    (m.remove k x).members k' = if k' = k then (m.members k).erase x else m.members k' := by
  rw [remove]
  cases hm : m.set k with
  | none =>
    dsimp only
    split
    · next h =>
      subst h
      simp [members, hm]
    · rfl
  | some s =>
    have hmembers : m.members k = s := by rw [members, hm, Option.getD_some]
    dsimp only
    rw [members_put, hmembers]
    split
    · split
      · next hempty =>
        rw [hempty]
        rfl
      · rfl
    · rfl

lemma Full.add (h : m.Full) (k : κ) (x : α) : (m.add k x).Full := by
  refine h.put fun t ht => ?_
  cases ht
  exact Finset.insert_nonempty ..

lemma Full.remove (h : m.Full) (k : κ) (x : α) : (m.remove k x).Full := by
  rw [SetMap.remove]
  cases m.set k with
  | none => exact h
  | some s =>
    refine h.put fun t ht => ?_
    split at ht
    · cases ht
    · next hne =>
      cases ht
      exact Finset.nonempty_iff_ne_empty.2 hne

def removeAll (m : SetMap κ α) (ks : List κ) (x : α) : SetMap κ α := ks.foldl (fun m k => m.remove k x) m

lemma mem_members_removeAll (m : SetMap κ α) (ks : List κ) (k : κ) (x y : α) :
    y ∈ (m.removeAll ks x).members k ↔ y ∈ m.members k ∧ ¬ (y = x ∧ k ∈ ks) := by
  rw [removeAll]
  induction ks generalizing m with
  | nil => simp
  | cons k' ks ih =>
    rw [List.foldl_cons, ih, members_remove]
    split
    · next hk => by_cases hy : y = x <;> simp [hk, hy]
    · next hk => simp [hk]

lemma Full.removeAll (h : m.Full) (ks : List κ) (x : α) : (m.removeAll ks x).Full := by
  rw [SetMap.removeAll]
  induction ks generalizing m with
  | nil => exact h
  | cons k ks ih => exact ih (SetMap.Full.remove h k x)

end SetMap
end Orama.Lib
