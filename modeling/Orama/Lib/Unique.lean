import Mathlib.Data.List.Pairwise

namespace Orama.Lib
open List

structure Unique (α : Type) (conflicts : α → α → Bool) where
  rows : List α
  apart : rows.Pairwise fun p q => conflicts p q = false

namespace Unique
variable {α : Type} {conflicts : α → α → Bool}

instance [DecidableEq α] : DecidableEq (Unique α conflicts) := fun t u =>
  decidable_of_iff (t.rows = u.rows) ⟨fun h => by cases t; cases u; cases h; rfl, fun h => h ▸ rfl⟩

def empty : Unique α conflicts := ⟨[], List.Pairwise.nil⟩

def delete (t : Unique α conflicts) (drop : α → Bool) : Unique α conflicts :=
  ⟨t.rows.filter fun p => !drop p, t.apart.filter _⟩

def insert (t : Unique α conflicts) (row : α) : Option (Unique α conflicts) :=
  if h : t.rows.all fun p => !conflicts p row then
    some ⟨t.rows ++ [row], by
      rw [pairwise_append]
      refine ⟨t.apart, pairwise_singleton _ _, fun p hp q hq => ?_⟩
      rw [mem_singleton.1 hq]
      simpa using all_eq_true.1 h p hp⟩
  else none

def replace (t : Unique α conflicts) (row : α) : Unique α conflicts where
  rows := (t.rows.filter fun p => !conflicts p row) ++ [row]
  apart := by
    rw [pairwise_append]
    refine ⟨t.apart.filter _, pairwise_singleton _ _, fun p hp q hq => ?_⟩
    rw [mem_singleton.1 hq]
    simpa using (mem_filter.1 hp).2

def map (t : Unique α conflicts) (f : α → α) (h : ∀ p q, conflicts (f p) (f q) = conflicts p q) :
    Unique α conflicts :=
  ⟨t.rows.map f, pairwise_map.2 (t.apart.imp fun {p q} hpq => (h p q).trans hpq)⟩

def modify (t : Unique α conflicts) (f : α → α) : Option (Unique α conflicts) :=
  if h : (t.rows.map f).Pairwise fun p q => conflicts p q = false then some ⟨t.rows.map f, h⟩ else none

variable {t t' : Unique α conflicts} {p q row : α}

lemma mem_delete {drop : α → Bool} : p ∈ (t.delete drop).rows ↔ p ∈ t.rows ∧ drop p = false := by simp [delete]

lemma mem_replace : p ∈ (t.replace row).rows ↔ p = row ∨ (p ∈ t.rows ∧ conflicts p row = false) := by
  simp [replace, or_comm]

lemma insert_eq_some (h : t.insert row = some t') :
    t'.rows = t.rows ++ [row] ∧ ∀ p ∈ t.rows, conflicts p row = false := by
  rw [insert] at h
  split at h
  · next hfree =>
    cases h
    refine ⟨rfl, fun p hp => ?_⟩
    simpa using all_eq_true.1 hfree p hp
  · cases h

/-- What holds of any two rows is kept by an insertion when it holds of the new row with each other one. -/
lemma pairs_insert {R : α → α → Prop} (h : t.insert row = some t') (hrows : ∀ p ∈ t.rows, ∀ q ∈ t.rows, p ≠ q → R p q)
    (hrow : ∀ p ∈ t.rows, R p row ∧ R row p) : ∀ p ∈ t'.rows, ∀ q ∈ t'.rows, p ≠ q → R p q := by
  rw [(insert_eq_some h).1]
  grind

lemma exists_insert (h : ∀ p ∈ t.rows, conflicts p row = false) : ∃ t', t.insert row = some t' := by
  have hfree : (t.rows.all fun p => !conflicts p row) := all_eq_true.2 fun p hp => by simp [h p hp]
  exact ⟨_, dif_pos hfree⟩

lemma rows_of_modify {f : α → α} (h : t.modify f = some t') : t'.rows = t.rows.map f := by
  rw [modify] at h
  split at h
  · cases h
    rfl
  · cases h

lemma eq_of_conflicts (t : Unique α conflicts) (hsymm : ∀ p q, conflicts p q = conflicts q p)
    (hp : p ∈ t.rows) (hq : q ∈ t.rows) (h : conflicts p q) : p = q := by
  by_contra hne
  have : Std.Symm fun p q => conflicts p q = false := ⟨fun p q hpq => (hsymm q p).trans hpq⟩
  have hapart := t.apart.forall hp hq hne
  rw [h] at hapart
  cases hapart

lemma countP_le_countP_add {p q key : α → Bool} {l : List α}
    (h : ∀ r ∈ l, p r → q r ∨ key r) : l.countP p ≤ l.countP q + l.countP key := by
  induction l with
  | nil => exact Nat.zero_le _
  | cons r l ih =>
    have hrest := ih fun x hx => h x (mem_cons_of_mem _ hx)
    have hr := h r mem_cons_self
    simp only [countP_cons]
    split
    · next hp =>
      rcases hr hp with hq | hk
      · rw [if_pos hq]
        omega
      · rw [if_pos hk]
        omega
    · omega

lemma countP_le_one (t : Unique α conflicts) {key : α → Bool}
    (hkey : ∀ p q, key p → key q → conflicts p q) : t.rows.countP key ≤ 1 := by
  obtain ⟨rows, apart⟩ := t
  induction rows with
  | nil => exact Nat.zero_le 1
  | cons p rows ih =>
    obtain ⟨hp, hrows⟩ := pairwise_cons.1 apart
    by_cases hkp : key p
    · have hnone : rows.countP key = 0 := by
        rw [countP_eq_zero]
        intro q hq hkq
        have happart := hp q hq
        rw [hkey p q hkp hkq] at happart
        cases happart
      exact Nat.le_of_eq ((countP_cons_of_pos hkp).trans (congrArg (· + 1) hnone))
    · rw [countP_cons_of_neg hkp]
      exact ih hrows

end Unique
end Orama.Lib
