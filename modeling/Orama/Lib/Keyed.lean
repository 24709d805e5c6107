import Mathlib.Data.List.Nodup

namespace Orama.Lib
open List

structure Keyed (α : Type) {κ : Type} (key : α → κ) where
  rows : List α
  nodup_keys : (rows.map key).Nodup

namespace Keyed
variable {α κ : Type} {key : α → κ}

instance [DecidableEq α] : DecidableEq (Keyed α key) := fun t u =>
  decidable_of_iff (t.rows = u.rows) ⟨fun h => by cases t; cases u; cases h; rfl, fun h => h ▸ rfl⟩

def empty : Keyed α key := ⟨[], nodup_nil⟩

def update (t : Keyed α key) (p : α → Bool) (f : α → α) (hf : ∀ r, key (f r) = key r) : Keyed α key where
  rows := t.rows.map fun r => if p r then f r else r
  nodup_keys := by
    have hkey : ∀ r, key (if p r then f r else r) = key r := by
      intro r
      split
      · exact hf r
      · rfl
    simpa [Function.comp_def, hkey] using t.nodup_keys

def delete (t : Keyed α key) (p : α → Bool) : Keyed α key where
  rows := t.rows.filter fun r => !p r
  nodup_keys := t.nodup_keys.sublist (filter_sublist.map key)

def push (t : Keyed α key) (row : α) (h : key row ∉ t.rows.map key) : Keyed α key where
  rows := t.rows ++ [row]
  nodup_keys := by simpa [nodup_append', t.nodup_keys] using h

lemma countP_update (t : Keyed α key) {p q : α → Bool} {f : α → α} (hf : ∀ r, key (f r) = key r)
    (h : ∀ r ∈ t.rows, p r → q (f r) = q r) : (t.update p f hf).rows.countP q = t.rows.countP q := by
  grind [countP_map, countP_congr, update]

lemma eq_of_key (t : Keyed α key) {r r' : α} (hr : r ∈ t.rows) (hr' : r' ∈ t.rows) (h : key r = key r') : r = r' :=
  inj_on_of_nodup_map t.nodup_keys hr hr' h

lemma nodup_filterMap {β : Type} (t : Keyed α key) {f : α → Option β} {g : β → κ}
    (hg : ∀ r b, f r = some b → g b = key r) : ((t.rows.filterMap f).map g).Nodup := by
  have hsub : ∀ rows : List α, ((rows.filterMap f).map g).Sublist (rows.map key) := by
    intro rows
    induction rows with
    | nil => exact .slnil
    | cons r rows ih =>
      rw [filterMap_cons]
      split
      · exact ih.cons _
      · next b hb =>
        rw [map_cons, map_cons, hg r b hb]
        exact ih.cons_cons _
  exact t.nodup_keys.sublist (hsub t.rows)

variable [DecidableEq κ]

def get (t : Keyed α key) (k : κ) : Option α := t.rows.find? fun r => key r = k

def upsert (t : Keyed α key) (row : α) (f : α → α) (hf : ∀ r, key (f r) = key r) : Keyed α key :=
  if h : key row ∈ t.rows.map key then t.update (fun r => key r = key row) f hf else t.push row h

def put (t : Keyed α key) (row : α) : Keyed α key :=
  (t.delete fun r => key r = key row).push row (by simp [delete])

variable {t t' : Keyed α key} {k : κ} {r row : α}

lemma get_eq_some : t.get k = some r ↔ r ∈ t.rows ∧ key r = k := by
  constructor
  · intro h
    exact ⟨mem_of_find?_eq_some h, by simpa using find?_some h⟩
  · rintro ⟨hr, rfl⟩
    cases h : t.get (key r) with
    | none =>
      have hne := find?_eq_none.1 h r hr
      simp at hne
    | some r' =>
      have hkey : key r' = key r := by simpa using find?_some h
      rw [t.eq_of_key (mem_of_find?_eq_some h) hr hkey]

lemma get_eq_none : t.get k = none ↔ ∀ r ∈ t.rows, key r ≠ k := by simp [get]

attribute [local grind =] get_eq_some

lemma any_rows (t : Keyed α key) (p : α → Bool) (k : κ) (hp : ∀ r, p r → key r = k) :
    t.rows.any p = (t.get k).any p := by
  grind [Option.any_eq_true]

lemma mem_keys : k ∈ t.rows.map key ↔ (t.get k).isSome := by
  grind [Option.isSome_eq_false_iff, Option.isNone_iff_eq_none, get_eq_none]

section
variable (t : Keyed α key)

@[simp]
lemma get_update (p : α → Bool) (f : α → α) (hf : ∀ r, key (f r) = key r) (k : κ) :
    (t.update p f hf).get k = (t.get k).map fun r => if p r then f r else r := by
  have hkey : ∀ r, key (if p r then f r else r) = key r := by
    intro r
    split
    · exact hf r
    · rfl
  rw [get, update, find?_map]
  congr 1
  simp only [Function.comp_def, hkey, get]

@[simp]
lemma get_delete (p : α → Bool) (k : κ) : (t.delete p).get k = (t.get k).filter fun r => !p r := by
  apply Option.ext
  intro r
  rw [get_eq_some, Option.filter_eq_some_iff, get_eq_some]
  simp only [delete, mem_filter]
  tauto

lemma get_push (row : α) (h : key row ∉ t.rows.map key) (k : κ) :
    (t.push row h).get k = if key row = k then some row else t.get k := by
  have hnew : ∀ r ∈ t.rows, key r ≠ key row := by simpa using h
  apply Option.ext
  intro r
  rw [get_eq_some]
  simp only [push, mem_append, mem_singleton]
  split
  · grind
  · grind

lemma get_upsert_self (row : α) (f : α → α) (hf : ∀ r, key (f r) = key r) :
    (t.upsert row f hf).get (key row) = some ((t.get (key row)).elim row f) := by
  rw [upsert]
  split
  · grind [Option.isSome_iff_exists, mem_keys, get_update]
  · grind [mem_keys, Option.isSome_eq_false_iff, Option.isNone_iff_eq_none, get_push]

lemma get_upsert_of_ne (row : α) (f : α → α) (hf : ∀ r, key (f r) = key r) (hk : k ≠ key row) :
    (t.upsert row f hf).get k = t.get k := by
  rw [upsert]
  split
  · rw [get_update]
    cases h : t.get k with
    | none => rfl
    | some r =>
      have hr : key r = k := (get_eq_some.1 h).2
      simp [hr, hk]
  · rw [get_push, if_neg hk.symm]

lemma get_delete_key (p : κ → Bool) (k : κ) :
    (t.delete fun r => p (key r)).get k = if p k then none else t.get k := by
  rw [get_delete]
  cases h : t.get k with
  | none => simp
  | some r => grind

end

lemma mem_put : r ∈ (t.put row).rows ↔ r = row ∨ (r ∈ t.rows ∧ key r ≠ key row) := by
  simp [put, push, delete, or_comm]

lemma get_put (t : Keyed α key) (row : α) (k : κ) : (t.put row).get k = if key row = k then some row else t.get k := by
  rw [put, get_push]
  split
  · rfl
  · next hk =>
    rw [get_delete_key t fun k => k = key row]
    simp [Ne.symm hk]

lemma rows_put_of_none (h : t.get (key row) = none) : (t.put row).rows = t.rows ++ [row] := by
  have hrows : (t.delete fun r => key r = key row).rows = t.rows := by grind [filter_eq_self, get_eq_none, delete]
  exact congrArg (· ++ [row]) hrows

lemma perm_delete (h : t.get k = some r) : t.rows.Perm (r :: (t.delete fun x => key x = k).rows) := by
  obtain ⟨hr, hk⟩ := get_eq_some.1 h
  obtain ⟨l, l', hrows⟩ := append_of_mem hr
  have hkeys := t.nodup_keys
  rw [hrows, map_append, map_cons, nodup_middle, nodup_cons, ← map_append, mem_map] at hkeys
  have hrest : (l ++ l').filter (fun x => !decide (key x = k)) = l ++ l' := by grind [filter_eq_self]
  have hdelete : (t.delete fun x => key x = k).rows = l ++ l' := by
    refine (congrArg (List.filter _) hrows).trans ?_
    rw [filter_append, filter_cons_of_neg (by simp [hk]), ← filter_append, hrest]
  rw [hdelete, hrows]
  exact perm_middle

end Keyed
end Orama.Lib
