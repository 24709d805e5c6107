import Mathlib.Data.List.Nodup

namespace Orama.Lib
open List

/-- A table whose rows are numbered in the order of their insertion, with a
column, or a tuple of columns, on which no two rows agree. -/
structure Table (α : Type) {κ : Type} (key : α → κ) where
  rows : List (Nat × α)
  next : Nat
  fresh : ∀ r ∈ rows, r.1 < next
  nodup_ids : (rows.map Prod.fst).Nodup
  nodup_keys : (rows.map fun r => key r.2).Nodup

namespace Table
variable {α κ : Type} {key : α → κ}

def empty : Table α key := ⟨[], 1, by simp, by simp, by simp⟩

instance : Inhabited (Table α key) := ⟨empty⟩

def select (t : Table α key) (p : Nat × α → Bool) : Option (Nat × α) := t.rows.find? p

def update (t : Table α key) (p : Nat × α → Bool) (f : α → α) (hf : ∀ a, key (f a) = key a) : Table α key where
  rows := t.rows.map fun r => (r.1, if p r then f r.2 else r.2)
  next := t.next
  fresh := by
    simp only [forall_mem_map]
    exact t.fresh
  nodup_ids := by
    rw [map_map]
    exact t.nodup_ids
  nodup_keys := by
    have hkey : ∀ r : Nat × α, key (if p r then f r.2 else r.2) = key r.2 := by
      intro r
      split
      · exact hf r.2
      · rfl
    simpa [Function.comp_def, hkey] using t.nodup_keys

def delete (t : Table α key) (p : Nat × α → Bool) : Table α key where
  rows := t.rows.filter fun r => !p r
  next := t.next
  fresh := fun r hr => t.fresh r (mem_of_mem_filter hr)
  nodup_ids := t.nodup_ids.sublist (filter_sublist.map _)
  nodup_keys := t.nodup_keys.sublist (filter_sublist.map _)

def push (t : Table α key) (a : α) (h : key a ∉ t.rows.map fun r => key r.2) : Table α key where
  rows := t.rows ++ [(t.next, a)]
  next := t.next + 1
  fresh := by
    simp only [mem_append, mem_singleton]
    rintro r (hr | rfl)
    · exact Nat.lt_succ_of_lt (t.fresh r hr)
    · exact Nat.lt_succ_self _
  nodup_ids := by
    have hne : t.next ∉ t.rows.map Prod.fst := by
      simp only [mem_map, not_exists, not_and]
      exact fun r hr => Nat.ne_of_lt (t.fresh r hr)
    simpa [nodup_append', t.nodup_ids] using hne
  nodup_keys := by simpa [nodup_append', t.nodup_keys] using h

variable {r r' : Nat × α}

lemma eq_of_id (t : Table α key) (hr : r ∈ t.rows) (hr' : r' ∈ t.rows) (h : r.1 = r'.1) :
    r = r' := inj_on_of_nodup_map t.nodup_ids hr hr' h

lemma eq_of_key (t : Table α key) (hr : r ∈ t.rows) (hr' : r' ∈ t.rows) (h : key r.2 = key r'.2) :
    r = r' := inj_on_of_nodup_map t.nodup_keys hr hr' h

variable {t : Table α key} {p : Nat × α → Bool}

lemma mem_of_select (h : t.select p = some r) : r ∈ t.rows ∧ p r := ⟨mem_of_find?_eq_some h, find?_some h⟩

lemma select_eq_some_of_unique (t : Table α key)
    (hp : ∀ r ∈ t.rows, ∀ r' ∈ t.rows, p r → p r' → r = r') :
    t.select p = some r ↔ r ∈ t.rows ∧ p r := by
  grind [Option.isSome_iff_exists, find?_isSome, select]

lemma select_eq_some_iff (t : Table α key) (k : κ) (hp : ∀ r, p r → key r.2 = k) :
    t.select p = some r ↔ r ∈ t.rows ∧ p r :=
  t.select_eq_some_of_unique fun r hr r' hr' h h' => t.eq_of_key hr hr' ((hp r h).trans (hp r' h').symm)

lemma select_id_eq_some_iff (t : Table α key) {i : Nat} :
    t.select (fun r => r.1 = i) = some r ↔ r ∈ t.rows ∧ r.1 = i := by
  grind [select_eq_some_of_unique, eq_of_id]

lemma select_eq_none_iff (t : Table α key) : t.select p = none ↔ ∀ r ∈ t.rows, p r = false := by simp [select]

lemma mem_update {f : α → α} {hf : ∀ a, key (f a) = key a} :
    r ∈ (t.update p f hf).rows ↔ ∃ r₀ ∈ t.rows, (r₀.1, if p r₀ then f r₀.2 else r₀.2) = r :=
  mem_map

variable {a : α}

lemma mem_push {h : key a ∉ t.rows.map fun r => key r.2} :
    r ∈ (t.push a h).rows ↔ r ∈ t.rows ∨ r = (t.next, a) := by simp [push]

variable [DecidableEq κ]

def get (t : Table α key) (k : κ) : Option α := (t.select fun r => key r.2 = k).map Prod.snd

variable {k : κ}

lemma get_eq_some : t.get k = some a ↔ ∃ i, (i, a) ∈ t.rows ∧ key a = k := by
  have hp : ∀ r : Nat × α, decide (key r.2 = k) → key r.2 = k := fun _ => of_decide_eq_true
  rw [get, Option.map_eq_some_iff]
  constructor
  · rintro ⟨⟨i, a⟩, hr, rfl⟩
    obtain ⟨hmem, hk⟩ := (t.select_eq_some_iff k hp).1 hr
    exact ⟨i, hmem, of_decide_eq_true hk⟩
  · rintro ⟨i, hmem, hk⟩
    exact ⟨(i, a), (t.select_eq_some_iff k hp).2 ⟨hmem, decide_eq_true hk⟩, rfl⟩

lemma get_eq_none : t.get k = none ↔ ∀ r ∈ t.rows, key r.2 ≠ k := by simp [get, select_eq_none_iff]

lemma get_update (t : Table α key) (p : α → Bool) (f : α → α) (hf : ∀ a, key (f a) = key a) (k : κ) :
    (t.update (fun r => p r.2) f hf).get k = (t.get k).map fun a => if p a then f a else a := by
  cases hget : t.get k with
  | none => grind [get_eq_none, mem_update]
  | some a =>
    obtain ⟨i, hmem, hk⟩ := get_eq_some.1 hget
    rw [Option.map_some, get_eq_some]
    refine ⟨i, mem_update.2 ⟨(i, a), hmem, rfl⟩, ?_⟩
    split
    · rwa [hf]
    · exact hk

lemma any_rows (t : Table α key) (p : α → Bool) (k : κ) (hp : ∀ a, p a → key a = k) :
    (t.rows.any fun r => p r.2) = (t.get k).any p := by
  grind [Option.any_eq_true, get_eq_some]

def insert (t : Table α key) (a : α) : Option (Table α key) :=
  if h : key a ∈ t.rows.map fun r => key r.2 then none else some (t.push a h)

def insertOrIgnore (t : Table α key) (a : α) : Table α key := (t.insert a).getD t

variable {t' : Table α key}

lemma insert_eq_some_iff : t.insert a = some t' ↔ ∃ h : key a ∉ t.rows.map fun r => key r.2, t.push a h = t' := by
  rw [insert]
  split
  · next h => simp [h]
  · next h => simp [h]

lemma mem_insert (h : t.insert a = some t') : r ∈ t'.rows ↔ r ∈ t.rows ∨ r = (t.next, a) := by
  obtain ⟨_, rfl⟩ := insert_eq_some_iff.1 h
  exact mem_push

lemma get_insert (h : t.insert a = some t') :
    t.get (key a) = none ∧ ∀ k, t'.get k = if key a = k then some a else t.get k := by
  obtain ⟨hnew, rfl⟩ := insert_eq_some_iff.1 h
  have hnone : t.get (key a) = none := get_eq_none.2 fun r hr hk => hnew (mem_map.2 ⟨r, hr, hk⟩)
  refine ⟨hnone, fun k => ?_⟩
  split
  · next hk => exact get_eq_some.2 ⟨t.next, mem_push.2 (.inr rfl), hk⟩
  · next hk =>
    cases hget : t.get k with
    | none => grind [get_eq_none, mem_push]
    | some b => grind [get_eq_some, mem_push]

lemma mem_insertOrIgnore :
    r ∈ (t.insertOrIgnore a).rows ↔ r ∈ t.rows ∨ (key a ∉ t.rows.map fun r => key r.2) ∧ r = (t.next, a) := by
  grind [mem_push, insertOrIgnore, insert]

lemma exists_mem_insertOrIgnore (t : Table α key) (a : α) : ∃ r ∈ (t.insertOrIgnore a).rows, key r.2 = key a := by
  by_cases h : key a ∈ t.rows.map fun r => key r.2
  · obtain ⟨r, hr, hk⟩ := mem_map.1 h
    exact ⟨r, mem_insertOrIgnore.2 (.inl hr), hk⟩
  · exact ⟨(t.next, a), mem_insertOrIgnore.2 (.inr ⟨h, rfl⟩), rfl⟩

end Table
end Orama.Lib
