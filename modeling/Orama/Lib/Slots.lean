import Mathlib.Data.List.Range

namespace Orama.Lib

structure Interval where
  first : Nat
  last : Nat
deriving DecidableEq

def Interval.Apart (r s : Interval) : Prop := r.last < s.first ∨ s.last < r.first

instance (r s : Interval) : Decidable (r.Apart s) := inferInstanceAs (Decidable (_ ∨ _))

def Interval.Within (r bounds : Interval) : Prop := bounds.first ≤ r.first ∧ r.first ≤ r.last ∧ r.last ≤ bounds.last

lemma Interval.Within.apart {r s b c : Interval} (hr : r.Within b) (hs : s.Within c) (h : b.Apart c) :
    r.Apart s := by
  obtain ⟨hr₁, hr₂, hr₃⟩ := hr
  obtain ⟨hs₁, hs₂, hs₃⟩ := hs
  rcases h with h | h
  · exact .inl (by omega)
  · exact .inr (by omega)

def slots (bounds : Interval) (size : Nat) : List Nat :=
  List.range' bounds.first ((bounds.last + 1 - bounds.first) / size) size

def firstFree (bounds : Interval) (size : Nat) (taken : List Nat) : Option Nat :=
  (slots bounds size).find? fun start => !(taken.contains start)

def blockAt (size start : Nat) : Interval := ⟨start, start + size - 1⟩

variable {bounds : Interval} {size start : Nat}

lemma mem_slots :
    start ∈ slots bounds size ↔ ∃ k < (bounds.last + 1 - bounds.first) / size, start = bounds.first + size * k := by
  rw [slots, List.mem_range']

lemma firstFree_eq_some {taken : List Nat} (h : firstFree bounds size taken = some start) :
    start ∈ slots bounds size ∧ start ∉ taken := by
  refine ⟨List.mem_of_find?_eq_some h, ?_⟩
  have hfree := List.find?_some h
  simpa using hfree

lemma within_blockAt (hsize : 0 < size) (h : start ∈ slots bounds size) : (blockAt size start).Within bounds := by
  obtain ⟨k, hk, rfl⟩ := mem_slots.1 h
  have hfit : size * (k + 1) ≤ bounds.last + 1 - bounds.first :=
    (Nat.mul_le_mul_left size hk).trans (Nat.mul_div_le _ size)
  rw [Nat.mul_succ] at hfit
  exact ⟨by simp [blockAt], by simp only [blockAt]; omega, by simp only [blockAt]; omega⟩

lemma apart_blockAt (hsize : 0 < size) {a b : Nat} (ha : a ∈ slots bounds size) (hb : b ∈ slots bounds size)
    (hne : a ≠ b) : (blockAt size a).Apart (blockAt size b) := by
  obtain ⟨j, -, rfl⟩ := mem_slots.1 ha
  obtain ⟨k, -, rfl⟩ := mem_slots.1 hb
  have hjk : j ≠ k := fun h => hne (h ▸ rfl)
  rcases Nat.lt_or_gt_of_ne hjk with h | h
  · have hgap : size * j + size ≤ size * k := by
      rw [← Nat.mul_succ]
      exact Nat.mul_le_mul_left size h
    exact .inl (by simp only [blockAt]; omega)
  · have hgap : size * k + size ≤ size * j := by
      rw [← Nat.mul_succ]
      exact Nat.mul_le_mul_left size h
    exact .inr (by simp only [blockAt]; omega)

end Orama.Lib
