import Mathlib.Data.List.Pairwise

namespace Orama.Lib
open List

structure Preference (α : Type) where
  better : α → α → Bool
  before : α → α → Bool
  better_irrefl : ∀ x, better x x = false
  better_trans : ∀ x y z, better x y = true → better y z = true → better x z = true
  better_negTrans : ∀ x y z, better x y = false → better y z = false → better x z = false
  before_irrefl : ∀ x, before x x = false
  before_trans : ∀ x y z, before x y = true → before y z = true → before x z = true

namespace Preference
variable {α : Type} (p : Preference α)

def prefers (x y : α) : Bool := p.better x y || (!p.better y x && p.before x y)

def pick : List α → Option α
  | [] => none
  | x :: l => some (l.foldl (fun best y => if p.better y best then y else best) x)

def rank (l : List α) (x : α) : Nat := l.countP fun y => p.prefers y x

variable {p} {l : List α} {x y z b : α}

lemma prefers_iff : p.prefers x y ↔ p.better x y ∨ (p.better y x = false ∧ p.before x y) := by
  simp [prefers]

lemma prefers_irrefl (p : Preference α) (x : α) : p.prefers x x = false := by
  simp [prefers, p.better_irrefl, p.before_irrefl]

lemma prefers_trans (hxy : p.prefers x y) (hyz : p.prefers y z) : p.prefers x z := by
  rw [prefers_iff] at hxy hyz ⊢
  by_cases hxz : p.better x z
  · exact .inl hxz
  · rw [Bool.not_eq_true] at hxz
    right
    -- Neither is better than what follows it, as the first would be better than the last.
    have hnotxy : p.better x y = false := by
      rw [← Bool.not_eq_true]
      intro h
      rcases hyz with hyz | ⟨hzy, -⟩
      · rw [p.better_trans x y z h hyz] at hxz
        cases hxz
      · rw [p.better_negTrans x z y hxz hzy] at h
        cases h
    have hnotyz : p.better y z = false := by
      rw [← Bool.not_eq_true]
      intro h
      rcases hxy with hxy | ⟨hyx, -⟩
      · rw [hnotxy] at hxy
        cases hxy
      · rw [p.better_negTrans y x z hyx hxz] at h
        cases h
    obtain ⟨hyx, hbefore⟩ := hxy.resolve_left (by simp [hnotxy])
    obtain ⟨hzy, hbefore'⟩ := hyz.resolve_left (by simp [hnotyz])
    exact ⟨p.better_negTrans z y x hzy hyx, p.before_trans x y z hbefore hbefore'⟩

lemma prefers_asymm (h : p.prefers x y) : p.prefers y x = false := by grind [prefers_trans, prefers_irrefl]

lemma foldl_better (hfirst : ∀ y ∈ l, p.before x y) (hl : l.Pairwise fun y z => p.before y z) :
    let b := l.foldl (fun best y => if p.better y best then y else best) x
    (b = x ∨ b ∈ l) ∧ (b = x ∨ p.prefers b x) ∧ ∀ y ∈ l, y = b ∨ p.prefers b y := by
  induction l generalizing x with
  | nil => grind
  | cons y l ih =>
    obtain ⟨hy, hl⟩ := pairwise_cons.1 hl
    simp only [foldl_cons]
    by_cases hbetter : p.better y x
    · grind [prefers_iff, prefers_trans]
    · rw [if_neg hbetter]
      rw [Bool.not_eq_true] at hbetter
      have hxy : p.prefers x y := prefers_iff.2 (.inr ⟨hbetter, hfirst y mem_cons_self⟩)
      obtain ⟨hmem, hlast, hall⟩ := ih (fun z hz => hfirst z (mem_cons_of_mem _ hz)) hl
      refine ⟨hmem.imp id (mem_cons_of_mem _), hlast, fun z hz => ?_⟩
      rcases mem_cons.1 hz with rfl | hz
      · rcases hlast with hb | hb
        · rw [hb]
          exact .inr hxy
        · exact .inr (prefers_trans hb hxy)
      · exact hall z hz

section
variable (hl : l.Pairwise fun y z => p.before y z = true) (h : p.pick l = some b)
include hl h

lemma pick_eq_some : b ∈ l ∧ ∀ y ∈ l, y = b ∨ p.prefers b y := by
  cases l with
  | nil => cases h
  | cons x l =>
    obtain ⟨hx, hl⟩ := pairwise_cons.1 hl
    obtain ⟨hmem, hlast, hall⟩ := foldl_better hx hl
    cases h
    refine ⟨?_, fun y hy => ?_⟩
    · grind
    · grind

lemma rank_pick : p.rank l b = 0 := by
  rw [rank, countP_eq_zero]
  intro y hy
  rcases (pick_eq_some hl h).2 y hy with rfl | hb
  · rw [p.prefers_irrefl]
    exact Bool.false_ne_true
  · rw [prefers_asymm hb]
    exact Bool.false_ne_true

lemma rank_erase [DecidableEq α] (hy : y ∈ l) (hne : y ≠ b) : p.rank l y = p.rank (l.erase b) y + 1 := by
  obtain ⟨hb, hall⟩ := pick_eq_some hl h
  have hprefers : p.prefers b y := (hall y hy).resolve_left hne
  rw [rank, (perm_cons_erase hb).countP_eq, countP_cons_of_pos (p := fun x => p.prefers x y) hprefers, rank]

end
end Preference
end Orama.Lib
