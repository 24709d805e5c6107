import Mathlib.Data.List.Infix

namespace Orama.Lib
open List
variable {α : Type} [DecidableEq α]

def after (pattern : List α) : List α → Option (List α)
  | [] => if pattern = [] then some [] else none
  | c :: cs =>
    if pattern.isPrefixOf (c :: cs) then some ((c :: cs).drop pattern.length) else after pattern cs

lemma after_of_prefix (pattern rest : List α) : after pattern (pattern ++ rest) = some rest := by
  cases h : pattern ++ rest with
  | nil =>
    obtain ⟨rfl, rfl⟩ := append_eq_nil_iff.mp h
    rfl
  | cons c cs => rw [after, if_pos (List.isPrefixOf_iff_prefix.mpr ⟨rest, h⟩), ← h, drop_left]

variable {pattern a : List α}

lemma after_append {b : List α} (h : ∀ s, s <:+ a → s ≠ [] → ¬ pattern <+: s ++ b) :
    after pattern (a ++ b) = after pattern b := by
  induction a with
  | nil => rfl
  | cons c a ih =>
    have hc : ¬ pattern.isPrefixOf (c :: (a ++ b)) := by
      rw [List.isPrefixOf_iff_prefix]
      exact h (c :: a) (suffix_refl _) (cons_ne_nil _ _)
    rw [cons_append, after, if_neg hc]
    exact ih fun s hs => h s (hs.trans (suffix_cons c a))

def Clash (pattern a : List α) : Prop :=
  ∀ s ∈ a.tails, s ≠ [] → ¬ pattern <+: s ∧ ¬ s <+: pattern

instance (pattern a : List α) : Decidable (Clash pattern a) :=
  inferInstanceAs (Decidable (∀ s ∈ a.tails, s ≠ [] → ¬ pattern <+: s ∧ ¬ s <+: pattern))

lemma after_clash (h : Clash pattern a) (b : List α) : after pattern (a ++ b) = after pattern b := by
  apply after_append
  intro s hs hne hp
  obtain ⟨h1, h2⟩ := h s ((mem_tails s a).mpr hs) hne
  exact (List.prefix_or_prefix_of_prefix hp (prefix_append s b)).elim h1 h2

variable {q : α}

lemma after_notMem (h : q ∉ a) (pattern b : List α) : after (q :: pattern) (a ++ b) = after (q :: pattern) b := by
  apply after_append
  intro s hs hne hp
  cases s with
  | nil => exact hne rfl
  | cons c s =>
    rw [cons_append, cons_prefix_cons] at hp
    exact h (hp.1 ▸ hs.subset mem_cons_self)

lemma after_quoted {c : α} (hq : q ∉ a) (hc : c ∈ pattern) (hca : c ∉ a) (hlen : pattern.length ≤ a.length)
    (b : List α) : after (q :: pattern) (q :: (a ++ b)) = after (q :: pattern) b := by
  have hp : ¬ (q :: pattern).isPrefixOf (q :: (a ++ b)) := by
    rw [List.isPrefixOf_iff_prefix, cons_prefix_cons]
    rintro ⟨_, hp⟩
    exact hca ((prefix_of_prefix_length_le hp (prefix_append a b) hlen).subset hc)
  rw [after, if_neg hp, after_notMem hq]

end Orama.Lib
