import Mathlib.Data.Finset.Card

namespace Orama.Lib.Ranking
open List
variable {α : Type} (less : α → α → Bool)

structure StrictWeakOn (l : List α) : Prop where
  irrefl : ∀ x ∈ l, less x x = false
  trans : ∀ x ∈ l, ∀ y ∈ l, ∀ z ∈ l, less x y = true → less y z = true → less x z = true
  negTrans : ∀ x ∈ l, ∀ y ∈ l, ∀ z ∈ l, less x y = false → less y z = false → less x z = false

instance (l : List α) : Decidable (StrictWeakOn less l) :=
  decidable_of_iff
    ((∀ x ∈ l, less x x = false) ∧ (∀ x ∈ l, ∀ y ∈ l, ∀ z ∈ l, less x y = true → less y z = true → less x z = true) ∧
      ∀ x ∈ l, ∀ y ∈ l, ∀ z ∈ l, less x y = false → less y z = false → less x z = false)
    ⟨fun h => ⟨h.1, h.2.1, h.2.2⟩, fun h => ⟨h.irrefl, h.trans, h.negTrans⟩⟩

structure Sorts (l sorted : List α) : Prop where
  perm : sorted.Perm l
  inOrder : StrictWeakOn less l → sorted.Pairwise fun x y => less y x = false

def precedes (l : List α) (x y : α) : Bool := decide (StrictWeakOn less l) && less x y

def rank (l : List α) (x : α) : Nat := l.countP fun y => precedes less l y x

def arrange : List α → List α
  | [] => []
  | x :: l => (arrange l).filter (less · x) ++ x :: (arrange l).filter fun y => !less y x

def leading [DecidableEq α] (k : Nat) (sorted : List α) : Finset α := (sorted.take k).toFinset

def ties [DecidableEq α] (l : List α) (x : α) : Nat :=
  l.countP fun y => y ≠ x && !precedes less l y x && !precedes less l x y

variable {less} {l sorted : List α} {x y z : α} {k : Nat}
open Bool
section

lemma StrictWeakOn.asymm (h : StrictWeakOn less l) (hx : x ∈ l) (hy : y ∈ l) (hxy : less x y) :
    less y x = false := by
  rw [← not_eq_true]
  intro hyx
  have hxx := h.trans x hx y hy x hx hxy hyx
  rw [h.irrefl x hx] at hxx
  cases hxx

lemma StrictWeakOn.mono {l' : List α} (h : StrictWeakOn less l) (hsub : ∀ x ∈ l', x ∈ l) : StrictWeakOn less l' where
  irrefl x hx := h.irrefl x (hsub x hx)
  trans x hx y hy z hz := h.trans x (hsub x hx) y (hsub y hy) z (hsub z hz)
  negTrans x hx y hy z hz := h.negTrans x (hsub x hx) y (hsub y hy) z (hsub z hz)

lemma precedes_eq (h : StrictWeakOn less l) (x y : α) : precedes less l x y = less x y := by simp [precedes, h]

lemma strictWeakOn_precedes (less : α → α → Bool) (l : List α) : StrictWeakOn (precedes less l) l := by
  by_cases h : StrictWeakOn less l
  · have heq : precedes less l = less := by
      funext x y
      exact precedes_eq h x y
    rw [heq]
    exact h
  · have hnone : ∀ x y, precedes less l x y = false := fun x y => by simp [precedes, h]
    refine ⟨fun x _ => hnone x x, fun x _ y _ z _ hxy => ?_, fun x _ _ _ z _ _ _ => hnone x z⟩
    rw [hnone] at hxy
    cases hxy

lemma sorts_iff : Sorts less l sorted ↔ sorted.Perm l ∧ sorted.Pairwise fun x y => precedes less l y x = false := by
  constructor
  · intro h
    refine ⟨h.perm, ?_⟩
    by_cases hweak : StrictWeakOn less l
    · refine (h.inOrder hweak).imp ?_
      intro x y hxy
      rw [precedes_eq hweak, hxy]
    · grind [pairwise_of_forall, precedes]
  · rintro ⟨hperm, horder⟩
    refine ⟨hperm, fun hweak => horder.imp ?_⟩
    intro x y hxy
    rwa [precedes_eq hweak] at hxy

lemma arrange_perm (less : α → α → Bool) (l : List α) : (arrange less l).Perm l := by
  induction l with
  | nil => exact List.Perm.refl []
  | cons x l ih =>
    rw [arrange]
    refine perm_middle.trans (List.Perm.cons x ?_)
    exact (filter_append_perm (less · x) (arrange less l)).trans ih

lemma pairwise_insert (hsorted : sorted.Pairwise fun y z => less z y = false) (q : α → Bool) (copies : List α)
    (hcopies : ∀ y ∈ copies, y = x) (hirrefl : less x x = false)
    (hbefore : ∀ y ∈ sorted, q y → less x y = false) (hafter : ∀ y ∈ sorted, q y = false → less y x = false)
    (hacross : ∀ y ∈ sorted, ∀ z ∈ sorted, q y → q z = false → less z y = false) :
    (sorted.filter q ++ (copies ++ sorted.filter fun y => !q y)).Pairwise fun y z => less z y = false := by
  rw [pairwise_append, pairwise_append]
  refine ⟨hsorted.filter _, ⟨?_, hsorted.filter _, ?_⟩, ?_⟩
  · grind [pairwise_iff_forall_sublist, mem_cons_self]
  · grind
  · grind

section
variable (h : StrictWeakOn less l) (hsorted : sorted.Pairwise fun y z => less z y = false)
  (hsub : ∀ y ∈ sorted, y ∈ l) (hx : x ∈ l) (copies : List α) (hcopies : ∀ y ∈ copies, y = x)
include h hsorted hsub hx hcopies

lemma StrictWeakOn.pairwise_before :
    (sorted.filter (less · x) ++ (copies ++ sorted.filter fun y => !less y x)).Pairwise fun y z => less z y = false := by
  refine pairwise_insert hsorted (less · x) copies hcopies (h.irrefl x hx) ?_ (fun y _ hyx => hyx) ?_
  · exact fun y hy hyx => h.asymm (hsub y hy) hx hyx
  · intro y hy z hz hyx hzx
    rw [← not_eq_true]
    intro hzy
    rw [h.trans z (hsub z hz) y (hsub y hy) x hx hzy hyx] at hzx
    cases hzx

lemma StrictWeakOn.pairwise_after :
    (sorted.filter (!less x ·) ++ (copies ++ sorted.filter fun y => !!less x y)).Pairwise fun y z => less z y = false := by
  refine pairwise_insert hsorted (!less x ·) copies hcopies (h.irrefl x hx) (fun y _ hxy => by simpa using hxy) ?_ ?_
  · exact fun y hy hxy => h.asymm hx (hsub y hy) (by simpa using hxy)
  · intro y hy z hz hxy hxz
    rw [← not_eq_true]
    intro hzy
    rw [h.trans x hx z (hsub z hz) y (hsub y hy) (by simpa using hxz) hzy] at hxy
    cases hxy

end

lemma arrange_pairwise (h : StrictWeakOn less l) : (arrange less l).Pairwise fun y z => less z y = false := by
  induction l with
  | nil => exact List.Pairwise.nil
  | cons x l ih =>
    have hrest := ih (h.mono fun y hy => mem_cons_of_mem _ hy)
    refine h.pairwise_before hrest ?_ mem_cons_self [x] fun y hy => mem_singleton.1 hy
    exact fun y hy => mem_cons_of_mem _ ((arrange_perm less l).mem_iff.1 hy)

lemma arrange_sorts (less : α → α → Bool) (l : List α) : Sorts less l (arrange less l) :=
  ⟨arrange_perm less l, arrange_pairwise⟩

end

section

lemma mem_take_append {a b : List α} (h : a.length < k) : x ∈ (a ++ x :: b).take k := by
  rw [take_append, mem_append]
  obtain ⟨m, hm⟩ := Nat.exists_eq_add_of_lt h
  have hsub : k - a.length = m + 1 := by omega
  rw [hsub]
  exact .inr mem_cons_self

lemma exists_append_of_mem_take (h : x ∈ sorted.take k) : ∃ a b, sorted = a ++ x :: b ∧ a.length < k := by
  obtain ⟨a, b, hab⟩ := append_of_mem h
  grind [take_append_drop]

variable [DecidableEq α]

lemma countP_not_after (hx : x ∈ l) :
    (l.countP fun y => y ≠ x && !precedes less l x y) = rank less l x + ties less l x := by
  have hweak := strictWeakOn_precedes less l
  rw [countP_eq_countP_filter_add l _ (precedes less l · x), countP_filter, countP_filter]
  congr 1
  · apply countP_congr
    grind [StrictWeakOn.asymm]
  · apply countP_congr
    intro y _
    simp only [and_eq_true]
    tauto

lemma Sorts.mem_leading (h : Sorts less l sorted) (hx : x ∈ l) (hlt : rank less l x + ties less l x < k) :
    x ∈ leading k sorted := by
  obtain ⟨hperm, horder⟩ := sorts_iff.1 h
  obtain ⟨a, b, rfl, hxa⟩ := eq_append_cons_of_mem (hperm.mem_iff.2 hx)
  have hall : ∀ y ∈ a, (decide (y ≠ x) && !precedes less l x y) := by grind
  rw [leading, mem_toFinset]
  apply mem_take_append
  calc a.length = a.countP fun y => y ≠ x && !precedes less l x y := (countP_eq_length.2 hall).symm
    _ ≤ (a ++ x :: b).countP fun y => y ≠ x && !precedes less l x y := by
      rw [countP_append]
      exact Nat.le_add_right _ _
    _ = l.countP fun y => y ≠ x && !precedes less l x y := hperm.countP_eq _
    _ = rank less l x + ties less l x := countP_not_after hx
    _ < k := hlt

lemma Sorts.rank_lt (h : Sorts less l sorted) (hx : x ∈ leading k sorted) : rank less l x < k := by
  obtain ⟨hperm, horder⟩ := sorts_iff.1 h
  rw [leading, mem_toFinset] at hx
  obtain ⟨a, b, rfl, hlt⟩ := exists_append_of_mem_take hx
  have hxl : x ∈ l := hperm.mem_iff.1 (mem_append_right _ mem_cons_self)
  have hnone : (x :: b).countP (fun y => precedes less l y x) = 0 := by
    rw [countP_eq_zero]
    intro y hy
    rcases mem_cons.1 hy with rfl | hy
    · rw [(strictWeakOn_precedes less l).irrefl y hxl]
      exact Bool.false_ne_true
    · grind [pairwise_cons]
  calc rank less l x = (a ++ x :: b).countP fun y => precedes less l y x := (hperm.countP_eq _).symm
    _ = a.countP fun y => precedes less l y x := by rw [countP_append, hnone, Nat.add_zero]
    _ ≤ a.length := countP_le_length
    _ < k := hlt

def others (less : α → α → Bool) (l : List α) (x : α) : List α :=
  arrange (precedes less l) (l.filter fun y => y ≠ x)

lemma mem_of_mem_others (hy : y ∈ others less l x) : y ∈ l ∧ y ≠ x := by
  obtain ⟨hyl, hne⟩ := mem_filter.1 ((arrange_perm _ _).mem_iff.1 hy)
  exact ⟨hyl, by simpa using hne⟩

lemma others_pairwise (less : α → α → Bool) (l : List α) (x : α) :
    (others less l x).Pairwise fun y z => precedes less l z y = false :=
  arrange_pairwise ((strictWeakOn_precedes less l).mono fun _ hy => mem_of_mem_filter hy)

lemma perm_insert (less : α → α → Bool) (l : List α) (x : α) (q : α → Bool) :
    ((others less l x).filter q ++ (l.filter (· = x) ++ (others less l x).filter fun y => !q y)).Perm l := by
  have hmiddle : ((others less l x).filter q ++ (l.filter (· = x) ++ (others less l x).filter fun y => !q y)).Perm
      (l.filter (· = x) ++ others less l x) := by
    rw [← append_assoc]
    refine (perm_append_comm.append_right _).trans ?_
    rw [append_assoc]
    exact (filter_append_perm q _).append_left _
  refine hmiddle.trans (((arrange_perm _ _).append_left _).trans ?_)
  have hsplit := filter_append_perm (· = x) l
  simpa using hsplit

lemma eq_of_mem_copies : ∀ y ∈ l.filter (· = x), y = x := fun y hy => by simpa using (mem_filter.1 hy).2

lemma exists_sorts_mem (hx : x ∈ l) (hlt : rank less l x < k) : ∃ sorted, Sorts less l sorted ∧ x ∈ leading k sorted := by
  refine ⟨_, sorts_iff.2 ⟨perm_insert less l x (precedes less l · x), ?_⟩, ?_⟩
  · exact (strictWeakOn_precedes less l).pairwise_before (others_pairwise less l x)
      (fun y hy => (mem_of_mem_others hy).1) hx _ eq_of_mem_copies
  · obtain ⟨copies, hcopies⟩ : ∃ copies, l.filter (· = x) = x :: copies := by
      have hmem : x ∈ l.filter (· = x) := mem_filter.2 ⟨hx, by simp⟩
      obtain ⟨y, copies, heq⟩ := exists_cons_of_ne_nil (ne_nil_of_mem hmem)
      refine ⟨copies, ?_⟩
      rw [heq, eq_of_mem_copies y (heq ▸ mem_cons_self)]
    rw [leading, mem_toFinset, hcopies, cons_append]
    apply mem_take_append
    calc ((others less l x).filter (precedes less l · x)).length
        = (others less l x).countP (precedes less l · x) := (countP_eq_length_filter ..).symm
      _ = (l.filter fun y => y ≠ x).countP (precedes less l · x) := (arrange_perm _ _).countP_eq _
      _ ≤ rank less l x := filter_sublist.countP_le
      _ < k := hlt

lemma exists_sorts_notMem (hx : x ∈ l) (hle : k ≤ rank less l x + ties less l x) :
    ∃ sorted, Sorts less l sorted ∧ x ∉ leading k sorted := by
  refine ⟨_, sorts_iff.2 ⟨perm_insert less l x (!precedes less l x ·), ?_⟩, ?_⟩
  · exact (strictWeakOn_precedes less l).pairwise_after (others_pairwise less l x)
      (fun y hy => (mem_of_mem_others hy).1) hx _ eq_of_mem_copies
  · have hlength : k ≤ ((others less l x).filter (!precedes less l x ·)).length := by
      rw [← countP_eq_length_filter, others, (arrange_perm _ _).countP_eq, countP_filter]
      refine hle.trans (le_of_eq ?_)
      rw [← countP_not_after hx]
      apply countP_congr
      intro y _
      simp only [and_eq_true]
      tauto
    rw [leading, mem_toFinset, take_append_of_le_length hlength]
    grind [mem_of_mem_others]

def Determined (less : α → α → Bool) (k : Nat) (l : List α) : Prop :=
  ∀ x ∈ l, rank less l x < k → rank less l x + ties less l x < k

instance (less : α → α → Bool) (k : Nat) (l : List α) : Decidable (Determined less k l) :=
  inferInstanceAs (Decidable (∀ x ∈ l, rank less l x < k → rank less l x + ties less l x < k))

lemma Determined.leading_eq (hdetermined : Determined less k l) (h : Sorts less l sorted) :
    leading k sorted = (l.filter fun x => rank less l x < k).toFinset := by
  ext x
  rw [mem_toFinset, mem_filter, decide_eq_true_iff]
  constructor
  · intro hx
    refine ⟨h.perm.mem_iff.1 ?_, h.rank_lt hx⟩
    exact mem_of_mem_take (mem_toFinset.1 hx)
  · rintro ⟨hx, hlt⟩
    exact h.mem_leading hx (hdetermined x hx hlt)

lemma leading_eq_iff (less : α → α → Bool) (k : Nat) (l : List α) :
    (∀ sorted sorted', Sorts less l sorted → Sorts less l sorted' → leading k sorted = leading k sorted') ↔
    Determined less k l := by
  constructor
  · intro h x hx hlt
    by_contra hle
    obtain ⟨sorted, hsorted, hmem⟩ := exists_sorts_mem hx hlt
    obtain ⟨sorted', hsorted', hnot⟩ := exists_sorts_notMem hx (Nat.le_of_not_lt hle)
    rw [h sorted sorted' hsorted hsorted'] at hmem
    exact hnot hmem
  · intro h sorted sorted' hsorted hsorted'
    rw [h.leading_eq hsorted, h.leading_eq hsorted']

lemma card_leading (h : sorted.Nodup) : (leading k sorted).card = min k sorted.length := by
  grind [toFinset_card_of_nodup, leading]

lemma determined_of_total (h : ∀ x ∈ l, ∀ y ∈ l, y ≠ x → less x y ∨ less y x)
    (hweak : StrictWeakOn less l) : Determined less k l := by
  intro x hx hlt
  have hnone : ties less l x = 0 := by
    rw [ties, countP_eq_zero]
    intro y hy htie
    simp only [precedes_eq hweak, and_eq_true, decide_eq_true_eq, not_eq_true'] at htie
    rcases h x hx y hy htie.1.1 with hxy | hyx
    · rw [htie.2] at hxy
      cases hxy
    · rw [htie.1.2] at hyx
      cases hyx
  omega

end
end Orama.Lib.Ranking
