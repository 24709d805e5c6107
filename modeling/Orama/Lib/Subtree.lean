import Orama.Lib.Directory

namespace Orama.Lib.FileTree
open List
variable {t t' : FileTree} {p q r : Path}

def dirNames (t : FileTree) (p : Path) : List Name :=
  t.entries.filterMap fun e => if e.1.dropLast = p ∧ e.2 = .dir then e.1.getLast? else none

lemma dirName_eq_some {e : Path × Node} {name : Name} :
    (if e.1.dropLast = p ∧ e.2 = .dir then e.1.getLast? else none) = some name ↔ e = (p ++ [name], .dir) := by
  grind [dropLast_append_getLast?]

lemma mem_dirNames {name : Name} : name ∈ t.dirNames p ↔ t.get (p ++ [name]) = some .dir := by
  simp only [get_eq_some (concat_ne_nil name p), dirNames, mem_filterMap, dirName_eq_some, exists_eq_right]

lemma nodup_dirNames (t : FileTree) (p : Path) : (t.dirNames p).Nodup := by
  apply List.Nodup.filterMap _ t.nodup.of_map
  intro e e' name h h'
  rw [dirName_eq_some.1 h, dirName_eq_some.1 h']

variable {pos : Path}

lemma get_next_dir {c : Name} (hpos : t.get pos = some .dir) :
    next pos c = pos ++ [c] ∨ t.get (next pos c) = some .dir := by
  grind [get_dropLast, next]

variable {cs : List Name}

lemma exists_makeDirs (hpos : t.get pos = some .dir) (h : ∀ q ∈ trail pos cs ++ [target pos cs], t.fileAt q = none) :
    ∃ t', t.makeDirs pos cs = some t' := by
  induction cs generalizing t pos with
  | nil => exact ⟨t, rfl⟩
  | cons c cs ih =>
    have hrest : ∀ q ∈ trail (next pos c) cs ++ [target (next pos c) cs], t.fileAt q = none :=
      fun q hq => h q (mem_cons_of_mem _ hq)
    have hfile : t.fileAt (next pos c) = none := by
      apply hrest
      cases cs <;> simp [trail, target]
    rw [makeDirs]
    cases hg : t.get (next pos c) with
    | some node =>
      cases node with
      | dir => exact ih hg hrest
      | file b =>
        rw [fileAt_eq_some.mpr hg] at hfile
        cases hfile
    | none =>
      rcases get_next_dir (c := c) hpos with hnext | hdir
      · have hdrop : t.get (next pos c).dropLast = some .dir := by rw [hnext, dropLast_concat, hpos]
        obtain ⟨t₁, ht₁⟩ := insert_isSome (n := .dir) (by simp [hnext]) hdrop (by simp [hg])
        have hgrows := grows_insert ht₁ hg
        obtain ⟨_, _, _, hget⟩ := insert_eq_some ht₁
        rw [ht₁]
        exact ih (by rw [hget, if_pos rfl]) fun q hq => (hgrows.fileAt_eq q).trans (hrest q hq)
      · rw [hg] at hdir
        cases hdir

lemma fileAt_of_makeDirs (hpos : t.get pos = some .dir) (h : t.makeDirs pos cs = some t') :
    ∀ q ∈ trail pos cs ++ [target pos cs], t.fileAt q = none := by
  obtain ⟨hgrows, hdirs, _⟩ := makeDirs_spec h hpos
  intro q hq
  rw [← hgrows.fileAt_eq q, fileAt, hdirs q hq]

def relocate (p q r : Path) : Path := if p <+: r then q ++ r.drop p.length else r

structure Movable (t : FileTree) (p q : Path) : Prop where
  source : t.get p = some .dir
  apart : ¬ p <+: q ∧ ¬ q <+: p
  parent : t.get q.dropLast = some .dir
  free : t.fileAt q = none ∧ ∀ e ∈ t.entries, q <+: e.1 → e.1 = q

instance (t : FileTree) (p q : Path) : Decidable (t.Movable p q) :=
  decidable_of_iff (t.get p = some .dir ∧ (¬ p <+: q ∧ ¬ q <+: p) ∧ t.get q.dropLast = some .dir ∧
      t.fileAt q = none ∧ ∀ e ∈ t.entries, q <+: e.1 → e.1 = q)
    ⟨fun h => ⟨h.1, h.2.1, h.2.2.1, h.2.2.2⟩, fun h => ⟨h.source, h.apart, h.parent, h.free⟩⟩

lemma relocate_append (s : Path) : relocate p q (p ++ s) = q ++ s := by simp [relocate]

lemma relocate_of_not_below (h : ¬ p <+: r) : relocate p q r = r := if_neg h

lemma relocate_injective {r r' : Path} (h : ¬ q <+: r) (h' : ¬ q <+: r')
    (heq : relocate p q r = relocate p q r') : r = r' := by
  by_cases hr : p <+: r <;> by_cases hr' : p <+: r'
  · obtain ⟨s, rfl⟩ := hr
    obtain ⟨s', rfl⟩ := hr'
    rw [relocate_append, relocate_append] at heq
    rw [append_cancel_left heq]
  · obtain ⟨s, rfl⟩ := hr
    rw [relocate_append, relocate_of_not_below hr'] at heq
    exact absurd ⟨s, heq⟩ h'
  · obtain ⟨s', rfl⟩ := hr'
    rw [relocate_append, relocate_of_not_below hr] at heq
    exact absurd ⟨s', heq.symm⟩ h
  · rwa [relocate_of_not_below hr, relocate_of_not_below hr'] at heq

def movedEntries (t : FileTree) (p q : Path) : List (Path × Node) :=
  (t.entries.filter fun e => ¬ q <+: e.1).map fun e => (relocate p q e.1, e.2)

lemma mem_movedEntries {node : Node} : (r, node) ∈ t.movedEntries p q ↔
    ∃ r₀, (r₀, node) ∈ t.entries ∧ ¬ q <+: r₀ ∧ relocate p q r₀ = r := by
  simp only [movedEntries, mem_map, mem_filter, decide_eq_true_eq, Prod.mk.injEq]
  constructor
  · grind
  · grind

lemma nodup_movedEntries (t : FileTree) (p q : Path) : ((t.movedEntries p q).map Prod.fst).Nodup := by
  rw [movedEntries, map_map]
  apply List.Nodup.map_on _ (t.nodup.of_map.filter _)
  intro e he e' he' heq
  obtain ⟨hm, hq⟩ := mem_filter.mp he
  obtain ⟨hm', hq'⟩ := mem_filter.mp he'
  exact inj_on_of_nodup_map t.nodup hm hm'
    (relocate_injective (of_decide_eq_true hq) (of_decide_eq_true hq') heq)

lemma Movable.source_ne_nil (h : t.Movable p q) : p ≠ [] := by
  rintro rfl
  exact h.apart.1 (List.nil_prefix)

lemma Movable.congr {u : FileTree} (h : t.Movable p q) (hp : u.get p = t.get p)
    (hd : u.get q.dropLast = t.get q.dropLast) (hq : ∀ r, q <+: r → u.get r = t.get r) : u.Movable p q := by
  refine ⟨hp.trans h.source, h.apart, hd.trans h.parent, ?_, ?_⟩
  · rw [fileAt_congr (hq q prefix_rfl), h.free.1]
  · rintro ⟨r, node⟩ he hr
    have hne := (u.closed _ he).1
    have hget := (get_eq_some hne).mpr he
    rw [hq r hr, get_eq_some hne] at hget
    exact h.free.2 _ hget hr

lemma Movable.closed (h : t.Movable p q) : ∀ e ∈ t.movedEntries p q,
    e.1 ≠ [] ∧ (e.1.dropLast = [] ∨ (e.1.dropLast, Node.dir) ∈ t.movedEntries p q) := by
  have hp := h.source_ne_nil
  have hq : q ≠ [] := by
    rintro rfl
    exact h.apart.2 (List.nil_prefix)
  rintro ⟨r, node⟩ he
  obtain ⟨r₀, hm, hnot, rfl⟩ := mem_movedEntries.mp he
  obtain ⟨h0, hc⟩ := t.closed _ hm
  by_cases hr : p <+: r₀
  · obtain ⟨s, rfl⟩ := hr
    rw [relocate_append]
    refine ⟨by simp [hq], ?_⟩
    by_cases hs : s = []
    · subst hs
      rw [append_nil]
      by_cases hd : q.dropLast = []
      · exact .inl hd
      · refine .inr (mem_movedEntries.mpr ⟨_, (get_eq_some hd).mp h.parent, ?_, ?_⟩)
        · grind [length_pos_iff, length_dropLast]
        · exact relocate_of_not_below fun hpre => h.apart.1 (hpre.trans (List.dropLast_prefix q))
    · rw [dropLast_append_of_ne_nil hs] at hc ⊢
      have hne : p ++ s.dropLast ≠ [] := by simp [hp]
      refine .inr (mem_movedEntries.mpr ⟨_, hc.resolve_left hne, ?_, relocate_append _⟩)
      exact fun hpre => hnot (hpre.trans (prefix_append_right_inj p |>.mpr (List.dropLast_prefix s)))
  · grind [relocate_of_not_below, mem_movedEntries, List.dropLast_prefix]

def moveDir (t : FileTree) (p q : Path) : Option FileTree :=
  if h : t.Movable p q then some ⟨t.movedEntries p q, nodup_movedEntries t p q, h.closed⟩ else none

lemma moveDir_eq_some (h : t.moveDir p q = some t') : t.Movable p q ∧ t'.entries = t.movedEntries p q := by
  grind [moveDir]

lemma moveDir_isSome (h : t.Movable p q) : ∃ t', t.moveDir p q = some t' := by
  rw [moveDir, dif_pos h]
  exact ⟨_, rfl⟩

lemma get_moveDir_of_apart (h : t.moveDir p q = some t') (hp : ¬ p <+: r) (hq : ¬ q <+: r) :
    t'.get r = t.get r := by
  obtain ⟨_, hentries⟩ := moveDir_eq_some h
  by_cases hr : r = []
  · subst hr
    rfl
  · ext node
    rw [get_eq_some hr, get_eq_some hr, hentries, mem_movedEntries]
    constructor
    · rintro ⟨r₀, hm, hnot, rfl⟩
      by_cases hpre : p <+: r₀
      · obtain ⟨s, rfl⟩ := hpre
        rw [relocate_append] at hq
        exact absurd (prefix_append q s) hq
      · rwa [relocate_of_not_below hpre]
    · exact fun hm => ⟨r, hm, hq, relocate_of_not_below hp⟩

lemma get_moveDir_source (h : t.moveDir p q = some t') : t'.get p = none := by
  obtain ⟨hm, hentries⟩ := moveDir_eq_some h
  have hp := hm.source_ne_nil
  apply Option.eq_none_iff_forall_ne_some.mpr
  intro node hnode
  rw [get_eq_some hp, hentries, mem_movedEntries] at hnode
  obtain ⟨r₀, _, _, heq⟩ := hnode
  by_cases hpre : p <+: r₀
  · obtain ⟨s, rfl⟩ := hpre
    rw [relocate_append] at heq
    exact hm.apart.2 ⟨s, heq⟩
  · grind [relocate_of_not_below]

end Orama.Lib.FileTree
