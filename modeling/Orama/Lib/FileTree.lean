import Mathlib.Data.List.Infix
import Mathlib.Data.List.Dedup

namespace Orama.Lib
open List

abbrev Bytes := List UInt8
abbrev Name := Bytes
abbrev Path := List Name

inductive Node
  | dir
  | file (bytes : Bytes)
deriving DecidableEq, Repr

structure FileTree where
  entries : List (Path × Node)
  nodup : (entries.map Prod.fst).Nodup
  closed : ∀ e ∈ entries, e.1 ≠ [] ∧ (e.1.dropLast = [] ∨ (e.1.dropLast, Node.dir) ∈ entries)

namespace FileTree

def empty : FileTree := ⟨[], nodup_nil, by simp⟩

def get (t : FileTree) (p : Path) : Option Node :=
  if p = [] then some .dir else (t.entries.find? fun e => e.1 = p).map Prod.snd

@[simp]
lemma get_nil (t : FileTree) : t.get [] = some .dir := rfl

variable {t : FileTree} {p : Path} {n : Node}

lemma get_eq_some (hp : p ≠ []) : t.get p = some n ↔ (p, n) ∈ t.entries := by
  rw [get, if_neg hp, Option.map_eq_some_iff]
  constructor
  · grind
  · intro hm
    cases hf : t.entries.find? fun e => e.1 = p with
    | none => simpa using find?_eq_none.mp hf _ hm
    | some e =>
      have he : e.1 = p := by simpa using find?_some hf
      have hee : e = (p, n) :=
        inj_on_of_nodup_map t.nodup (mem_of_find?_eq_some hf) hm he
      exact ⟨e, rfl, by rw [hee]⟩

lemma get_dropLast (h : t.get p = some n) : t.get p.dropLast = some .dir := by
  by_cases hp : p = []
  · subst hp
    rfl
  · by_cases hd : p.dropLast = []
    · rw [hd, get_nil]
    · exact (get_eq_some hd).mpr ((t.closed _ ((get_eq_some hp).mp h)).2.resolve_left hd)

lemma get_append {q : Path} (hq : q ≠ []) (h : t.get (p ++ q) = some n) : t.get p = some .dir := by
  induction q using List.reverseRecOn generalizing n with
  | nil => exact absurd rfl hq
  | append_singleton q c ih => grind [get_dropLast, dropLast_concat]

def insert (t : FileTree) (p : Path) (n : Node) : Option FileTree :=
  if h : p ≠ [] ∧ t.get p.dropLast = some .dir ∧ t.get p ≠ some .dir then
    some {
      entries := (p, n) :: t.entries.filter fun e => e.1 ≠ p
      nodup := by
        rw [map_cons, nodup_cons]
        refine ⟨?_, t.nodup.sublist (filter_sublist.map _)⟩
        simp
      closed := by
        intro e he
        rcases mem_cons.mp he with rfl | he
        · refine ⟨h.1, ?_⟩
          by_cases hd : p.dropLast = []
          · exact .inl hd
          · refine .inr (mem_cons_of_mem _ (mem_filter.mpr ⟨(get_eq_some hd).mp h.2.1, ?_⟩))
            have hl : p.dropLast ≠ p := fun hq => by
              have hlen := congrArg List.length hq
              have hpos := length_pos_iff.mpr h.1
              rw [length_dropLast] at hlen
              omega
            simpa using hl
        · obtain ⟨hm, hne⟩ := mem_filter.mp he
          obtain ⟨h0, hc⟩ := t.closed e hm
          refine ⟨h0, hc.imp_right fun hd => ?_⟩
          refine mem_cons_of_mem _ (mem_filter.mpr ⟨hd, ?_⟩)
          have hq : e.1.dropLast ≠ p := by
            rintro rfl
            exact h.2.2 ((get_eq_some h.1).mpr hd)
          simpa using hq }
  else none

lemma insert_eq_some {t' : FileTree} (h : t.insert p n = some t') :
    p ≠ [] ∧ t.get p.dropLast = some .dir ∧ t.get p ≠ some .dir ∧
    ∀ q, t'.get q = if q = p then some n else t.get q := by
  unfold insert at h
  split at h
  · grind [get]
  · cases h

lemma insert_isSome (hp : p ≠ []) (hd : t.get p.dropLast = some .dir) (hn : t.get p ≠ some .dir) :
    ∃ t', t.insert p n = some t' := by
  rw [insert, dif_pos ⟨hp, hd, hn⟩]
  exact ⟨_, rfl⟩

def prune (t : FileTree) (bad : Path → Bool) (h : ∀ p, bad p.dropLast = true → bad p = true) : FileTree where
  entries := t.entries.filter fun e => !bad e.1
  nodup := t.nodup.sublist (filter_sublist.map _)
  closed := by
    intro e he
    obtain ⟨hm, hb⟩ := mem_filter.mp he
    obtain ⟨h0, hc⟩ := t.closed e hm
    refine ⟨h0, hc.imp_right fun hd => mem_filter.mpr ⟨hd, ?_⟩⟩
    have hb : bad e.1 = false := by simpa using hb
    cases hbd : bad e.1.dropLast with
    | true => exact absurd (h _ hbd) (by simp [hb])
    | false => simp

lemma get_prune (t : FileTree) (bad : Path → Bool) (h : ∀ p, bad p.dropLast → bad p)
    (q : Path) : (t.prune bad h).get q = if q ≠ [] ∧ bad q = true then none else t.get q := by
  by_cases hq : q = []
  · subst hq
    simp
  · grind [get, prune]

def removeTree (t : FileTree) (p : Path) : FileTree :=
  t.prune (fun q => p <+: q) fun q hq => by
    simp only [decide_eq_true_eq] at hq ⊢
    exact hq.trans (List.dropLast_prefix q)

def removeBelow (t : FileTree) (p : Path) : FileTree :=
  t.prune (fun q => p <+: q ∧ p ≠ q) fun q hq => by
    simp only [decide_eq_true_eq] at hq ⊢
    refine ⟨hq.1.trans (List.dropLast_prefix q), ?_⟩
    rintro rfl
    exact hq.2 (hq.1.eq_of_length_le (by simp))

lemma get_removeTree (hp : p ≠ []) (q : Path) : (t.removeTree p).get q = if p <+: q then none else t.get q := by
  grind [get_prune, removeTree]

lemma get_removeBelow (t : FileTree) (p q : Path) :
    (t.removeBelow p).get q = if p <+: q ∧ p ≠ q then none else t.get q := by
  rw [removeBelow, get_prune]
  by_cases h : p <+: q ∧ p ≠ q
  · grind
  · simp [h]

def ofDirs (ps : List Path) : FileTree where
  entries := ((ps.flatMap List.inits).filter fun p => p ≠ []).dedup.map fun p => (p, .dir)
  nodup := by
    rw [map_map]
    simpa [Function.comp_def] using nodup_dedup _
  closed := by
    intro e he
    obtain ⟨p, hp, rfl⟩ := mem_map.mp he
    obtain ⟨hm, h0⟩ := mem_filter.mp (mem_dedup.mp hp)
    obtain ⟨q, hq, hpq⟩ := mem_flatMap.mp hm
    refine ⟨by simpa using h0, ?_⟩
    by_cases hd : p.dropLast = []
    · exact .inl hd
    · refine .inr (mem_map.mpr ⟨p.dropLast, mem_dedup.mpr (mem_filter.mpr ⟨?_, ?_⟩), rfl⟩)
      · exact mem_flatMap.mpr
          ⟨q, hq, (mem_inits _ _).mpr ((List.dropLast_prefix p).trans ((mem_inits _ _).mp hpq))⟩
      · simpa using hd

lemma get_ofDirs (ps : List Path) (q : Path) :
    (ofDirs ps).get q = if q = [] ∨ ∃ p ∈ ps, q <+: p then some .dir else none := by
  by_cases hq : q = []
  · subst hq
    simp
  · have hmem : ∀ n, (q, n) ∈ (ofDirs ps).entries ↔ n = .dir ∧ ∃ p ∈ ps, q <+: p := by
      intro n
      rw [ofDirs, mem_map]
      constructor
      · grind [mem_dedup, mem_inits]
      · rintro ⟨rfl, r, hr, hqr⟩
        refine ⟨q, mem_dedup.mpr (mem_filter.mpr ⟨?_, by simpa using hq⟩), rfl⟩
        exact mem_flatMap.mpr ⟨r, hr, (mem_inits _ _).mpr hqr⟩
    by_cases h : ∃ p ∈ ps, q <+: p
    · grind [get_eq_some]
    · rw [if_neg (not_or.mpr ⟨hq, h⟩)]
      cases hg : (ofDirs ps).get q with
      | none => rfl
      | some n => exact absurd ((hmem n).mp ((get_eq_some hq).mp hg)).2 h

variable {ps : List Path}

lemma get_ofDirs_of_mem (hp : p ∈ ps) : (ofDirs ps).get p = some .dir := by
  rw [get_ofDirs, if_pos (.inr ⟨p, hp, prefix_rfl⟩)]

lemma exists_single_file (data : Bytes) (hp : p ≠ []) (hd : p.dropLast ∈ ps) (hn : ∀ q ∈ ps, ¬ p <+: q) :
    ∃ t : FileTree, (∀ q ∈ ps, t.get q = some .dir) ∧ t.get p = some (.file data) ∧
    ∀ q ≠ p, ∀ b, t.get q ≠ some (.file b) := by
  have hfree : (ofDirs ps).get p ≠ some .dir := by grind [get_ofDirs]
  obtain ⟨t, ht⟩ := insert_isSome (n := .file data) hp (get_ofDirs_of_mem hd) hfree
  obtain ⟨_, _, _, hg⟩ := insert_eq_some ht
  refine ⟨t, fun q hq => ?_, ?_, fun q hq b => ?_⟩
  · grind [get_ofDirs_of_mem]
  · rw [hg, if_pos rfl]
  · rw [hg, if_neg hq, get_ofDirs]
    split <;> simp

def countDirs (t : FileTree) (p : Path) : Nat :=
  (t.entries.filter fun e => e.1.dropLast = p ∧ e.2 = .dir).length

lemma countDirs_congr {u : FileTree} (h : ∀ q, q.dropLast = p → t.get q = u.get q) :
    t.countDirs p = u.countDirs p := by
  have hnd : ∀ v : FileTree, v.entries.Nodup := fun v => v.nodup.of_map
  apply List.Perm.length_eq
  rw [perm_ext_iff_of_nodup ((hnd t).filter _) ((hnd u).filter _)]
  rintro ⟨q, n⟩
  have hmem : ∀ v w : FileTree, v.get q = w.get q → (q, n) ∈ v.entries → (q, n) ∈ w.entries := by
    intro v w hvw hv
    have hq := (v.closed _ hv).1
    exact (get_eq_some hq).mp (hvw ▸ (get_eq_some hq).mpr hv)
  simp only [mem_filter, decide_eq_true_eq]
  constructor
  · rintro ⟨hm, hq, hn⟩
    exact ⟨hmem t u (h q hq) hm, hq, hn⟩
  · grind

end FileTree
end Orama.Lib
