import Mathlib.Data.Bool.AllAny
import Mathlib.Data.List.Find
import Orama.Lib.Search
import Orama.Lib.Text

namespace Orama.Lib
open List

def hasPrefix (s p : Bytes) : Bool := p.isPrefixOf s
def hasSuffix (s p : Bytes) : Bool := p.isSuffixOf s

def trimPrefix (s p : Bytes) : Bytes := if hasPrefix s p then s.drop p.length else s

def cut (sep : UInt8) : Bytes → Bytes × Option Bytes
  | [] => ([], none)
  | c :: cs => if c = sep then ([], some cs) else (c :: (cut sep cs).1, (cut sep cs).2)

def contains (s p : Bytes) : Bool := (after p s).isSome

def whiteSpace : List Bytes := [[9], [10], [11], [12], [13], [32], [0xc2, 0x85], [0xc2, 0xa0],
  [0xe1, 0x9a, 0x80], [0xe2, 0x80, 0x80], [0xe2, 0x80, 0x81], [0xe2, 0x80, 0x82], [0xe2, 0x80, 0x83],
  [0xe2, 0x80, 0x84], [0xe2, 0x80, 0x85], [0xe2, 0x80, 0x86], [0xe2, 0x80, 0x87], [0xe2, 0x80, 0x88],
  [0xe2, 0x80, 0x89], [0xe2, 0x80, 0x8a], [0xe2, 0x80, 0xa8], [0xe2, 0x80, 0xa9], [0xe2, 0x80, 0xaf],
  [0xe2, 0x81, 0x9f], [0xe3, 0x80, 0x80]]

def strip (chars : List Bytes) : Nat → Bytes → Bytes
  | 0, s => s
  | fuel + 1, s =>
    match chars.find? fun w => w.isPrefixOf s with
    | some w => strip chars fuel (s.drop w.length)
    | none => s

def trimSpace (s : Bytes) : Bytes :=
  let left := strip whiteSpace s.length s
  (strip (whiteSpace.map List.reverse) left.length left.reverse).reverse

lemma hasPrefix_append (p s : Bytes) : hasPrefix (p ++ s) p :=
  List.isPrefixOf_iff_prefix.mpr (prefix_append p s)

variable {s p : Bytes}

lemma exists_append_of_hasPrefix (h : hasPrefix s p) : ∃ t, s = p ++ t := by
  obtain ⟨t, rfl⟩ := List.isPrefixOf_iff_prefix.mp h
  exact ⟨t, rfl⟩

lemma trimPrefix_append (p s : Bytes) : trimPrefix (p ++ s) p = s := by simp [trimPrefix, hasPrefix_append]

def Differ (p q : Bytes) : Prop := ¬ p <+: q ∧ ¬ q <+: p

instance (p q : Bytes) : Decidable (Differ p q) := inferInstanceAs (Decidable (_ ∧ _))

lemma hasPrefix_of_differ {q : Bytes} (h : Differ p q) (s : Bytes) : hasPrefix (q ++ s) p = false := by
  apply Bool.eq_false_iff.mpr
  intro hp
  exact ( List.prefix_or_prefix_of_prefix (List.isPrefixOf_iff_prefix.mp hp)
    (prefix_append q s)).elim h.1 h.2

variable {sep : UInt8}

lemma cut_append_left (h : sep ∉ s) (t : Bytes) : cut sep (s ++ t) = (s ++ (cut sep t).1, (cut sep t).2) := by
  induction s with
  | nil => rfl
  | cons c s ih =>
    rw [mem_cons, not_or] at h
    simp [cut, Ne.symm h.1, ih h.2]

lemma cut_of_notMem (h : sep ∉ s) : cut sep s = (s, none) := by
  simpa [cut] using cut_append_left h []

lemma cut_append (h : sep ∉ s) (t : Bytes) : cut sep (s ++ sep :: t) = (s, some t) := by
  simp [cut_append_left h, cut]

lemma cut_cases (sep : UInt8) (s : Bytes) :
    (sep ∉ s ∧ cut sep s = (s, none)) ∨ ∃ a b, sep ∉ a ∧ s = a ++ sep :: b ∧ cut sep s = (a, some b) := by
  by_cases h : sep ∈ s
  · obtain ⟨a, b, hs, ha⟩ := eq_append_cons_of_mem h
    exact .inr ⟨a, b, ha, hs, hs ▸ cut_append ha b⟩
  · exact .inl ⟨h, cut_of_notMem h⟩

variable {w : Bytes}

lemma hasSuffix_cons_iff (hw : sep ∉ w) (a s : Bytes) :
    hasSuffix (a ++ sep :: s) (sep :: w) ↔ s = w ∨ hasSuffix s (sep :: w) := by
  simp only [hasSuffix, isSuffixOf_iff_suffix]
  grind [suffix_or_suffix_of_suffix, suffix_cons_iff, suffix_cons]

lemma strip_suffix (chars : List Bytes) (fuel : Nat) (s : Bytes) : strip chars fuel s <:+ s := by
  induction fuel generalizing s with
  | zero => exact suffix_refl s
  | succ fuel ih => grind [drop_suffix, strip]

variable {chars : List Bytes}

lemma strip_of_not_prefix (h : ∀ w ∈ chars, ¬ w <+: s) (fuel : Nat) : strip chars fuel s = s := by
  have hnone : (chars.find? fun w => w.isPrefixOf s) = none := by grind
  cases fuel with
  | zero => rfl
  | succ fuel => rw [strip, hnone]

variable {fuel : Nat}

lemma not_prefix_strip (hchars : ∀ w ∈ chars, w ≠ []) (hs : s.length ≤ fuel) :
    ∀ w ∈ chars, ¬ w <+: strip chars fuel s := by
  induction fuel generalizing s with
  | zero =>
    intro w hw hp
    rw [eq_nil_of_length_eq_zero (Nat.le_zero.1 hs)] at hp
    exact hchars w hw (prefix_nil.1 hp)
  | succ fuel ih =>
    rw [strip]
    split
    · grind [length_pos_iff]
    · grind

lemma whiteSpace_ne_nil : ∀ w ∈ whiteSpace, w ≠ [] := by decide

lemma whiteSpace_invisible : ∀ w ∈ whiteSpace, ∀ b ∈ w, b ≤ 32 ∨ 127 ≤ b := by decide +kernel

open List

lemma reverse_whiteSpace_ne_nil : ∀ w ∈ whiteSpace.map reverse, w ≠ [] := by decide

lemma trimSpace_prefix_strip (s : Bytes) : trimSpace s <+: strip whiteSpace s.length s := by
  grind [strip_suffix, trimSpace]

lemma not_prefix_trimSpace (s : Bytes) : ∀ w ∈ whiteSpace, ¬ w <+: trimSpace s :=
  fun w hw hp => not_prefix_strip whiteSpace_ne_nil le_rfl w hw (hp.trans (trimSpace_prefix_strip s))

lemma not_suffix_trimSpace (s : Bytes) : ∀ w ∈ whiteSpace, ¬ w <:+ trimSpace s := by
  intro w hw hp
  rw [trimSpace, ← List.reverse_prefix, reverse_reverse] at hp
  grind [not_prefix_strip, reverse_whiteSpace_ne_nil]

lemma trimSpace_eq_self (hleft : ∀ w ∈ whiteSpace, ¬ w <+: s) (hright : ∀ w ∈ whiteSpace, ¬ w <:+ s) :
    trimSpace s = s := by
  grind [ strip_of_not_prefix, trimSpace]

lemma trimSpace_eq_self_of_forall (h : ∀ c ∈ s, ∀ w ∈ whiteSpace, c ∉ w) : trimSpace s = s := by
  apply trimSpace_eq_self
  · intro w hw hp
    obtain ⟨c, hc⟩ := exists_mem_of_ne_nil w (whiteSpace_ne_nil w hw)
    exact h c (hp.subset hc) w hw hc
  · intro w hw hp
    obtain ⟨c, hc⟩ := exists_mem_of_ne_nil w (whiteSpace_ne_nil w hw)
    exact h c (hp.subset hc) w hw hc

lemma trimSpace_trimSpace (s : Bytes) : trimSpace (trimSpace s) = trimSpace s :=
  trimSpace_eq_self (not_prefix_trimSpace s) (not_suffix_trimSpace s)

variable {a : Bytes}

lemma not_prefix_append_cons (hsep : sep ∉ w) (h : ¬ w <+: a) (b : Bytes) : ¬ w <+: a ++ sep :: b := by
  intro hp
  have hlonger : a ++ [sep] <+: a ++ sep :: b := ⟨b, by simp⟩
  grind [List.prefix_or_prefix_of_prefix, prefix_concat_iff]

lemma trimSpace_append_cons (hsep : ∀ w ∈ whiteSpace, sep ∉ w) {b : Bytes} (ha : trimSpace a = a)
    (hb : trimSpace b = b) : trimSpace (a ++ sep :: b) = a ++ sep :: b := by
  apply trimSpace_eq_self
  · grind [not_prefix_append_cons, not_prefix_trimSpace]
  · intro w hw hs
    have hsep' : sep ∉ w.reverse := by simpa using hsep w hw
    grind [not_suffix_trimSpace, not_prefix_append_cons]

lemma exists_strip_append {v : Bytes} (h : ∀ w ∈ chars, ∀ b ∈ v, b ∉ w) (fuel : Nat) (u : Bytes) :
    ∃ u', strip chars fuel (u ++ v) = u' ++ v := by
  induction fuel generalizing u with
  | zero => exact ⟨u, rfl⟩
  | succ fuel ih =>
    rw [strip]
    split
    · next w hw =>
      have hp : w <+: u ++ v := by simpa using find?_some hw
      have hu : w <+: u := by
        rcases List.prefix_or_prefix_of_prefix hp (prefix_append u v) with hu | ⟨x, rfl⟩
        · exact hu
        · cases x with
          | nil => simp
          | cons b x =>
            -- a character that reaches into v would contain one of its bytes
            grind [prefix_append_right_inj, mem_cons_self]
      obtain ⟨u₁, rfl⟩ := hu
      rw [append_assoc, drop_left]
      exact ih u₁
    · exact ⟨u, rfl⟩

lemma exists_trimSpace_append (hp : p ≠ []) (hvisible : ∀ b ∈ p, 32 < b ∧ b < 127) (t : Bytes) :
    ∃ t', trimSpace (p ++ t) = p ++ t' := by
  have h : ∀ w ∈ whiteSpace, ∀ b ∈ p, b ∉ w := by
    intro w hw b hb hmem
    have := hvisible b hb
    rcases whiteSpace_invisible w hw b hmem with h | h <;> grind
  have hleft : ∀ w ∈ whiteSpace, ¬ w <+: p ++ t := by
    intro w hw hprefix
    obtain ⟨c, p, rfl⟩ := exists_cons_of_ne_nil hp
    cases w with
    | nil => exact whiteSpace_ne_nil [] hw rfl
    | cons b w => grind [mem_cons_self]
  have hright : ∀ w ∈ whiteSpace.map reverse, ∀ b ∈ p.reverse, b ∉ w := by grind
  obtain ⟨u, hu⟩ := exists_strip_append hright (p ++ t).length t.reverse
  grind [ strip_of_not_prefix, trimSpace]

lemma exists_flatten_strip (chars : List Bytes) (fuel : Nat) (s : Bytes) :
    ∃ words : List Bytes, (∀ w ∈ words, w ∈ chars) ∧ s = words.flatten ++ strip chars fuel s := by
  induction fuel generalizing s with
  | zero => exact ⟨[], by simp, rfl⟩
  | succ fuel ih =>
    rw [strip]
    split
    · next w hw =>
      have hp : w <+: s := by simpa using find?_some hw
      obtain ⟨t, rfl⟩ := hp
      rw [drop_left]
      obtain ⟨words, hwords, ht⟩ := ih t
      refine ⟨w :: words, forall_mem_cons.2 ⟨mem_of_find?_eq_some hw, hwords⟩, ?_⟩
      rw [flatten_cons, append_assoc, ← ht]
    · exact ⟨[], by simp, rfl⟩

lemma strip_flatten (hfree : ∀ u ∈ chars, ∀ v ∈ chars, u <+: v → u = v) (hne : ∀ w ∈ chars, w ≠ [])
    {words : List Bytes} (hwords : ∀ w ∈ words, w ∈ chars) (hs : ∀ w ∈ chars, ¬ w <+: s)
    (hfuel : (words.flatten ++ s).length ≤ fuel) : strip chars fuel (words.flatten ++ s) = s := by
  induction words generalizing fuel with
  | nil => exact strip_of_not_prefix hs fuel
  | cons w words ih =>
    rw [forall_mem_cons] at hwords
    rw [flatten_cons, append_assoc] at hfuel ⊢
    have hpos := length_pos_iff.2 (hne w hwords.1)
    rw [length_append] at hfuel
    have hw : w <+: w ++ (words.flatten ++ s) := prefix_append _ _
    have hfind : (chars.find? fun u => u.isPrefixOf (w ++ (words.flatten ++ s))) = some w := by
      cases hfind : chars.find? fun u => u.isPrefixOf (w ++ (words.flatten ++ s)) with
      | none => grind
      | some u => grind [List.prefix_or_prefix_of_prefix]
    obtain ⟨fuel, rfl⟩ : ∃ n, fuel = n + 1 := ⟨fuel - 1, by omega⟩
    rw [strip, hfind]
    dsimp only
    rw [drop_left]
    exact ih hwords.2 (by omega)

lemma reverse_flatten_reverse (words : List Bytes) (t : Bytes) :
    (t ++ words.flatten).reverse = (words.reverse.map reverse).flatten ++ t.reverse := by
  rw [reverse_append, reverse_flatten, map_reverse]

lemma trimSpace_append_flatten {t : Bytes} {words : List Bytes} (hwords : ∀ w ∈ words, w ∈ whiteSpace)
    (hleft : ∀ w ∈ whiteSpace, ¬ w <+: t ++ words.flatten) (hright : ∀ w ∈ whiteSpace, ¬ w <:+ t) :
    trimSpace (t ++ words.flatten) = t := by
  have hfree : ∀ u ∈ whiteSpace.map reverse, ∀ v ∈ whiteSpace.map reverse, u <+: v → u = v := by decide +kernel
  have hwords' : ∀ w ∈ words.reverse.map reverse, w ∈ whiteSpace.map reverse := by grind
  have hend : ∀ w ∈ whiteSpace.map reverse, ¬ w <+: t.reverse := by grind
  rw [trimSpace, strip_of_not_prefix hleft, reverse_flatten_reverse,
    strip_flatten hfree reverse_whiteSpace_ne_nil hwords' hend, reverse_reverse]
  rw [← reverse_flatten_reverse, length_reverse]

lemma exists_trimSpace_flatten (hleft : ∀ w ∈ whiteSpace, ¬ w <+: s) :
    ∃ words : List Bytes, (∀ w ∈ words, w ∈ whiteSpace) ∧ s = trimSpace s ++ words.flatten := by
  obtain ⟨words, hwords, hs⟩ := exists_flatten_strip (whiteSpace.map reverse) s.length s.reverse
  refine ⟨words.reverse.map reverse, ?_, ?_⟩
  · grind
  · have hrev := congrArg reverse hs
    rw [reverse_reverse, reverse_append, reverse_flatten] at hrev
    rw [trimSpace, strip_of_not_prefix hleft, map_reverse]
    exact hrev

variable {c : UInt8}

lemma mem_strip (h : ∀ w ∈ chars, c ∉ w) (fuel : Nat) (hc : c ∈ s) : c ∈ strip chars fuel s := by
  obtain ⟨words, hwords, hs⟩ := exists_flatten_strip chars fuel s
  grind [mem_flatten]

lemma mem_trimSpace (h : ∀ w ∈ whiteSpace, c ∉ w) (hc : c ∈ s) : c ∈ trimSpace s := by
  grind [mem_strip, trimSpace]

variable {part : Bytes}

lemma notMem_of_mem_splitOn (h : part ∈ s.splitOn sep) : sep ∉ part := by
  rw [splitOn] at h
  induction s generalizing part with
  | nil =>
    obtain rfl : part = [] := by simpa using h
    exact not_mem_nil
  | cons c s ih =>
    rw [splitOnP_cons_eq_if_modifyHead] at h
    split at h
    · grind
    · next hc =>
      cases hparts : s.splitOnP (· == sep) with
      | nil => simp [hparts] at h
      | cons first rest => grind [modifyHead_cons]

lemma splitOn_of_notMem (h : sep ∉ s) : s.splitOn sep = [s] := by grind [splitOnP_eq_singleton, splitOn]

lemma splitOn_append_cons (h : sep ∉ a) (b : Bytes) : (a ++ sep :: b).splitOn sep = a :: b.splitOn sep := by
  rw [splitOn, splitOnP_append_cons a b (by simp)]
  change a.splitOn sep ++ _ = _
  rw [splitOn_of_notMem h]
  rfl

lemma sublist_of_mem_splitOn (h : part ∈ s.splitOn sep) : part.Sublist s := by
  induction hn : s.length using Nat.strong_induction_on generalizing s with
  | _ n ih =>
    rcases cut_cases sep s with ⟨hs, -⟩ | ⟨a, b, ha, rfl, -⟩
    · grind [splitOn_of_notMem]
    · grind [splitOn_append_cons]

lemma exists_mem_splitOn (hc : c ≠ sep) (h : c ∈ s) : ∃ part ∈ s.splitOn sep, c ∈ part := by
  induction hn : s.length using Nat.strong_induction_on generalizing s with
  | _ n ih =>
    rcases cut_cases sep s with ⟨hs, -⟩ | ⟨a, b, ha, rfl, -⟩
    · exact ⟨s, by simp [splitOn_of_notMem hs], h⟩
    · grind [splitOn_append_cons]

section
variable {f : UInt8 → UInt8}

lemma splitOn_map {sep : UInt8} (hsep : ∀ c, f c = sep ↔ c = sep) (s : Bytes) :
    (s.map f).splitOn sep = (s.splitOn sep).map (map f) := by
  simp only [splitOn]
  induction s with
  | nil => rfl
  | cons c s ih =>
    have hc : (f c == sep) = (c == sep) := by rw [Bool.eq_iff_iff, beq_iff_eq, beq_iff_eq, hsep]
    rw [map_cons, splitOnP_cons_eq_if_modifyHead, splitOnP_cons_eq_if_modifyHead, hc, ih]
    split
    · rfl
    · cases s.splitOnP (· == sep) <;> rfl

lemma map_eq_iff {t : Bytes} (ht : ∀ b ∈ t, ∀ c, f c = b ↔ c = b) (s : Bytes) : s.map f = t ↔ s = t := by
  induction s generalizing t with
  | nil => simp [eq_comm]
  | cons c s ih =>
    cases t with
    | nil => simp
    | cons b t =>
      rw [forall_mem_cons] at ht
      rw [map_cons, cons.injEq, cons.injEq, ht.1, ih ht.2]

lemma isPrefixOf_map {w : Bytes} (hw : ∀ b ∈ w, ∀ c, f c = b ↔ c = b) (s : Bytes) :
    w.isPrefixOf (s.map f) = w.isPrefixOf s := by
  induction w generalizing s with
  | nil => simp
  | cons b w ih =>
    cases s with
    | nil => rfl
    | cons c s => grind [mem_cons_self]

lemma strip_map {chars : List Bytes} (h : ∀ w ∈ chars, ∀ b ∈ w, ∀ c, f c = b ↔ c = b) (fuel : Nat)
    (s : Bytes) : strip chars fuel (s.map f) = (strip chars fuel s).map f := by
  induction fuel generalizing s with
  | zero => rfl
  | succ fuel ih =>
    have hfind : (chars.find? fun w => w.isPrefixOf (s.map f)) = chars.find? fun w => w.isPrefixOf s := by
      apply find?_congr
      exact fun w hw => isPrefixOf_map (h w hw) s
    rw [strip, strip, hfind]
    split
    · rw [← map_drop, ih]
    · rfl

lemma trimSpace_map (h : ∀ w ∈ whiteSpace, ∀ b ∈ w, ∀ c, f c = b ↔ c = b) (s : Bytes) :
    trimSpace (s.map f) = (trimSpace s).map f := by
  have hrev : ∀ w ∈ whiteSpace.map reverse, ∀ b ∈ w, ∀ c, f c = b ↔ c = b := by grind
  rw [trimSpace, trimSpace, length_map, strip_map h]
  simp only [length_map]
  rw [← map_reverse, strip_map hrev, map_reverse]

end
end Orama.Lib
