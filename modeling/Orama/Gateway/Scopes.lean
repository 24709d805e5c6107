import Orama.Gateway.AuthHandlers

namespace Orama.Gateway
open Lib List

/-- What is needed of strings.ToLower: it makes no commas, a trimmed text stays
trimmed, and nothing is left to do a second time. -/
structure LowerCase (f : Bytes → Bytes) : Prop where
  comma : ∀ s, 44 ∉ s → 44 ∉ f s
  trimmed : ∀ s, trimSpace (f (trimSpace s)) = f (trimSpace s)
  idempotent : ∀ s, f (f s) = f s

lemma lowerAscii_eq_iff {b : UInt8} (hb : b < 65 ∨ 122 < b) (c : UInt8) : lowerAscii c = b ↔ c = b := by
  grind [lowerAscii]

lemma lowerAscii_lowerAscii (c : UInt8) : lowerAscii (lowerAscii c) = lowerAscii c := by grind [lowerAscii]

lemma lowerCase_lowerAscii : LowerCase (fun s => s.map lowerAscii) := by
  have hspace : ∀ w ∈ whiteSpace, ∀ b ∈ w, b < 65 ∨ 122 < b := by
    intro w hw b hb
    rcases whiteSpace_invisible w hw b hb with h | h <;> grind
  refine ⟨?_, ?_, ?_⟩
  · intro s hs hmem
    obtain ⟨c, hc, heq⟩ := mem_map.1 hmem
    rw [lowerAscii_eq_iff (.inl (by decide))] at heq
    exact hs (heq ▸ hc)
  · grind [trimSpace_map, lowerAscii_eq_iff, trimSpace_trimSpace]
  · intro s
    simp [lowerAscii_lowerAscii]

variable {raw grant : Bytes} {f : Bytes → Bytes}

lemma mem_parseScopes :
    grant ∈ parseScopes f raw ↔ grant ≠ [] ∧ ∃ part ∈ raw.splitOn 44, f (trimSpace part) = grant := by
  grind [mem_toFinset, parseScopes]

lemma trimSpace_intercalate {parts : List Bytes} (h : ∀ part ∈ parts, trimSpace part = part) :
    trimSpace (List.intercalate [44] parts) = List.intercalate [44] parts := by
  have hcomma : ∀ w ∈ whiteSpace, 44 ∉ w := by decide
  induction parts with
  | nil => rfl
  | cons a parts ih =>
    cases parts with
    | nil => simpa [List.intercalate] using h a
    | cons b parts =>
      have hjoin : List.intercalate [44] (a :: b :: parts) =
          a ++ 44 :: List.intercalate [44] (b :: parts) := by simp [List.intercalate]
      rw [hjoin]
      exact trimSpace_append_cons hcomma (h a mem_cons_self)
        (ih fun part hpart => h part (mem_cons_of_mem a hpart))

section
variable {f : Bytes → Bytes} (hf : LowerCase f)
include hf

variable {raw : Bytes}

lemma LowerCase.of_mem_parseScopes {grant : Bytes} (h : grant ∈ parseScopes f raw) :
    44 ∉ grant ∧ trimSpace grant = grant ∧ f grant = grant := by
  obtain ⟨_, part, hpart, rfl⟩ := mem_parseScopes.1 h
  have hpart' : 44 ∉ trimSpace part := fun hmem =>
    notMem_of_mem_splitOn hpart ((strip_suffix _ _ part).subset ((trimSpace_prefix_strip part).subset hmem))
  exact ⟨hf.comma _ hpart', hf.trimmed part, hf.idempotent _⟩

lemma LowerCase.eq_nil_of_sort_eq_nil (h : (parseScopes f raw).sort (· ≤ ·) = []) : f (trimSpace []) = [] := by
  obtain ⟨part, hpart⟩ := exists_mem_of_ne_nil _ (splitOn_ne_nil 44 raw)
  have hnil : f (trimSpace part) = [] := by
    by_contra hne
    have hmem := (Finset.mem_sort (· ≤ ·)).2 (mem_parseScopes.2 ⟨hne, part, hpart, rfl⟩)
    rw [h] at hmem
    cases hmem
  rw [← hnil, hf.trimmed, hf.idempotent]

end

def ScopeSet.Clean (f : Bytes → Bytes) (scopes : ScopeSet) : Prop :=
  ∀ grant ∈ scopes, grant ≠ [] ∧ 44 ∉ grant ∧ trimSpace grant = grant ∧ f grant = grant

lemma ScopeSet.canonical_empty : (∅ : ScopeSet).canonical = [] := by simp [canonical, List.intercalate]

lemma LowerCase.clean_parseScopes (hf : LowerCase f) (raw : Bytes) : ScopeSet.Clean f (parseScopes f raw) :=
  fun _ hgrant => ⟨(mem_parseScopes.1 hgrant).1, hf.of_mem_parseScopes hgrant⟩

section
variable {f : Bytes → Bytes} {scopes : ScopeSet} (h : scopes.Clean f)
include h

lemma ScopeSet.Clean.trimSpace_canonical : trimSpace scopes.canonical = scopes.canonical :=
  trimSpace_intercalate fun part hpart => (h part ((Finset.mem_sort _).1 hpart)).2.2.1

lemma ScopeSet.Clean.splitOn_canonical (hne : scopes ≠ ∅) : scopes.canonical.splitOn 44 = scopes.sort (· ≤ ·) := by
  apply splitOn_intercalate
  · exact fun part hpart => (h part ((Finset.mem_sort _).1 hpart)).2.1
  · intro hnil
    apply hne
    rw [← Finset.sort_toFinset scopes (· ≤ ·), hnil]
    rfl

lemma ScopeSet.Clean.parseScopes_canonical (hne : scopes ≠ ∅) : parseScopes f scopes.canonical = scopes := by
  ext grant
  rw [mem_parseScopes, h.splitOn_canonical hne]
  constructor
  · rintro ⟨_, part, hpart, rfl⟩
    obtain ⟨_, _, htrim, hlower⟩ := h part ((Finset.mem_sort _).1 hpart)
    rw [htrim, hlower]
    exact (Finset.mem_sort _).1 hpart
  · intro hgrant
    obtain ⟨hnil, _, htrim, hlower⟩ := h grant hgrant
    exact ⟨hnil, grant, (Finset.mem_sort _).2 hgrant, by rw [htrim, hlower]⟩

lemma ScopeSet.Clean.canonical_eq_nil_iff : scopes.canonical = [] ↔ scopes = ∅ := by
  constructor
  · intro hnil
    by_contra hne
    have hsort := h.splitOn_canonical hne
    rw [hnil, splitOn_nil] at hsort
    have hmem : [] ∈ scopes := (Finset.mem_sort (· ≤ ·)).1 (hsort ▸ mem_singleton.2 rfl)
    exact (h [] hmem).1 rfl
  · rintro rfl
    exact ScopeSet.canonical_empty

end

lemma LowerCase.mem_of_mem_canonical (hf : LowerCase f)
    (h : grant ∈ parseScopes f (trimSpace (parseScopes f raw).canonical)) : grant ∈ parseScopes f raw := by
  have hclean := hf.clean_parseScopes raw
  rw [hclean.trimSpace_canonical] at h
  by_cases hempty : parseScopes f raw = ∅
  · have hsort : (parseScopes f raw).sort (· ≤ ·) = [] := by rw [hempty, Finset.sort_empty]
    rw [hempty, ScopeSet.canonical_empty] at h
    obtain ⟨hne, part, hpart, rfl⟩ := mem_parseScopes.1 h
    obtain rfl : part = [] := mem_singleton.1 hpart
    exact absurd (hf.eq_nil_of_sort_eq_nil hsort) hne
  · rwa [hclean.parseScopes_canonical hempty] at h

def spaceOut (c : UInt8) : UInt8 := if c = 10 ∨ c = 13 then 32 else c

structure GoLower (f : Bytes → Bytes) : Prop extends LowerCase f where
  nil : f [] = []
  cons : ∀ c s, c < 128 → f (c :: s) = lowerAscii c :: f s
  newline : ∀ s, f (s.map spaceOut) = (f s).map spaceOut

lemma spaceOut_lowerAscii (c : UInt8) : lowerAscii (spaceOut c) = spaceOut (lowerAscii c) := by
  grind [lowerAscii, spaceOut]

lemma goLower_lowerAscii : GoLower (fun s => s.map lowerAscii) where
  toLowerCase := lowerCase_lowerAscii
  nil := rfl
  cons _ _ _ := rfl
  newline s := by simp [spaceOut_lowerAscii]

section
variable {f : Bytes → Bytes} (hf : GoLower f)
include hf

lemma GoLower.append {p : Bytes} (hp : ∀ c ∈ p, c < 128) (s : Bytes) : f (p ++ s) = p.map lowerAscii ++ f s := by
  induction p with
  | nil => rfl
  | cons c p ih =>
    rw [forall_mem_cons] at hp
    rw [cons_append, hf.cons c _ hp.1, ih hp.2]
    rfl

lemma GoLower.of_ascii {s : Bytes} (hs : ∀ c ∈ s, c < 128) : f s = s.map lowerAscii := by
  have h := hf.append hs []
  rwa [append_nil, hf.nil, append_nil] at h

lemma GoLower.clean_scopesFromStored (raw : Bytes) : (scopesFromStored f raw).Clean f := by
  rw [scopesFromStored]
  split
  · intro grant hgrant
    obtain rfl := Finset.mem_singleton.1 hgrant
    exact ⟨by decide, by decide, by decide, hf.of_ascii (all_iff_forall_prop.1 (by decide))⟩
  · exact hf.clean_parseScopes raw

end
end Orama.Gateway
