import Orama.Lib.Directory

namespace Orama.Lib

def AgreeOn (S : Set Path) (t u : FileTree) : Prop := ∀ q ∈ S, t.get q = u.get q

namespace AgreeOn
open FileTree
variable {S : Set Path} {t u : FileTree} {p : Path} {path : Bytes}

section
variable (h : AgreeOn S t u) (hv : ∀ q ∈ visits path, q ∈ S)
include h hv

lemma resolve_eq : t.resolve path = u.resolve path :=
  resolve_congr fun q hq => h q (hv q (List.mem_append_left _ hq))

lemma get_place : t.get (place path) = u.get (place path) := h _ (hv _ (by simp [visits]))

lemma access_eq : t.access path = u.access path := by
  grind [resolve_eq, resolve_eq_ok, get_place, access]

lemma readFile_eq (limit : Nat) : t.readFile path limit = u.readFile path limit := by
  grind [resolve_eq, resolve_eq_ok, get_place, readFile]

lemma countEntries_eq (hc : ∀ q, q.dropLast = place path → q ∈ S) : t.countEntries path = u.countEntries path := by
  rw [countEntries, countEntries, ← h.resolve_eq hv]
  cases hr : t.resolve path with
  | error e => rfl
  | ok r =>
    obtain ⟨_, _, rfl⟩ := resolve_eq_ok.mp hr
    dsimp only
    rw [h.get_place hv, countDirs_congr fun q hq => h q (hc q hq)]

end

lemma removeBelow (h : AgreeOn S t u) (p : Path) : AgreeOn S (t.removeBelow p) (u.removeBelow p) := by
  intro q hq
  rw [get_removeBelow, get_removeBelow, h q hq]

lemma deleteTree_eq (h : AgreeOn S t u) (hv : ∀ q ∈ visits path, q ∈ S) :
    (t.deleteTree path).2 = (u.deleteTree path).2 := by
  rw [deleteTree, deleteTree, ← h.resolve_eq hv]
  cases hr : t.resolve path with
  | error e => rfl
  | ok r =>
    obtain ⟨_, _, rfl⟩ := resolve_eq_ok.mp hr
    dsimp only
    rw [← h.get_place hv, ← (h.removeBelow (place path)).resolve_eq hv]
    cases t.get (place path) with
    | none => rfl
    | some n =>
      cases n with
      | file b => rfl
      | dir => grind

lemma insert (h : AgreeOn S t u) (hp : p ∈ S) (hd : p.dropLast ∈ S) (n : Node) :
    (t.insert p n = none ∧ u.insert p n = none) ∨
    ∃ t' u', t.insert p n = some t' ∧ u.insert p n = some u' ∧ AgreeOn S t' u' := by
  by_cases hc : p ≠ [] ∧ t.get p.dropLast = some .dir ∧ t.get p ≠ some .dir
  · have hc' := hc
    rw [h _ hd, h _ hp] at hc'
    obtain ⟨t', ht⟩ := insert_isSome (n := n) hc.1 hc.2.1 hc.2.2
    obtain ⟨u', hu⟩ := insert_isSome (n := n) hc'.1 hc'.2.1 hc'.2.2
    refine .inr ⟨t', u', ht, hu, fun q hq => ?_⟩
    rw [(insert_eq_some ht).2.2.2, (insert_eq_some hu).2.2.2, h q hq]
  · have hc' := hc
    rw [h _ hd, h _ hp] at hc'
    exact .inl ⟨dif_neg hc, dif_neg hc'⟩

section
variable (hS : ∀ q ∈ S, q.dropLast ∈ S)
include hS

section
variable (h : AgreeOn S t u)
include h

lemma writeFile (hv : ∀ q ∈ visits path, q ∈ S) (bytes : Bytes) :
    Matches (AgreeOn S) (t.writeFile path bytes) (u.writeFile path bytes) := by
  have hp : place path ∈ S := hv _ (by simp [visits])
  rw [FileTree.writeFile, FileTree.writeFile, ← h.resolve_eq hv]
  cases hr : t.resolve path with
  | error e => exact rfl
  | ok r =>
    obtain ⟨_, _, rfl⟩ := FileTree.resolve_eq_ok.mp hr
    dsimp only
    obtain ⟨ht, hu⟩ | ⟨t', u', ht, hu, ha⟩ := h.insert hp (hS _ hp) (.file bytes)
    · rw [ht, hu]
      exact rfl
    · rw [ht, hu]
      exact ha

lemma rename {src dst : Bytes} (hsrc : ∀ q ∈ visits src, q ∈ S) (hdst : ∀ q ∈ visits dst, q ∈ S) :
    Matches (AgreeOn S) (t.rename src dst) (u.rename src dst) := by
  have hq : place dst ∈ S := hdst _ (by simp [visits])
  rw [FileTree.rename, FileTree.rename, ← h.resolve_eq hsrc, ← h.resolve_eq hdst]
  cases hr : t.resolve src with
  | error e => exact rfl
  | ok r =>
    obtain ⟨_, _, rfl⟩ := FileTree.resolve_eq_ok.mp hr
    cases hr' : t.resolve dst with
    | error e => exact rfl
    | ok r' =>
      obtain ⟨_, _, rfl⟩ := FileTree.resolve_eq_ok.mp hr'
      dsimp only
      rw [← h.get_place hsrc]
      cases hg : t.get (place src) with
      | none => exact rfl
      | some n =>
        cases n with
        | dir => exact rfl
        | file b =>
          dsimp only
          split
          · exact h
          · have hremove : AgreeOn S (t.removeTree (place src)) (u.removeTree (place src)) := by
              intro q hq
              rw [FileTree.get_removeTree_file hg,
                FileTree.get_removeTree_file ((h.get_place hsrc).symm.trans hg), h q hq]
            obtain ⟨ht, hu⟩ | ⟨t', u', ht, hu, ha⟩ := hremove.insert hq (hS _ hq) (.file b)
            · rw [ht, hu]
              exact rfl
            · rw [ht, hu]
              exact ha

lemma makeDirs {pos : Path} {cs : List Name} (hv : ∀ q ∈ trail pos cs ++ [target pos cs], q ∈ S) :
    (t.makeDirs pos cs = none ∧ u.makeDirs pos cs = none) ∨
    ∃ t' u', t.makeDirs pos cs = some t' ∧ u.makeDirs pos cs = some u' ∧ AgreeOn S t' u' := by
  induction cs generalizing t u pos with
  | nil => exact .inr ⟨t, u, rfl, rfl, h⟩
  | cons c cs ih =>
    rw [trail, List.cons_append, List.forall_mem_cons] at hv
    have hn : next pos c ∈ S := by
      apply hv.2
      cases cs <;> simp [trail, target]
    rw [makeDirs, makeDirs, ← h _ hn]
    cases t.get (next pos c) with
    | none =>
      dsimp only
      obtain ⟨ht, hu⟩ | ⟨t', u', ht, hu, ha⟩ := h.insert hn (hS _ hn) .dir
      · rw [ht, hu]
        exact .inl ⟨rfl, rfl⟩
      · rw [ht, hu]
        exact ih ha hv.2
    | some n =>
      cases n with
      | file b => exact .inl ⟨rfl, rfl⟩
      | dir => exact ih h hv.2

lemma makePath (hv : ∀ q ∈ visits path, q ∈ S) : Matches (AgreeOn S) (t.makePath path) (u.makePath path) := by
  rw [FileTree.makePath, FileTree.makePath]
  cases parsePath_cases path with
  | inl hp =>
    rw [hp.2]
    dsimp only
    obtain ⟨ht, hu⟩ | ⟨t', u', ht, hu, ha⟩ := h.makeDirs hS hv
    · rw [ht, hu]
      exact rfl
    · rw [ht, hu]
      exact ha
  | inr hp =>
    obtain ⟨_, e, he⟩ := hp
    rw [he]
    exact rfl

lemma run {dir : Bytes} {step : DirStep} (hs : step.Named)
    (hv : ∀ q ∈ visits dir, q ∈ S) (hf : ∀ f ∈ step.names, place dir ++ [f] ∈ S) :
    Matches (AgreeOn S) (step.run dir t) (step.run dir u) := by
  have hchild : ∀ f, IsFileName f → place dir ++ [f] ∈ S → ∀ q ∈ visits (child dir f), q ∈ S := by
    grind [visits_child]
  cases step with
  | makeDir => exact h.makePath hS hv
  | write f bytes => exact h.writeFile hS (hchild f hs (hf f (by simp [DirStep.names]))) bytes
  | move f g =>
    exact h.rename hS (hchild f hs.1 (hf f (by simp [DirStep.names])))
      (hchild g hs.2.1 (hf g (by simp [DirStep.names])))

end
end
end AgreeOn

variable {q : Path}

lemma get_deleteTree {t : FileTree} {path : Bytes} (hq : ¬ place path <+: q) :
    (t.deleteTree path).1.get q = t.get q := by
  rw [FileTree.deleteTree]
  cases hr : t.resolve path with
  | error e => rfl
  | ok r =>
    obtain ⟨_, _, rfl⟩ := FileTree.resolve_eq_ok.mp hr
    have hbelow : (t.removeBelow (place path)).get q = t.get q := by
      rw [FileTree.get_removeBelow, if_neg fun h => hq h.1]
    have htree : place path ≠ [] → (t.removeTree (place path)).get q = t.get q := by
      intro hp
      rw [FileTree.get_removeTree hp, if_neg hq]
    dsimp only
    cases hg : t.get (place path) with
    | none => rfl
    | some n => grind

lemma get_deleteTree_of_prefix {t : FileTree} {path : Bytes} (hr : t.resolve path = .ok (place path))
    (hd : t.get (place path) = some .dir) (hq : place path <+: q) (hne : place path ≠ q) :
    (t.deleteTree path).1.get q = none := by
  have hbelow : (t.removeBelow (place path)).get q = none := by rw [FileTree.get_removeBelow, if_pos ⟨hq, hne⟩]
  rw [FileTree.deleteTree, hr]
  dsimp only
  rw [hd]
  dsimp only
  split
  · exact hbelow
  · grind [FileTree.get_removeTree]

end Orama.Lib
