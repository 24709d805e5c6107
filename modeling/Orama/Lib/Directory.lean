import Orama.Lib.FileSystem
import Orama.Lib.Steps

namespace Orama.Lib
open List

def child (dir : Bytes) (f : Name) : Bytes := dir ++ slash :: f
def IsFileName (f : Name) : Prop := slash ∉ f ∧ f ≠ [] ∧ f ≠ dot ∧ f ≠ dotdot

instance (f : Name) : Decidable (IsFileName f) := inferInstanceAs (Decidable (_ ∧ _ ∧ _ ∧ _))

variable {f : Name}

lemma next_of_isFileName (hf : IsFileName f) (pos : Path) : next pos f = pos ++ [f] := by
  rw [next, if_neg (not_or.mpr ⟨hf.2.1, hf.2.2.1⟩), if_neg hf.2.2.2]

section
variable (hf : IsFileName f) (dir : Bytes)
include hf

lemma splitSlash_child : splitSlash (child dir f) = splitSlash dir ++ [f] := by
  rw [child, splitSlash_append, splitSlash_of_notMem hf.1]

lemma place_child : place (child dir f) = place dir ++ [f] := by
  rw [place, splitSlash_child hf, target_append]
  exact next_of_isFileName hf _

lemma trail_child : trail [] (splitSlash (child dir f)) = visits dir := by
  rw [splitSlash_child hf, trail_append]
  rfl

lemma visits_child : visits (child dir f) = visits dir ++ [place dir ++ [f]] := by
  rw [visits, trail_child hf, place_child hf]

end

lemma append_singleton_ne {p : Path} {g : Name} (h : f ≠ g) : p ++ [f] ≠ p ++ [g] := by simpa using h

namespace FileTree
variable {t t' u : FileTree} {p q : Path} {b : Bytes}

def fileAt (t : FileTree) (p : Path) : Option Bytes :=
  match t.get p with
  | some (.file b) => some b
  | _ => none

lemma fileAt_eq_some : t.fileAt p = some b ↔ t.get p = some (.file b) := by grind [fileAt]

lemma fileAt_congr (h : t.get p = u.get p) : t.fileAt p = u.fileAt p := by rw [fileAt, fileAt, h]

def Opens (t : FileTree) (path : Bytes) : Prop := ∀ q ∈ visits path, t.get q = some .dir

variable {f : Name}

lemma resolve_child {dir : Bytes} (hf : IsFileName f) :
    t.resolve (child dir f) = .ok p ↔ WellFormed (child dir f) ∧ t.Opens dir ∧ p = place dir ++ [f] := by
  rw [resolve_eq_ok, trail_child hf, place_child hf]
  rfl

variable {limit : Nat} {path : Bytes}

lemma readFile_eq_ok : t.readFile path limit = .ok b ↔
      t.resolve path = .ok (place path) ∧ t.fileAt (place path) = some b ∧ b.length ≤ limit := by
  unfold readFile
  cases h : t.resolve path with
  | error e => exact ⟨nofun, fun hr => nomatch hr.1⟩
  | ok r => grind [resolve_eq_ok, fileAt_eq_some]

lemma readFile_child {dir : Bytes} (hf : IsFileName f) :
    t.readFile (child dir f) limit = .ok b ↔ WellFormed (child dir f) ∧ t.Opens dir ∧
    t.fileAt (place dir ++ [f]) = some b ∧ b.length ≤ limit := by
  grind [readFile_eq_ok, resolve_child, place_child]

variable {e : FsError}

lemma readFile_error (h0 : 0 ∉ path) (h : t.readFile path limit = .error e) : e = .failed := by
  unfold readFile at h
  split at h
  · next hr =>
    cases h
    exact resolve_error h0 hr
  · grind

lemma access_error (h0 : 0 ∉ path) (h : t.access path = .error e) : e = .failed := by grind [resolve_error, access]

lemma access_eq_ok : t.access path = .ok () ↔ t.resolve path = .ok (place path) ∧ (t.get (place path)).isSome := by
  grind [resolve_eq_ok, access]

lemma writeFile_child {dir : Bytes} (hf : IsFileName f) (h : t.writeFile (child dir f) b = .ok t') :
    WellFormed (child dir f) ∧ t.Opens dir ∧ t.get (place dir ++ [f]) ≠ some .dir ∧
    ∀ q, t'.get q = if q = place dir ++ [f] then some (.file b) else t.get q := by
  unfold writeFile at h
  split at h
  · cases h
  · next r hr =>
    obtain ⟨hw, ho, rfl⟩ := (resolve_child hf).mp hr
    split at h
    · cases h
    · next u hu =>
      cases h
      obtain ⟨_, _, hn, hg⟩ := insert_eq_some hu
      exact ⟨hw, ho, hn, hg⟩

lemma get_removeTree_file (h : t.get p = some (.file b)) (q : Path) :
    (t.removeTree p).get q = if q = p then none else t.get q := by
  have hp : p ≠ [] := by
    rintro rfl
    cases h
  rw [get_removeTree hp]
  by_cases hq : q = p
  · simp [hq]
  · rw [if_neg hq]
    split
    · next hpq =>
      obtain ⟨r, rfl⟩ := hpq
      have hr : r ≠ [] := by
        rintro rfl
        simp at hq
      cases hg : t.get (p ++ r) with
      | none => rfl
      | some n =>
        rw [get_append hr hg] at h
        cases h
    · rfl

lemma rename_child {dir : Bytes} {g : Name} (hf : IsFileName f) (hg : IsFileName g) (hfg : f ≠ g)
    (h : t.rename (child dir f) (child dir g) = .ok t') :
    WellFormed (child dir f) ∧ WellFormed (child dir g) ∧ t.Opens dir ∧ t.get (place dir ++ [g]) ≠ some .dir ∧
      ∃ b, t.get (place dir ++ [f]) = some (.file b) ∧ ∀ q, t'.get q = if q = place dir ++ [g] then some (.file b)
          else if q = place dir ++ [f] then none else t.get q := by
  unfold rename at h
  split at h
  · cases h
  · next r hr =>
    obtain ⟨hwf, ho, rfl⟩ := (resolve_child hf).mp hr
    split at h
    · cases h
    · next r' hr' =>
      obtain ⟨hwg, _, rfl⟩ := (resolve_child hg).mp hr'
      split at h
      · next b hb =>
        rw [if_neg (append_singleton_ne hfg)] at h
        split at h
        · cases h
        · next u hu =>
          cases h
          obtain ⟨_, _, hn, hget⟩ := insert_eq_some hu
          rw [get_removeTree_file hb, if_neg (append_singleton_ne hfg.symm)] at hn
          refine ⟨hwf, hwg, ho, hn, b, hb, fun q => ?_⟩
          rw [hget q, get_removeTree_file hb]
      · cases h

def Grows (t t' : FileTree) : Prop :=
  ∀ q, t'.get q = t.get q ∨ t.get q = none ∧ t'.get q = some .dir

lemma Grows.get_dir (h : Grows t t') (hq : t.get q = some .dir) : t'.get q = some .dir := by
  rcases h q with he | ⟨hn, _⟩
  · rw [he, hq]
  · rw [hq] at hn
    cases hn

lemma Grows.fileAt_eq (h : Grows t t') (q : Path) : t'.fileAt q = t.fileAt q := by
  rcases h q with he | ⟨hn, hd⟩
  · exact fileAt_congr he
  · rw [fileAt, fileAt, hn, hd]

lemma Grows.trans (h : Grows t t') (h' : Grows t' u) : Grows t u := by
  intro q
  rcases h' q with he' | ⟨hn', hd'⟩
  · rw [he']
    exact h q
  · rcases h q with he | ⟨_, hd⟩
    · exact .inr ⟨he ▸ hn', hd'⟩
    · rw [hd] at hn'
      cases hn'

lemma grows_insert (h : t.insert p .dir = some t') (hn : t.get p = none) : Grows t t' := by
  obtain ⟨_, _, _, hg⟩ := insert_eq_some h
  intro q
  rw [hg q]
  split
  · next hq => exact .inr ⟨hq ▸ hn, rfl⟩
  · exact .inl rfl

lemma makeDirs_spec {pos : Path} {cs : List Name} (h : t.makeDirs pos cs = some t') (hp : t.get pos = some .dir) :
    Grows t t' ∧ (∀ q ∈ trail pos cs ++ [target pos cs], t'.get q = some .dir) ∧
    ∀ q ∉ trail pos cs ++ [target pos cs], t'.get q = t.get q := by
  induction cs generalizing t pos with
  | nil =>
    cases h
    refine ⟨fun q => .inl rfl, ?_, fun q _ => rfl⟩
    simpa [trail, target] using hp
  | cons c cs ih =>
    have key : ∀ s : FileTree, Grows t s → s.get (next pos c) = some .dir →
        (∀ q, q ≠ next pos c → s.get q = t.get q) → s.makeDirs (next pos c) cs = some t' →
        Grows t t' ∧ (∀ q ∈ trail pos (c :: cs) ++ [target pos (c :: cs)], t'.get q = some .dir) ∧
        ∀ q ∉ trail pos (c :: cs) ++ [target pos (c :: cs)], t'.get q = t.get q := by
      intro s hs hd hne hm
      obtain ⟨hg, hdirs, hframe⟩ := ih hm hd
      refine ⟨hs.trans hg, ?_, ?_⟩
      · rw [trail, cons_append, forall_mem_cons]
        exact ⟨(hs.trans hg).get_dir hp, hdirs⟩
      · intro q hq
        rw [trail, cons_append, mem_cons, not_or] at hq
        rw [hframe q hq.2]
        apply hne
        rintro rfl
        apply hq.2
        cases cs <;> simp [trail, target]
    rw [makeDirs] at h
    split at h
    · next hd => exact key t (fun q => .inl rfl) hd (fun q _ => rfl) h
    · cases h
    · next hn =>
      split at h
      · cases h
      · next s hs =>
        obtain ⟨_, _, _, hg⟩ := insert_eq_some hs
        refine key s (grows_insert hs hn) (by rw [hg, if_pos rfl]) (fun q hq => ?_) h
        rw [hg, if_neg hq]

lemma makePath_spec (h : t.makePath path = .ok t') :
    Grows t t' ∧ t'.Opens path ∧ ∀ q ∉ visits path, t'.get q = t.get q := by
  unfold makePath at h
  obtain ⟨_, hp⟩ | ⟨_, e, hp⟩ := parsePath_cases path
  · rw [hp] at h
    dsimp only at h
    split at h
    · cases h
    · next hm =>
      cases h
      exact makeDirs_spec hm (get_nil t)
  · rw [hp] at h
    cases h

end FileTree

inductive DirStep
  | makeDir
  | write (f : Name) (bytes : Bytes)
  | move (f g : Name)
deriving DecidableEq

abbrev Files := Name → Option Bytes

def FileTree.files (t : FileTree) (dir : Bytes) : Files := fun f => t.fileAt (place dir ++ [f])

open FileTree
namespace DirStep

def run (dir : Bytes) : DirStep → FileTree → Except FsError FileTree
  | makeDir, t => t.makePath dir
  | write f bytes, t => t.writeFile (child dir f) bytes
  | move f g, t => t.rename (child dir f) (child dir g)

def apply : DirStep → Files → Files
  | makeDir, fs => fs
  | write f bytes, fs => Function.update fs f (some bytes)
  | move f g, fs => Function.update (Function.update fs g (fs f)) f none

def Named : DirStep → Prop
  | makeDir => True
  | write f _ => IsFileName f
  | move f g => IsFileName f ∧ IsFileName g ∧ f ≠ g

def names : DirStep → List Name
  | makeDir => []
  | write f _ => [f]
  | move f g => [f, g]

structure Effect (dir : Bytes) (step : DirStep) (t t' : FileTree) : Prop where
  opens : t'.Opens dir
  files : t'.files dir = step.apply (t.files dir)
  wellFormed : ∀ f ∈ step.names, WellFormed (child dir f)
  get_dir : ∀ q, t.get q = some .dir → t'.get q = some .dir
  fileAt : ∀ q, q.dropLast ≠ place dir → t'.fileAt q = t.fileAt q
  get : ∀ q ∉ visits dir, q.dropLast ≠ place dir → t'.get q = t.get q

variable {dir : Bytes} {t t' : FileTree} {step : DirStep}

lemma effect_of_get (ho : t.Opens dir) (hw : ∀ f ∈ step.names, WellFormed (child dir f))
    (hd : ∀ q, t.get q = some .dir → t'.get q = some .dir)
    (hf : ∀ f, t'.fileAt (place dir ++ [f]) = step.apply (t.files dir) f)
    (hg : ∀ q, q.dropLast ≠ place dir → t'.get q = t.get q) : Effect dir step t t' where
  opens q hq := hd q (ho q hq)
  files := funext hf
  wellFormed := hw
  get_dir := hd
  fileAt q hq := fileAt_congr (hg q hq)
  get q _ hq := hg q hq

lemma effect_makeDir (h : t.makePath dir = .ok t') : Effect dir makeDir t t' where
  opens := (makePath_spec h).2.1
  files := funext fun _ => (makePath_spec h).1.fileAt_eq _
  wellFormed := nofun
  get_dir _ := (makePath_spec h).1.get_dir
  fileAt q _ := (makePath_spec h).1.fileAt_eq q
  get q hq _ := (makePath_spec h).2.2 q hq

variable {f : Name}

lemma effect_write {bytes : Bytes} (hf : IsFileName f) (h : t.writeFile (child dir f) bytes = .ok t') :
    Effect dir (write f bytes) t t' := by
  obtain ⟨hw, ho, hn, hg⟩ := writeFile_child hf h
  apply effect_of_get ho
  · simpa [names] using hw
  · intro q hq
    rw [hg, if_neg, hq]
    rintro rfl
    exact hn hq
  · intro x
    rw [fileAt, hg, apply, Function.update_apply]
    by_cases hx : x = f
    · simp [hx]
    · rw [if_neg (append_singleton_ne hx), if_neg hx]
      rfl
  · intro q hq
    rw [hg, if_neg]
    rintro rfl
    simp at hq

lemma effect_move {g : Name} (hf : IsFileName f) (hg : IsFileName g) (hfg : f ≠ g)
    (h : t.rename (child dir f) (child dir g) = .ok t') : Effect dir (move f g) t t' := by
  obtain ⟨hwf, hwg, ho, hn, b, hb, hget⟩ := rename_child hf hg hfg h
  have hfile : t.files dir f = some b := fileAt_eq_some.mpr hb
  apply effect_of_get ho
  · simpa [names] using ⟨hwf, hwg⟩
  · grind
  · intro x
    rw [fileAt, hget, apply, Function.update_apply, Function.update_apply, hfile]
    by_cases hx : x = f
    · grind [append_singleton_ne]
    · rw [if_neg hx]
      by_cases hxg : x = g
      · simp [hxg]
      · rw [if_neg (append_singleton_ne hxg), if_neg (append_singleton_ne hx), if_neg hxg]
        rfl
  · grind

lemma effect_run (hs : step.Named) (h : step.run dir t = .ok t') : Effect dir step t t' := by
  cases step with
  | makeDir => exact effect_makeDir h
  | write f bytes => exact effect_write hs h
  | move f g => exact effect_move hs.1 hs.2.1 hs.2.2 h

structure Reached (dir : Bytes) (steps : List DirStep) (t : FileTree) (i : Nat) (t' : FileTree) : Prop where
  opens : 0 < i → t'.Opens dir
  files : t'.files dir = (steps.take i).foldl (fun fs s => s.apply fs) (t.files dir)
  wellFormed : ∀ s ∈ steps.take i, ∀ f ∈ s.names, WellFormed (child dir f)
  get_dir : ∀ q, t.get q = some .dir → t'.get q = some .dir
  fileAt : ∀ q, q.dropLast ≠ place dir → t'.fileAt q = t.fileAt q
  get : ∀ q ∉ visits dir, q.dropLast ≠ place dir → t'.get q = t.get q

lemma reached_advance (dir : Bytes) {steps : List DirStep} (hs : ∀ s ∈ steps, s.Named) (t : FileTree) :
    Reached dir steps t (advance (run dir) steps t).done (advance (run dir) steps t).state := by
  apply advance_rule (Reached dir steps t)
  · exact ⟨nofun, rfl, by simp, fun _ h => h, fun _ _ => rfl, fun _ _ _ => rfl⟩
  · intro i s u u' hi hr h
    have he := effect_run (hs s (mem_of_getElem? hi)) h
    have htake : steps.take (i + 1) = steps.take i ++ [s] := by
      rw [take_add_one, hi]
      rfl
    refine ⟨fun _ => he.opens, ?_, ?_, fun q hq => he.get_dir q (hr.get_dir q hq), ?_, ?_⟩
    · rw [he.files, hr.files, htake, foldl_append]
      rfl
    · rw [htake]
      intro x hx f hf
      rcases mem_append.mp hx with hx | hx
      · exact hr.wellFormed x hx f hf
      · obtain rfl := mem_singleton.mp hx
        exact he.wellFormed f hf
    · exact fun q hq => (he.fileAt q hq).trans (hr.fileAt q hq)
    · exact fun q hq hd => (he.get q hq hd).trans (hr.get q hq hd)

end DirStep
end Orama.Lib
