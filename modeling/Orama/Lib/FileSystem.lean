import Orama.Lib.FileTree

namespace Orama.Lib
open List

def slash : UInt8 := 47
def dot : Name := [46]
def dotdot : Name := [46, 46]
def splitSlash (path : Bytes) : List Name := path.splitOn slash

/-- How a file operation can end other than well: with an error that the
caller sees, or with a failed assertion that stops the process. -/
inductive FsError
  | failed
  | panic
deriving DecidableEq, Repr

def pathMax : Nat := 4096
def nameMax : Nat := 255

def parsePath (path : Bytes) : Except FsError (List Name) :=
  if 0 ∈ path then .error .panic
  else if path.length ≥ pathMax then .error .failed
  else if (splitSlash path).any fun c => c.length > nameMax then .error .failed
  else .ok (splitSlash path)

def next (pos : Path) (c : Name) : Path :=
  if c = [] ∨ c = dot then pos else if c = dotdot then pos.dropLast else pos ++ [c]

def trail : Path → List Name → List Path
  | _, [] => []
  | pos, c :: cs => pos :: trail (next pos c) cs

def target (pos : Path) (cs : List Name) : Path := cs.foldl next pos
def place (path : Bytes) : Path := target [] (splitSlash path)

def visits (path : Bytes) : List Path := trail [] (splitSlash path) ++ [place path]

namespace FileTree

def walk (t : FileTree) : Path → List Name → Option Path
  | pos, [] => some pos
  | pos, c :: cs => if t.get pos = some .dir then t.walk (next pos c) cs else none

def resolve (t : FileTree) (path : Bytes) : Except FsError Path :=
  match parsePath path with
  | .error e => .error e
  | .ok cs =>
    match t.walk [] cs with
    | none => .error .failed
    | some p => .ok p

def access (t : FileTree) (path : Bytes) : Except FsError Unit :=
  match t.resolve path with
  | .error e => .error e
  | .ok p => if (t.get p).isSome then .ok () else .error .failed

def readFile (t : FileTree) (path : Bytes) (maxBytes : Nat) : Except FsError Bytes :=
  match t.resolve path with
  | .error e => .error e
  | .ok p =>
    match t.get p with
    | some (.file bytes) => if bytes.length ≤ maxBytes then .ok bytes else .error .failed
    | _ => .error .failed

def writeFile (t : FileTree) (path bytes : Bytes) : Except FsError FileTree :=
  match t.resolve path with
  | .error e => .error e
  | .ok p =>
    match t.insert p (.file bytes) with
    | none => .error .failed
    | some t' => .ok t'

def rename (t : FileTree) (src dst : Bytes) : Except FsError FileTree :=
  match t.resolve src with
  | .error e => .error e
  | .ok p =>
    match t.resolve dst with
    | .error e => .error e
    | .ok q =>
      match t.get p with
      | some (.file bytes) =>
        if p = q then .ok t
        else
          match (t.removeTree p).insert q (.file bytes) with
          | none => .error .failed
          | some t' => .ok t'
      | _ => .error .failed

def makeDirs (t : FileTree) (pos : Path) : List Name → Option FileTree
  | [] => some t
  | c :: cs =>
    match t.get (next pos c) with
    | some .dir => t.makeDirs (next pos c) cs
    | some (.file _) => none
    | none =>
      match t.insert (next pos c) .dir with
      | none => none
      | some t' => t'.makeDirs (next pos c) cs

def makePath (t : FileTree) (path : Bytes) : Except FsError FileTree :=
  match parsePath path with
  | .error e => .error e
  | .ok cs =>
    match t.makeDirs [] cs with
    | none => .error .failed
    | some t' => .ok t'

def countEntries (t : FileTree) (path : Bytes) : Except FsError Nat :=
  match t.resolve path with
  | .error e => .error e
  | .ok p => if t.get p = some .dir then .ok (t.countDirs p) else .error .failed

def lastComponent (cs : List Name) : Option Name := (cs.filter fun c => c ≠ []).getLast?

/-- Removes what the path names with everything below it. A directory is removed
last and by the same path. When that path leads through what was below it, the
directory stays behind empty; when it ends in a dot the system refuses, and
that refusal is asserted not to happen. -/
def deleteTree (t : FileTree) (path : Bytes) : FileTree × Except FsError Unit :=
  match t.resolve path with
  | .error e => (t, .error e)
  | .ok p =>
    match t.get p with
    | none => (t, .ok ())
    | some (.file _) => (t.removeTree p, .ok ())
    | some .dir =>
      match (t.removeBelow p).resolve path with
      | .error _ => (t.removeBelow p, .ok ())
      | .ok _ =>
        if lastComponent (splitSlash path) = some dot then (t.removeBelow p, .error .panic)
        else if p = [] then (t.removeBelow p, .error .failed)
        else (t.removeTree p, .ok ())

end FileTree

structure WellFormed (path : Bytes) : Prop where
  no_zero : 0 ∉ path
  length_lt : path.length < pathMax
  names : ∀ c ∈ splitSlash path, c.length ≤ nameMax

lemma parsePath_eq_ok {path : Bytes} {cs : List Name} :
    parsePath path = .ok cs ↔ WellFormed path ∧ cs = splitSlash path := by
  unfold parsePath
  split
  · next h => exact ⟨nofun, fun hw => absurd h hw.1.no_zero⟩
  · next h0 =>
    split
    · next h => exact ⟨nofun, fun hw => absurd hw.1.length_lt (Nat.not_lt.mpr h)⟩
    · next hl =>
      split
      · next h =>
        obtain ⟨c, hc, hlen⟩ := any_eq_true.mp h
        exact ⟨nofun, fun hw => absurd (hw.1.names c hc) (by simpa using hlen)⟩
      · next h =>
        have hn : ∀ c ∈ splitSlash path, c.length ≤ nameMax := by simpa using h
        simp only [Except.ok.injEq]
        exact ⟨fun he => ⟨⟨h0, Nat.not_le.mp hl, hn⟩, he.symm⟩, fun he => he.2.symm⟩

lemma parsePath_cases (path : Bytes) : (WellFormed path ∧ parsePath path = .ok (splitSlash path)) ∨
      (¬ WellFormed path ∧ ∃ e, parsePath path = .error e) := by
  cases h : parsePath path with
  | error e =>
    refine .inr ⟨fun hw => ?_, e, rfl⟩
    rw [parsePath_eq_ok.mpr ⟨hw, rfl⟩] at h
    cases h
  | ok cs => grind [parsePath_eq_ok]

lemma splitSlash_append (a b : Bytes) : splitSlash (a ++ slash :: b) = splitSlash a ++ splitSlash b :=
  splitOnP_append_cons a b (beq_self_eq_true slash)

lemma splitSlash_of_notMem {s : Bytes} (h : slash ∉ s) : splitSlash s = [s] :=
  splitOn_eq_singleton h

lemma trail_append (pos : Path) (cs ds : List Name) :
    trail pos (cs ++ ds) = trail pos cs ++ trail (target pos cs) ds := by
  induction cs generalizing pos with
  | nil => rfl
  | cons c cs ih =>
    rw [cons_append, trail, trail, ih]
    rfl

lemma target_append (pos : Path) (cs ds : List Name) :
    target pos (cs ++ ds) = target (target pos cs) ds := foldl_append

lemma prefix_next {c : Name} (hc : c ≠ dotdot) (pos : Path) : pos <+: next pos c := by grind [next]

lemma prefix_target {cs : List Name} (h : dotdot ∉ cs) (pos : Path) : pos <+: target pos cs := by
  induction cs generalizing pos with
  | nil => exact prefix_rfl
  | cons c cs ih =>
    rw [mem_cons, not_or] at h
    exact (prefix_next (Ne.symm h.1) pos).trans (ih h.2 (next pos c))

lemma prefix_place {path : Bytes} (h : dotdot ∉ splitSlash path) : ∀ q ∈ visits path, q <+: place path := by
  have htrail : ∀ cs pos, dotdot ∉ cs → ∀ q ∈ trail pos cs, q <+: target pos cs := by
    intro cs
    induction cs with
    | nil => simp [trail]
    | cons c cs ih =>
      intro pos hc q hq
      rcases mem_cons.mp hq with rfl | hq
      · exact prefix_target hc q
      · exact ih (next pos c) (fun hm => hc (mem_cons_of_mem _ hm)) q hq
  intro q hq
  rcases mem_append.mp hq with hq | hq
  · exact htrail _ _ h q hq
  · rw [mem_singleton.mp hq]

namespace FileTree
variable {t u : FileTree} {pos p : Path} {cs : List Name}

lemma walk_eq_some_iff :
    t.walk pos cs = some p ↔ (∀ q ∈ trail pos cs, t.get q = some .dir) ∧ p = target pos cs := by
  induction cs generalizing pos with
  | nil => simp [walk, trail, target, eq_comm]
  | cons c cs ih =>
    rw [walk, trail, forall_mem_cons]
    split
    · next hd =>
      rw [ih]
      simp [hd, target]
    · next hd => simp [hd]

lemma walk_eq_none_iff : t.walk pos cs = none ↔ ∃ q ∈ trail pos cs, t.get q ≠ some .dir := by
  rw [← not_iff_not, ← ne_eq, Option.ne_none_iff_exists']
  push Not
  constructor
  · rintro ⟨p, hp⟩
    exact (walk_eq_some_iff.mp hp).1
  · intro h
    exact ⟨_, walk_eq_some_iff.mpr ⟨h, rfl⟩⟩

lemma walk_congr (h : ∀ q ∈ trail pos cs, t.get q = u.get q) : t.walk pos cs = u.walk pos cs := by
  induction cs generalizing pos with
  | nil => rfl
  | cons c cs ih =>
    rw [trail, forall_mem_cons] at h
    rw [walk, walk, h.1, ih h.2]

variable {path : Bytes}

lemma resolve_eq_ok : t.resolve path = .ok p ↔
      WellFormed path ∧ (∀ q ∈ trail [] (splitSlash path), t.get q = some .dir) ∧ p = place path := by
  unfold resolve
  obtain ⟨hw, hp⟩ | ⟨hw, e, hp⟩ := parsePath_cases path
  · rw [hp]
    dsimp only
    cases h : t.walk [] (splitSlash path) with
    | none => grind [walk_eq_none_iff]
    | some r =>
      obtain ⟨hd, rfl⟩ := walk_eq_some_iff.mp h
      simp only [Except.ok.injEq]
      exact ⟨fun he => ⟨hw, hd, he.symm⟩, fun hr => hr.2.2.symm⟩
  · rw [hp]
    exact ⟨nofun, fun hr => absurd hr.1 hw⟩

lemma resolve_of_not_wellFormed (hw : ¬ WellFormed path) : ∃ e, ∀ t : FileTree, t.resolve path = .error e := by
  obtain ⟨h, _⟩ | ⟨_, e, he⟩ := parsePath_cases path
  · exact absurd h hw
  · refine ⟨e, fun t => ?_⟩
    rw [resolve, he]

lemma resolve_error {e : FsError} (h0 : 0 ∉ path) (h : t.resolve path = .error e) : e = .failed := by
  unfold resolve at h
  split at h
  · grind [parsePath]
  · split at h
    · cases h
      rfl
    · cases h

lemma resolve_congr (h : ∀ q ∈ trail [] (splitSlash path), t.get q = u.get q) :
    t.resolve path = u.resolve path := by
  unfold resolve
  obtain ⟨hw, hp⟩ | ⟨hw, e, hp⟩ := parsePath_cases path
  · rw [hp]
    dsimp only
    rw [walk_congr h]
  · rw [hp]

end FileTree
end Orama.Lib
