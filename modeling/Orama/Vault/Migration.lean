import Orama.Lib.Subtree
import Orama.Vault.Store

namespace Orama.Vault.Migration
open Lib Vault.Store List

def shares : Name := ascii "shares"
def vaults : Name := ascii "vaults"
def versionName : Name := ascii "version"
def migratedSuffix : Bytes := ascii ".migrated"
def v1Dir (identity : Name) : Path := [shares, identity]
def backupDir (identity : Name) : Path := [shares, identity ++ migratedSuffix]
def secretDir (identity : Name) : Path := [vaults, identity, ascii "default"]
def pathText (dataDir : Bytes) (p : Path) : Bytes := p.foldl child dataDir

def accepts (dataDir : Bytes) (p : Path) : Bool := (parsePath (pathText dataDir p)).toBool

def whitespace : List UInt8 := [32, 9, 10, 13, 11, 12]

def trim (s : Bytes) : Bytes :=
  ((s.dropWhile (· ∈ whitespace)).reverse.dropWhile (· ∈ whitespace)).reverse

section
variable (dataDir : Bytes) (t : FileTree)

def readFileAlloc (p : Path) (maxBytes : Nat) : Option Bytes :=
  if accepts dataDir p then (t.fileAt p).filter fun data => data.length ≤ maxBytes else none

def createFile (p : Path) (data : Bytes) : Option FileTree :=
  if accepts dataDir p then t.insert p (.file data) else none

def makePath (p : Path) : Option FileTree := if accepts dataDir p then t.makeDirs [] p else none

def rename (src dst : Path) : Option FileTree :=
  if accepts dataDir src ∧ accepts dataDir dst then t.moveDir src dst else none

def contents : Node → Bytes
  | .dir => []
  | .file data => data

def copyFile (src dst : Path) : Bool × FileTree :=
  if accepts dataDir src then
    match t.get src with
    | none => (false, t)
    | some node =>
      match createFile dataDir t dst (contents node) with
      | none => (false, t)
      | some t' => (node ≠ .dir, t')
  else (false, t)

def readVersionFile (p : Path) : UInt64 :=
  ((readFileAlloc dataDir t p 32).bind fun data => (parseInt (trim data)).bind JsonParser.toU64).getD 1

def getFileSize (p : Path) : UInt64 :=
  if accepts dataDir p then UInt64.ofNat (((t.get p).map contents).getD []).length else 0

def recordMigration (now : I128) (identity : Name) : Bool × FileTree :=
  let version := readVersionFile dataDir t (v1Dir identity ++ [versionName])
  let size := getFileSize dataDir t (v1Dir identity ++ [shareBin])
  match createFile dataDir t (secretDir identity ++ [metaJson]) (renderMeta ⟨version, now, now, size⟩) with
  | none => (false, t)
  | some t => (true, (rename dataDir t (v1Dir identity) (backupDir identity)).getD t)

def migrateChecksum (now : I128) (identity : Name) : Bool × FileTree :=
  match copyFile dataDir t (v1Dir identity ++ [checksumBin]) (secretDir identity ++ [checksumBin]) with
  | (false, t) => (false, t)
  | (true, t) => recordMigration dataDir t now identity

def migrateOneIdentity (now : I128) (identity : Name) : Bool × FileTree :=
  match makePath dataDir t (secretDir identity) with
  | none => (false, t)
  | some t =>
    match copyFile dataDir t (v1Dir identity ++ [shareBin]) (secretDir identity ++ [shareBin]) with
    | (false, t) => (false, t)
    | (true, t) => migrateChecksum dataDir t now identity

def v1Identities : List Name :=
  if accepts dataDir [shares] ∧ t.get [shares] = some .dir then
    (t.dirNames [shares]).filter fun name => IsFileName name ∧ ¬ migratedSuffix <:+ name
  else []

def needsMigration : Bool := v1Identities dataDir t ≠ []

def migrateV1toV2 (clock : Name → I128) : Nat × FileTree :=
  (v1Identities dataDir t).foldl (fun s identity =>
    let r := migrateOneIdentity dataDir s.2 (clock identity) identity
    (if r.1 then s.1 + 1 else s.1, r.2)) (0, t)

end

section
variable (dataDir : Bytes) (t : FileTree) (identity : Name)

def Placed : Prop :=
  accepts dataDir (secretDir identity) = true ∧
    ∀ q ∈ [[vaults], [vaults, identity], secretDir identity], t.fileAt q = none

def Writable (f : Name) : Prop :=
  accepts dataDir (secretDir identity ++ [f]) = true ∧ t.get (secretDir identity ++ [f]) ≠ some .dir

instance : Decidable (Placed dataDir t identity) := inferInstanceAs (Decidable (_ ∧ _))

instance (f : Name) : Decidable (Writable dataDir t identity f) := inferInstanceAs (Decidable (_ ∧ _))

def found (f : Name) : Option Node :=
  if accepts dataDir (v1Dir identity ++ [f]) = true ∧ Writable dataDir t identity f then
    t.get (v1Dir identity ++ [f])
  else none

def Copies (f : Name) : Prop := (found dataDir t identity f).any (· ≠ .dir) = true

def ShareCopied : Prop := Placed dataDir t identity ∧ Copies dataDir t identity shareBin

def BothCopied : Prop := ShareCopied dataDir t identity ∧ Copies dataDir t identity checksumBin

def Complete : Prop := BothCopied dataDir t identity ∧ Writable dataDir t identity metaJson

def Backed : Prop :=
  (accepts dataDir (v1Dir identity) = true ∧ accepts dataDir (backupDir identity) = true) ∧
    t.Movable (v1Dir identity) (backupDir identity)

instance (f : Name) : Decidable (Copies dataDir t identity f) := inferInstanceAs (Decidable (_ = _))

instance : Decidable (ShareCopied dataDir t identity) := inferInstanceAs (Decidable (_ ∧ _))

instance : Decidable (BothCopied dataDir t identity) := inferInstanceAs (Decidable (_ ∧ _))

instance : Decidable (Complete dataDir t identity) := inferInstanceAs (Decidable (_ ∧ _))

instance : Decidable (Backed dataDir t identity) := inferInstanceAs (Decidable (_ ∧ _))

end

@[ext]
structure Secret where
  share : Option Bytes
  checksum : Option Bytes
  metadata : Option Bytes
deriving DecidableEq

def secretOf (t : FileTree) (identity : Name) : Secret where
  share := t.fileAt (secretDir identity ++ [shareBin])
  checksum := t.fileAt (secretDir identity ++ [checksumBin])
  metadata := t.fileAt (secretDir identity ++ [metaJson])

def migratedMeta (dataDir : Bytes) (t : FileTree) (now : I128) (identity : Name) : SecretMeta where
  version := readVersionFile dataDir t (v1Dir identity ++ [versionName])
  createdNs := now
  updatedNs := now
  size := getFileSize dataDir t (v1Dir identity ++ [shareBin])

def overwrite (dataDir : Bytes) (t : FileTree) (identity f : Name) : Option Bytes :=
  ((found dataDir t identity f).map contents).or (t.fileAt (secretDir identity ++ [f]))

def secretAfter (dataDir : Bytes) (t : FileTree) (now : I128) (identity : Name) : Secret where
  share :=
    if Placed dataDir t identity then overwrite dataDir t identity shareBin else (secretOf t identity).share
  checksum :=
    if ShareCopied dataDir t identity then overwrite dataDir t identity checksumBin
    else (secretOf t identity).checksum
  metadata :=
    if Complete dataDir t identity then some (renderMeta (migratedMeta dataDir t now identity))
    else (secretOf t identity).metadata

structure SameSource (identity : Name) (t s : FileTree) : Prop where
  file : ∀ q ∈ [[vaults], [vaults, identity], secretDir identity], s.fileAt q = t.fileAt q
  slot : ∀ f, s.get (secretDir identity ++ [f]) = some .dir ↔ t.get (secretDir identity ++ [f]) = some .dir
  kept : ∀ q, v1Dir identity <+: q ∨ backupDir identity <+: q → s.get q = t.get q
  shares : s.get [shares] = t.get [shares]

open FileTree
namespace SameSource
variable {dataDir : Bytes} {identity : Name} {t s u : FileTree}

lemma refl (identity : Name) (t : FileTree) : SameSource identity t t :=
  ⟨fun _ _ => rfl, fun _ => .rfl, fun _ _ => rfl, rfl⟩

lemma symm (h : SameSource identity t s) : SameSource identity s t :=
  ⟨fun q hq => (h.file q hq).symm, fun f => (h.slot f).symm, fun q hq => (h.kept q hq).symm, h.shares.symm⟩

lemma trans (h : SameSource identity t s) (h' : SameSource identity s u) : SameSource identity t u :=
  ⟨fun q hq => (h'.file q hq).trans (h.file q hq), fun f => (h'.slot f).trans (h.slot f),
    fun q hq => (h'.kept q hq).trans (h.kept q hq), h'.shares.trans h.shares⟩

variable (h : SameSource identity t s)
include h

lemma get_v1Dir (f : Name) : s.get (v1Dir identity ++ [f]) = t.get (v1Dir identity ++ [f]) :=
  h.kept _ (.inl (prefix_append _ _))

lemma placed_iff : Placed dataDir s identity ↔ Placed dataDir t identity := by
  rw [Placed, Placed]
  refine and_congr_right fun _ => forall₂_congr fun q hq => ?_
  rw [h.file q hq]

lemma writable_iff (f : Name) : Writable dataDir s identity f ↔ Writable dataDir t identity f := by
  rw [Writable, Writable, ne_eq, h.slot f]

lemma found_eq (f : Name) : found dataDir s identity f = found dataDir t identity f := by
  rw [found, found, h.get_v1Dir]
  simp only [h.writable_iff]

lemma copies_iff (f : Name) : Copies dataDir s identity f ↔ Copies dataDir t identity f := by
  rw [Copies, Copies, h.found_eq]

lemma shareCopied_iff : ShareCopied dataDir s identity ↔ ShareCopied dataDir t identity := by
  rw [ShareCopied, ShareCopied, h.placed_iff, h.copies_iff]

lemma complete_iff : Complete dataDir s identity ↔ Complete dataDir t identity := by
  rw [Complete, Complete, BothCopied, BothCopied, h.shareCopied_iff, h.copies_iff, h.writable_iff]

lemma migratedMeta_eq (dataDir : Bytes) (now : I128) :
    migratedMeta dataDir s now identity = migratedMeta dataDir t now identity := by
  rw [migratedMeta, migratedMeta, readVersionFile, readVersionFile, readFileAlloc, readFileAlloc,
    fileAt_congr (h.get_v1Dir versionName), getFileSize, getFileSize, h.get_v1Dir]

lemma backed_of_backed (hb : Backed dataDir t identity) : Backed dataDir s identity :=
  ⟨hb.1, hb.2.congr (h.kept _ (.inl prefix_rfl)) h.shares fun r hr => h.kept r (.inr hr)⟩

lemma backed_iff : Backed dataDir s identity ↔ Backed dataDir t identity :=
  ⟨h.symm.backed_of_backed, h.backed_of_backed⟩

end SameSource

/-- A tree that is reached before the old directory is moved: only the directory
of the secret and the directories above it are touched. -/
structure Stage (identity : Name) (t s : FileTree) : Prop where
  other : ∀ q, q ≠ [vaults] → ¬ [vaults, identity] <+: q → s.get q = t.get q
  source : SameSource identity t s
  ready : s.get (secretDir identity) = some .dir

lemma shares_ne_vaults : shares ≠ vaults := by decide

lemma not_prefix_secretDir (identity name : Name) (q : Path) : ¬ [shares, name] <+: secretDir identity ++ q := by
  simp [secretDir, shares_ne_vaults]

section
variable {dataDir : Bytes} {identity : Name} {t s : FileTree}

lemma Stage.of_other (hother : ∀ q, q ≠ [vaults] → ¬ [vaults, identity] <+: q → s.get q = t.get q)
    (hfile : ∀ q ∈ [[vaults], [vaults, identity], secretDir identity], s.fileAt q = t.fileAt q)
    (hslot : ∀ f, s.get (secretDir identity ++ [f]) = some .dir ↔ t.get (secretDir identity ++ [f]) = some .dir)
    (hready : s.get (secretDir identity) = some .dir) : Stage identity t s where
  other := hother
  source := by
    refine ⟨hfile, hslot, fun q hq => ?_, hother _ (by simp [shares_ne_vaults]) (by simp)⟩
    obtain ⟨name, r, rfl⟩ : ∃ name r, q = [shares, name] ++ r := by
      rcases hq with ⟨r, rfl⟩ | ⟨r, rfl⟩
      · exact ⟨_, r, rfl⟩
      · exact ⟨_, r, rfl⟩
    exact hother _ (by simp) (by simp [shares_ne_vaults.symm])
  ready := hready

lemma Stage.write (hs : Stage identity t s) {f : Name} {data : Bytes} {s' : FileTree}
    (h : createFile dataDir s (secretDir identity ++ [f]) data = some s') :
    Stage identity t s' ∧ ∀ g, s'.fileAt (secretDir identity ++ [g]) =
        if g = f then some data else s.fileAt (secretDir identity ++ [g]) := by
  rw [createFile] at h
  split at h
  · obtain ⟨_, _, hslot, hget⟩ := insert_eq_some h
    have hne : ∀ q, q ≠ secretDir identity ++ [f] → s'.get q = s.get q := fun q hq => by rw [hget, if_neg hq]
    have hslots : ∀ g ≠ f, s'.get (secretDir identity ++ [g]) = s.get (secretDir identity ++ [g]) :=
      fun g hg => hne _ (append_singleton_ne hg)
    constructor
    · apply Stage.of_other
      · intro q hq hpre
        rw [hne q, hs.other q hq hpre]
        rintro rfl
        exact hpre ⟨[ascii "default", f], rfl⟩
      · intro q hq
        rw [fileAt_congr (hne q _), hs.source.file q hq]
        rintro rfl
        simp [secretDir] at hq
      · intro g
        by_cases hg : g = f
        · subst hg
          rw [hget, if_pos rfl, ← hs.source.slot g]
          simp [hslot]
        · rw [hslots g hg, hs.source.slot g]
      · rw [hne _ (by simp), hs.ready]
    · grind [fileAt_eq_some, fileAt_congr]
  · cases h

lemma Stage.createFile_cases (hs : Stage identity t s) (dataDir : Bytes) (f : Name) (data : Bytes) :
    (¬ Writable dataDir t identity f ∧ createFile dataDir s (secretDir identity ++ [f]) data = none) ∨
    (Writable dataDir t identity f ∧
    ∃ s', createFile dataDir s (secretDir identity ++ [f]) data = some s' ∧ Stage identity t s' ∧
    ∀ g, s'.fileAt (secretDir identity ++ [g]) =
            if g = f then some data else s.fileAt (secretDir identity ++ [g])) := by
  rw [← hs.source.writable_iff]
  cases h : createFile dataDir s (secretDir identity ++ [f]) data with
  | none =>
    refine .inl ⟨fun hw => ?_, rfl⟩
    obtain ⟨s', hs'⟩ := insert_isSome (n := .file data) (concat_ne_nil f _)
      (by rw [dropLast_concat, hs.ready]) hw.2
    rw [createFile, if_pos hw.1, hs'] at h
    cases h
  | some s' =>
    refine .inr ⟨?_, s', rfl, hs.write h⟩
    rw [createFile] at h
    split at h
    · next haccepts => exact ⟨haccepts, (insert_eq_some h).2.2.1⟩
    · cases h

lemma Stage.copyFile_cases (hs : Stage identity t s) (dataDir : Bytes) (f : Name) :
    (found dataDir t identity f = none ∧
    copyFile dataDir s (v1Dir identity ++ [f]) (secretDir identity ++ [f]) = (false, s)) ∨
    ∃ node s', found dataDir t identity f = some node ∧
    copyFile dataDir s (v1Dir identity ++ [f]) (secretDir identity ++ [f]) = (decide (node ≠ .dir), s') ∧
    Stage identity t s' ∧ ∀ g, s'.fileAt (secretDir identity ++ [g]) =
            if g = f then some (contents node) else s.fileAt (secretDir identity ++ [g]) := by
  rw [found, copyFile, hs.source.get_v1Dir]
  grind [createFile_cases]

lemma trail_secretDir (hid : IsFileName identity) :
    trail [] (secretDir identity) ++ [target [] (secretDir identity)] =
    [] :: [[vaults], [vaults, identity], secretDir identity] := by
  have hv : IsFileName vaults ∧ IsFileName (ascii "default") := by decide
  simp [trail, target, secretDir, next_of_isFileName hid, next_of_isFileName hv.1, next_of_isFileName hv.2]

lemma makePath_cases (hid : IsFileName identity) (dataDir : Bytes) (t : FileTree) :
    (¬ Placed dataDir t identity ∧ makePath dataDir t (secretDir identity) = none) ∨
    (Placed dataDir t identity ∧ ∃ s, makePath dataDir t (secretDir identity) = some s ∧
    Stage identity t s ∧ ∀ q, s.fileAt q = t.fileAt q) := by
  rw [makePath, Placed]
  by_cases haccepts : accepts dataDir (secretDir identity)
  · have hroot : t.get [] = some .dir := t.get_nil
    cases h : t.makeDirs [] (secretDir identity) with
    | none =>
      refine .inl ⟨fun hp => ?_, by simp [haccepts]⟩
      have hfree : ∀ q ∈ trail [] (secretDir identity) ++ [target [] (secretDir identity)], t.fileAt q = none := by
        rw [trail_secretDir hid, forall_mem_cons]
        exact ⟨rfl, hp.2⟩
      obtain ⟨s, hs⟩ := exists_makeDirs hroot hfree
      rw [h] at hs
      cases hs
    | some s =>
      have hfree := fileAt_of_makeDirs hroot h
      obtain ⟨hgrows, hdirs, hsame⟩ := makeDirs_spec h hroot
      rw [trail_secretDir hid] at hfree hdirs hsame
      refine .inr ⟨⟨haccepts, fun q hq => hfree q (mem_cons_of_mem _ hq)⟩, s, by simp [haccepts],
        .of_other ?_ (fun q _ => hgrows.fileAt_eq q) ?_ (hdirs _ (by simp)), hgrows.fileAt_eq⟩
      all_goals grind [secretDir]
  · exact .inl ⟨fun hp => haccepts hp.1, by simp [haccepts]⟩

def Own (identity : Name) (q : Path) : Prop :=
  q = [vaults] ∨ [vaults, identity] <+: q ∨ v1Dir identity <+: q ∨ backupDir identity <+: q

structure Done (dataDir : Bytes) (now : I128) (identity : Name) (t s : FileTree) : Prop where
  secret : secretOf s identity = secretAfter dataDir t now identity
  gone : Complete dataDir t identity → Backed dataDir t identity → s.get (v1Dir identity) = none
  kept : ¬ (Complete dataDir t identity ∧ Backed dataDir t identity) → SameSource identity t s

structure Outcome (dataDir : Bytes) (now : I128) (identity : Name) (t s : FileTree) : Prop
    extends Done dataDir now identity t s where
  frame : ∀ q, ¬ Own identity q → s.get q = t.get q
  vaults : s.fileAt [vaults] = t.fileAt [vaults]

variable {now : I128}

lemma Stage.outcome_of_done (hs : Stage identity t s) (h : Done dataDir now identity t s) :
    Outcome dataDir now identity t s where
  toDone := h
  frame q hq := by
    simp only [Own, not_or] at hq
    exact hs.other q hq.1 hq.2.1
  vaults := hs.source.file _ (by simp)

lemma Stage.outcome (hs : Stage identity t s) (hcomplete : ¬ Complete dataDir t identity)
    (hsecret : secretOf s identity = secretAfter dataDir t now identity) : Outcome dataDir now identity t s :=
  hs.outcome_of_done ⟨hsecret, fun h => absurd h hcomplete, fun _ => hs.source⟩

lemma names_ne : shareBin ≠ checksumBin ∧ shareBin ≠ metaJson ∧ checksumBin ≠ metaJson := by decide

lemma Stage.outcome_rename (hs : Stage identity t s) (hcomplete : Complete dataDir t identity)
    (hsecret : secretOf s identity = secretAfter dataDir t now identity) : Outcome dataDir now identity t
      ((rename dataDir s (v1Dir identity) (backupDir identity)).getD s) := by
  by_cases hb : Backed dataDir t identity
  · have hb' := hs.source.backed_iff.2 hb
    obtain ⟨u, hu⟩ := moveDir_isSome hb'.2
    rw [rename, if_pos hb'.1, hu, Option.getD_some]
    have hapart : ∀ {q}, ¬ v1Dir identity <+: q → ¬ backupDir identity <+: q → u.get q = s.get q :=
      fun h h' => get_moveDir_of_apart hu h h'
    have hsecretDir : ∀ f, u.fileAt (secretDir identity ++ [f]) = s.fileAt (secretDir identity ++ [f]) :=
      fun f => fileAt_congr
        (hapart (not_prefix_secretDir identity _ _) (not_prefix_secretDir identity _ _))
    refine ⟨⟨?_, fun _ _ => get_moveDir_source hu, fun h => absurd ⟨hcomplete, hb⟩ h⟩, ?_, ?_⟩
    · grind [secretOf]
    · intro q hq
      simp only [Own, not_or] at hq
      rw [hapart hq.2.2.1 hq.2.2.2, hs.other q hq.1 hq.2.1]
    · rw [fileAt_congr (hapart _ _), hs.source.file _ (by simp)]
      · simp [v1Dir]
      · simp [backupDir]
  · have hnone : rename dataDir s (v1Dir identity) (backupDir identity) = none := by
      rw [rename]
      split
      · next haccepts => rw [moveDir, dif_neg fun hm => hb (hs.source.backed_iff.1 ⟨haccepts, hm⟩)]
      · rfl
    rw [hnone, Option.getD_none]
    exact hs.outcome_of_done ⟨hsecret, fun _ h => absurd h hb, fun _ => hs.source⟩

attribute [local simp] secretOf secretAfter Copies

lemma Stage.outcome_recordMigration (hs : Stage identity t s) (hboth : BothCopied dataDir t identity)
    (hsecret : secretOf s identity = ⟨overwrite dataDir t identity shareBin,
      overwrite dataDir t identity checksumBin, (secretOf t identity).metadata⟩) :
    Outcome dataDir now identity t (recordMigration dataDir s now identity).2 := by
  obtain ⟨hsc, hsm, hcm⟩ := names_ne
  simp only [secretOf, Secret.mk.injEq] at hsecret
  obtain ⟨hshare, hchecksum, hmetadata⟩ := hsecret
  rw [recordMigration, ← migratedMeta, hs.source.migratedMeta_eq dataDir now]
  rcases hs.createFile_cases dataDir metaJson (renderMeta (migratedMeta dataDir t now identity)) with
    ⟨hw, hmeta⟩ | ⟨hw, u, hmeta, hu, hfiles⟩
  · have hcomplete : ¬ Complete dataDir t identity := fun h => hw h.2
    rw [hmeta]
    apply hs.outcome hcomplete
    simp [hboth.1, hboth.1.1, hcomplete, hshare, hchecksum, hmetadata]
  · have hcomplete : Complete dataDir t identity := ⟨hboth, hw⟩
    rw [hmeta]
    apply hu.outcome_rename hcomplete
    simp [hboth.1, hboth.1.1, hcomplete, hfiles, hshare, hchecksum, hsm, hcm]

lemma Stage.outcome_migrateChecksum (hs : Stage identity t s) (hcopied : ShareCopied dataDir t identity)
    (hsecret : secretOf s identity = { secretOf t identity with share := overwrite dataDir t identity shareBin }) :
    Outcome dataDir now identity t (migrateChecksum dataDir s now identity).2 := by
  obtain ⟨hsc, hsm, hcm⟩ := names_ne
  simp only [secretOf, Secret.mk.injEq] at hsecret
  obtain ⟨hshare, hchecksum, hmetadata⟩ := hsecret
  rw [migrateChecksum]
  rcases hs.copyFile_cases dataDir checksumBin with ⟨hfound, hcopy⟩ | ⟨node, u, hfound, hcopy, hu, hfiles⟩
  · have hcomplete : ¬ Complete dataDir t identity := fun h => by simpa [hfound] using h.1.2
    rw [hcopy]
    apply hs.outcome hcomplete
    simp [hcopied, hcopied.1, hcomplete, hshare, hchecksum, hmetadata, overwrite, hfound]
  have hover : overwrite dataDir t identity checksumBin = some (contents node) := by simp [overwrite, hfound]
  rw [hcopy]
  by_cases hnode : node = .dir
  · have hcomplete : ¬ Complete dataDir t identity := fun h => by simpa [hfound, hnode] using h.1.2
    rw [decide_eq_false (not_not.2 hnode)]
    apply hu.outcome hcomplete
    simp [hcopied, hcopied.1, hcomplete, hfiles, hshare, hmetadata, hover, hsc, hcm.symm]
  · rw [decide_eq_true hnode]
    apply hu.outcome_recordMigration ⟨hcopied, by simp [hfound, hnode]⟩
    simp [hfiles, hshare, hmetadata, hover, hsc, hcm.symm]

lemma outcome_migrateOneIdentity (hid : IsFileName identity) (dataDir : Bytes) (t : FileTree) (now : I128) :
    Outcome dataDir now identity t (migrateOneIdentity dataDir t now identity).2 := by
  obtain ⟨hsc, hsm, _⟩ := names_ne
  rw [migrateOneIdentity]
  rcases makePath_cases hid dataDir t with ⟨hp, hnone⟩ | ⟨hp, s, hsome, hs, hsame⟩
  · have hshare : ¬ ShareCopied dataDir t identity := fun h => hp h.1
    have hcomplete : ¬ Complete dataDir t identity := fun h => hshare h.1.1
    rw [hnone]
    refine ⟨⟨?_, fun h => absurd h hcomplete, fun _ => .refl identity t⟩, fun _ _ => rfl, rfl⟩
    simp [hp, hshare, hcomplete]
  rw [hsome]
  dsimp only
  rcases hs.copyFile_cases dataDir shareBin with ⟨hfound, hcopy⟩ | ⟨node, u, hfound, hcopy, hu, hfiles⟩
  · have hshare : ¬ ShareCopied dataDir t identity := fun h => by simpa [hfound] using h.2
    have hcomplete : ¬ Complete dataDir t identity := fun h => hshare h.1.1
    grind [Stage.outcome, secretAfter, secretOf, overwrite]
  have hover : overwrite dataDir t identity shareBin = some (contents node) := by simp [overwrite, hfound]
  rw [hcopy]
  by_cases hnode : node = .dir
  · have hshare : ¬ ShareCopied dataDir t identity := fun h => by simpa [hfound, hnode] using h.2
    have hcomplete : ¬ Complete dataDir t identity := fun h => hshare h.1.1
    grind [Stage.outcome, secretAfter, secretOf]
  · rw [decide_eq_true hnode]
    apply hu.outcome_migrateChecksum ⟨hp, by simp [hfound, hnode]⟩
    simp [hfiles, hsame, hover, hsc.symm, hsm.symm]

end
end Orama.Vault.Migration
