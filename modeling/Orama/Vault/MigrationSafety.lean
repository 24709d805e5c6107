import Orama.Vault.Migration

namespace Orama.Vault.Migration
open Lib Vault.Store List

def Plain (name : Name) : Prop := IsFileName name ∧ ¬ migratedSuffix <:+ name

instance (name : Name) : Decidable (Plain name) := inferInstanceAs (Decidable (_ ∧ _))

open FileTree
variable {dataDir : Bytes} {identity : Name} {t : FileTree}

lemma mem_v1Identities :
    identity ∈ v1Identities dataDir t ↔ (accepts dataDir [shares] ∧ t.get [shares] = some .dir) ∧
    t.get (v1Dir identity) = some .dir ∧ Plain identity := by
  rw [v1Identities]
  split
  · next h =>
    rw [mem_filter, mem_dirNames, decide_eq_true_eq]
    simp only [h, true_and, and_self]
    rfl
  · next h => simp [h]

lemma nodup_v1Identities (dataDir : Bytes) (t : FileTree) : (v1Identities dataDir t).Nodup := by
  grind [nodup_dirNames, v1Identities]

section
variable {dataDir : Bytes} {now : I128} {identity other : Name} {t s : FileTree}
variable {q : Path}

attribute [local simp] Own v1Dir backupDir shares_ne_vaults

lemma not_own_vault (hne : identity ≠ other) (hq : [vaults, other] <+: q) : ¬ Own identity q := by
  obtain ⟨r, rfl⟩ := hq
  simp [hne]

lemma not_own_source (hid : Plain identity) (hother : Plain other) (hne : identity ≠ other)
    (hq : v1Dir other <+: q ∨ backupDir other <+: q) : ¬ Own identity q := by
  have h₁ : identity ++ migratedSuffix ≠ other := fun h => hother.2 ⟨identity, h⟩
  have h₂ : identity ≠ other ++ migratedSuffix := fun h => hid.2 ⟨other, h.symm⟩
  rcases hq with ⟨r, rfl⟩ | ⟨r, rfl⟩
  · grind [Own, v1Dir, backupDir]
  · simp [hne, h₂, shares_ne_vaults.symm]

lemma not_own_shares (identity : Name) : ¬ Own identity [shares] := by
  simp

variable (h : Outcome dataDir now identity t s) (hne : identity ≠ other)
include h hne

lemma Outcome.get_other (f : Name) : s.get (secretDir other ++ [f]) = t.get (secretDir other ++ [f]) :=
  h.frame _ (not_own_vault hne ⟨[ascii "default", f], rfl⟩)

lemma Outcome.secretOf_other : secretOf s other = secretOf t other := by grind [fileAt_congr, get_other, secretOf]

lemma Outcome.sameSource_other (hid : Plain identity) (hother : Plain other) : SameSource other t s where
  file q hq := by
    simp only [mem_cons, not_mem_nil, or_false] at hq
    rcases hq with rfl | rfl | rfl
    · exact h.vaults
    · exact fileAt_congr (h.frame _ (not_own_vault hne prefix_rfl))
    · exact fileAt_congr (h.frame _ (not_own_vault hne ⟨[ascii "default"], rfl⟩))
  slot f := by rw [h.get_other hne f]
  kept q hq := h.frame q (not_own_source hid hother hne hq)
  shares := h.frame _ (not_own_shares identity)

end

section
variable {dataDir : Bytes} {now : I128} {identity : Name} {t s u : FileTree}

lemma SameSource.secretAfter_eq (h : SameSource identity t s)
    (hsecret : secretOf s identity = secretOf t identity) :
    secretAfter dataDir s now identity = secretAfter dataDir t now identity := by
  have hover : ∀ f, s.fileAt (secretDir identity ++ [f]) = t.fileAt (secretDir identity ++ [f]) →
      overwrite dataDir s identity f = overwrite dataDir t identity f := fun f hf => by
    rw [overwrite, overwrite, h.found_eq, hf]
  rw [secretAfter, secretAfter, hsecret, hover _ (congrArg Secret.share hsecret),
    hover _ (congrArg Secret.checksum hsecret), h.migratedMeta_eq]
  simp only [h.placed_iff, h.shareCopied_iff, h.complete_iff]

lemma Done.congr_left (h : Done dataDir now identity s u) (hs : SameSource identity t s)
    (hsecret : secretOf s identity = secretOf t identity) : Done dataDir now identity t u where
  secret := h.secret.trans (hs.secretAfter_eq hsecret)
  gone hc hb := h.gone (hs.complete_iff.2 hc) (hs.backed_iff.2 hb)
  kept hn := hs.trans (h.kept (by rwa [hs.complete_iff, hs.backed_iff]))

lemma Done.congr_right (h : Done dataDir now identity t s) (hs : SameSource identity s u)
    (hsecret : secretOf u identity = secretOf s identity) : Done dataDir now identity t u where
  secret := hsecret.trans h.secret
  gone hc hb := (hs.kept _ (.inl prefix_rfl)).trans (h.gone hc hb)
  kept hn := (h.kept hn).trans hs

structure Reached (dataDir : Bytes) (clock : Name → I128) (identities : List Name) (t s : FileTree) : Prop where
  done : ∀ i ∈ identities, Done dataDir (clock i) i t s
  secret : ∀ i ∉ identities, secretOf s i = secretOf t i
  source : ∀ i ∉ identities, Plain i → SameSource i t s
  shares : s.get [shares] = t.get [shares]

lemma reached_foldl (dataDir : Bytes) (clock : Name → I128) (identities : List Name) (t : FileTree)
    (hplain : ∀ i ∈ identities, Plain i) (hnodup : identities.Nodup) : Reached dataDir clock identities t
      (identities.foldl (fun t i => (migrateOneIdentity dataDir t (clock i) i).2) t) := by
  induction identities generalizing t with
  | nil => exact ⟨by simp, fun _ _ => rfl, fun i _ _ => .refl i t, rfl⟩
  | cons a identities ih =>
    rw [forall_mem_cons] at hplain
    obtain ⟨ha, hnodup⟩ := nodup_cons.1 hnodup
    have hstep := outcome_migrateOneIdentity hplain.1.1 dataDir t (clock a)
    have hrest := ih (migrateOneIdentity dataDir t (clock a) a).2 hplain.2 hnodup
    rw [foldl_cons]
    refine ⟨?_, ?_, ?_, hrest.shares.trans (hstep.frame _ (not_own_shares a))⟩
    · intro i hi
      rcases mem_cons.1 hi with rfl | hi
      · exact hstep.toDone.congr_right (hrest.source i ha hplain.1) (hrest.secret i ha)
      · have hne : a ≠ i := fun h => ha (h ▸ hi)
        exact (hrest.done i hi).congr_left (hstep.sameSource_other hne hplain.1 (hplain.2 i hi))
          (hstep.secretOf_other hne)
    · intro i hi
      rw [mem_cons, not_or] at hi
      rw [hrest.secret i hi.2, hstep.secretOf_other (Ne.symm hi.1)]
    · intro i hi hpi
      rw [mem_cons, not_or] at hi
      exact (hstep.sameSource_other (Ne.symm hi.1) hplain.1 hpi).trans (hrest.source i hi.2 hpi)

lemma snd_migrateV1toV2 (dataDir : Bytes) (t : FileTree) (clock : Name → I128) :
    (migrateV1toV2 dataDir t clock).2 = (v1Identities dataDir t).foldl
      (fun t i => (migrateOneIdentity dataDir t (clock i) i).2) t :=
  (foldl_hom Prod.snd (fun _ _ => rfl)).symm

lemma reached_migrateV1toV2 (dataDir : Bytes) (t : FileTree) (clock : Name → I128) :
    Reached dataDir clock (v1Identities dataDir t) t (migrateV1toV2 dataDir t clock).2 := by
  grind [snd_migrateV1toV2, reached_foldl, mem_v1Identities, nodup_v1Identities]

lemma mem_v1Identities_migrateV1toV2 {clock : Name → I128} :
    identity ∈ v1Identities dataDir (migrateV1toV2 dataDir t clock).2 ↔ identity ∈ v1Identities dataDir t ∧
    ¬ (Complete dataDir t identity ∧ Backed dataDir t identity) := by
  have hr := reached_migrateV1toV2 dataDir t clock
  have hkept : SameSource identity t (migrateV1toV2 dataDir t clock).2 →
      (identity ∈ v1Identities dataDir (migrateV1toV2 dataDir t clock).2 ↔ identity ∈ v1Identities dataDir t) := by
    intro h
    rw [mem_v1Identities, mem_v1Identities, h.shares, h.kept _ (.inl prefix_rfl)]
  by_cases hi : identity ∈ v1Identities dataDir t
  · by_cases hretired : Complete dataDir t identity ∧ Backed dataDir t identity
    · simp only [hretired, and_self, not_true_eq_false, and_false, iff_false]
      intro hmem
      have hdir := (mem_v1Identities.1 hmem).2.1
      rw [(hr.done identity hi).gone hretired.1 hretired.2] at hdir
      cases hdir
    · rw [hkept ((hr.done identity hi).kept hretired)]
      simp [hretired]
  · simp only [hi, false_and, iff_false]
    intro hmem
    exact hi ((hkept (hr.source identity hi (mem_v1Identities.1 hmem).2.2)).1 hmem)

lemma SameSource.secretAfter_again (h : SameSource identity t s) (now' : I128)
    (hsecret : secretOf s identity = secretAfter dataDir t now identity) :
    secretAfter dataDir s now' identity = { secretAfter dataDir t now identity with
      metadata := (secretAfter dataDir t now' identity).metadata } := by
  have hshare := congrArg Secret.share hsecret
  have hchecksum := congrArg Secret.checksum hsecret
  have hmetadata := congrArg Secret.metadata hsecret
  simp only [secretAfter, secretOf] at hshare hchecksum hmetadata
  apply Secret.ext
  · grind [placed_iff, found_eq, secretAfter, overwrite]
  · grind [shareCopied_iff, found_eq, secretAfter, overwrite]
  · grind [complete_iff, migratedMeta_eq, secretAfter]

end

variable {m : SecretMeta}

lemma renderMeta_injective {m' : SecretMeta} (h : renderMeta m = renderMeta m') : m = m' := by
  grind [JsonParser.strictMeta_renderMeta]

def readMeta (json : JsonParser) (dataDir : Bytes) (t : FileTree) (identity : Name) : Option SecretMeta :=
  (readFileAlloc dataDir t (secretDir identity ++ [metaJson]) 4096).bind json.parseMeta

structure Spared (dataDir : Bytes) (t : FileTree) (identity : Name) : Prop where
  fails : ¬ BothCopied dataDir t identity
  share : Placed dataDir t identity → ∀ node ∈ found dataDir t identity shareBin,
    (secretOf t identity).share = some (contents node)
  checksum : ShareCopied dataDir t identity → ∀ node ∈ found dataDir t identity checksumBin,
    (secretOf t identity).checksum = some (contents node)

lemma overwrite_eq_iff {f : Name} :
    overwrite dataDir t identity f = t.fileAt (secretDir identity ++ [f]) ↔ ∀ node ∈ found dataDir t identity f,
    t.fileAt (secretDir identity ++ [f]) = some (contents node) := by
  rw [overwrite]
  cases found dataDir t identity f with
  | none => simp
  | some node => simp [eq_comm]

lemma exists_of_readMeta {json : JsonParser} (hm : readMeta json dataDir t identity = some m) :
    Writable dataDir t identity metaJson ∧
    ∃ data, t.fileAt (secretDir identity ++ [metaJson]) = some data ∧ json.parseMeta data = some m := by
  obtain ⟨data, hdata, hparse⟩ := Option.bind_eq_some_iff.1 hm
  rw [readFileAlloc] at hdata
  split at hdata
  · next haccepts =>
    have hfile := (Option.filter_eq_some_iff.1 hdata).1
    refine ⟨⟨haccepts, ?_⟩, data, hfile, hparse⟩
    rw [fileAt_eq_some.1 hfile]
    simp
  · cases hdata

lemma secretAfter_eq_iff {json : JsonParser} (hm : readMeta json dataDir t identity = some m) (now : I128)
    (hv : readVersionFile dataDir t (v1Dir identity ++ [versionName]) ≠ m.version) :
    secretAfter dataDir t now identity = secretOf t identity ↔ Spared dataDir t identity := by
  obtain ⟨hwritable, data, hfile, hparse⟩ := exists_of_readMeta hm
  constructor
  · intro h
    have hfails : ¬ BothCopied dataDir t identity := by
      intro hboth
      have hmeta := congrArg Secret.metadata h
      have hcomplete : Complete dataDir t identity := ⟨hboth, hwritable⟩
      simp only [secretAfter, secretOf, hcomplete, if_true, hfile, Option.some.injEq] at hmeta
      rw [← hmeta, json.parseMeta_render] at hparse
      exact hv (congrArg SecretMeta.version (Option.some.inj hparse))
    refine ⟨hfails, fun hp => ?_, fun hs => ?_⟩
    · have hshare := congrArg Secret.share h
      rw [secretAfter, if_pos hp] at hshare
      exact overwrite_eq_iff.1 hshare
    · have hchecksum := congrArg Secret.checksum h
      rw [secretAfter, if_pos hs] at hchecksum
      exact overwrite_eq_iff.1 hchecksum
  · rintro ⟨hfails, hshare, hchecksum⟩
    have hcomplete : ¬ Complete dataDir t identity := fun h => hfails h.1
    apply Secret.ext
    · simp only [secretAfter]
      split
      · next hp => exact overwrite_eq_iff.2 (hshare hp)
      · rfl
    · simp only [secretAfter]
      split
      · next hs => exact overwrite_eq_iff.2 (hchecksum hs)
      · rfl
    · rw [secretAfter, if_neg hcomplete]

lemma metadata_secretAfter_eq_iff {now now' : I128} :
    (secretAfter dataDir t now' identity).metadata = (secretAfter dataDir t now identity).metadata ↔
    (Complete dataDir t identity → now = now') := by
  by_cases hc : Complete dataDir t identity
  · simp only [secretAfter, hc, if_true, Option.some.injEq, true_imp_iff]
    constructor
    · exact fun h => (congrArg SecretMeta.createdNs (renderMeta_injective h)).symm
    · rintro rfl
      rfl
  · simp [secretAfter, hc]

section
variable (json : JsonParser) (dataDir : Bytes) (t : FileTree) (clock clock' : Name → I128)

lemma secretOf_second_iff (identity : Name) :
    secretOf (migrateV1toV2 dataDir (migrateV1toV2 dataDir t clock).2 clock').2 identity =
    secretOf (migrateV1toV2 dataDir t clock).2 identity ↔
    (identity ∈ v1Identities dataDir t → Complete dataDir t identity → ¬ Backed dataDir t identity →
    clock identity = clock' identity) := by
  have hr := reached_migrateV1toV2 dataDir t clock
  have hr' := reached_migrateV1toV2 dataDir (migrateV1toV2 dataDir t clock).2 clock'
  by_cases hleft : identity ∈ v1Identities dataDir (migrateV1toV2 dataDir t clock).2
  · obtain ⟨hi, hretired⟩ := mem_v1Identities_migrateV1toV2.1 hleft
    have hdone := hr.done identity hi
    rw [(hr'.done identity hleft).secret, (hdone.kept hretired).secretAfter_again _ hdone.secret,
      hdone.secret, Secret.ext_iff]
    grind [metadata_secretAfter_eq_iff]
  · refine iff_of_true (hr'.secret identity hleft) fun hi _ hb => ?_
    exact absurd (mem_v1Identities_migrateV1toV2.2 ⟨hi, fun h => hb h.2⟩) hleft

lemma secretOf_first_iff (identity : Name) :
    (∀ m ∈ readMeta json dataDir t identity, readVersionFile dataDir t (v1Dir identity ++ [versionName]) < m.version →
    secretOf (migrateV1toV2 dataDir t clock).2 identity = secretOf t identity) ↔
    (identity ∈ v1Identities dataDir t → ∀ m ∈ readMeta json dataDir t identity,
    readVersionFile dataDir t (v1Dir identity ++ [versionName]) < m.version → Spared dataDir t identity) := by
  have hr := reached_migrateV1toV2 dataDir t clock
  by_cases hi : identity ∈ v1Identities dataDir t
  · simp only [hi, true_imp_iff, (hr.done identity hi).secret]
    refine forall₂_congr fun m hm => imp_congr_right fun hlt => ?_
    exact secretAfter_eq_iff hm (clock identity) (UInt64.ne_of_lt hlt)
  · exact iff_of_true (fun _ _ _ => hr.secret identity hi) fun h => absurd h hi

/-- A run never replaces a secret by data of a lower version and a second run
changes nothing, exactly when every directory with a lower version than its secret
comes to nothing and every complete migration has its backup, or the clock stands
still. -/
theorem migrateV1toV2_safe_iff : ((∀ identity, ∀ m ∈ readMeta json dataDir t identity,
    readVersionFile dataDir t (v1Dir identity ++ [versionName]) < m.version →
    secretOf (migrateV1toV2 dataDir t clock).2 identity = secretOf t identity) ∧
    ∀ identity, secretOf (migrateV1toV2 dataDir (migrateV1toV2 dataDir t clock).2 clock').2 identity =
    secretOf (migrateV1toV2 dataDir t clock).2 identity) ↔ ∀ identity ∈ v1Identities dataDir t,
    (∀ m ∈ readMeta json dataDir t identity, readVersionFile dataDir t (v1Dir identity ++ [versionName]) < m.version →
    Spared dataDir t identity) ∧
    (Complete dataDir t identity → ¬ Backed dataDir t identity → clock identity = clock' identity) := by
  rw [forall_congr' (secretOf_first_iff json dataDir t clock),
    forall_congr' (secretOf_second_iff dataDir t clock clock'), ← forall_and]
  exact forall_congr' fun identity => imp_and.symm

end

def sampleIdentity : Name := ascii "aa"

/-- A secret of version seven, next to a directory of version one that was pushed
after the first migration, and the backup of that migration. -/
def pushedAgain : FileTree where
  entries := [([shares], .dir), (v1Dir sampleIdentity, .dir),
    (v1Dir sampleIdentity ++ [shareBin], .file [1]), (v1Dir sampleIdentity ++ [checksumBin], .file [2]),
    (v1Dir sampleIdentity ++ [versionName], .file (ascii "1")), (backupDir sampleIdentity, .dir),
    (backupDir sampleIdentity ++ [shareBin], .file [7]), ([vaults], .dir),
    ([vaults, sampleIdentity], .dir), (secretDir sampleIdentity, .dir),
    (secretDir sampleIdentity ++ [shareBin], .file [7]), (secretDir sampleIdentity ++ [checksumBin], .file [8]),
    (secretDir sampleIdentity ++ [metaJson], .file (renderMeta ⟨7, epoch, epoch, 1⟩))]
  nodup := by decide
  closed := by decide

def tick : I128 := ⟨2, by decide⟩

/-- The old data take the place of the secret, and since they cannot be moved to
the backup, the next run writes the secret once more. -/
theorem pushedAgain_replaces :
    readMeta JsonParser.strict (ascii "data") pushedAgain sampleIdentity = some ⟨7, epoch, epoch, 1⟩ ∧
    readVersionFile (ascii "data") pushedAgain (v1Dir sampleIdentity ++ [versionName]) = 1 ∧
    secretOf (migrateV1toV2 (ascii "data") pushedAgain fun _ => epoch).2 sampleIdentity =
    ⟨some [1], some [2], some (renderMeta ⟨1, epoch, epoch, 1⟩)⟩ ∧ secretOf (migrateV1toV2 (ascii "data")
          (migrateV1toV2 (ascii "data") pushedAgain fun _ => epoch).2 fun _ => tick).2 sampleIdentity =
        ⟨some [1], some [2], some (renderMeta ⟨1, tick, tick, 1⟩)⟩ := by
  decide +kernel

end Orama.Vault.Migration
