import Orama.Vault.Crash

namespace Orama.Vault.Store
open Lib

structure Call where
  write : Write
  stop : Nat

structure History where
  tree : FileTree
  version : Option UInt64

namespace Call
variable (json : JsonParser) (l : Location)

def progress (h : History) (c : Call) : Option (Progress FileTree FsError) :=
  match writePlan json l c.write h.tree with
  | .error _ => none
  | .ok steps => some (stopped l steps c.stop h.tree)

def run (h : History) (c : Call) : History :=
  match c.progress json l h with
  | none => h
  | some p => ⟨p.state, if 3 ≤ p.done then some c.write.version else h.version⟩

/-- The call does not stop between the renaming of the share and the renaming
of the meta file, unless the checksum that it leaves is not that of its data
under the key. -/
def Settles (key : Bytes) (h : History) (c : Call) : Prop :=
  ∀ p ∈ c.progress json l h, 3 ≤ p.done → p.done < 7 →
    (if 5 ≤ p.done then some (Hmac.compute c.write.integrityKey c.write.data)
      else h.tree.files l.secretDir checksumBin) ≠ some (Hmac.compute key c.write.data)

instance (key : Bytes) (h : History) (c : Call) : Decidable (c.Settles json l key h) :=
  inferInstanceAs (Decidable (∀ p ∈ c.progress json l h, _))

end Call

section
variable (json : JsonParser) (l : Location)

def runCalls (h : History) (calls : List Call) : History := calls.foldl (Call.run json l) h

def AllSettle (key : Bytes) : History → List Call → Prop
  | _, [] => True
  | h, c :: calls => c.Settles json l key h ∧ AllSettle key (c.run json l h) calls

/-- Once the share is that of a write of the run, either it does not match its
checksum or the meta file has the version of that write. -/
def Guarded (key : Bytes) (h : History) : Prop :=
  ∀ v, h.version = some v → WellFormed (l.path shareBin) ∧ h.tree.Opens l.secretDir ∧
    ∃ data, h.tree.files l.secretDir shareBin = some data ∧
    (h.tree.files l.secretDir checksumBin = some (Hmac.compute key data) → WellFormed (l.path metaJson) ∧
    ∃ m : SecretMeta, m.version = v ∧ h.tree.files l.secretDir metaJson = some (renderMeta m))

def Locked (v : UInt64) (t : FileTree) : Prop :=
  WellFormed (l.path shareBin) ∧ WellFormed (l.path metaJson) ∧ t.Opens l.secretDir ∧
    (∃ data, t.files l.secretDir shareBin = some data) ∧
    ∃ m : SecretMeta, v ≤ m.version ∧ t.files l.secretDir metaJson = some (renderMeta m)

variable {json l}
variable {h : History} {c : Call}

lemma Call.progress_eq_some {p : Progress FileTree FsError} (hp : c.progress json l h = some p) :
    ∃ created, Left l c.write created h.tree p ∧
    ∀ m, secretExistsInternal l h.tree = .ok true → readMeta json l h.tree = .ok m → m.version < c.write.version := by
  unfold Call.progress at hp
  split at hp
  · cases hp
  · next steps hs =>
    cases hp
    obtain ⟨_, _, ⟨created, rfl⟩, hv⟩ := writePlan_eq_ok hs
    exact ⟨created, left_stopped l c.write created c.stop h.tree, hv⟩

lemma guarded_run {key : Bytes} (hg : Guarded l key h) (hs : c.Settles json l key h) :
    Guarded l key (c.run json l h) := by
  unfold Call.run
  split
  · exact hg
  · next p hp =>
    obtain ⟨created, hl, _⟩ := Call.progress_eq_some hp
    intro v hv
    dsimp only at hv ⊢
    by_cases h3 : 3 ≤ p.done
    · rw [if_pos h3, Option.some.injEq] at hv
      refine ⟨hl.wellFormed_share h3, hl.opens (by omega), c.write.data, ?_, fun hc => ?_⟩
      · rw [hl.share, if_pos h3]
      · have h7 : 7 ≤ p.done := by
          by_contra h7
          apply hs p hp h3 (by omega)
          rw [← hc, hl.checksum]
        refine ⟨hl.wellFormed_meta h7, c.write.secretMeta created, hv, ?_⟩
        rw [hl.metadata, if_pos h7]
    · rw [if_neg h3] at hv
      obtain ⟨hw, ho, data, hd, hc⟩ := hg v hv
      refine ⟨hw, hl.opens_of_opens ho, data, ?_, fun hk => ?_⟩
      · rw [hl.share, if_neg h3, hd]
      · rw [hl.checksum, if_neg (by omega)] at hk
        rw [hl.metadata, if_neg (by omega)]
        exact hc hk

lemma guarded_runCalls {key : Bytes} {calls : List Call} (hg : Guarded l key h) (hs : AllSettle json l key h calls) :
    Guarded l key (runCalls json l h calls) := by
  induction calls generalizing h with
  | nil => exact hg
  | cons c calls ih => exact ih (guarded_run hg hs.1) hs.2

variable {v : UInt64}

lemma Guarded.locked {key data : Bytes} (hg : Guarded l key h) (hv : h.version = some v)
    (hread : readSecret l key h.tree = .ok data) : Locked l v h.tree := by
  obtain ⟨hw, ho, d, hd, hc⟩ := hg v hv
  obtain ⟨_, _, _, hd', _, hk⟩ := readSecret_iff.mp hread
  rw [hd, Option.some.injEq] at hd'
  obtain ⟨hm, m, hmv, hmeta⟩ := hc (hd' ▸ hk)
  exact ⟨hw, hm, ho, ⟨d, hd⟩, m, UInt64.le_of_eq hmv.symm, hmeta⟩

variable {t : FileTree} {w : Write}

lemma Locked.lt_version (hl : Locked l v t)
    (hw : ∀ m, secretExistsInternal l t = .ok true → readMeta json l t = .ok m → m.version < w.version) :
    v < w.version := by
  obtain ⟨hws, hwm, ho, ⟨data, hd⟩, m, hm, hmeta⟩ := hl
  have hlt := hw m (secretExistsInternal_of_file hws ho hd) (readMeta_of_render json hwm ho hmeta)
  exact UInt64.lt_of_le_of_lt hm hlt

lemma locked_run (hl : Locked l v h.tree) (c : Call) : Locked l v (c.run json l h).tree := by
  unfold Call.run
  split
  · exact hl
  · next p hp =>
    obtain ⟨created, hleft, hv⟩ := Call.progress_eq_some hp
    have hlt := hl.lt_version hv
    obtain ⟨hws, hwm, ho, ⟨data, hd⟩, m, hm, hmeta⟩ := hl
    refine ⟨hws, hwm, hleft.opens_of_opens ho, ?_, ?_⟩
    · dsimp only
      rw [hleft.share]
      split
      · exact ⟨_, rfl⟩
      · exact ⟨data, hd⟩
    · dsimp only
      rw [hleft.metadata]
      split
      · exact ⟨c.write.secretMeta created, UInt64.le_of_lt hlt, rfl⟩
      · exact ⟨m, hm, hmeta⟩

lemma locked_runCalls (json : JsonParser) (hl : Locked l v h.tree) (calls : List Call) :
    Locked l v (runCalls json l h calls).tree := by
  induction calls generalizing h with
  | nil => exact hl
  | cons c calls ih => exact ih (locked_run hl c)

lemma Locked.writePlan_error (hl : Locked l v t) (hw : w.version ≤ v) : ∃ e, writePlan json l w t = .error e := by
  cases hp : writePlan json l w t with
  | error e => exact ⟨e, rfl⟩
  | ok steps =>
    obtain ⟨_, _, _, hv⟩ := writePlan_eq_ok hp
    exact absurd (hl.lt_version hv) (UInt64.not_lt.mpr hw)

end

/-- Once the data of a version has been read, a write of that version or of an
earlier one is refused from then on, when the calls up to the reading settle. -/
theorem writeSecret_refused_after_read (json : JsonParser) (l : Location) (key data : Bytes)
    (t : FileTree) (before later : List Call) (v : UInt64) (w : Write)
    (hsettle : AllSettle json l key ⟨t, none⟩ before)
    (hread : readSecret l key (runCalls json l ⟨t, none⟩ before).tree = .ok data)
    (hversion : (runCalls json l ⟨t, none⟩ before).version = some v) (hw : w.version ≤ v) :
    ∃ e, writeSecret json l w (runCalls json l ⟨t, none⟩ (before ++ later)).tree =
      ((runCalls json l ⟨t, none⟩ (before ++ later)).tree, .error e) ∧
      writePlan json l w (runCalls json l ⟨t, none⟩ (before ++ later)).tree = .error e := by
  have hstart : Guarded l key ⟨t, none⟩ := nofun
  have hlocked := (guarded_runCalls hstart hsettle).locked hversion hread
  have happend : runCalls json l ⟨t, none⟩ (before ++ later) =
      runCalls json l (runCalls json l ⟨t, none⟩ before) later := List.foldl_append
  rw [happend]
  obtain ⟨e, he⟩ := (locked_runCalls json hlocked later).writePlan_error hw
  exact ⟨e, by rw [writeSecret, he], he⟩

def sampleCall (data : Bytes) (version : UInt64) (stop : Nat) : Call := ⟨sampleWrite data version, stop⟩

theorem writeSecret_refused_after_read_sample : ∃ e, writeSecret JsonParser.strict sample (sampleWrite [9] 1)
        (runCalls JsonParser.strict sample ⟨.empty, none⟩ ([sampleCall [1] 1 7] ++ [sampleCall [2] 2 5])).tree =
      ((runCalls JsonParser.strict sample ⟨.empty, none⟩
        ([sampleCall [1] 1 7] ++ [sampleCall [2] 2 5])).tree, .error e) ∧
      writePlan JsonParser.strict sample (sampleWrite [9] 1)
        (runCalls JsonParser.strict sample ⟨.empty, none⟩
          ([sampleCall [1] 1 7] ++ [sampleCall [2] 2 5])).tree = .error e :=
  writeSecret_refused_after_read JsonParser.strict sample [7] [1] .empty [sampleCall [1] 1 7]
    [sampleCall [2] 2 5] 1 (sampleWrite [9] 1) ⟨by decide +kernel, trivial⟩ (by decide +kernel)
    (by decide +kernel) (by decide)

def stoppedRun : History :=
  runCalls JsonParser.strict sample ⟨.empty, none⟩ [sampleCall [1] 1 7, sampleCall [3] 3 5]

/-- The data of version 3 is read, and then version 2 replaces it. -/
theorem rollback_after_stop : readSecret sample [7] stoppedRun.tree = .ok [3] ∧ stoppedRun.version = some 3 ∧
    (writeSecret JsonParser.strict sample (sampleWrite [2] 2) stoppedRun.tree).2 = .ok () ∧
    readSecret sample [7] (writeSecret JsonParser.strict sample (sampleWrite [2] 2) stoppedRun.tree).1 = .ok [2] := by
  have hstored : (writeSecret JsonParser.strict sample (sampleWrite [2] 2) stoppedRun.tree).2 =
    .ok () := by decide +kernel
  exact ⟨by decide +kernel, by decide +kernel, hstored, readSecret_writeSecret (w := sampleWrite [2] 2) hstored⟩

end Orama.Vault.Store
