import Orama.Vault.Write

namespace Orama.Vault.Store
open Lib

lemma readSecret_left {l : Location} {w : Write} {d : Bytes} {t : FileTree} {created : Option I128}
    {p : Progress FileTree FsError} (hl : Left l w created t p)
    (hread : readSecret l w.integrityKey t = .ok d) (hlen : w.data.length ≤ maxSecretSize) (x : Bytes) :
    readSecret l w.integrityKey p.state = .ok x ↔ (if 3 ≤ p.done then w.data else d) = x ∧
        Hmac.compute w.integrityKey (if 5 ≤ p.done then w.data else d) = Hmac.compute w.integrityKey x := by
  obtain ⟨hws, hwc, ho, hshare, hdlen, hcheck⟩ := readSecret_iff.mp hread
  have ho' : p.state.Opens l.secretDir := fun q hq => hl.get_dir q (ho q hq)
  have hshare' : p.state.files l.secretDir shareBin = some (if 3 ≤ p.done then w.data else d) := by
    rw [hl.share, hshare]
    split <;> rfl
  have hcheck' : p.state.files l.secretDir checksumBin =
      some (Hmac.compute w.integrityKey (if 5 ≤ p.done then w.data else d)) := by
    rw [hl.checksum, hcheck]
    split <;> rfl
  have hxlen : (if 3 ≤ p.done then w.data else d).length ≤ maxSecretSize := by
    split
    · exact hlen
    · exact hdlen
  rw [readSecret_iff, hshare', hcheck', Option.some.injEq, Option.some.injEq]
  constructor
  · rintro ⟨_, _, _, hx, _, hc⟩
    exact ⟨hx, hc⟩
  · rintro ⟨hx, hc⟩
    exact ⟨hws, hwc, ho', hx, hx ▸ hxlen, hc⟩

/-- After a write that stops midway the secret reads as the old data or as the
new data, unless the write stopped between the renaming of the share and the
renaming of its checksum. -/
theorem readSecret_stopped_iff (json : JsonParser) (l : Location) (w : Write) (d : Bytes) (t : FileTree)
    (steps : List DirStep) (stop : Nat) (hread : readSecret l w.integrityKey t = .ok d)
    (hplan : writePlan json l w t = .ok steps) :
    (readSecret l w.integrityKey (stopped l steps stop t).state = .ok d ∨
      readSecret l w.integrityKey (stopped l steps stop t).state = .ok w.data) ↔
      ((stopped l steps stop t).done ≠ 3 ∧ (stopped l steps stop t).done ≠ 4 ∨
      Hmac.compute w.integrityKey w.data = Hmac.compute w.integrityKey d) := by
  obtain ⟨_, hlen, ⟨created, rfl⟩, _⟩ := writePlan_eq_ok hplan
  have hl := left_stopped l w created stop t
  generalize stopped l (writeSecretInner w created) stop t = p at hl ⊢
  rw [readSecret_left hl hread hlen, readSecret_left hl hread hlen]
  by_cases h5 : 5 ≤ p.done
  · have h3 : 3 ≤ p.done := by omega
    simp only [if_pos h3, if_pos h5, and_self, or_true, true_iff]
    exact .inl ⟨by omega, by omega⟩
  · by_cases h3 : 3 ≤ p.done
    · simp only [if_pos h3, if_neg h5, true_and, and_true]
      constructor
      · rintro (hd | hd)
        · exact .inr (by rw [hd])
        · exact .inr hd.symm
      · rintro (hd | hd)
        · omega
        · exact .inr hd.symm
    · simp only [if_neg h3, if_neg h5, and_self, true_or, true_iff]
      exact .inl ⟨by omega, by omega⟩

def sample : Location := ⟨ascii "/data", ascii "alice", ascii "key"⟩

def sampleWrite (data : Bytes) (version : UInt64) : Write := ⟨data, version, [7], epoch⟩

def sampleTree : FileTree := (writeSecret JsonParser.strict sample (sampleWrite [1] 1) .empty).1

def sampleSteps : List DirStep := writeSecretInner (sampleWrite [2] 2) (some epoch)

lemma readSecret_sampleTree : readSecret sample [7] sampleTree = .ok [1] :=
  readSecret_writeSecret (w := sampleWrite [1] 1) (by decide +kernel)

lemma writePlan_sampleTree : writePlan JsonParser.strict sample (sampleWrite [2] 2) sampleTree = .ok sampleSteps :=
  writePlan_update (m := ⟨1, epoch, epoch, 1⟩) (by decide) (by decide) (by decide)
    (by decide) (by decide +kernel) (by decide +kernel) (by decide)

theorem readSecret_stopped_iff_sample : readSecret sample [7] sampleTree = .ok [1] ∧
    writePlan JsonParser.strict sample (sampleWrite [2] 2) sampleTree = .ok sampleSteps ∧
    ((readSecret sample [7] (stopped sample sampleSteps 6 sampleTree).state = .ok [1] ∨
    readSecret sample [7] (stopped sample sampleSteps 6 sampleTree).state = .ok [2]) ↔
    ((stopped sample sampleSteps 6 sampleTree).done ≠ 3 ∧ (stopped sample sampleSteps 6 sampleTree).done ≠ 4 ∨
    Hmac.compute [7] [2] = Hmac.compute [7] [1])) :=
  ⟨readSecret_sampleTree, writePlan_sampleTree,
    readSecret_stopped_iff JsonParser.strict sample (sampleWrite [2] 2) [1] sampleTree sampleSteps 6
      readSecret_sampleTree writePlan_sampleTree⟩

/-- The new share stands next to the checksum of the old one. -/
theorem stopped_between_renames : readSecret sample [7] sampleTree = .ok [1] ∧
    writePlan JsonParser.strict sample (sampleWrite [2] 2) sampleTree = .ok sampleSteps ∧
    (stopped sample sampleSteps 3 sampleTree).done = 3 ∧
    readSecret sample [7] (stopped sample sampleSteps 3 sampleTree).state = .error .integrityCheckFailed :=
  ⟨readSecret_sampleTree, writePlan_sampleTree, by decide +kernel, by decide +kernel⟩

end Orama.Vault.Store
