import Orama.Vault.Store

namespace Orama.Vault.Store
open Lib List

attribute [local simp] atomicWrite writeSecretInner

lemma named_atomicWrite {f : Name} (hf : IsFileName f) (ht : IsFileName (tmp f)) (hne : tmp f ≠ f)
    (data : Bytes) : ∀ s ∈ atomicWrite f data, s.Named := by
  simpa [DirStep.Named] using ⟨ht, hf, hne⟩

lemma named_writeSecretInner (w : Write) (created : Option I128) : ∀ s ∈ writeSecretInner w created, s.Named := by
  obtain ⟨h1, h2, h3, h4, h5, h6⟩ := isFileName_names
  rw [writeSecretInner, forall_mem_cons, forall_mem_append, forall_mem_append]
  exact ⟨trivial, named_atomicWrite h1 h4 (by decide) _, named_atomicWrite h2 h5 (by decide) _,
    named_atomicWrite h3 h6 (by decide) _⟩

lemma length_writeSecretInner (w : Write) (created : Option I128) : (writeSecretInner w created).length = 7 := rfl

open DirStep

lemma files_take (w : Write) (created : Option I128) (fs : Files) {i : Nat} (hi : i ≤ 7) :
    let fs' := ((writeSecretInner w created).take i).foldl (fun fs s => s.apply fs) fs
    fs' shareBin = (if 3 ≤ i then some w.data else fs shareBin) ∧
      fs' checksumBin = (if 5 ≤ i then some (Hmac.compute w.integrityKey w.data) else fs checksumBin) ∧
      fs' metaJson = if 7 ≤ i then some (renderMeta (w.secretMeta created)) else fs metaJson := by
  have hne : shareBin ≠ checksumBin ∧ shareBin ≠ metaJson ∧ checksumBin ≠ metaJson := by decide
  have htmp : ∀ f ∈ [shareBin, checksumBin, metaJson], ∀ g ∈ [shareBin, checksumBin, metaJson], f ≠ tmp g := by decide
  simp only [forall_mem_cons, not_mem_nil, false_imp_iff, implies_true, and_true] at htmp
  interval_cases i <;>
    simp [apply, hne.1, hne.2.1, hne.2.2, hne.1.symm, hne.2.1.symm, hne.2.2.symm, htmp]

variable {json : JsonParser} {l : Location} {w : Write} {t : FileTree}

lemma writePlan_eq_ok {steps : List DirStep} (h : writePlan json l w t = .ok steps) :
    validateSecretName l.name = .ok () ∧ w.data.length ≤ maxSecretSize ∧
    (∃ created, steps = writeSecretInner w created) ∧
    ∀ m, secretExistsInternal l t = .ok true → readMeta json l t = .ok m → m.version < w.version := by
  unfold writePlan at h
  split at h
  · cases h
  · split at h
    · cases h
    · next hname =>
      split at h
      · cases h
      · split at h
        · cases h
        · next hlen =>
          refine ⟨hname, Nat.not_lt.mp hlen, ?_⟩
          split at h
          · cases h
          · grind
          · grind

lemma writePlan_update {m : SecretMeta} (hid : l.identity.length ≠ 0) (hname : validateSecretName l.name = .ok ())
    (hne : w.data.length ≠ 0) (hlen : w.data.length ≤ maxSecretSize) (hx : secretExistsInternal l t = .ok true)
    (hm : readMeta json l t = .ok m) (hv : m.version < w.version) :
    writePlan json l w t = .ok (writeSecretInner w (some m.createdNs)) := by
  grind [writePlan, createdNs]

def stopped (l : Location) (steps : List DirStep) (stop : Nat) (t : FileTree) : Progress FileTree FsError :=
  advance (DirStep.run l.secretDir) (steps.take stop) t

structure Left (l : Location) (w : Write) (created : Option I128) (t : FileTree)
    (p : Progress FileTree FsError) : Prop where
  done_le : p.done ≤ 7
  opens : 0 < p.done → p.state.Opens l.secretDir
  get_dir : ∀ q, t.get q = some .dir → p.state.get q = some .dir
  fileAt : ∀ q, q.dropLast ≠ place l.secretDir → p.state.fileAt q = t.fileAt q
  get : ∀ q ∉ visits l.secretDir, q.dropLast ≠ place l.secretDir → p.state.get q = t.get q
  share : p.state.files l.secretDir shareBin =
    if 3 ≤ p.done then some w.data else t.files l.secretDir shareBin
  checksum : p.state.files l.secretDir checksumBin =
    if 5 ≤ p.done then some (Hmac.compute w.integrityKey w.data) else t.files l.secretDir checksumBin
  metadata : p.state.files l.secretDir metaJson =
    if 7 ≤ p.done then some (renderMeta (w.secretMeta created)) else t.files l.secretDir metaJson
  wellFormed_share : 3 ≤ p.done → WellFormed (l.path shareBin)
  wellFormed_checksum : 5 ≤ p.done → WellFormed (l.path checksumBin)
  wellFormed_meta : 7 ≤ p.done → WellFormed (l.path metaJson)

lemma left_stopped (l : Location) (w : Write) (created : Option I128) (stop : Nat) (t : FileTree) :
    Left l w created t (stopped l (writeSecretInner w created) stop t) := by
  have hnamed : ∀ s ∈ (writeSecretInner w created).take stop, s.Named :=
    fun s hs => named_writeSecretInner w created s (mem_of_mem_take hs)
  have hr := reached_advance l.secretDir hnamed t
  have hdone := done_advance_le (run l.secretDir) ((writeSecretInner w created).take stop) t
  rw [← stopped] at hr hdone
  rw [length_take, length_writeSecretInner] at hdone
  have htake : ((writeSecretInner w created).take stop).take
      (stopped l (writeSecretInner w created) stop t).done =
      (writeSecretInner w created).take (stopped l (writeSecretInner w created) stop t).done := by
    rw [take_take, min_eq_left (by omega)]
  have hle : (stopped l (writeSecretInner w created) stop t).done ≤ 7 := by omega
  obtain ⟨hshare, hchecksum, hmeta⟩ := files_take w created (t.files l.secretDir) hle
  have hfiles := hr.files
  have hwf := hr.wellFormed
  rw [htake] at hfiles hwf
  have hmoved : ∀ f i, i ≤ (stopped l (writeSecretInner w created) stop t).done →
      move (tmp f) f ∈ (writeSecretInner w created).take i → WellFormed (l.path f) :=
    fun f i hi hm => hwf _ (take_subset_take_left _ hi hm) f (by simp [names])
  refine ⟨hle, hr.opens, hr.get_dir, hr.fileAt, hr.get, ?_, ?_, ?_, fun h => ?_, fun h => ?_, fun h => ?_⟩
  · rw [hfiles, hshare]
  · rw [hfiles, hchecksum]
  · rw [hfiles, hmeta]
  · exact hmoved shareBin 3 h (by simp)
  · exact hmoved checksumBin 5 h (by simp)
  · exact hmoved metaJson 7 h (by simp)

lemma Left.opens_of_opens {created : Option I128} {p : Progress FileTree FsError} (hl : Left l w created t p)
    (ho : t.Opens l.secretDir) : p.state.Opens l.secretDir := fun q hq => hl.get_dir q (ho q hq)

lemma writeSecret_cases (json : JsonParser) (l : Location) (w : Write) (t : FileTree) :
    (∃ e, writePlan json l w t = .error e ∧ writeSecret json l w t = (t, .error e)) ∨
    ∃ created p, Left l w created t p ∧ (writeSecret json l w t).1 = p.state ∧
    ((writeSecret json l w t).2 = .ok () ∧ p.done = 7 ∨
    ∃ e, (writeSecret json l w t).2 = .error (orElse .ioError e)) ∧
    w.data.length ≤ maxSecretSize ∧ validateSecretName l.name = .ok () := by
  unfold writeSecret
  cases hp : writePlan json l w t with
  | error e => exact .inl ⟨e, rfl, rfl⟩
  | ok steps =>
    obtain ⟨hname, hlen, ⟨created, rfl⟩, _⟩ := writePlan_eq_ok hp
    have hl := left_stopped l w created 7 t
    refine .inr ⟨created, _, hl, ?_⟩
    have hall : stopped l (writeSecretInner w created) 7 t =
        advance (run l.secretDir) (writeSecretInner w created) t := rfl
    rw [hall]
    dsimp only
    cases he : (advance (run l.secretDir) (writeSecretInner w created) t).error with
    | none => exact ⟨rfl, .inl ⟨rfl, error_advance_eq_none.mp he⟩, hlen, hname⟩
    | some e => exact ⟨rfl, .inr ⟨e, rfl⟩, hlen, hname⟩

lemma readSecret_writeSecret (h : (writeSecret json l w t).2 = .ok ()) :
    readSecret l w.integrityKey (writeSecret json l w t).1 = .ok w.data := by
  obtain ⟨e, _, he⟩ | ⟨created, p, hl, hs, hdone, hlen, _⟩ := writeSecret_cases json l w t
  · rw [he] at h
    cases h
  · have h7 : p.done = 7 := by
      grind
    rw [hs, readSecret_iff]
    refine ⟨hl.wellFormed_share (by omega), hl.wellFormed_checksum (by omega), hl.opens (by omega), ?_, hlen, ?_⟩
    · rw [hl.share, if_pos (by omega)]
    · rw [hl.checksum, if_pos (by omega)]

end Orama.Vault.Store
