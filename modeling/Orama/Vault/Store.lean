import Orama.Lib.Agreement
import Orama.Vault.Hmac
import Orama.Vault.Meta

namespace Orama.Vault.Store
open Lib

def maxSecretsPerIdentity : Nat := 1000
def maxSecretNameLen : Nat := 128
def maxSecretSize : Nat := 512 * 1024

def isValidNameChar (c : UInt8) : Bool :=
  (48 ≤ c && c ≤ 57) || (65 ≤ c && c ≤ 90) || (97 ≤ c && c ≤ 122) || c == 95 || c == 45

inductive VaultStoreError
  | identityRequired
  | secretNameRequired
  | secretNameTooLong
  | secretNameInvalid
  | secretDataRequired
  | secretDataTooLarge
  | secretLimitExceeded
  | integrityCheckFailed
  | versionConflict
  | notFound
  | ioError
  | panic
deriving DecidableEq, Repr

def orElse (e : VaultStoreError) : FsError → VaultStoreError
  | .failed => e
  | .panic => .panic

def validateSecretName (name : Bytes) : Except VaultStoreError Unit :=
  if name.length = 0 then .error .secretNameRequired
  else if name.length > maxSecretNameLen then .error .secretNameTooLong
  else if name.all isValidNameChar then .ok ()
  else .error .secretNameInvalid

def shareBin : Name := ascii "share.bin"
def checksumBin : Name := ascii "checksum.bin"
def metaJson : Name := ascii "meta.json"
def tmp (f : Name) : Name := f ++ ascii ".tmp"

structure Location where
  dataDir : Bytes
  identity : Bytes
  name : Bytes

namespace Location
variable (l : Location)

def vaultDir : Bytes := child (child l.dataDir (ascii "vaults")) l.identity
def secretDir : Bytes := child l.vaultDir l.name
def path (f : Name) : Bytes := child l.secretDir f

end Location

def readSecret (l : Location) (integrityKey : Bytes) (t : FileTree) : Except VaultStoreError Bytes :=
  match t.readFile (l.path shareBin) maxSecretSize with
  | .error e => .error (orElse .notFound e)
  | .ok shareData =>
    match t.readFile (l.path checksumBin) 32 with
    | .error e => .error (orElse .ioError e)
    | .ok checksumData =>
      if checksumData.length ≠ 32 then .error .integrityCheckFailed
      else if Hmac.verify integrityKey shareData checksumData then .ok shareData
      else .error .integrityCheckFailed

def readMeta (json : JsonParser) (l : Location) (t : FileTree) : Except VaultStoreError SecretMeta :=
  match t.readFile (l.path metaJson) 4096 with
  | .error e => .error (orElse .notFound e)
  | .ok metaData =>
    match json.parseMeta metaData with
    | none => .error .ioError
    | some m => .ok m

def deleteSecret (l : Location) (t : FileTree) : FileTree × Except VaultStoreError Unit :=
  match t.access l.secretDir with
  | .error e => (t, .error (orElse .notFound e))
  | .ok () =>
    match t.deleteTree l.secretDir with
    | (t', .error e) => (t', .error (orElse .ioError e))
    | (t', .ok ()) => (t', .ok ())

def secretExistsInternal (l : Location) (t : FileTree) : Except VaultStoreError Bool :=
  match t.access (l.path shareBin) with
  | .error .failed => .ok false
  | .error .panic => .error .panic
  | .ok () => .ok true

def countSecrets (l : Location) (t : FileTree) : Except VaultStoreError Nat :=
  match t.countEntries l.vaultDir with
  | .error .failed => .ok 0
  | .error .panic => .error .panic
  | .ok n => .ok n

structure Write where
  data : Bytes
  version : UInt64
  integrityKey : Bytes
  now : I128

def atomicWrite (f : Name) (data : Bytes) : List DirStep := [.write (tmp f) data, .move (tmp f) f]

def Write.secretMeta (w : Write) (existingCreatedNs : Option I128) : SecretMeta where
  version := w.version
  createdNs := existingCreatedNs.getD w.now
  updatedNs := w.now
  size := UInt64.ofNat w.data.length

def writeSecretInner (w : Write) (existingCreatedNs : Option I128) : List DirStep :=
  .makeDir :: (atomicWrite shareBin w.data ++ (atomicWrite checksumBin (Hmac.compute w.integrityKey w.data) ++
    atomicWrite metaJson (renderMeta (w.secretMeta existingCreatedNs))))

def createdNs (json : JsonParser) (l : Location) (t : FileTree) : Option I128 :=
  match readMeta json l t with
  | .error _ => none
  | .ok m => some m.createdNs

def writePlan (json : JsonParser) (l : Location) (w : Write) (t : FileTree) : Except VaultStoreError (List DirStep) :=
  if l.identity.length = 0 then .error .identityRequired
  else
    match validateSecretName l.name with
    | .error e => .error e
    | .ok () =>
      if w.data.length = 0 then .error .secretDataRequired
      else if w.data.length > maxSecretSize then .error .secretDataTooLarge
      else
        match secretExistsInternal l t with
        | .error e => .error e
        | .ok false =>
          match countSecrets l t with
          | .error e => .error e
          | .ok count =>
            if count ≥ maxSecretsPerIdentity then .error .secretLimitExceeded
            else .ok (writeSecretInner w none)
        | .ok true =>
          match readMeta json l t with
          | .error .notFound => .ok (writeSecretInner w none)
          | .error e => .error e
          | .ok existing =>
            if w.version ≤ existing.version then .error .versionConflict
            else .ok (writeSecretInner w (createdNs json l t))

def writeSecret (json : JsonParser) (l : Location) (w : Write) (t : FileTree) :
    FileTree × Except VaultStoreError Unit :=
  match writePlan json l w t with
  | .error e => (t, .error e)
  | .ok steps =>
    let p := advance (DirStep.run l.secretDir) steps t
    match p.error with
    | none => (p.state, .ok ())
    | some e => (p.state, .error (orElse .ioError e))

lemma isFileName_names : IsFileName shareBin ∧ IsFileName checksumBin ∧ IsFileName metaJson ∧
    IsFileName (tmp shareBin) ∧ IsFileName (tmp checksumBin) ∧ IsFileName (tmp metaJson) := by decide

variable {data key : Bytes} {t : FileTree}

lemma readSecret_eq_ok {l : Location} :
    readSecret l key t = .ok data ↔ t.readFile (l.path shareBin) maxSecretSize = .ok data ∧
    t.readFile (l.path checksumBin) 32 = .ok (Hmac.compute key data) := by
  unfold readSecret
  cases hs : t.readFile (l.path shareBin) maxSecretSize with
  | error e => exact ⟨nofun, fun h => nomatch h.1⟩
  | ok shareData =>
    dsimp only
    cases hc : t.readFile (l.path checksumBin) 32 with
    | error e => exact ⟨nofun, fun h => nomatch h.2⟩
    | ok checksumData =>
      dsimp only
      rw [Except.ok.injEq, Except.ok.injEq]
      split
      · next hlen =>
        refine ⟨nofun, fun h => absurd ?_ hlen⟩
        rw [h.2]
        exact Hmac.length_compute key data
      · split
        · next hv =>
          rw [Hmac.verify_iff] at hv
          rw [Except.ok.injEq]
          refine ⟨fun h => ⟨h, ?_⟩, fun h => h.1⟩
          rw [← hv, h]
        · next hv =>
          refine ⟨nofun, fun h => absurd (Hmac.verify_iff.mpr ?_) hv⟩
          rw [h.1, h.2]

open FileTree

lemma readSecret_iff {l : Location} :
    readSecret l key t = .ok data ↔ WellFormed (l.path shareBin) ∧ WellFormed (l.path checksumBin) ∧
    t.Opens l.secretDir ∧ t.files l.secretDir shareBin = some data ∧ data.length ≤ maxSecretSize ∧
    t.files l.secretDir checksumBin = some (Hmac.compute key data) := by
  obtain ⟨h1, h2, _⟩ := isFileName_names
  have hlen : (Hmac.compute key data).length ≤ 32 := (Hmac.length_compute key data).le
  rw [readSecret_eq_ok, Location.path, Location.path, readFile_child h1, readFile_child h2]
  constructor
  · rintro ⟨⟨hw, ho, hf, hl⟩, hw', _, hf', _⟩
    exact ⟨hw, hw', ho, hf, hl, hf'⟩
  · rintro ⟨hw, hw', ho, hf, hl, hf'⟩
    exact ⟨⟨hw, ho, hf, hl⟩, hw', ho, hf', hlen⟩

lemma readMeta_of_render (json : JsonParser) {l : Location} {m : SecretMeta} (hw : WellFormed (l.path metaJson))
    (ho : t.Opens l.secretDir) (hf : t.files l.secretDir metaJson = some (renderMeta m)) :
    readMeta json l t = .ok m := by
  obtain ⟨_, _, h3, _⟩ := isFileName_names
  have hlen : (renderMeta m).length ≤ 4096 := (length_renderMeta m).trans (by decide)
  have hr : t.readFile (l.path metaJson) 4096 = .ok (renderMeta m) :=
    (readFile_child h3).mpr ⟨hw, ho, hf, hlen⟩
  rw [readMeta, hr]
  dsimp only
  rw [json.parseMeta_render]

lemma secretExistsInternal_of_file {l : Location} (hw : WellFormed (l.path shareBin)) (ho : t.Opens l.secretDir)
    (hf : t.files l.secretDir shareBin = some data) : secretExistsInternal l t = .ok true := by
  obtain ⟨h1, _⟩ := isFileName_names
  have hp : place (l.path shareBin) = place l.secretDir ++ [shareBin] := place_child h1 _
  have ha : t.access (l.path shareBin) = .ok () := by
    rw [access_eq_ok, hp]
    refine ⟨(resolve_child h1).mpr ⟨hw, ho, rfl⟩, ?_⟩
    rw [fileAt_eq_some.mp hf]
    rfl
  rw [secretExistsInternal, ha]

end Orama.Vault.Store
