import Orama.Lib.Directory
import Orama.Lib.Sha256
import Orama.Lib.Strings

namespace Orama.Agent.Update
open Lib List

def partitionA : Bytes := ascii "/dev/sda1"
def partitionB : Bytes := ascii "/dev/sda2"

structure VersionInfo where
  version : Bytes
  sha256 : Bytes
  signature : Bytes

def signerAddress : Bytes := ascii "0xb5d8a496c8b2412990d7D467E17727fdF5954afC"

def toLower (s : Bytes) : Bytes := s.map fun c => if 65 ≤ c ∧ c ≤ 90 then c + 32 else c

abbrev Recover := Bytes → Bytes → UInt8 → Except Bytes Bytes

def verifySignature (recover : Recover) (hashHex signatureHex : Bytes) : Option Bytes :=
  match hexToBytes (trimPrefix signatureHex (ascii "0x")) with
  | none => some (ascii "invalid signature hex")
  | some sigBytes =>
    if sigBytes.length ≠ 65 then
      some (ascii "invalid signature length: got " ++ decimal sigBytes.length ++ ascii ", expected 65")
    else
      let v := sigBytes.getD 64 0
      let v := if 27 ≤ v then v - 27 else v
      if 1 < v then some (ascii "invalid signature recovery id: " ++ decimal v.toNat)
      else
        match recover hashHex (sigBytes.take 64) v with
        | .error e => some (ascii "public key recovery failed: " ++ e)
        | .ok recovered =>
          let expected := toLower (trimPrefix signerAddress (ascii "0x"))
          let got := toLower (trimPrefix recovered (ascii "0x"))
          if got ≠ expected then
            some (ascii "update signed by 0x" ++ got ++ ascii ", expected 0x" ++ expected)
          else none

inductive Effect where
  | file (place : Path) (content : Bytes)
  | image (device content : Bytes) (complete : Bool)
  | oneshot (entry : Bytes)
deriving DecidableEq

/-- What one check for updates meets: the answer of the server, the image that
it sends, the errors of the single steps (with the number of bytes written until
then), the command line of the kernel and the partition that it runs from. -/
structure Case where
  check : Except Bytes (Nat × Option VersionInfo)
  currentVersion : Bytes
  fetch : Except Bytes Bytes
  tempName : Except Bytes Name
  copyError : Option (Bytes × Nat)
  openError : Option Bytes
  recover : Recover
  cmdline : Option Bytes
  ddError : Option (Bytes × Nat)
  tree : FileTree
  mkdirError : Option Bytes
  writeError : Option (Bytes × Nat)
  bootctlError : Option Bytes
  running : Bytes

def downloadDir : Path := [ascii "tmp"]
def entriesDir : Bytes := ascii "/boot/loader/entries"

def download (w : Case) : List Effect × Except Bytes Bytes :=
  match w.fetch with
  | .error e => ([], .error e)
  | .ok image =>
    match w.tempName with
    | .error e => ([], .error e)
    | .ok name =>
      match w.copyError with
      | some (e, n) => ([.file (downloadDir ++ [name]) (image.take n)], .error e)
      | none => ([.file (downloadDir ++ [name]) image], .ok image)

def verifyChecksum (w : Case) (image expected : Bytes) : Option Bytes :=
  match w.openError with
  | some e => some e
  | none =>
    let got := bytesToHex (Sha256.hash image)
    if got ≠ expected then some (ascii "checksum mismatch: got " ++ got ++ ascii ", expected " ++ expected) else none

def getStandbyPartition : Option Bytes → Bytes
  | none => partitionB
  | some cmdline => if contains cmdline (ascii "root=" ++ partitionA) then partitionB else partitionA

def getCurrentPartition : Option Bytes → Bytes
  | none => partitionA
  | some cmdline => if contains cmdline (ascii "root=" ++ partitionB) then partitionB else partitionA

def entryName (version : Bytes) : Bytes := ascii "orama-" ++ version
def entryFile (version : Bytes) : Name := entryName version ++ ascii "+3.conf"

def entryContent (standby version : Bytes) : Bytes :=
  ascii "title   OramaOS " ++ version ++ ascii "\nlinux   /vmlinuz\noptions root=" ++ standby ++ ascii " ro quiet\n"

def entryTarget (w : Case) (standby version : Bytes) : Except Bytes Path :=
  match w.mkdirError with
  | some e => .error e
  | none =>
    match w.tree.makePath entriesDir with
    | .error _ => .error (ascii "mkdir failed")
    | .ok t =>
      match t.resolve (child entriesDir (entryFile version)) with
      | .error _ => .error (ascii "open failed")
      | .ok p =>
        match t.insert p (.file (entryContent standby version)) with
        | none => .error (ascii "open failed")
        | some _ => .ok p

def updateBootEntry (w : Case) (standby version : Bytes) : List Effect × Option Bytes :=
  match entryTarget w standby version with
  | .error e => ([], some e)
  | .ok p =>
    match w.writeError with
    | some (e, n) => ([.file p ((entryContent standby version).take n)], some e)
    | none =>
      let written := Effect.file p (entryContent standby version)
      match w.bootctlError with
      | some e => ([written], some (ascii "bootctl set-oneshot failed: " ++ e))
      | none => ([written, .oneshot (entryName version ++ ascii "+3")], none)

def writeImage (w : Case) (image device : Bytes) : Effect × Option Bytes :=
  match w.ddError with
  | some (e, n) => (.image device (image.take n) false, some (ascii "dd failed: " ++ e))
  | none => (.image device image true, none)

def install (w : Case) (info : VersionInfo) (image : Bytes) : List Effect × Option Bytes :=
  let standby := getStandbyPartition w.cmdline
  let written := writeImage w image standby
  match written.2 with
  | some e => ([written.1], some (ascii "failed to write image: " ++ e))
  | none =>
    let entry := updateBootEntry w standby info.version
    (written.1 :: entry.1, entry.2.map fun e => ascii "failed to update boot entry: " ++ e)

def available (w : Case) : Except (Option Bytes) VersionInfo :=
  match w.check with
  | .error e => .error (some (ascii "failed to check for updates: " ++ e))
  | .ok (status, body) =>
    if status = 204 then .error none
    else if status ≠ 200 then .error (some (ascii "update server returned " ++ decimal status))
    else
      match body with
      | none => .error (some (ascii "failed to parse update info"))
      | some info => if info.version = w.currentVersion then .error none else .ok info

def verify (w : Case) (info : VersionInfo) (image : Bytes) : Option Bytes :=
  match verifyChecksum w image info.sha256 with
  | some e => some (ascii "checksum verification failed: " ++ e)
  | none =>
    if info.signature = [] then some (ascii "update has no signature — refusing to install")
    else (verifySignature w.recover info.sha256 info.signature).map fun e =>
      ascii "signature verification failed: " ++ e

def checkAndApply (w : Case) : List Effect × Option Bytes :=
  match available w with
  | .error e => ([], e)
  | .ok info =>
    let downloaded := download w
    match downloaded.2 with
    | .error e => (downloaded.1, some (ascii "download failed: " ++ e))
    | .ok image =>
      match verify w info image with
      | some e => (downloaded.1, some e)
      | none =>
        let installed := install w info image
        (downloaded.1 ++ installed.1, installed.2)

def accepted (w : Case) : Option (VersionInfo × Bytes) :=
  match available w, (download w).2 with
  | .ok info, .ok image => if (verify w info image).isNone then some (info, image) else none
  | _, _ => none

def Allowed (p : Path) : Prop := p.dropLast = downloadDir ∨ p.dropLast = place entriesDir

def BootChange : Effect → Prop
  | .file p _ => p.dropLast ≠ downloadDir
  | .image _ _ _ => False
  | .oneshot _ => True

/-- An update keeps off the running partition and writes no file but the
download and the boot entry; the boot entry comes after a complete image whose
hash is signed. -/
structure Safe (signed : Bytes → Prop) (running : Bytes) (effects : List Effect) : Prop where
  standby : ∀ device content complete, .image device content complete ∈ effects → device ≠ running
  inside : ∀ p content, .file p content ∈ effects → Allowed p
  covered : ∀ before e after, effects = before ++ e :: after → BootChange e →
    ∃ device image, .image device image true ∈ before ∧ signed (bytesToHex (Sha256.hash image))

variable {w : Case} {e : Effect}

lemma mem_download (h : e ∈ (download w).1) : ∃ name content, e = .file (downloadDir ++ [name]) content := by
  grind [mem_singleton, download]

lemma not_bootChange_of_mem_download (h : e ∈ (download w).1) : ¬ BootChange e := by
  obtain ⟨name, content, rfl⟩ := mem_download h
  exact fun hchange => hchange dropLast_concat

variable {info : VersionInfo} {image : Bytes}

lemma effects_of_accepted (h : accepted w = some (info, image)) :
    (checkAndApply w).1 = (download w).1 ++ (install w info image).1 ∧ verify w info image = none := by
  rw [accepted] at h
  split at h
  · grind [checkAndApply]
  · cases h

lemma mem_checkAndApply (he : e ∈ (checkAndApply w).1) :
    e ∈ (download w).1 ∨ ∃ info image, accepted w = some (info, image) ∧ e ∈ (install w info image).1 := by
  rw [checkAndApply] at he
  split at he
  · cases he
  · grind [accepted]

variable {signed : Bytes → Prop}

lemma signed_of_verify (hsound : ∀ hash signature, verifySignature w.recover hash signature = none → signed hash)
    (h : verify w info image = none) : signed (bytesToHex (Sha256.hash image)) := by
  rw [verify] at h
  split at h
  · cases h
  · grind [Option.map_eq_none_iff, verifyChecksum]

lemma prefix_of_notMem {α : Type} {start before after : List α} {e : α} (h : start <+: before ++ e :: after)
    (he : e ∉ start) : start <+: before := by
  rcases List.prefix_or_prefix_of_prefix h (prefix_append before _) with h' | ⟨rest, rfl⟩
  · exact h'
  · cases rest with
    | nil => exact ⟨[], by simp⟩
    | cons c rest => grind [prefix_append_right_inj]

lemma install_eq (w : Case) (info : VersionInfo) (image : Bytes) : (install w info image).1 = match w.ddError with
      | some (_, n) => [.image (getStandbyPartition w.cmdline) (image.take n) false]
      | none => .image (getStandbyPartition w.cmdline) image true ::
          (updateBootEntry w (getStandbyPartition w.cmdline) info.version).1 := by
  grind [install, writeImage]

variable {standby version : Bytes}

lemma mem_updateBootEntry (h : e ∈ (updateBootEntry w standby version).1) :
    (∃ p content, entryTarget w standby version = .ok p ∧ e = .file p content) ∨ ∃ entry, e = .oneshot entry := by
  rw [updateBootEntry] at h
  split at h
  · cases h
  · grind

lemma exists_mem_updateBootEntry {p : Path} (h : entryTarget w standby version = .ok p) :
    ∃ content, .file p content ∈ (updateBootEntry w standby version).1 := by
  grind [updateBootEntry]

lemma mem_install (h : e ∈ (install w info image).1) :
    (∃ content complete, e = .image (getStandbyPartition w.cmdline) content complete) ∨
    w.ddError = none ∧ e ∈ (updateBootEntry w (getStandbyPartition w.cmdline) info.version).1 := by
  grind [install_eq]

lemma covered_checkAndApply
    (hsound : ∀ hash signature, verifySignature w.recover hash signature = none → signed hash)
    {before after : List Effect} (h : (checkAndApply w).1 = before ++ e :: after) (he : BootChange e) :
    ∃ device image, .image device image true ∈ before ∧ signed (bytesToHex (Sha256.hash image)) := by
  have hmem : e ∈ (checkAndApply w).1 := by simp [h]
  rcases mem_checkAndApply hmem with hdown | ⟨info, image, hacc, hinstall⟩
  · exact absurd he (not_bootChange_of_mem_download hdown)
  · obtain ⟨heffects, hverify⟩ := effects_of_accepted hacc
    rw [heffects] at h
    rcases mem_install hinstall with ⟨content, complete, rfl⟩ | ⟨hdd, _⟩
    · exact he.elim
    · have hstart : (download w).1 ++ [.image (getStandbyPartition w.cmdline) image true] <+: before ++ e :: after := by
        rw [← h, install_eq, hdd]
        exact ⟨(updateBootEntry w (getStandbyPartition w.cmdline) info.version).1, by simp⟩
      have hnot : e ∉ (download w).1 ++ [.image (getStandbyPartition w.cmdline) image true] := by
        intro hin
        rcases mem_append.1 hin with hin | hin
        · exact not_bootChange_of_mem_download hin he
        · rw [mem_singleton.1 hin] at he
          exact he
      have hbefore : .image (getStandbyPartition w.cmdline) image true ∈ before :=
        (prefix_of_notMem hstart hnot).subset (mem_append_right _ (mem_singleton_self _))
      exact ⟨_, image, hbefore, signed_of_verify hsound hverify⟩

def sampleImage : Bytes := ascii "image"
def sampleHash : Bytes := bytesToHex (Sha256.hash sampleImage)

def sampleRecover : Recover := fun hash _ _ =>
  if hash = sampleHash then .ok signerAddress else .error (ascii "could not recover public key from signature")

lemma sampleRecover_sound (hash signature : Bytes) (h : verifySignature sampleRecover hash signature = none) :
    hash = sampleHash := by
  by_contra hne
  have hrecover (rs : Bytes) (v : UInt8) :
      sampleRecover hash rs v = .error (ascii "could not recover public key from signature") := if_neg hne
  rw [verifySignature] at h
  split at h
  · cases h
  · grind

def sampleCase (version cmdline : Bytes) (tree : FileTree) : Case where
  check := .ok (200, some ⟨version, sampleHash, bytesToHex (List.replicate 65 0)⟩)
  currentVersion := ascii "1"
  fetch := .ok sampleImage
  tempName := .ok (ascii "orama-update-1.img")
  copyError := none
  openError := none
  recover := sampleRecover
  cmdline := some cmdline
  ddError := none
  tree := tree
  mkdirError := none
  writeError := none
  bootctlError := none
  running := partitionA

def crowdedTree : FileTree :=
  .ofDirs [[ascii "boot", ascii "loader", ascii "entries", ascii "orama-x"], [ascii "etc"]]

end Orama.Agent.Update
