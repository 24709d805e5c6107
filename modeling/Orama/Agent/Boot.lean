import Orama.Agent.Luks
import Orama.Lib.Steps
import Orama.Lib.Strings

namespace Orama.Agent
open Lib List

def enrolledFlag : Bytes := ascii "/opt/orama/.orama/enrolled"
def dataMountPoint : Bytes := ascii "/opt/orama/.orama"

structure Partition where
  key : Bytes
  files : Option (List Bytes)
deriving DecidableEq

/-- What the agent's boots read and write: the files of the root file system
and the data device, which outlive a restart, and whether the device is open
and mounted, which do not. -/
structure Machine where
  root : List Bytes
  luks : Option Partition
  opened : Bool
  mounted : Bool
deriving DecidableEq

def Machine.restart (m : Machine) : Machine := { m with opened := false, mounted := false }

def Machine.onData (m : Machine) (path : Bytes) : Bool :=
  m.mounted && (dataMountPoint ++ ascii "/").isPrefixOf path

def Machine.exists (m : Machine) (path : Bytes) : Bool :=
  if m.onData path then ((m.luks.bind Partition.files).getD []).contains path else m.root.contains path

def Machine.writeFile (m : Machine) (path : Bytes) : Machine :=
  if m.onData path then
    { m with luks := m.luks.map fun p => { p with files := p.files.map (path :: ·) } }
  else { m with root := path :: m.root }

def isEnrolled (m : Machine) : Bool := m.exists enrolledFlag

inductive Action where
  | enroll
  | configureWireGuard
  | wireGuardUp
  | generateLUKSKey
  | luksFormat
  | cryptsetupOpen
  | mkfs
  | mkdirMountPoint
  | mount
  | distributeKeyShares
  | mkdirFlag
  | writeFlag
  | unlockKey
  | markBootSuccessful
  | startServices
deriving DecidableEq

inductive Stop where
  | error (text : Bytes)
  | restart
deriving DecidableEq

def Stop.wrap (text : Bytes) : Stop → Stop
  | .error e => .error (text ++ e)
  | .restart => .restart

structure UnlockRequest where
  post : Bool
  key : Option Bytes

def unlock (req : UnlockRequest) : Except (Nat × Bytes) Bytes :=
  if !req.post then .error (405, ascii "method not allowed")
  else
    match req.key with
    | none => .error (400, ascii "invalid JSON")
    | some key =>
      match Base64.decode key with
      | none => .error (400, ascii "invalid base64 key")
      | some keyBytes =>
        if keyBytes.length ≠ 32 then .error (400, ascii "key must be 32 bytes") else .ok keyBytes

/-- The server goes on after a request that it refuses; without a key and
without an error of its own it waits until the next restart. -/
def waitForGenesisUnlock (requests : List UnlockRequest) (serverError : Option Bytes) : Except Stop Bytes :=
  match requests.findSome? fun req => (unlock req).toOption with
  | some key => .ok key
  | none =>
    match serverError with
    | some e => .error (.error (ascii "genesis unlock server error: " ++ e))
    | none => .error .restart

structure PeerInfo where
  wgIP : Peer
  nodeID : Bytes
deriving DecidableEq

structure Result where
  nodeID : Bytes
  wireGuardConfig : Bytes
  clusterSecret : Bytes
  peers : List PeerInfo
deriving DecidableEq

structure World where
  stops : Action → Option Stop
  result : Result
  newKey : Bytes
  rand : RandRead
  identity : Except Bytes Bytes
  client : VaultClient
  files : AgentFiles
  clients : Nat → VaultClient
  unlocks : List UnlockRequest
  unlockError : Option Bytes

inductive Mode where
  | enrollment
  | standard
deriving DecidableEq

def formatAndEncrypt : List Action := [.luksFormat, .cryptsetupOpen, .mkfs, .mkdirMountPoint, .mount]

def decryptAndMount : List Action := [.cryptsetupOpen, .mkdirMountPoint, .mount]

def enrollUntilFlag : List Action :=
  [.enroll, .configureWireGuard, .wireGuardUp, .generateLUKSKey] ++ formatAndEncrypt ++
    [.distributeKeyShares, .mkdirFlag, .writeFlag]

def enrollmentBoot : List Action := enrollUntilFlag ++ [.startServices]

def standardBoot : List Action :=
  [.wireGuardUp, .unlockKey] ++ decryptAndMount ++ [.markBootSuccessful, .startServices]

def Mode.steps : Mode → List Action
  | .enrollment => enrollmentBoot
  | .standard => standardBoot

def Mode.onPartition : Mode → Bytes
  | .enrollment => ascii "failed to format LUKS partition: "
  | .standard => ascii "failed to mount data partition: "

def Mode.text (mode : Mode) : Action → Bytes
  | .enroll => ascii "enrollment failed: "
  | .configureWireGuard => ascii "failed to configure WireGuard: "
  | .wireGuardUp => ascii "failed to bring up WireGuard: "
  | .generateLUKSKey => ascii "failed to generate LUKS key: failed to read random bytes: "
  | .luksFormat => mode.onPartition ++ ascii "luksFormat failed: "
  | .cryptsetupOpen => mode.onPartition ++ ascii "cryptsetup open failed: "
  | .mkfs => mode.onPartition ++ ascii "mkfs.ext4 failed: "
  | .mkdirMountPoint => mode.onPartition ++ ascii "failed to create mount point: "
  | .mount => mode.onPartition ++ ascii "mount failed: "
  | .distributeKeyShares => ascii "failed to distribute key shares: "
  | .mkdirFlag => ascii "failed to create enrolled flag dir: "
  | .writeFlag => ascii "failed to write enrolled flag: "
  | .unlockKey => ascii "genesis unlock failed: "
  | .markBootSuccessful => ascii "WARNING: failed to mark boot successful: "
  | .startServices => ascii "failed to start services: "

def World.unlocked (w : World) : Except Stop Bytes :=
  match fetchAndReconstruct w.files w.clients with
  | .ok (key, _) => .ok key
  | .error _ => waitForGenesisUnlock w.unlocks w.unlockError

def World.distributed (w : World) : Option Bytes :=
  (distributeKeyShares w.client w.rand w.identity w.newKey (w.result.peers.map PeerInfo.wgIP) w.result.nodeID).1

def World.key (w : World) : Mode → Bytes
  | .enrollment => w.newKey
  | .standard => w.unlocked.toOption.getD []

def refused (w : World) (mode : Mode) (m : Machine) : Action → Option Stop
  | .cryptsetupOpen =>
    match m.luks with
    | none => some (.error (ascii "exit status 1"))
    | some p => if p.key = w.key mode then none else some (.error (ascii "exit status 2"))
  | .mount =>
    if m.opened && (m.luks.bind Partition.files).isSome then none else some (.error (ascii "exit status 32"))
  | .distributeKeyShares => w.distributed.map .error
  | .unlockKey =>
    match w.unlocked with
    | .error stop => some stop
    | .ok _ => none
  | _ => none

def effect (w : World) (mode : Mode) (m : Machine) : Action → Machine
  | .luksFormat => { m with luks := some ⟨w.key mode, none⟩ }
  | .cryptsetupOpen => { m with opened := true }
  | .mkfs => { m with luks := m.luks.map fun p => { p with files := some [] } }
  | .mount => { m with mounted := true }
  | .writeFlag => m.writeFile enrolledFlag
  | _ => m

def act (w : World) (mode : Mode) (a : Action) (m : Machine) : Except Stop Machine :=
  match w.stops a with
  | some stop =>
    -- The boot counter only gives a warning.
    if a = .markBootSuccessful ∧ stop ≠ .restart then .ok m else .error (stop.wrap (mode.text a))
  | none =>
    match refused w mode m a with
    | some stop => .error (stop.wrap (mode.text a))
    | none => .ok (effect w mode m a)

structure BootReport where
  mode : Mode
  progress : Progress Machine Stop

def run (w : World) (m : Machine) : BootReport :=
  let mode := if isEnrolled m then Mode.standard else Mode.enrollment
  ⟨mode, advance (act w mode) mode.steps m⟩

def BootReport.attempted (r : BootReport) : List Action := r.mode.steps.take (r.progress.done + 1)

def BootReport.performed (r : BootReport) : List Action := r.mode.steps.take r.progress.done

def boots : Machine → List World → List BootReport
  | _, [] => []
  | m, w :: history => run w m.restart :: boots (run w m.restart).progress.state history

def NeverWiped (m : Machine) (history : List World) : Prop :=
  (boots m history).Pairwise fun earlier later =>
    .writeFlag ∈ earlier.performed → later.mode = .standard ∧ .luksFormat ∉ later.attempted

def World.Enrolls (w : World) : Prop := (∀ a ∈ enrollUntilFlag, w.stops a = none) ∧ w.distributed = none

variable {w : World} {mode : Mode} {a : Action} {m m' : Machine}

lemma act_ok (h : act w mode a m = .ok m') :
    (a = .markBootSuccessful ∧ m' = m) ∨ (w.stops a = none ∧ refused w mode m a = none ∧ m' = effect w mode m a) := by
  rw [act] at h
  cases hs : w.stops a with
  | some stop => grind
  | none => grind

lemma root_writeFile (m : Machine) (hm : m.mounted) : (m.writeFile enrolledFlag).root = m.root := by
  have h : m.onData enrolledFlag := by
    rw [Machine.onData, hm]
    decide
  rw [Machine.writeFile, if_pos h]

lemma mounted_writeFile (m : Machine) (path : Bytes) : (m.writeFile path).mounted = m.mounted := by
  rw [Machine.writeFile]
  split <;> rfl

lemma mounted_act (h : act w mode a m = .ok m') (hm : m.mounted ∨ a = .mount) : m'.mounted := by
  rcases act_ok h with ⟨rfl, rfl⟩ | ⟨_, _, rfl⟩
  · exact hm.resolve_right (by decide)
  · cases a with
    | writeFlag =>
      rw [effect, mounted_writeFile]
      exact hm.resolve_right (by decide)
    | mount => rfl
    | _ => exact hm.resolve_right (by decide)

lemma root_act (h : act w mode a m = .ok m') (hm : a = .writeFlag → m.mounted) : m'.root = m.root := by
  rcases act_ok h with ⟨rfl, rfl⟩ | ⟨_, _, rfl⟩
  · rfl
  · cases a with
    | writeFlag => exact root_writeFile m (hm rfl)
    | _ => rfl

lemma root_enrollment (w : World) (m : Machine) :
    (advance (act w .enrollment) enrollmentBoot m).state.root = m.root := by
  -- The mount is the ninth step and the flag the twelfth.
  refine (advance_rule (fun i (m' : Machine) => m'.root = m.root ∧ (9 ≤ i → m'.mounted)) ⟨rfl, by simp⟩ ?_).1
  intro i a u u' hi hu hact
  have hlt : i < 13 := (List.getElem?_eq_some_iff.1 hi).1
  refine ⟨?_, ?_⟩
  · rw [root_act hact, hu.1]
    rintro rfl
    apply hu.2
    interval_cases i <;> first | omega | exact absurd hi (by decide)
  · intro h9
    apply mounted_act hact
    rcases Nat.lt_or_ge i 9 with hlt9 | hge9
    · have h8 : i = 8 := by omega
      subst h8
      exact .inr (Option.some.inj hi).symm
    · exact .inl (hu.2 hge9)

lemma root_standard (w : World) (m : Machine) : (advance (act w .standard) standardBoot m).state.root = m.root := by
  refine advance_rule (fun _ (m' : Machine) => m'.root = m.root) rfl ?_
  intro i a u u' hi hu hact
  rw [root_act hact, hu]
  rintro rfl
  exact absurd (mem_of_getElem? hi) (by decide)

lemma root_run (w : World) (m : Machine) : (run w m).progress.state.root = m.root := by
  rw [run]
  dsimp only
  split
  · exact root_standard w m
  · exact root_enrollment w m

lemma isEnrolled_restart (m : Machine) : isEnrolled m.restart = m.root.contains enrolledFlag := rfl

lemma mode_run (w : World) (m : Machine) :
    (run w m.restart).mode = if m.root.contains enrolledFlag then .standard else .enrollment := by
  rw [run, isEnrolled_restart]

variable {r : BootReport}

lemma standard_spares (h : r.mode = .standard) : .writeFlag ∉ r.performed ∧ .luksFormat ∉ r.attempted := by
  rw [BootReport.performed, BootReport.attempted, h]
  have hnot : .writeFlag ∉ standardBoot ∧ .luksFormat ∉ standardBoot := by decide
  exact ⟨fun hmem => hnot.1 (mem_of_mem_take hmem), fun hmem => hnot.2 (mem_of_mem_take hmem)⟩

lemma writeFlag_mem_take (k : Nat) : .writeFlag ∈ enrollmentBoot.take k ↔ 12 ≤ k := by
  refine ⟨fun h => ?_, fun h => ?_⟩
  · by_contra hlt
    have hsub : enrollmentBoot.take k <+: enrollmentBoot.take 11 := take_prefix_take_left (by omega)
    exact absurd (hsub.subset h) (by decide)
  · have hsub : enrollmentBoot.take 12 <+: enrollmentBoot.take k := take_prefix_take_left h
    exact hsub.subset (by decide)

lemma le_done_enrollment (w : World) (m : Machine) :
    12 ≤ (advance (act w .enrollment) enrollmentBoot m).done ↔ w.Enrolls := by
  refine ⟨fun h => ?_, fun ⟨hstops, hdist⟩ => ?_⟩
  · have hpassed : ∀ a ∈ enrollmentBoot.take (advance (act w .enrollment) enrollmentBoot m).done,
        w.stops a = none ∧ (a = .distributeKeyShares → w.distributed = none) := by
      refine advance_rule (fun i (_ : Machine) => ∀ a ∈ enrollmentBoot.take i,
        w.stops a = none ∧ (a = .distributeKeyShares → w.distributed = none)) (by simp) ?_
      intro i a u u' hi hu hact b hb
      rw [take_add_one, hi] at hb
      rcases mem_append.1 hb with hb | hb
      · exact hu b hb
      · obtain rfl : b = a := by simpa using hb
        rcases act_ok hact with ⟨rfl, _⟩ | ⟨hs, hr, _⟩
        · exact absurd (mem_of_getElem? hi) (by decide)
        · refine ⟨hs, ?_⟩
          rintro rfl
          simpa [refused] using hr
    have hsub : enrollmentBoot.take 12 <+: enrollmentBoot.take (advance (act w .enrollment) enrollmentBoot m).done :=
      take_prefix_take_left h
    exact ⟨fun a ha => (hpassed a (hsub.subset ha)).1, (hpassed _ (hsub.subset (by decide))).2 rfl⟩
  · simp only [enrollUntilFlag, formatAndEncrypt, cons_append, nil_append, forall_mem_cons] at hstops
    simp [enrollmentBoot, enrollUntilFlag, formatAndEncrypt, advance, act, hstops, refused, effect, World.key, hdist]

lemma writeFlag_mem_performed (w : World) (m : Machine) :
    .writeFlag ∈ (run w m.restart).performed ↔ enrolledFlag ∉ m.root ∧ w.Enrolls := by
  by_cases hflag : m.root.contains enrolledFlag
  · grind [mode_run, standard_spares]
  · have hrun : run w m.restart = ⟨.enrollment, advance (act w .enrollment) enrollmentBoot m.restart⟩ := by
      rw [run, isEnrolled_restart, if_neg hflag]
      rfl
    have hmem : enrolledFlag ∉ m.root := by simpa using hflag
    rw [hrun, BootReport.performed]
    exact (writeFlag_mem_take _).trans ((le_done_enrollment w _).trans (and_iff_right hmem).symm)

lemma root_of_mem_boots {history : List World} (hr : r ∈ boots m history) :
    ∃ w ∈ history, ∃ m' : Machine, m'.root = m.root ∧ r = run w m'.restart := by
  induction history generalizing m with
  | nil => simp [boots] at hr
  | cons w history ih =>
    rcases mem_cons.1 hr with rfl | hr
    · exact ⟨w, by simp, m, rfl, rfl⟩
    · obtain ⟨v, hv, m', hroot, rfl⟩ := ih hr
      exact ⟨v, by simp [hv], m', hroot.trans (root_run w _), rfl⟩

lemma neverWiped_of_mem (history : List World) (h : enrolledFlag ∈ m.root) : NeverWiped m history := by
  refine pairwise_of_forall_mem_list ?_
  intro earlier hearlier later _ hwrites
  obtain ⟨w, _, m', hroot, rfl⟩ := root_of_mem_boots hearlier
  rw [writeFlag_mem_performed, hroot] at hwrites
  exact absurd h hwrites.1

lemma neverWiped_cons_iff (h : enrolledFlag ∉ m.root) (w : World) (history : List World) :
    NeverWiped m (w :: history) ↔ (history ≠ [] → ¬ w.Enrolls) ∧
    NeverWiped (run w m.restart).progress.state history := by
  rw [NeverWiped, boots, pairwise_cons]
  refine and_congr ?_ Iff.rfl
  have hwrites := writeFlag_mem_performed w m
  refine ⟨fun hlater hne henrolls => ?_, fun hnot later hlater hflag => ?_⟩
  · -- The next boot does not see the flag.
    obtain ⟨v, rest, rfl⟩ := exists_cons_of_ne_nil hne
    have hstandard := (hlater _ mem_cons_self (hwrites.2 ⟨h, henrolls⟩)).1
    have hroot : enrolledFlag ∉ (run w m.restart).progress.state.root := by
      rw [root_run]
      exact h
    rw [mode_run, if_neg (by simpa using hroot)] at hstandard
    cases hstandard
  · grind [boots]

/-- After a boot that has written the flag every later one is a standard boot and formats nothing, exactly when the
flag is on the root file system or no boot but the last one enrolls. -/
theorem neverWiped_iff (m : Machine) (history : List World) :
    NeverWiped m history ↔ enrolledFlag ∈ m.root ∨ ∀ w ∈ history.dropLast, ¬ w.Enrolls := by
  by_cases hflag : enrolledFlag ∈ m.root
  · exact iff_of_true (neverWiped_of_mem history hflag) (.inl hflag)
  · rw [or_iff_right hflag]
    induction history generalizing m with
    | nil => simp [NeverWiped, boots]
    | cons w history ih =>
      have hroot : enrolledFlag ∉ (run w m.restart).progress.state.root := by
        rw [root_run]
        exact hflag
      rw [neverWiped_cons_iff hflag, ih _ hroot]
      cases history with
      | nil => simp
      | cons v rest => simp

def smooth : World where
  stops _ := none
  result := ⟨ascii "node-1", [], [], [⟨ascii "10.0.0.2", ascii "node-2"⟩, ⟨ascii "10.0.0.3", ascii "node-3"⟩]⟩
  newKey := List.replicate 32 7
  rand _ := .ok fun _ => 1
  identity := .ok (ascii "identity")
  client := ⟨fun _ _ => .ok [], fun _ _ _ _ _ => none, fun _ _ _ => .error []⟩
  files := ⟨.error [], .error [], .error []⟩
  clients _ := ⟨fun _ _ => .error [], fun _ _ _ _ _ => none, fun _ _ _ => .error []⟩
  unlocks := []
  unlockError := none

def blank : Machine := ⟨[], none, false, false⟩

/-- The flag lies on the partition that is mounted later, so the second boot does not find it and formats again. -/
theorem reboot_formats_again : (boots blank [smooth, smooth]).map (fun r => (r.mode, r.performed.contains .writeFlag,
    r.attempted.contains .luksFormat)) = [(.enrollment, true, true), (.enrollment, true, true)] ∧
    ¬ NeverWiped blank [smooth, smooth] := by
  refine ⟨by decide +kernel, fun h => ?_⟩
  have henrolls : smooth.Enrolls := ⟨fun _ _ => rfl, by decide +kernel⟩
  exact ((neverWiped_cons_iff (by simp [blank]) smooth [smooth]).1 h).1 (by simp) henrolls

end Orama.Agent
