import Orama.Namespace.Recovery
import Orama.Namespace.Refill

namespace Orama.Namespace.Recovery
open Lib List Interleaving
open Option
open Replacement
section

def Engaged (deadNodes : List Bytes) (k : Bytes) (count : Nat) (nodes : List ClusterNode) (call : Call) : Phase → Prop
  | .replacing r _ => r.loss.cluster.id = k → r.loss.dead = call.subject ∧ Good deadNodes count nodes r
  | .repairing (.locking cluster) _ => cluster.id = k → cluster.rqliteNodeCount = count
  | .repairing (.counting cluster) _ => cluster.id = k → cluster.rqliteNodeCount = count ∧ Full count nodes
  | .repairing (.releasing id _) _ => id = k → Full count nodes
  | .repairing r _ => r.holds ≠ some k
  | _ => True

def Waiting (k : Bytes) : Phase → Prop
  | .start => True
  | .finding => True
  | .loading refs clusters => k ∈ refs ∨ ∃ c ∈ clusters, c.id = k
  | .recovering cluster rest => ∃ c ∈ cluster :: rest, c.id = k
  | .replacing r rest => r.loss.cluster.id = k ∨ ∃ c ∈ rest, c.id = k
  | _ => False

def free (s : Managed) (clusterID : Bytes) : Bool :=
  !s.provisioning.contains (recoveryKey clusterID) && !s.provisioning.contains (repairKey clusterID)

def orderly {ι : Type} (deadNodes : List Bytes) (c : Config Managed ι Phase) (e : Replacement.Event ι) : Bool :=
  e.fault.isNone && match c.phase e.request with
    | .recovering cluster _ => free c.shared cluster.id
    | .repairing (.locking cluster) _ => free c.shared cluster.id
    | .replacing r _ => proceeds deadNodes e c.shared.db r
    | _ => true

variable {ι : Type} {baseDomain k : Bytes} {deadNodes : List Bytes} {count : Nat} {nodes nodes' : List ClusterNode}
  {call : Call} {e : Replacement.Event ι} {s : Managed} {phase : Phase}

lemma Engaged.of_not_holds (h : Engaged deadNodes k count nodes call phase) (hk : phase.holds ≠ some k) :
    Engaged deadNodes k count nodes' call phase := by
  cases phase with
  | replacing r rest => exact fun hid => absurd (congrArg some hid) hk
  | repairing r rest =>
    cases r with
    | counting cluster => exact fun hid => absurd (congrArg some hid) hk
    | releasing id error => exact fun hid => absurd (congrArg some hid) hk
    | _ => exact h
  | _ => trivial

lemma Known.rqliteNodeCount (h : Known k count s.db) {cluster : NamespaceCluster} (hcluster : cluster ∈ s.db.clusters.rows)
    (hid : cluster.id = k) : cluster.rqliteNodeCount = count := by
  obtain ⟨c, hc, hcid, hcount, -⟩ := h
  grind [Unique.eq_of_conflicts, NamespaceCluster.conflicts]

lemma engaged_recover (clusters : List NamespaceCluster) : Engaged deadNodes k count nodes call (recover clusters) := by
  cases clusters <;> trivial

lemma engaged_load (refs : List Bytes) (clusters : List NamespaceCluster) :
    Engaged deadNodes k count nodes call (load refs clusters) := by
  cases refs with
  | nil => exact engaged_recover clusters
  | cons ref refs => trivial

lemma engaged_repair (names : List Bytes) : Engaged deadNodes k count nodes call (repair names) := by
  cases names with
  | nil => trivial
  | cons name rest => exact some_ne_none k |>.symm

variable {r : Repair.Phase} {id : Bytes}

lemma engaged_of_holds (h : r.holds = some id) (hne : id ≠ k) (rest : List Bytes) :
    Engaged deadNodes k count nodes call (.repairing r rest) := by
  have hk : r.holds ≠ some k := fun hr => hne (some.inj (h.symm.trans hr))
  cases r with
  | locking cluster => cases h
  | counting cluster => exact fun hid => absurd (congrArg some hid) hk
  | releasing id error => exact fun hid => absurd (congrArg some hid) hk
  | _ => exact hk

lemma engaged_returned (error : Option Bytes) (rest : List Bytes) :
    Engaged deadNodes k count nodes call (.repairing (.returned error) rest) :=
  (some_ne_none k).symm

lemma engaged_statement {rest : List Bytes} (h : Engaged deadNodes k count nodes call (.repairing r rest))
    (hk : r.holds ≠ some k) (hknown : Known k count s.db)
    (hfull : (Repair.statement baseDomain e s r).2.holds = some k → Full count nodes) :
    Engaged deadNodes k count nodes call (.repairing (Repair.statement baseDomain e s r).2 rest) := by
  rcases Repair.statement_keys baseDomain e s r with
    ⟨-, -, ⟨error, hnext⟩ | ⟨_, cluster, hfind, hnext⟩⟩ | ⟨cluster, rfl, -, heq⟩ | ⟨id, hid, hnext, -⟩ | ⟨id, error, rfl, heq⟩
  · rw [hnext]
    exact engaged_returned error rest
  · rw [hnext]
    exact fun hid => hknown.rqliteNodeCount (mem_of_find?_eq_some hfind) hid
  · rw [heq] at hfull ⊢
    exact fun hid => ⟨h hid, hfull (congrArg some hid)⟩
  · grind [engaged_of_holds]
  · rw [heq]
    exact engaged_returned error rest

lemma Engaged.step_of_not_holds (h : Engaged deadNodes k count nodes call phase) (hk : phase.holds ≠ some k)
    (hknown : Known k count s.db)
    (hfull : (statement baseDomain call e s phase).2.holds = some k → Full count nodes) :
    Engaged deadNodes k count nodes call (statement baseDomain call e s phase).2 := by
  cases phase with
  | start =>
    rw [statement]
    cases call.kind with
    | dead => trivial
    | recovered =>
      dsimp only
      split <;> trivial
    | repair => exact engaged_repair [call.subject]
  | finding =>
    rw [statement]
    dsimp only
    split
    · trivial
    · exact engaged_load _ _
  | loading refs clusters =>
    cases refs with
    | nil => exact engaged_recover clusters
    | cons ref refs => exact engaged_load _ _
  | recovering cluster rest =>
    rw [statement] at hfull ⊢
    by_cases hbusy : s.provisioning.contains (recoveryKey cluster.id)
    · rw [if_pos hbusy]
      exact engaged_recover rest
    · rw [if_neg hbusy] at hfull ⊢
      exact fun hid => ⟨rfl, (hfull (congrArg some hid)).short _⟩
  | replacing r rest =>
    rw [statement]
    split
    · exact engaged_recover rest
    · intro hid
      rw [statement_loss] at hid
      exact absurd (congrArg some hid) hk
  | activating assigned => cases assigned <;> trivial
  | findingDegraded =>
    rw [statement]
    dsimp only
    split
    · trivial
    · exact engaged_repair _
  | repairing r rest =>
    by_cases hr : ∃ error, r = .returned error
    · obtain ⟨error, rfl⟩ := hr
      exact engaged_repair rest
    · rw [statement_repairing (fun error h => hr ⟨error, h⟩)] at hfull ⊢
      exact engaged_statement h hk hknown hfull
  | done => trivial

lemma Engaged.step_of_holds (h : Engaged deadNodes k count (s.db.getClusterNodes k) call phase)
    (hk : phase.holds = some k) (hfault : e.fault = none)
    (hproceeds : ∀ r rest, phase = .replacing r rest → proceeds deadNodes e s.db r) :
    Engaged deadNodes k count ((statement baseDomain call e s phase).1.db.getClusterNodes k) call
        (statement baseDomain call e s phase).2 ∧ ((statement baseDomain call e s phase).2.holds ≠ some k →
        Full count ((statement baseDomain call e s phase).1.db.getClusterNodes k)) := by
  cases phase with
  | replacing r rest =>
    have hid : r.loss.cluster.id = k := some.inj hk
    obtain ⟨hdead, hgood⟩ := h hid
    rw [statement]
    split
    · next hreturned =>
      refine ⟨engaged_recover rest, fun _ => ?_⟩
      cases r with
      | replaced r => exact hgood.1
      | failed l error => exact hgood.elim
      | _ => cases hreturned
    · constructor
      · intro _
        grind [statement_loss, Good.step]
      grind [statement_loss, Phase.holds]
  | repairing r rest =>
    have hr : r.holds = some k := hk
    cases r with
    | counting cluster =>
      obtain ⟨hcount, hfull⟩ := h (some.inj hr)
      have hid : cluster.id = k := some.inj hr
      have hnone : Repair.missingCount cluster (s.db.getClusterNodes cluster.id) = 0 := by
        rw [hid]
        exact hfull.missingCount hcount
      have heq : Repair.statement baseDomain e s (.counting cluster) = (s, .releasing cluster.id none) := by
        rw [Repair.statement, hfault]
        exact if_pos hnone
      rw [statement_repairing (fun error h => by cases h), heq]
      exact ⟨fun _ => hfull, fun _ => hfull⟩
    | releasing id error =>
      have hfull : Full count (s.db.getClusterNodes k) := h (some.inj hr)
      exact ⟨engaged_returned error rest, fun _ => hfull⟩
    | lookingUp name => cases hr
    | locking cluster => cases hr
    | returned error => cases hr
    | _ => exact absurd hr h
  | _ => cases hk

section
variable {clusters : List NamespaceCluster}

lemma waiting_recover (h : ∃ c ∈ clusters, c.id = k) : Waiting k (recover clusters) := by
  cases clusters with
  | nil =>
    obtain ⟨c, hc, -⟩ := h
    cases hc
  | cons cluster rest => exact h

lemma waiting_load {refs : List Bytes} (h : k ∈ refs ∨ ∃ c ∈ clusters, c.id = k) :
    Waiting k (load refs clusters) := by
  cases refs with
  | nil => exact waiting_recover (h.resolve_left not_mem_nil)
  | cons ref refs => exact h

lemma Known.mem_getClustersByNodeID (h : Known k count s.db) {d : Bytes}
    (hd : d ∈ (s.db.getClusterNodes k).map ClusterNode.nodeID) : k ∈ getClustersByNodeID s.db d := by
  obtain ⟨c, hc, rfl, -, hstatus⟩ := h
  obtain ⟨x, hx, hnode⟩ := mem_map.1 hd
  obtain ⟨hx, hcluster⟩ := Database.mem_getClusterNodes.1 hx
  refine mem_map.2 ⟨c, mem_filter.2 ⟨hc, ?_⟩, rfl⟩
  grind

lemma Known.getCluster (h : Known k count s.db) : ∃ c, getCluster s.db k = some c ∧ c.id = k := by
  obtain ⟨c, hc, hid, -⟩ := h
  grind [find?_isSome, isSome_iff_exists, Namespace.getCluster]

lemma Waiting.step (h : Waiting k phase) (hdead : call.kind = .dead) (hfault : e.fault = none)
    (hknown : Known k count s.db)
    (hfree : ∀ cluster rest, phase = .recovering cluster rest → free s cluster.id)
    (hengaged : Engaged deadNodes k count (s.db.getClusterNodes k) call phase)
    (hmem : call.subject ∈ (s.db.getClusterNodes k).map ClusterNode.nodeID) :
    Waiting k (statement baseDomain call e s phase).2 := by
  cases phase with
  | start =>
    rw [statement, hdead]
    trivial
  | finding =>
    rw [statement, hfault]
    exact waiting_load (.inl (hknown.mem_getClustersByNodeID hmem))
  | loading refs clusters =>
    cases refs with
    | nil => exact waiting_recover (h.resolve_left not_mem_nil)
    | cons ref refs =>
      rw [statement, hfault]
      apply waiting_load
      rcases h with hk | ⟨c, hc, hid⟩
      all_goals grind [Known.getCluster]
  | recovering cluster rest =>
    have hnot : s.provisioning.contains (recoveryKey cluster.id) = false := by
      grind [free]
    rw [statement, if_neg (by simpa using hnot)]
    obtain ⟨c, hc, hid⟩ := h
    rcases mem_cons.1 hc with rfl | hc
    · exact .inl hid
    · exact .inr ⟨c, hc, hid⟩
  | replacing r rest =>
    rw [statement]
    split
    · next hreturned =>
      apply waiting_recover
      refine h.resolve_left fun hid => ?_
      obtain ⟨hsubject, hgood⟩ := hengaged hid
      cases r with
      | replaced r => exact hgood.2 (hsubject ▸ hmem)
      | failed l error => exact hgood
      | _ => cases hreturned
    · rw [Waiting, statement_loss]
      exact h
  | _ => exact h.elim

end

lemma Engaged.mem_of_mem (h : Engaged deadNodes k count (s.db.getClusterNodes k) call phase) {d : Bytes}
    (hd : d ∈ deadNodes)
    (hmem : d ∈ ((statement baseDomain call e s phase).1.db.getClusterNodes k).map ClusterNode.nodeID) :
    d ∈ (s.db.getClusterNodes k).map ClusterNode.nodeID := by
  by_cases hk : phase.holds = some k
  · cases phase with
    | replacing r rest =>
      obtain ⟨-, hgood⟩ := h (some.inj hk)
      grind [Good.mem_of_mem, statement]
    | repairing r rest =>
      have hr : r.holds = some k := hk
      rw [statement_repairing (fun error heq => by simp [heq, Repair.Phase.holds] at hr)] at hmem
      rcases Repair.statement_effect baseDomain e s r with ⟨hsame, -⟩ | ⟨_, _, _, _, rfl, -⟩ | ⟨id, heq⟩
      · rwa [Database.getClusterNodes_congr k hsame] at hmem
      · exact absurd hr h
      · rwa [heq] at hmem
    | _ => cases hk
  · rwa [getClusterNodes_statement_of_ne hk] at hmem

variable {a b : Bytes}

lemma recoveryKey_inj (h : recoveryKey a = recoveryKey b) : a = b := append_cancel_left h

lemma repairKey_inj (h : repairKey a = repairKey b) : a = b := append_cancel_left h

lemma recoveryKey_ne_repairKey (a b : Bytes) : recoveryKey a ≠ repairKey b := by
  intro h
  have hthird := congrArg (List.take 3) h
  rw [recoveryKey, repairKey, take_append_of_le_length (by decide), take_append_of_le_length (by decide)] at hthird
  exact absurd hthird (by decide)

lemma mem_erase_key {keys : List Bytes} {key : Bytes} (hne : id ≠ k)
    (hkey : key = recoveryKey id ∨ key = repairKey id) (h : recoveryKey k ∈ keys ∨ repairKey k ∈ keys) :
    recoveryKey k ∈ keys.erase key ∨ repairKey k ∈ keys.erase key := by
  grind [recoveryKey_inj, recoveryKey_ne_repairKey, repairKey_inj]

lemma keys_statement (hk : phase.holds ≠ some k)
    (h : recoveryKey k ∈ s.provisioning ∨ repairKey k ∈ s.provisioning) :
    recoveryKey k ∈ (statement baseDomain call e s phase).1.provisioning ∨
      repairKey k ∈ (statement baseDomain call e s phase).1.provisioning := by
  grind [statement_keys, mem_erase_key]

lemma holds_statement (hnext : (statement baseDomain call e s phase).2.holds = some k) :
    (phase.holds = some k ∧ (statement baseDomain call e s phase).1.provisioning = s.provisioning) ∨
    (((∃ cluster rest, phase = .recovering cluster rest ∧ cluster.id = k) ∨
    ∃ cluster rest, phase = .repairing (.locking cluster) rest ∧ cluster.id = k) ∧
    (recoveryKey k ∈ (statement baseDomain call e s phase).1.provisioning ∨
    repairKey k ∈ (statement baseDomain call e s phase).1.provisioning)) := by
  rcases statement_keys baseDomain call e s phase with
    ⟨-, hnone, -⟩ | ⟨cluster, rest, rfl, heq⟩ | ⟨cluster, rest, rfl, heq⟩ | ⟨id, hid, hheld, hsame⟩ | ⟨_, _, -, hnone, -⟩
  · rw [hnone] at hnext
    cases hnext
  · rw [heq] at hnext ⊢
    obtain rfl : cluster.id = k := some.inj hnext
    grind
  · rw [heq] at hnext ⊢
    obtain rfl : cluster.id = k := some.inj hnext
    grind
  all_goals grind

structure Steady (calls : ι → Call) (deadNodes : List Bytes) (k : Bytes) (count : Nat) (c : Config Managed ι Phase) :
    Prop where
  known : Known k count c.shared.db
  single : ∀ i j, (c.phase i).holds = some k → (c.phase j).holds = some k → i = j
  locked : ∀ i, (c.phase i).holds = some k →
    recoveryKey k ∈ c.shared.provisioning ∨ repairKey k ∈ c.shared.provisioning
  idle : (∀ i, (c.phase i).holds ≠ some k) → Full count (c.shared.db.getClusterNodes k)
  engaged : ∀ i, Engaged deadNodes k count (c.shared.db.getClusterNodes k) (calls i) (c.phase i)
  waiting : ∀ i, (calls i).kind = .dead → (calls i).subject ∈ deadNodes →
    (calls i).subject ∈ (c.shared.db.getClusterNodes k).map ClusterNode.nodeID → Waiting k (c.phase i)

section
variable {c : Config Managed ι Phase}

section
variable (h : orderly deadNodes c e = true)
include h

lemma orderly_fault : e.fault = none := by
  rw [orderly, Bool.and_eq_true] at h
  simpa using h.1

lemma orderly_proceeds {r : Replacement.Phase} {rest : List NamespaceCluster}
    (hphase : c.phase e.request = .replacing r rest) : proceeds deadNodes e c.shared.db r := by
  rw [orderly, hphase, Bool.and_eq_true] at h
  exact h.2

lemma orderly_free {cluster : NamespaceCluster} (hphase : (∃ rest, c.phase e.request = .recovering cluster rest) ∨
      ∃ rest, c.phase e.request = .repairing (.locking cluster) rest) : free c.shared cluster.id := by
  grind [orderly]

end

variable {request : ι → Call}

lemma Steady.not_holds_of_free (h : Steady request deadNodes k count c) (hfree : free c.shared k) (i : ι) :
    (c.phase i).holds ≠ some k := by
  intro hi
  rw [free, Bool.and_eq_true] at hfree
  rcases h.locked i hi with hkey | hkey
  · simp [hkey] at hfree
  · simp [hkey] at hfree

lemma Steady.not_holds_of_taken (h : Steady request deadNodes k count c) (hguard : orderly deadNodes c e)
    (hbefore : (c.phase e.request).holds ≠ some k)
    (hafter : (statement baseDomain (request e.request) e c.shared (c.phase e.request)).2.holds = some k) (i : ι) :
    (c.phase i).holds ≠ some k := by
  grind [holds_statement, not_holds_of_free, orderly_free]

lemma steady_initial (request : ι → Call) (deadNodes : List Bytes) (s : Managed) (hknown : Known k count s.db)
    (hfull : Full count (s.db.getClusterNodes k)) : Steady request deadNodes k count (initial s) where
  known := hknown
  single i j hi := by cases hi
  locked i hi := by cases hi
  idle _ := hfull
  engaged _ := trivial
  waiting _ _ _ _ := trivial

variable [DecidableEq ι]

lemma step_other {j : ι} (hj : j ≠ e.request) : ((calls baseDomain request).step c e).phase j = c.phase j :=
  phase_step_of_ne hj

lemma step_own : ((calls baseDomain request).step c e).phase e.request =
    (statement baseDomain (request e.request) e c.shared (c.phase e.request)).2 :=
  phase_step_self (calls baseDomain request) c e

lemma step_shared : ((calls baseDomain request).step c e).shared =
    (statement baseDomain (request e.request) e c.shared (c.phase e.request)).1 := rfl

lemma Steady.single_step (h : Steady request deadNodes k count c) (hguard : orderly deadNodes c e) (i j : ι)
    (hi : (((calls baseDomain request).step c e).phase i).holds = some k)
    (hj : (((calls baseDomain request).step c e).phase j).holds = some k) : i = j := by
  by_cases hbefore : (c.phase e.request).holds = some k
  · have hown : ∀ m, (((calls baseDomain request).step c e).phase m).holds = some k → m = e.request := by
      intro m hm
      by_contra hne
      rw [step_other hne] at hm
      exact hne (h.single m e.request hm hbefore)
    rw [hown i hi, hown j hj]
  · by_cases hafter : (statement baseDomain (request e.request) e c.shared (c.phase e.request)).2.holds = some k
    · have hown : ∀ m, (((calls baseDomain request).step c e).phase m).holds = some k → m = e.request := by
        grind [step_other, not_holds_of_taken]
      rw [hown i hi, hown j hj]
    · have hold : ∀ m, (((calls baseDomain request).step c e).phase m).holds = some k → (c.phase m).holds = some k := by
        intro m hm
        by_cases hne : m = e.request
        all_goals grind [step_own, step_other]
      exact h.single i j (hold i hi) (hold j hj)

lemma Steady.locked_step (h : Steady request deadNodes k count c) (i : ι)
    (hi : (((calls baseDomain request).step c e).phase i).holds = some k) :
    recoveryKey k ∈ ((calls baseDomain request).step c e).shared.provisioning ∨
      repairKey k ∈ ((calls baseDomain request).step c e).shared.provisioning := by
  rw [step_shared]
  by_cases hown : i = e.request
  · subst hown
    rw [step_own] at hi
    rcases holds_statement hi with ⟨hheld, hsame⟩ | ⟨-, hkeys⟩
    · rw [hsame]
      exact h.locked e.request hheld
    · exact hkeys
  · rw [step_other hown] at hi
    refine keys_statement (fun hheld => hown (h.single i e.request hi hheld)) (h.locked i hi)

section
variable (h : Steady request deadNodes k count c) (hguard : orderly deadNodes c e = true)
include h hguard

lemma Steady.idle_step (hidle : ∀ i, (((calls baseDomain request).step c e).phase i).holds ≠ some k) :
    Full count (((calls baseDomain request).step c e).shared.db.getClusterNodes k) := by
  have hafter := hidle e.request
  rw [step_own] at hafter
  rw [step_shared]
  by_cases hbefore : (c.phase e.request).holds = some k
  · exact ((h.engaged e.request).step_of_holds hbefore (orderly_fault hguard)
      fun r rest hphase => orderly_proceeds hguard hphase).2 hafter
  · rw [getClusterNodes_statement_of_ne hbefore]
    apply h.idle
    intro i
    by_cases hown : i = e.request
    · rw [hown]
      exact hbefore
    · rw [← step_other hown]
      exact hidle i

lemma Steady.engaged_step (i : ι) :
    Engaged deadNodes k count (((calls baseDomain request).step c e).shared.db.getClusterNodes k) (request i)
      (((calls baseDomain request).step c e).phase i) := by
  rw [step_shared]
  by_cases hbefore : (c.phase e.request).holds = some k
  · by_cases hown : i = e.request
    · subst hown
      rw [step_own]
      exact ((h.engaged e.request).step_of_holds hbefore (orderly_fault hguard)
        fun r rest hphase => orderly_proceeds hguard hphase).1
    · rw [step_other hown]
      exact (h.engaged i).of_not_holds fun hi => hown (h.single i e.request hi hbefore)
  · rw [getClusterNodes_statement_of_ne hbefore]
    by_cases hown : i = e.request
    · subst hown
      rw [step_own]
      exact (h.engaged e.request).step_of_not_holds hbefore h.known
        fun hafter => h.idle (h.not_holds_of_taken hguard hbefore hafter)
    · rw [step_other hown]
      exact h.engaged i

lemma Steady.waiting_step (i : ι) (hkind : (request i).kind = .dead) (hdead : (request i).subject ∈ deadNodes)
    (hmem : (request i).subject ∈
      (((calls baseDomain request).step c e).shared.db.getClusterNodes k).map ClusterNode.nodeID) :
    Waiting k (((calls baseDomain request).step c e).phase i) := by
  rw [step_shared] at hmem
  have hbefore := (h.engaged e.request).mem_of_mem hdead hmem
  by_cases hown : i = e.request
  · subst hown
    rw [step_own]
    exact (h.waiting e.request hkind hdead hbefore).step hkind (orderly_fault hguard) h.known
      (fun cluster rest hphase => orderly_free hguard (.inl ⟨rest, hphase⟩)) (h.engaged e.request) hbefore
  · rw [step_other hown]
    exact h.waiting i hkind hdead hbefore

lemma Steady.step : Steady request deadNodes k count ((calls baseDomain request).step c e) :=
  ⟨h.known.step, h.single_step hguard, h.locked_step, h.idle_step hguard, h.engaged_step hguard, h.waiting_step hguard⟩

end

/-- While every step succeeds, no cluster is taken up while another call is engaged in it, and no dead node is chosen,
a full cluster is full again when all calls have returned, without the dead nodes. -/
theorem cluster_size_restored (baseDomain : Bytes) (request : ι → Call) (deadNodes : List Bytes) (s : Managed)
    (cluster : NamespaceCluster) (events : List (Replacement.Event ι))
    (hcalled : ∀ d ∈ deadNodes, ∃ i, request i = ⟨.dead, d⟩) (hcluster : cluster ∈ s.db.clusters.rows)
    (hstatus : cluster.status = .ready ∨ cluster.status = .degraded)
    (hfull : Full cluster.rqliteNodeCount (s.db.getClusterNodes cluster.id))
    (hguarded : (calls baseDomain request).guarded (orderly deadNodes) (initial s) events = true)
    (hdone : ∀ i, ((calls baseDomain request).run (initial s) events).phase i = .done) :
    (databaseNodes (((calls baseDomain request).run (initial s) events).shared.db.getClusterNodes cluster.id)).card =
        cluster.rqliteNodeCount ∧ ∀ d ∈ deadNodes, d ∉ databaseNodes
        (((calls baseDomain request).run (initial s) events).shared.db.getClusterNodes cluster.id) := by
  have hsteady : Steady request deadNodes cluster.id cluster.rqliteNodeCount
      ((calls baseDomain request).run (initial s) events) :=
    run_induction (fun c e h hguard => h.step hguard)
      (steady_initial request deadNodes s ⟨cluster, hcluster, rfl, rfl, hstatus⟩ hfull) hguarded
  constructor
  · refine (hsteady.idle fun i => ?_).card
    rw [hdone i]
    exact (some_ne_none _).symm
  · intro d hd hmem
    obtain ⟨i, hi⟩ := hcalled d hd
    obtain ⟨x, hx, -, hnode⟩ := mem_databaseNodes.1 hmem
    have hwaiting := hsteady.waiting i (by rw [hi]) (by rw [hi]; exact hd)
      (by rw [hi]; exact mem_map.2 ⟨x, hx, hnode⟩)
    rw [hdone i] at hwaiting
    exact hwaiting

end

section

def pair : Managed where
  db :=
    { dnsNodes := ⟨[⟨ascii "a", ascii "1.1.1.1", none, .active, 0⟩, ⟨ascii "b", ascii "2.2.2.2", none, .active, 0⟩,
        ⟨ascii "s", ascii "3.3.3.3", none, .active, 0⟩, ⟨ascii "t", ascii "4.4.4.4", none, .active, 0⟩], by decide⟩
      clusters := ⟨[⟨ascii "c", 1, ascii "x", .ready, 2, 0, 0⟩], by decide⟩
      clusterNodes := ⟨[⟨ascii "1", ascii "c", ascii "a", .rqliteLeader, .running⟩,
        ⟨ascii "2", ascii "c", ascii "b", .rqliteFollower, .running⟩], by decide⟩
      allocations := ⟨[⟨ascii "3", ascii "b", ascii "c", 10000, 10004, 10000, 10001, 10002, 10003, 10004, 0⟩], by decide⟩
      dnsRecords := .empty }
  provisioning := []

def pairCluster : NamespaceCluster := ⟨ascii "c", 1, ascii "x", .ready, 2, 0, 0⟩
def bothDead (i : Bool) : Call := ⟨.dead, if i then ascii "b" else ascii "a"⟩

def turns (schedule : List Bool) : List (Replacement.Event Bool) :=
  schedule.zipIdx.map fun (i, n) => ⟨⟨i, none, [0, UInt8.ofNat n], 0⟩, if i then ascii "t" else ascii "s"⟩

theorem cluster_size_restored_in_turn : (databaseNodes (((calls (ascii "d") bothDead).run (initial pair)
      (turns (List.replicate 24 false ++ List.replicate 24 true))).shared.db.getClusterNodes pairCluster.id)).card = 2 ∧
      ∀ d ∈ [ascii "a", ascii "b"], d ∉ databaseNodes (((calls (ascii "d") bothDead).run (initial pair)
        (turns (List.replicate 24 false ++ List.replicate 24 true))).shared.db.getClusterNodes pairCluster.id) :=
  cluster_size_restored (ascii "d") bothDead [ascii "a", ascii "b"] pair pairCluster
    (turns (List.replicate 24 false ++ List.replicate 24 true))
    (by
      intro d hd
      rcases mem_pair.1 hd with rfl | rfl
      · exact ⟨false, rfl⟩
      · exact ⟨true, rfl⟩)
    (by decide) (.inl rfl) ⟨by decide, by decide⟩ (by decide) (by decide)

def deadAndRepair (i : Bool) : Call := if i then ⟨.repair, ascii "x"⟩ else ⟨.dead, ascii "a"⟩

/-- A second loss is passed over while the cluster is recovered from the first, so its dead node stays. A repair does
not see the recovery, so both add a node. -/
theorem cluster_size_not_restored : ((∀ i, ((calls (ascii "d") bothDead).run (initial pair)
        (turns (List.replicate 5 false ++ List.replicate 4 true ++ List.replicate 19 false))).phase i = .done) ∧
      ascii "b" ∈ databaseNodes (((calls (ascii "d") bothDead).run (initial pair)
        (turns (List.replicate 5 false ++ List.replicate 4 true ++ List.replicate 19 false))).shared.db.getClusterNodes
          pairCluster.id)) ∧
    (∀ i, ((calls (ascii "d") deadAndRepair).run (initial pair)
        (turns (List.replicate 7 false ++ List.replicate 23 true ++ List.replicate 17 false))).phase i = .done) ∧
      (databaseNodes (((calls (ascii "d") deadAndRepair).run (initial pair)
        (turns (List.replicate 7 false ++ List.replicate 23 true ++ List.replicate 17 false))).shared.db.getClusterNodes
          pairCluster.id)).card = pairCluster.rqliteNodeCount + 1 := by
  decide

end
end
end Orama.Namespace.Recovery
