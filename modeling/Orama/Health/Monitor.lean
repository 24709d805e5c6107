import Mathlib.Data.List.Sort
import Mathlib.Data.Nat.ModEq
import Orama.Health.Quorum

namespace Orama.Health
open List

def second : Int := 1000000000
def defaultProbeInterval : Int := 10 * second
def defaultNeighbors : Nat := 3
def defaultSuspectAfter : Nat := 3
def defaultDeadAfter : Nat := 12
def defaultStartupGracePeriod : Int := 300 * second

structure MonitorConfig (ID : Type) where
  nodeID : ID
  neighbors : Nat
  startTime : Int
  startupGracePeriod : Int
  onDeadFn : Bool
  onRecoveredFn : Bool
  onSuspectFn : Bool

inductive PeerStatus where
  | healthy
  | suspect
  | dead
deriving DecidableEq

structure PeerState where
  missCount : Nat
  status : PeerStatus
  suspectAt : Option Int
  reportedDead : Bool
deriving DecidableEq

def PeerState.new : PeerState := ⟨0, .healthy, none, false⟩

inductive Action where
  | writeEvent (status : HealthStatus)
  | checkQuorum
  | onRecovered
  | onSuspect
deriving DecidableEq

variable {ID : Type}

def MonitorConfig.isInStartupGrace (cfg : MonitorConfig ID) (now : Int) : Bool :=
  now - cfg.startTime < cfg.startupGracePeriod

def PeerState.recover (cfg : MonitorConfig ID) (ps : PeerState) : PeerState × List Action :=
  ({ ps with missCount := 0, status := .healthy, reportedDead := false },
    (if ps.status ≠ .healthy then [.writeEvent .recovered] else []) ++
      if (ps.status = .suspect || ps.status = .dead) && cfg.onRecoveredFn then [.onRecovered] else [])

def PeerState.miss (cfg : MonitorConfig ID) (now : Int) (ps : PeerState) : PeerState × List Action :=
  let missCount := ps.missCount + 1
  if defaultDeadAfter ≤ missCount && !ps.reportedDead then
    -- nobody is declared dead while the cluster may still be starting
    if cfg.isInStartupGrace now then
      if ps.status ≠ .suspect then
        ({ ps with missCount, status := .suspect, suspectAt := some now }, [.writeEvent .suspect])
      else ({ ps with missCount }, [])
    else
      ({ ps with missCount, status := .dead, reportedDead := true },
        .writeEvent .dead :: if cfg.onDeadFn then [.checkQuorum] else [])
  else if defaultSuspectAfter ≤ missCount && ps.status = .healthy then
    ({ ps with missCount, status := .suspect, suspectAt := some now },
      .writeEvent .suspect :: if cfg.onSuspectFn then [.onSuspect] else [])
  else ({ ps with missCount }, [])

def PeerState.probed (cfg : MonitorConfig ID) (now : Int) (healthy : Bool) (ps : PeerState) :
    PeerState × List Action :=
  if healthy then ps.recover cfg else ps.miss cfg now

structure Monitor (ID : Type) where
  peers : ID → Option PeerState
  log : List (ID × Action)

def Monitor.new : Monitor ID := ⟨fun _ => none, []⟩

structure Round (ID : Type) where
  now : Int
  neighbors : Option (List ID)
  healthy : ID → Bool
  /-- A node has one row in the database. -/
  distinct : ∀ l ∈ neighbors, l.Nodup

open PeerState Round Monitor
section
variable [DecidableEq ID]

def Monitor.updateState (cfg : MonitorConfig ID) (now : Int) (healthy : ID → Bool) (m : Monitor ID) (nodeID : ID) :
    Monitor ID :=
  let next := ((m.peers nodeID).getD .new).probed cfg now (healthy nodeID)
  ⟨Function.update m.peers nodeID (some next.1), m.log ++ next.2.map fun a => (nodeID, a)⟩

def Monitor.pruneStaleState (m : Monitor ID) (currentNeighbors : List ID) : Monitor ID :=
  { m with peers := fun id => if currentNeighbors.contains id then m.peers id else none }

def Monitor.probeRound (cfg : MonitorConfig ID) (m : Monitor ID) (r : Round ID) : Monitor ID :=
  match r.neighbors with
  | none => m
  | some [] => m
  | some (n :: neighbors) =>
    ((n :: neighbors).foldl (Monitor.updateState cfg r.now r.healthy) m).pruneStaleState (n :: neighbors)

def Monitor.run (cfg : MonitorConfig ID) (m : Monitor ID) (rounds : List (Round ID)) : Monitor ID :=
  rounds.foldl (Monitor.probeRound cfg) m

def Round.peer (cfg : MonitorConfig ID) (r : Round ID) (id : ID) (ps : Option PeerState) : Option PeerState :=
  match r.neighbors with
  | none => ps
  | some [] => ps
  | some (n :: neighbors) =>
    if (n :: neighbors).contains id then some ((ps.getD .new).probed cfg r.now (r.healthy id)).1 else none

def Round.actions (cfg : MonitorConfig ID) (r : Round ID) (id : ID) (ps : Option PeerState) : List Action :=
  match r.neighbors with
  | none => []
  | some neighbors =>
    if neighbors.contains id then ((ps.getD .new).probed cfg r.now (r.healthy id)).2 else []

variable {cfg : MonitorConfig ID} {m : Monitor ID} {r : Round ID} {id : ID}
variable {now : Int} {healthy : ID → Bool}

lemma peers_updateState_self :
    (m.updateState cfg now healthy id).peers id = some (((m.peers id).getD .new).probed cfg now (healthy id)).1 :=
  Function.update_self ..

lemma peers_updateState_of_ne {nodeID : ID} (h : id ≠ nodeID) :
    (m.updateState cfg now healthy nodeID).peers id = m.peers id :=
  Function.update_of_ne h ..

variable {l : List ID}

lemma peers_foldl_updateState (hl : l.Nodup) : (l.foldl (updateState cfg now healthy) m).peers id =
      if l.contains id then some (((m.peers id).getD .new).probed cfg now (healthy id)).1 else m.peers id := by
  induction l generalizing m with
  | nil => rfl
  | cons x l ih =>
    obtain ⟨hx, hl⟩ := nodup_cons.1 hl
    rw [foldl_cons, ih hl]
    by_cases hid : id = x
    · subst hid
      simp [hx, peers_updateState_self]
    · simp [hid, peers_updateState_of_ne hid]

lemma log_foldl_updateState (hl : l.Nodup) : ∃ new, (l.foldl (updateState cfg now healthy) m).log = m.log ++ new ∧
      ∀ id a, (id, a) ∈ new ↔ id ∈ l ∧ a ∈ (((m.peers id).getD .new).probed cfg now (healthy id)).2 := by
  induction l generalizing m with
  | nil => exact ⟨[], (append_nil _).symm, by simp⟩
  | cons x l ih =>
    obtain ⟨hx, hl⟩ := nodup_cons.1 hl
    obtain ⟨new, hlog, hnew⟩ := ih hl (m := m.updateState cfg now healthy x)
    refine ⟨(((m.peers x).getD .new).probed cfg now (healthy x)).2.map (fun a => (x, a)) ++ new, ?_, ?_⟩
    · rw [foldl_cons, hlog, ← append_assoc]
      rfl
    · intro id a
      rw [mem_append, hnew]
      by_cases hid : id = x
      · subst hid
        simp [hx]
      · simp [hid, peers_updateState_of_ne hid, Ne.symm hid]

lemma peers_probeRound : (m.probeRound cfg r).peers id = r.peer cfg id (m.peers id) := by
  rw [probeRound, peer]
  have hdistinct := r.distinct
  split
  · rfl
  · rfl
  · grind [peers_foldl_updateState, pruneStaleState]

lemma log_probeRound (cfg : MonitorConfig ID) (m : Monitor ID) (r : Round ID) :
    ∃ new, (m.probeRound cfg r).log = m.log ++ new ∧ ∀ id a, (id, a) ∈ new ↔ a ∈ r.actions cfg id (m.peers id) := by
  obtain ⟨now, neighbors, healthy, distinct⟩ := r
  cases neighbors with
  | none => exact ⟨[], (append_nil _).symm, by simp [actions]⟩
  | some l =>
    cases l with
    | nil => exact ⟨[], (append_nil _).symm, by simp [actions]⟩
    | cons x l =>
      obtain ⟨new, hlog, hnew⟩ := log_foldl_updateState (m := m) (distinct _ rfl)
      refine ⟨new, hlog, fun id a => ?_⟩
      rw [hnew, actions]
      dsimp only
      split
      · grind
      · grind

lemma log_run (cfg : MonitorConfig ID) (m : Monitor ID) (rounds : List (Round ID)) :
    ∃ later, (m.run cfg rounds).log = m.log ++ later := by
  induction rounds generalizing m with
  | nil => exact ⟨[], (append_nil _).symm⟩
  | cons r rounds ih =>
    obtain ⟨new, hnew, -⟩ := log_probeRound cfg m r
    obtain ⟨later, hlater⟩ := ih (m.probeRound cfg r)
    refine ⟨new ++ later, ?_⟩
    rw [← append_assoc, ← hnew]
    exact hlater

end

section
variable [LinearOrder ID]

def following (ring : List ID) (selfID : ID) (k : Nat) : List ID :=
  match ring.findIdx? fun id => decide (id = selfID) with
  | none => []
  | some selfIdx =>
    (List.range (min k (ring.length - 1))).filterMap fun i => ring[(selfIdx + (i + 1)) % ring.length]?

def ringNeighbors (nodes : List ID) (selfID : ID) (k : Nat) : List ID :=
  if nodes.length ≤ 1 then [] else following (nodes.insertionSort (· ≤ ·)) selfID k

variable {ring nodes : List ID} {selfID id : ID} {k : Nat}

lemma add_mod_inj {a i j len : Nat} (hi : i < len) (hj : j < len) (h : (a + i) % len = (a + j) % len) : i = j := by
  have hmod : i ≡ j [MOD len] := Nat.ModEq.add_left_cancel' a h
  exact hmod.eq_of_lt_of_lt hi hj

lemma mem_following : id ∈ following ring selfID k ↔
    ∃ selfIdx i, ring[selfIdx]? = some selfID ∧ i < min k (ring.length - 1) ∧
    ring.findIdx? (fun id => decide (id = selfID)) = some selfIdx ∧
    ring[(selfIdx + (i + 1)) % ring.length]? = some id := by
  rw [following]
  cases hself : ring.findIdx? fun id => decide (id = selfID) with
  | none => simp
  | some selfIdx =>
    dsimp only
    obtain ⟨hlt, hat, -⟩ := findIdx?_eq_some_iff_getElem.1 hself
    rw [mem_filterMap]
    constructor
    · rintro ⟨i, hi, hid⟩
      refine ⟨selfIdx, i, ?_, mem_range.1 hi, rfl, hid⟩
      rw [getElem?_eq_getElem hlt, of_decide_eq_true hat]
    · rintro ⟨_, i, -, hi, heq, hid⟩
      cases heq
      exact ⟨i, mem_range.2 hi, hid⟩

lemma ne_self_of_mem_following (hring : ring.Nodup) (h : id ∈ following ring selfID k) : id ≠ selfID := by
  rintro rfl
  obtain ⟨selfIdx, i, hself, hi, -, hid⟩ := mem_following.1 h
  have hlt := (List.getElem?_eq_some_iff.1 hself).1
  have hplace := (getElem?_inj hlt hring).1 (hself.trans hid.symm)
  have hturn : (selfIdx + 0) % ring.length = (selfIdx + (i + 1)) % ring.length := by
    rw [Nat.add_zero, Nat.mod_eq_of_lt hlt]
    exact hplace
  have hzero := add_mod_inj (by omega) (by omega) hturn
  omega

lemma nodup_following (hring : ring.Nodup) (selfID : ID) (k : Nat) : (following ring selfID k).Nodup := by
  rw [following]
  cases ring.findIdx? fun id => decide (id = selfID) with
  | none => exact nodup_nil
  | some selfIdx =>
    rw [List.Nodup, pairwise_filterMap]
    refine List.Pairwise.imp_of_mem ?_ nodup_range
    intro i j hi hj hne a ha b hb hab
    rw [mem_range] at hi hj
    subst hab
    have hlt := (List.getElem?_eq_some_iff.1 ha).1
    have hplace := (getElem?_inj hlt hring).1 (ha.trans hb.symm)
    have hsucc := add_mod_inj (by omega) (by omega) hplace
    omega

lemma length_following (hself : selfID ∈ ring) : (following ring selfID k).length = min k (ring.length - 1) := by
  obtain ⟨selfIdx, hfind⟩ : ∃ selfIdx, ring.findIdx? (fun id => decide (id = selfID)) = some selfIdx := by
    rw [← Option.isSome_iff_exists, findIdx?_isSome, any_eq_true]
    exact ⟨selfID, hself, by simp⟩
  rw [following, hfind]
  dsimp only
  rw [length_filterMap_eq_countP, countP_eq_length.2, length_range]
  intro i _
  simp [Nat.mod_lt _ (length_pos_of_mem hself)]

lemma mem_of_mem_ringNeighbors (h : id ∈ ringNeighbors nodes selfID k) : id ∈ nodes := by
  rw [ringNeighbors] at h
  split at h
  · cases h
  · obtain ⟨_, _, -, -, -, hid⟩ := mem_following.1 h
    exact (mem_insertionSort _).1 (mem_of_getElem? hid)

lemma ne_self_of_mem_ringNeighbors (hnodes : nodes.Nodup) (h : id ∈ ringNeighbors nodes selfID k) : id ≠ selfID := by
  grind [ne_self_of_mem_following, perm_insertionSort, ringNeighbors]

lemma nodup_ringNeighbors (hnodes : nodes.Nodup) (selfID : ID) (k : Nat) : (ringNeighbors nodes selfID k).Nodup := by
  grind [nodup_following, perm_insertionSort, ringNeighbors]

lemma length_ringNeighbors (hself : selfID ∈ nodes) :
    (ringNeighbors nodes selfID k).length = min k (nodes.length - 1) := by
  rw [ringNeighbors]
  split
  · simp only [length_nil]
    omega
  · rw [length_following ((mem_insertionSort _).2 hself), length_insertionSort]

lemma ringNeighbors_ne_nil (hlen : 2 ≤ nodes.length) (hself : selfID ∈ nodes) (hk : 0 < k) :
    ringNeighbors nodes selfID k ≠ [] := by
  rw [← length_pos_iff_ne_nil, length_ringNeighbors hself]
  omega

lemma add_mod_cases {a i len : Nat} (ha : a < len) (hi : i < len) :
    (a + i) % len = if a + i < len then a + i else a + i - len := by
  split
  · next h => exact Nat.mod_eq_of_lt h
  · next h => rw [Nat.mod_eq_sub_mod (by omega), Nat.mod_eq_of_lt (by omega)]

lemma findIdx?_self (hring : ring.Nodup) {selfIdx : Nat} (hself : ring[selfIdx]? = some selfID) :
    ring.findIdx? (fun id => decide (id = selfID)) = some selfIdx := by
  obtain ⟨hlt, rfl⟩ := List.getElem?_eq_some_iff.1 hself
  refine findIdx?_eq_some_iff_getElem.2 ⟨hlt, by simp, fun j hj => ?_⟩
  have hne : ring[j] ≠ ring[selfIdx] := fun heq => absurd ((hring.getElem_inj_iff).1 heq) (by omega)
  simpa using hne

/-- Who follows a node on the ring has it following on the ring the other way round. -/
lemma mem_following_of_reverse (hring : ring.Nodup) (h : id ∈ following ring.reverse selfID k) :
    selfID ∈ following ring id k := by
  obtain ⟨p, i, hself, hi, -, hid⟩ := mem_following.1 h
  rw [length_reverse] at hi hid
  have hp := (List.getElem?_eq_some_iff.1 hself).1
  rw [length_reverse] at hp
  have hturn := add_mod_cases hp (i := i + 1) (by omega)
  rw [getElem?_reverse hp] at hself
  rw [getElem?_reverse (Nat.mod_lt _ (by omega))] at hid
  refine mem_following.2 ⟨_, i, hid, hi, findIdx?_self hring hid, ?_⟩
  rw [add_mod_cases (by omega) (by omega), ← hself]
  congr 1
  split at hturn <;> split <;> omega

lemma mem_following_reverse (hring : ring.Nodup) :
    id ∈ following ring.reverse selfID k ↔ selfID ∈ following ring id k := by
  refine ⟨mem_following_of_reverse hring, fun h => ?_⟩
  apply mem_following_of_reverse (nodup_reverse.2 hring)
  rwa [reverse_reverse]

lemma ringNeighbors_of_perm (h : nodes.Perm ring) (hlen : 2 ≤ ring.length) :
    ringNeighbors nodes selfID k = following (ring.insertionSort (· ≤ ·)) selfID k := by
  have hsorted : nodes.insertionSort (· ≤ ·) = ring.insertionSort (· ≤ ·) :=
    (((perm_insertionSort _ nodes).trans h).trans (perm_insertionSort _ ring).symm).eq_of_pairwise'
      (pairwise_insertionSort _ _) (pairwise_insertionSort _ _)
  rw [ringNeighbors, if_neg (by rw [h.length_eq]; omega), hsorted]

/-- Those who watch a node are those it would watch on the reversed ring. -/
lemma watchers_perm (hnodes : nodes.Nodup) {order : ID → List ID} (horder : ∀ b, (order b).Perm nodes)
    (hlen : 2 ≤ nodes.length) (a : ID) : (nodes.filter fun b => decide (a ∈ ringNeighbors (order b) b k)).Perm
      (following (nodes.insertionSort (· ≤ ·)).reverse a k) := by
  have hsort := perm_insertionSort (· ≤ ·) nodes
  have hring := hsort.nodup_iff.2 hnodes
  simp only [ringNeighbors_of_perm (horder _) hlen]
  refine (perm_ext_iff_of_nodup (hnodes.filter _) (nodup_following (nodup_reverse.2 hring) a k)).2 fun b => ?_
  rw [mem_filter, mem_following_reverse hring, decide_eq_true_iff]
  refine and_iff_right_of_imp fun hb => ?_
  obtain ⟨_, _, hself, -⟩ := mem_following.1 hb
  exact hsort.mem_iff.1 (mem_of_getElem? hself)

/-- Every node watches as many others as there are, up to k of them, and is watched by as many. -/
theorem ring_watches (nodes : List ID) (hnodes : nodes.Nodup) (order : ID → List ID)
    (horder : ∀ a, (order a).Perm nodes) (k : Nat) (a : ID) (ha : a ∈ nodes) :
    (ringNeighbors (order a) a k).Nodup ∧ (∀ b ∈ ringNeighbors (order a) a k, b ∈ nodes ∧ b ≠ a) ∧
    (ringNeighbors (order a) a k).length = min k (nodes.length - 1) ∧
    (nodes.filter fun b => decide (a ∈ ringNeighbors (order b) b k)).length = min k (nodes.length - 1) := by
  have hown := (horder a).nodup_iff.2 hnodes
  refine ⟨nodup_ringNeighbors hown a k, fun b hb => ⟨(horder a).mem_iff.1 (mem_of_mem_ringNeighbors hb),
    ne_self_of_mem_ringNeighbors hown hb⟩, ?_, ?_⟩
  · rw [length_ringNeighbors ((horder a).mem_iff.2 ha), (horder a).length_eq]
  · by_cases hlen : 2 ≤ nodes.length
    · rw [(watchers_perm hnodes horder hlen a).length_eq, length_following, length_reverse, length_insertionSort]
      rwa [mem_reverse, mem_insertionSort]
    · have hnone : ∀ b, ringNeighbors (order b) b k = [] := fun b => if_pos (by rw [(horder b).length_eq]; omega)
      simp only [hnone, not_mem_nil, decide_false, filter_false, length_nil]
      omega

theorem ring_watches_three : (ringNeighbors [2, 0, 1] 2 1).length = min 1 (3 - 1) ∧
    ([0, 1, 2].filter fun b => decide (2 ∈ ringNeighbors [2, 0, 1] b 1)).length = min 1 (3 - 1) :=
  (ring_watches [0, 1, 2] (by decide) (fun _ => [2, 0, 1]) (fun _ => by decide) 1 2 (by decide)).2.2

end

section
variable [DecidableEq ID] {cfg : MonitorConfig ID} {m : Monitor ID} {n : ID}

def Monitor.Unhealthy (m : Monitor ID) (n : ID) : Prop := ∃ ps ∈ m.peers n, ps.status ≠ .healthy

def Monitor.Keeps (m : Monitor ID) (n : ID) (r : Round ID) : Prop :=
  m.Unhealthy n → ∀ neighbors ∈ r.neighbors, neighbors = [] ∨ n ∈ neighbors

def Monitor.KeepsAll (cfg : MonitorConfig ID) (n : ID) : Monitor ID → List (Round ID) → Prop
  | _, [] => True
  | m, r :: rounds => m.Keeps n r ∧ KeepsAll cfg n (m.probeRound cfg r) rounds

lemma Monitor.keepsAll_append {before after : List (Round ID)} :
    m.KeepsAll cfg n (before ++ after) ↔ m.KeepsAll cfg n before ∧ (m.run cfg before).KeepsAll cfg n after := by
  induction before generalizing m with
  | nil => exact ⟨fun h => ⟨trivial, h⟩, fun h => h.2⟩
  | cons r before ih =>
    rw [cons_append, KeepsAll, ih, KeepsAll, and_assoc]
    rfl

variable {rounds : List (Round ID)}

lemma Monitor.keepsAll_of_forall (h : ∀ r ∈ rounds, ∀ neighbors ∈ r.neighbors, neighbors = [] ∨ n ∈ neighbors) :
    m.KeepsAll cfg n rounds := by
  induction rounds generalizing m with
  | nil => trivial
  | cons r rounds ih => exact ⟨fun _ => h r mem_cons_self, ih fun r' hr' => h r' (mem_cons_of_mem _ hr')⟩

variable {ps : PeerState}

omit [DecidableEq ID] in
lemma status_miss {now : Int} (h : ps.status ≠ .healthy ∨ .onSuspect ∈ (ps.miss cfg now).2) :
    (ps.miss cfg now).1.status ≠ .healthy := by
  rw [miss] at h ⊢
  split
  · split
    · split
      · simp
      · simpa [*] using h
    · simp
  · split
    · simp
    · simpa [*] using h

omit [DecidableEq ID] in
lemma onSuspect_not_mem_recover : .onSuspect ∉ (ps.recover cfg).2 := by
  rw [recover, mem_append]
  rintro (h | h) <;> split at h <;> simp at h

omit [DecidableEq ID] in
lemma onRecovered_mem_recover (h : ps.status ≠ .healthy) (hfn : cfg.onRecoveredFn) :
    .onRecovered ∈ (ps.recover cfg).2 := by
  rw [recover, mem_append]
  right
  rw [if_pos]
  · exact mem_singleton_self _
  · cases hs : ps.status with
    | healthy => exact absurd hs h
    | suspect => simp [hfn]
    | dead => simp [hfn]

variable {l : List ID}

lemma peers_probeRound_of_mem {r : Round ID} (hl : r.neighbors = some l) (hn : n ∈ l) :
    (m.probeRound cfg r).peers n = some (((m.peers n).getD .new).probed cfg r.now (r.healthy n)).1 := by
  grind [peers_probeRound, peer]

lemma unhealthy_of_onSuspect {r : Round ID} (h : .onSuspect ∈ r.actions cfg n (m.peers n)) :
    (m.probeRound cfg r).Unhealthy n := by
  rw [actions] at h
  cases hl : r.neighbors with
  | none => simp [hl] at h
  | some l =>
    rw [hl] at h
    dsimp only at h
    split at h
    · next hn =>
      refine ⟨_, peers_probeRound_of_mem hl (contains_iff_mem.1 hn), ?_⟩
      rw [probed] at h ⊢
      split at h
      · exact absurd h onSuspect_not_mem_recover
      · grind [status_miss]
    · cases h

lemma Monitor.Keeps.recovered_or_unhealthy {r : Round ID} (hkeeps : m.Keeps n r) (hm : m.Unhealthy n)
    (hfn : cfg.onRecoveredFn) :
    .onRecovered ∈ r.actions cfg n (m.peers n) ∨ ((m.probeRound cfg r).Unhealthy n ∧
      ∀ l ∈ r.neighbors, n ∈ l → r.healthy n = false) := by
  obtain ⟨ps, hps, hstatus⟩ := hm
  rw [Option.mem_def] at hps
  cases hl : r.neighbors with
  | none =>
    refine .inr ⟨⟨ps, ?_, hstatus⟩, nofun⟩
    rw [peers_probeRound, peer, hl]
    exact hps
  | some l =>
    rcases hkeeps ⟨ps, hps, hstatus⟩ l hl with rfl | hn
    · refine .inr ⟨⟨ps, ?_, hstatus⟩, fun l h hn => ?_⟩
      · rw [peers_probeRound, peer, hl]
        exact hps
      · cases h
        cases hn
    · cases hhealthy : r.healthy n with
      | true =>
        left
        rw [actions, hl, hps]
        dsimp only
        rw [if_pos (contains_iff_mem.2 hn), Option.getD_some, probed, if_pos hhealthy]
        exact onRecovered_mem_recover hstatus hfn
      | false =>
        refine .inr ⟨⟨_, peers_probeRound_of_mem hl hn, ?_⟩, fun _ _ _ => rfl⟩
        rw [hps, Option.getD_some, probed, if_neg (by simp [hhealthy])]
        exact status_miss (.inl hstatus)

lemma Monitor.Unhealthy.recovered {last : Round ID} (hm : m.Unhealthy n)
    (hkeeps : m.KeepsAll cfg n (rounds ++ [last])) (hfn : cfg.onRecoveredFn) (hl : last.neighbors = some l)
    (hn : n ∈ l) (hhealthy : last.healthy n) :
    ∃ later, (m.run cfg (rounds ++ [last])).log = m.log ++ later ∧ (n, .onRecovered) ∈ later := by
  induction rounds generalizing m with
  | nil =>
    obtain ⟨new, hlog, hnew⟩ := log_probeRound cfg m last
    refine ⟨new, hlog, (hnew ..).2 ?_⟩
    rcases hkeeps.1.recovered_or_unhealthy hm hfn with h | ⟨-, h⟩
    · exact h
    · rw [h l hl hn] at hhealthy
      cases hhealthy
  | cons r rounds ih =>
    obtain ⟨new, hlog, hnew⟩ := log_probeRound cfg m r
    rcases hkeeps.1.recovered_or_unhealthy hm hfn with h | ⟨hnext, -⟩
    · obtain ⟨later, hlater⟩ := log_run cfg (m.probeRound cfg r) (rounds ++ [last])
      refine ⟨new ++ later, ?_, mem_append_left _ ((hnew ..).2 h)⟩
      rw [← append_assoc, ← hlog]
      exact hlater
    · obtain ⟨later, hlater, hmem⟩ := ih hnext hkeeps.2
      refine ⟨new ++ later, ?_, mem_append_right _ hmem⟩
      rw [← append_assoc, ← hlog]
      exact hlater

end
end Orama.Health
