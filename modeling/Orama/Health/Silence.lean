import Orama.Health.Monitor

namespace Orama.Health
open List

def stamp (t : Int) : Int := t / second

def lastTick (first period t : Int) : Int := first + period * ((t - first) / period)

def heartbeatInterval : Int := 30 * second
def lastSeenCutoff : Int := 120 * second

variable {ID : Type}

structure Counting (ps : PeerState) (j : Nat) : Prop where
  missCount : ps.missCount = j
  status : ps.status ≠ .dead
  reportedDead : ps.reportedDead = false

lemma counting_recover (cfg : MonitorConfig ID) (ps : PeerState) :
    Counting (ps.recover cfg).1 0 ∧ .writeEvent .dead ∉ (ps.recover cfg).2 := by
  refine ⟨⟨rfl, by simp [PeerState.recover], rfl⟩, ?_⟩
  rw [PeerState.recover, mem_append]
  rintro (h | h) <;> split at h <;> simp at h

variable {ps : PeerState} {j : Nat}

lemma Counting.miss (h : Counting ps j) (hj : j + 1 < defaultDeadAfter) (cfg : MonitorConfig ID) (now : Int) :
    Counting (ps.miss cfg now).1 (j + 1) ∧ .writeEvent .dead ∉ (ps.miss cfg now).2 := by
  obtain ⟨hcount, hstatus, hreported⟩ := h
  rw [PeerState.miss, if_neg (by simp [hcount]; omega)]
  split
  · refine ⟨⟨by simp [hcount], by simp, hreported⟩, ?_⟩
    cases cfg.onSuspectFn <;> simp
  · exact ⟨⟨by simp [hcount], hstatus, hreported⟩, not_mem_nil⟩

lemma Counting.miss_last (h : Counting ps j) (hj : j + 1 = defaultDeadAfter) {cfg : MonitorConfig ID} {now : Int}
    (hgrace : cfg.isInStartupGrace now = false) :
    (ps.miss cfg now).1.status = .dead ∧ .writeEvent .dead ∈ (ps.miss cfg now).2 := by
  obtain ⟨hcount, -, hreported⟩ := h
  grind [PeerState.miss]

variable [LinearOrder ID]

/-- Nodes of which one goes silent for good. All were registered before the rounds that are looked at, every
monitor had a round before the node went silent and is past its grace period then. -/
structure Silence (ID : Type) [LinearOrder ID] where
  nodes : List ID
  nodup : nodes.Nodup
  silent : ID
  mem : silent ∈ nodes
  stop : Int
  firstHeartbeat : ID → Int
  firstRound : ID → Int
  config : ID → MonitorConfig ID
  neighbors : ∀ o, (config o).neighbors = defaultNeighbors
  registered : ∀ o id, firstHeartbeat id ≤ firstRound o
  started : ∀ o, firstRound o ≤ stop
  pastGrace : ∀ o, (config o).startTime + (config o).startupGracePeriod ≤ stop

open Nat
namespace Silence
variable (c : Silence ID)

def lastHeartbeat (id : ID) (t : Int) : Int :=
  lastTick (c.firstHeartbeat id) heartbeatInterval (if id = c.silent then min t c.stop else t)

def lastSeen (id : ID) (t : Int) : Int := stamp (c.lastHeartbeat id t)

def getRingNeighbors (o : ID) (now : Int) : List ID :=
  ringNeighbors (c.nodes.filter fun id => decide (stamp (now - lastSeenCutoff) < c.lastSeen id now)) o
    (c.config o).neighbors

def roundTime (o : ID) (k : Nat) : Int := c.firstRound o + defaultProbeInterval * k

def round (o : ID) (k : Nat) : Round ID where
  now := c.roundTime o k
  neighbors := some (c.getRingNeighbors o (c.roundTime o k))
  healthy id := decide (id ≠ c.silent) || decide (c.roundTime o k ≤ c.stop)
  distinct l hl := by
    cases hl
    exact nodup_ringNeighbors (c.nodup.filter _) o _

def observed (o : ID) (k : Nat) : Monitor ID := Monitor.new.run (c.config o) ((List.range k).map (c.round o))

def Observes (o : ID) : Prop := o ∈ c.nodes ∧ c.silent ∈ ringNeighbors c.nodes o defaultNeighbors

def ReportedDead (o : ID) (k : Nat) : Prop :=
  ∃ j ≤ k, (∃ ps ∈ (c.observed o j).peers c.silent, ps.status = .dead) ∧
    (c.silent, .writeEvent .dead) ∈ (c.observed o j).log

def Forgets (o : ID) (k : Nat) : Prop :=
  (c.observed o k).peers c.silent ≠ none ∧ (c.observed o (k + 1)).peers c.silent = none ∧ ¬ c.ReportedDead o k

def firstMiss (o : ID) : Nat := ((c.stop - c.firstRound o) / defaultProbeInterval).toNat + 1

section
variable {c} {o id : ID} {t : Int}

lemma stamp_add (t k : Int) : stamp (t + k * second) = stamp t + k := by
  have hs : second ≠ 0 := by decide
  rw [stamp, stamp, Int.add_mul_ediv_right _ _ hs]

lemma stamp_sub (t k : Int) : stamp (t - k * second) = stamp t - k := by
  have hs : second ≠ 0 := by decide
  rw [stamp, stamp, Int.sub_mul_ediv_right _ _ hs]

lemma stamp_mono {a b : Int} (h : a ≤ b) : stamp a ≤ stamp b := Int.ediv_le_ediv (by decide) h

lemma lt_lastTick {first period : Int} (hperiod : 0 < period) : t < lastTick first period t + period := by
  have hmod := Int.mul_ediv_add_emod (t - first) period
  have hlt := Int.emod_lt_of_pos (t - first) hperiod
  rw [lastTick]
  omega

lemma stamp_lt_of_recent {first : Int} : stamp (t - lastSeenCutoff) < stamp (lastTick first heartbeatInterval t) := by
  have hlt : t < lastTick first heartbeatInterval t + heartbeatInterval := lt_lastTick (by decide)
  have hle : t - 120 * second ≤ lastTick first heartbeatInterval t - 90 * second := by
    rw [heartbeatInterval] at hlt ⊢
    omega
  have hstamp := stamp_mono hle
  rw [stamp_sub, stamp_sub] at hstamp
  rw [lastSeenCutoff, stamp_sub]
  omega

end

def Recent (o : ID) (k : Nat) : Prop :=
  stamp (c.roundTime o k - lastSeenCutoff) < c.lastSeen c.silent (c.roundTime o k)

section
variable {c} {o : ID} {k : Nat}

lemma roundTime_le_stop_iff : c.roundTime o k ≤ c.stop ↔ k < c.firstMiss o := by
  have hinterval : (0 : Int) < defaultProbeInterval := by decide
  have hnonneg : 0 ≤ (c.stop - c.firstRound o) / defaultProbeInterval :=
    Int.ediv_nonneg (by have := c.started o; omega) hinterval.le
  have hdiv : (k : Int) ≤ (c.stop - c.firstRound o) / defaultProbeInterval ↔
      k * defaultProbeInterval ≤ c.stop - c.firstRound o := Int.le_ediv_iff_mul_le hinterval
  rw [Int.mul_comm] at hdiv
  rw [roundTime, firstMiss]
  omega

lemma lastSeen_of_ne {id : ID} {t : Int} (h : id ≠ c.silent) :
    c.lastSeen id t = stamp (lastTick (c.firstHeartbeat id) heartbeatInterval t) := by
  rw [lastSeen, lastHeartbeat, if_neg h]

lemma lastSeen_silent (t : Int) : c.lastSeen c.silent t =
    stamp (lastTick (c.firstHeartbeat c.silent) heartbeatInterval (min t c.stop)) := by
  rw [lastSeen, lastHeartbeat, if_pos rfl]

lemma recent_of_lt (hk : k < c.firstMiss o) : c.Recent o k := by
  rw [Recent, lastSeen_silent, min_eq_left (roundTime_le_stop_iff.2 hk)]
  exact stamp_lt_of_recent

lemma roundTime_add (k j : Nat) : c.roundTime o (k + j) = c.roundTime o k + (10 * j) * second := by
  simp only [roundTime, defaultProbeInterval, second]
  omega

lemma stop_le_roundTime (c : Silence ID) (o : ID) (j : Nat) : c.stop ≤ c.roundTime o (c.firstMiss o + j) := by
  by_contra hlt
  have hmiss := roundTime_le_stop_iff.1 (le_of_not_ge hlt)
  omega

lemma recent_iff_of_ge (j : Nat) : c.Recent o (c.firstMiss o + j) ↔ stamp (c.roundTime o (c.firstMiss o)) + 10 * j <
      stamp (lastTick (c.firstHeartbeat c.silent) heartbeatInterval c.stop) + 120 := by
  have hstop := stop_le_roundTime c o j
  have hstamp : stamp (c.roundTime o (c.firstMiss o + j) - lastSeenCutoff) =
      stamp (c.roundTime o (c.firstMiss o)) + 10 * j - 120 := by
    rw [roundTime_add, lastSeenCutoff, stamp_sub, stamp_add]
  rw [Recent, lastSeen_silent, min_eq_right hstop, hstamp]
  omega

lemma getRingNeighbors_of_recent (h : c.Recent o k) :
    c.getRingNeighbors o (c.roundTime o k) = ringNeighbors c.nodes o defaultNeighbors := by
  rw [getRingNeighbors, c.neighbors]
  congr 1
  rw [filter_eq_self]
  intro id _
  rw [decide_eq_true_iff]
  by_cases hid : id = c.silent
  · subst hid
    exact h
  · rw [lastSeen_of_ne hid]
    exact stamp_lt_of_recent

lemma getRingNeighbors_of_not_recent (h : ¬ c.Recent o k) : c.getRingNeighbors o (c.roundTime o k) =
    ringNeighbors (c.nodes.filter fun id => decide (id ≠ c.silent)) o defaultNeighbors := by
  rw [getRingNeighbors, c.neighbors]
  congr 1
  apply filter_congr
  intro id _
  rw [decide_eq_decide]
  by_cases hid : id = c.silent
  · subst hid
    exact ⟨fun hrecent => absurd hrecent h, fun hne => absurd rfl hne⟩
  · rw [lastSeen_of_ne hid]
    exact ⟨fun _ => hid, fun _ => stamp_lt_of_recent⟩

lemma observed_succ : c.observed o (k + 1) = (c.observed o k).probeRound (c.config o) (c.round o k) := by
  rw [observed, observed, range_succ, map_append, Monitor.run, foldl_append]
  rfl

lemma neighbors_round (h : c.Recent o k) :
    (c.round o k).neighbors = some (ringNeighbors c.nodes o defaultNeighbors) :=
  congrArg some (getRingNeighbors_of_recent h)

lemma healthy_round : (c.round o k).healthy c.silent = decide (k < c.firstMiss o) := by
  simp [round, roundTime_le_stop_iff]

lemma peers_succ_of_recent (ho : c.Observes o) (h : c.Recent o k) :
    (c.observed o (k + 1)).peers c.silent = some ((((c.observed o k).peers c.silent).getD .new).probed (c.config o)
      (c.roundTime o k) (decide (k < c.firstMiss o))).1 := by
  rw [observed_succ, peers_probeRound_of_mem (neighbors_round h) ho.2, healthy_round]
  rfl

lemma dead_mem_log_succ (ho : c.Observes o) (h : c.Recent o k) :
    (c.silent, .writeEvent .dead) ∈ (c.observed o (k + 1)).log ↔ (c.silent, .writeEvent .dead) ∈ (c.observed o k).log ∨
    .writeEvent .dead ∈ ((((c.observed o k).peers c.silent).getD .new).probed (c.config o) (c.roundTime o k)
          (decide (k < c.firstMiss o))).2 := by
  obtain ⟨new, hlog, hnew⟩ := log_probeRound (c.config o) (c.observed o k) (c.round o k)
  rw [observed_succ, hlog, mem_append, hnew, Round.actions, neighbors_round h]
  dsimp only
  rw [if_pos (contains_iff_mem.2 ho.2), healthy_round]
  rfl

def Tracked (c : Silence ID) (o : ID) (k j : Nat) : Prop :=
  (∃ ps, (c.observed o k).peers c.silent = some ps ∧ Counting ps j) ∧
    (c.silent, .writeEvent .dead) ∉ (c.observed o k).log

lemma tracked_answering (ho : c.Observes o) (hk : k < c.firstMiss o) : c.Tracked o (k + 1) 0 := by
  have hlog : (c.silent, .writeEvent .dead) ∉ (c.observed o k).log := by
    induction k with
    | zero => exact not_mem_nil
    | succ k ih =>
      have hk' := lt_of_succ_lt hk
      rw [dead_mem_log_succ ho (recent_of_lt hk'), decide_eq_true hk']
      rintro (h | h)
      · exact ih hk' h
      · exact (counting_recover _ _).2 h
  have hrecover := counting_recover (c.config o) (((c.observed o k).peers c.silent).getD .new)
  have hrecent := recent_of_lt hk
  constructor
  · refine ⟨_, peers_succ_of_recent ho hrecent, ?_⟩
    rw [decide_eq_true hk]
    exact hrecover.1
  · rw [dead_mem_log_succ ho hrecent, decide_eq_true hk]
    rintro (h | h)
    · exact hlog h
    · exact hrecover.2 h

variable {j : Nat}

lemma tracked_missing (ho : c.Observes o) (hj : j < defaultDeadAfter)
    (hrecent : ∀ i < j, c.Recent o (c.firstMiss o + i)) : c.Tracked o (c.firstMiss o + j) j := by
  induction j with
  | zero => exact tracked_answering ho (lt_succ_self _)
  | succ j ih =>
    obtain ⟨⟨ps, hps, hcounting⟩, hlog⟩ := ih (lt_of_succ_lt hj) fun i hi => hrecent i (lt_succ_of_lt hi)
    have hmiss := hcounting.miss hj (c.config o) (c.roundTime o (c.firstMiss o + j))
    have hnow := hrecent j (lt_succ_self j)
    have hfalse : decide (c.firstMiss o + j < c.firstMiss o) = false := by simp
    constructor
    · have hpeers := peers_succ_of_recent ho hnow
      rw [hfalse, hps] at hpeers
      exact ⟨_, hpeers, hmiss.1⟩
    · rw [← Nat.add_assoc, dead_mem_log_succ ho hnow, hfalse, hps]
      rintro (h | h)
      · exact hlog h
      · exact hmiss.2 h

lemma not_inStartupGrace (o : ID) {t : Int} (ht : c.stop ≤ t) : (c.config o).isInStartupGrace t = false := by
  have hgrace := c.pastGrace o
  simp only [MonitorConfig.isInStartupGrace, decide_eq_false_iff_not]
  omega

lemma reportedDead_of_recent (ho : c.Observes o) (hrecent : ∀ i < 12, c.Recent o (c.firstMiss o + i)) :
    c.ReportedDead o (c.firstMiss o + 12) := by
  obtain ⟨⟨ps, hps, hcounting⟩, -⟩ := tracked_missing ho (by decide : 11 < defaultDeadAfter) fun i hi =>
    hrecent i (lt_succ_of_lt hi)
  have hdead := hcounting.miss_last rfl (not_inStartupGrace o (stop_le_roundTime c o 11))
  have hnow := hrecent 11 (by decide)
  have hfalse : decide (c.firstMiss o + 11 < c.firstMiss o) = false := by simp
  have hpeers := peers_succ_of_recent ho hnow
  rw [hfalse, hps] at hpeers
  refine ⟨c.firstMiss o + 12, le_rfl, ⟨_, hpeers, hdead.1⟩, ?_⟩
  refine (dead_mem_log_succ ho hnow).2 (.inr ?_)
  rw [hfalse, hps]
  exact hdead.2

lemma length_others (c : Silence ID) :
    (c.nodes.filter fun id => decide (id ≠ c.silent)).length = c.nodes.length - 1 := by
  have hfilter : (c.nodes.filter fun id => decide (id ≠ c.silent)) = c.nodes.erase c.silent := by
    rw [c.nodup.erase_eq_filter]
    apply filter_congr
    intro id _
    by_cases hid : id = c.silent <;> simp [hid]
  rw [hfilter, length_erase_of_mem c.mem]

lemma Observes.two_le_length (ho : c.Observes o) : 2 ≤ c.nodes.length := by
  have hmem := ho.2
  rw [ringNeighbors] at hmem
  split at hmem
  · cases hmem
  · omega

lemma peers_succ_of_not_recent (ho : c.Observes o) (h : ¬ c.Recent o k) :
    (c.observed o (k + 1)).peers c.silent = if c.nodes.length = 2 then (c.observed o k).peers c.silent else none := by
  have htwo := ho.two_le_length
  have hlen := length_others c
  have hneighbors : (c.round o k).neighbors = some
      (ringNeighbors (c.nodes.filter fun id => decide (id ≠ c.silent)) o defaultNeighbors) :=
    congrArg some (getRingNeighbors_of_not_recent h)
  rw [observed_succ, peers_probeRound, Round.peer, hneighbors]
  split
  · next heq => cases heq
  · next heq =>
    rw [if_pos]
    by_contra hne
    have hself : o ∈ c.nodes.filter fun id => decide (id ≠ c.silent) :=
      mem_filter.2 ⟨ho.1, decide_eq_true (ne_self_of_mem_ringNeighbors c.nodup ho.2).symm⟩
    exact ringNeighbors_ne_nil (by omega) hself (by decide) (Option.some.inj heq)
  · next n neighbors heq =>
    have hnot : c.silent ∉ n :: neighbors := by
      rw [← Option.some.inj heq]
      intro hmem
      have hother := (mem_filter.1 (mem_of_mem_ringNeighbors hmem)).2
      simp at hother
    grind [ringNeighbors]

variable {i : Nat}

lemma recent_of_recent_le (hij : i ≤ j) (h : c.Recent o (c.firstMiss o + j)) : c.Recent o (c.firstMiss o + i) := by
  rw [recent_iff_of_ge] at h ⊢
  omega

lemma peers_ne_none_of_two (ho : c.Observes o) (htwo : c.nodes.length = 2) (k : Nat) :
    (c.observed o (k + 1)).peers c.silent ≠ none := by
  induction k with
  | zero =>
    obtain ⟨⟨ps, hps, -⟩, -⟩ := tracked_answering ho (succ_pos _)
    exact fun h => by simp [hps] at h
  | succ k ih => grind [peers_succ_of_recent, peers_succ_of_not_recent]

lemma not_forgets_of_recent (ho : c.Observes o) (hrecent : c.Recent o (c.firstMiss o + 11)) (k : Nat) :
    ¬ c.Forgets o k := by
  rintro ⟨-, hnone, hnot⟩
  by_cases hk : k < c.firstMiss o + 12
  · -- in these rounds the node is a neighbour
    have hnow : c.Recent o k := by
      by_cases hmiss : k < c.firstMiss o
      · exact recent_of_lt hmiss
      · obtain ⟨i, rfl⟩ := Nat.exists_eq_add_of_le (Nat.le_of_not_lt hmiss)
        exact recent_of_recent_le (by omega) hrecent
    rw [peers_succ_of_recent ho hnow] at hnone
    cases hnone
  · obtain ⟨j, hj, hdead⟩ := reportedDead_of_recent ho fun i hi => recent_of_recent_le (by omega) hrecent
    exact hnot ⟨j, by omega, hdead⟩

lemma mem_log_of_le {a : ID × Action} (hik : i ≤ k) (h : a ∈ (c.observed o i).log) : a ∈ (c.observed o k).log := by
  induction hik with
  | refl => exact h
  | step hik ih =>
    obtain ⟨new, hlog, -⟩ := log_probeRound (c.config o) (c.observed o _) (c.round o _)
    rw [observed_succ, hlog]
    exact mem_append_left _ ih

lemma forgets_of_not_recent (ho : c.Observes o) (hlen : c.nodes.length ≠ 2)
    (h : ¬ c.Recent o (c.firstMiss o + 11)) : ∃ k, c.Forgets o k := by
  classical
  -- the first round from which the node is missing
  have hex : ∃ j, ¬ c.Recent o (c.firstMiss o + j) := ⟨11, h⟩
  have hle : Nat.find hex ≤ 11 := Nat.find_min' hex h
  obtain ⟨⟨ps, hps, -⟩, hlog⟩ := tracked_missing ho (lt_succ_of_le hle) fun i hi =>
    not_not.1 (Nat.find_min hex hi)
  refine ⟨c.firstMiss o + Nat.find hex, ?_, ?_, ?_⟩
  · rw [hps]
    exact Option.some_ne_none _
  · rw [peers_succ_of_not_recent ho (Nat.find_spec hex), if_neg hlen]
  · rintro ⟨i, hi, -, hdead⟩
    exact hlog (mem_log_of_le hi hdead)

end

/-- A silent node is kept until it is reported if the cluster has only one other node, or if every observer
misses it within ten seconds of its last heartbeat. -/
theorem silent_node_never_forgotten_iff (c : Silence ID) : (∀ o, c.Observes o → ∀ k, ¬ c.Forgets o k) ↔
    (c.nodes.length = 2 ∨ ∀ o, c.Observes o →
    stamp (c.roundTime o (c.firstMiss o)) < stamp (c.lastHeartbeat c.silent c.stop) + 10) := by
  have hbeat : c.lastHeartbeat c.silent c.stop = lastTick (c.firstHeartbeat c.silent) heartbeatInterval c.stop := by
    rw [lastHeartbeat, if_pos rfl, min_self]
  have hrecent : ∀ o, c.Recent o (c.firstMiss o + 11) ↔
      stamp (c.roundTime o (c.firstMiss o)) < stamp (c.lastHeartbeat c.silent c.stop) + 10 := by
    intro o
    rw [recent_iff_of_ge, hbeat]
    omega
  constructor
  · intro h
    by_cases htwo : c.nodes.length = 2
    · exact .inl htwo
    · refine .inr fun o ho => ?_
      rw [← hrecent]
      by_contra hnot
      obtain ⟨k, hk⟩ := forgets_of_not_recent ho htwo hnot
      exact h o ho k hk
  · rintro (htwo | hall) o ho k
    · exact fun hforgets => peers_ne_none_of_two ho htwo k hforgets.2.1
    · exact not_forgets_of_recent ho ((hrecent o).2 (hall o ho)) k

def betweenHeartbeats : Silence (Fin 3) where
  nodes := [0, 1, 2]
  nodup := by decide
  silent := 1
  mem := by decide
  stop := 25 * second
  firstHeartbeat _ := 0
  firstRound _ := 0
  config o := ⟨o, defaultNeighbors, -defaultStartupGracePeriod, defaultStartupGracePeriod, true, true, true⟩
  neighbors _ := rfl
  registered _ _ := le_rfl
  started _ := by decide
  pastGrace _ := (by decide : -defaultStartupGracePeriod + defaultStartupGracePeriod ≤ 25 * second)

/-- Node 1 stops between two heartbeats, and is not seen recently any more when its twelfth miss is due. -/
theorem silent_node_forgotten : betweenHeartbeats.Observes 0 ∧ ∃ k, betweenHeartbeats.Forgets 0 k := by
  have ho : betweenHeartbeats.Observes 0 := ⟨by decide, by decide⟩
  have hold : ¬ betweenHeartbeats.Recent 0 (betweenHeartbeats.firstMiss 0 + 11) := by
    rw [recent_iff_of_ge]
    decide
  exact ⟨ho, forgets_of_not_recent ho (by decide) hold⟩

end Silence
end Orama.Health
