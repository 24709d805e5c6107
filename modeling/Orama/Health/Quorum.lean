import Mathlib.Data.List.Dedup
import Mathlib.Data.List.MinMax
import Mathlib.Data.List.Perm.Subperm
import Mathlib.Order.Fin.Basic
import Orama.Lib.Interleaving

namespace Orama.Health
open Lib List

def defaultQuorumWindow : Int := 300
def defaultMinQuorum : Nat := 2

inductive HealthStatus where
  | suspect
  | dead
  | recovered
deriving DecidableEq

structure HealthEvent (ID : Type) where
  observerID : ID
  targetID : ID
  status : HealthStatus
  createdAt : Int
deriving DecidableEq

open Interleaving
namespace Quorum
variable {ID : Type} [LinearOrder ID]

structure Event (ID : Type) where
  observer : ID
  now : Int
  fault : Bool

inductive Phase where
  | writing
  | counting
  | choosing (cutoff : Int)
  | fired
  | quiet
deriving DecidableEq

def deadObservers (targetID : ID) (cutoff : Int) (table : List (HealthEvent ID)) : List ID :=
  (table.filter fun r => r.targetID = targetID && r.status = .dead && cutoff < r.createdAt).map HealthEvent.observerID

def statement (targetID : ID) (e : Event ID) (table : List (HealthEvent ID)) : Phase → List (HealthEvent ID) × Phase
  | .writing => (if e.fault then table else table ++ [⟨e.observer, targetID, .dead, e.now⟩], .counting)
  | .counting =>
    let cutoff := e.now - defaultQuorumWindow
    if e.fault then (table, .quiet)
    else if (deadObservers targetID cutoff table).dedup.length < defaultMinQuorum then (table, .quiet)
    else (table, .choosing cutoff)
  | .choosing cutoff =>
    if e.fault then (table, .quiet)
    else if (deadObservers targetID cutoff table).min? = some e.observer then (table, .fired)
    else (table, .quiet)
  | .fired => (table, .fired)
  | .quiet => (table, .quiet)

def observers (targetID : ID) : Interleaving (List (HealthEvent ID)) ID Phase (Event ID) where
  process := Event.observer
  act e table phase := statement targetID e table phase

def initial (table : List (HealthEvent ID)) : Config (List (HealthEvent ID)) ID Phase := ⟨table, fun _ => .writing⟩

def inserted (events : List (Event ID)) (o : ID) : Bool :=
  match events.find? fun e => e.observer = o with
  | some e => !e.fault
  | none => false

def turns (events : List (Event ID)) (o : ID) : Nat := events.countP fun e => e.observer = o

def Elected (events : List (Event ID)) (o : ID) : Prop :=
  ∃ before count between choice after, events = before ++ count :: (between ++ choice :: after) ∧
    count.observer = o ∧ choice.observer = o ∧ turns before o = 1 ∧ turns between o = 0 ∧
    count.fault = false ∧ choice.fault = false ∧ inserted before o = true ∧
    (∃ o', o' ≠ o ∧ inserted before o' = true) ∧ ∀ o' < o, inserted (before ++ count :: between) o' = false

structure InWindow (targetID : ID) (table : List (HealthEvent ID)) (events : List (Event ID)) : Prop where
  spread : ∀ d ∈ events, ∀ e ∈ events, e.now - defaultQuorumWindow < d.now
  fresh : ∀ r ∈ table, r.targetID = targetID → r.status = .dead →
    ∀ e ∈ events, r.createdAt ≤ e.now - defaultQuorumWindow

section
variable {targetID o : ID} {table : List (HealthEvent ID)} {events : List (Event ID)}

lemma inserted_iff : inserted events o ↔
    ∃ before e after, events = before ++ e :: after ∧ e.observer = o ∧ (∀ d ∈ before, d.observer ≠ o) ∧
    e.fault = false := by
  rw [inserted]
  constructor
  · grind [find?_eq_some_iff_append]
  · grind

lemma turns_append (before after : List (Event ID)) : turns (before ++ after) o = turns before o + turns after o :=
  countP_append

variable {e : Event ID}

lemma turns_cons_self (he : e.observer = o) : turns (e :: events) o = turns events o + 1 :=
  countP_cons_of_pos (by simpa using he)

lemma turns_eq_zero : turns events o = 0 ↔ ∀ e ∈ events, e.observer ≠ o := by
  rw [turns, countP_eq_zero]
  simp

lemma inserted_append {before : List (Event ID)} (h : turns before o ≠ 0) (after : List (Event ID)) :
    inserted (before ++ after) o = inserted before o := by
  grind [turns_eq_zero, inserted]

def Phase.After : Phase → Nat → Prop
  | .writing, k => k = 0
  | .counting, k => k = 1
  | .choosing _, k => k = 2
  | .fired, k => 2 ≤ k
  | .quiet, k => 2 ≤ k

variable {phase : Phase}

lemma statement_after {k : Nat} (h : phase.After k) : (statement targetID e table phase).2.After (k + 1) := by
  cases phase with
  | writing => exact congrArg (· + 1) h
  | counting =>
    cases h
    rw [statement]
    split
    · exact Nat.le_refl 2
    · split
      · exact Nat.le_refl 2
      · rfl
  | choosing cutoff =>
    cases h
    rw [statement]
    split
    · exact Nat.le_succ 2
    · split <;> exact Nat.le_succ 2
  | fired => exact Nat.le_succ_of_le h
  | quiet => exact Nat.le_succ_of_le h

lemma phase_step_own (c : Config (List (HealthEvent ID)) ID Phase) (e : Event ID) :
    ((observers targetID).step c e).phase e.observer = (statement targetID e c.shared (c.phase e.observer)).2 :=
  phase_step_self ..

lemma run_after (targetID : ID) (table : List (HealthEvent ID)) (events : List (Event ID)) (o : ID) :
    (((observers targetID).run (initial table) events).phase o).After (turns events o) := by
  induction events using List.reverseRecOn with
  | nil => rfl
  | append_singleton events e ih =>
    rw [run_concat, turns_append]
    rcases phase_step_cases (observers targetID) _ e o with ⟨ho, hphase⟩ | ⟨ho, hphase⟩
    · rw [hphase, turns_cons_self ho.symm]
      exact statement_after ih
    · have hnone : turns [e] o = 0 := by
        rw [turns_eq_zero]
        intro d hd
        rw [mem_singleton.1 hd]
        exact Ne.symm ho
      rw [hphase, hnone]
      exact ih

lemma Phase.After.eq_writing (h : phase.After 0) : phase = .writing := by
  cases phase <;> simp_all [Phase.After]

lemma Phase.After.eq_counting (h : phase.After 1) : phase = .counting := by
  cases phase <;> simp_all [Phase.After]

lemma run_writing_iff : ((observers targetID).run (initial table) events).phase o = .writing ↔
    ∀ e ∈ events, e.observer ≠ o := by
  rw [← turns_eq_zero]
  have hafter := run_after targetID table events o
  constructor
  · intro h
    rwa [h] at hafter
  · intro h
    rw [h] at hafter
    exact hafter.eq_writing

lemma statement_table : (statement targetID e table phase).1 =
    if phase = .writing ∧ e.fault = false then table ++ [⟨e.observer, targetID, .dead, e.now⟩] else table := by
  cases phase with
  | writing =>
    rw [statement]
    cases e.fault <;> simp
  | counting =>
    rw [statement]
    split
    · simp
    · split <;> simp
  | choosing cutoff =>
    rw [statement]
    split
    · simp
    · split <;> simp
  | fired => simp [statement]
  | quiet => simp [statement]

lemma mem_run {r : HealthEvent ID} : r ∈ ((observers targetID).run (initial table) events).shared ↔
    r ∈ table ∨ ∃ before e after, events = before ++ e :: after ∧ (∀ d ∈ before, d.observer ≠ e.observer) ∧
    e.fault = false ∧ r = ⟨e.observer, targetID, .dead, e.now⟩ := by
  induction events using List.reverseRecOn with
  | nil => simp [run, initial]
  | append_singleton events e ih =>
    have hshared : ((observers targetID).step ((observers targetID).run (initial table) events) e).shared =
        (statement targetID e _ _).1 := rfl
    rw [run_concat, hshared, statement_table, exists_cut_concat]
    change r ∈ (if ((observers targetID).run (initial table) events).phase e.observer = .writing ∧ e.fault = false
      then _ else _) ↔ _
    split
    · grind [run_writing_iff]
    · grind [run_writing_iff]

lemma mem_deadObservers {before after : List (Event ID)} (hwindow : InWindow targetID table (before ++ after))
    (he : e ∈ before ++ after) :
    o ∈ deadObservers targetID (e.now - defaultQuorumWindow) ((observers targetID).run (initial table) before).shared ↔
      inserted before o := by
  rw [inserted_iff, deadObservers, mem_map]
  constructor
  · rintro ⟨r, hr, rfl⟩
    rw [mem_filter, mem_run] at hr
    simp only [Bool.and_eq_true, decide_eq_true_eq] at hr
    obtain ⟨hr, ⟨htarget, hdead⟩, hcutoff⟩ := hr
    rcases hr with hr | ⟨earlier, d, later, heq, hfirst, hfault, rfl⟩
    · have hold := hwindow.fresh r hr htarget hdead e he
      omega
    · exact ⟨earlier, d, later, heq, rfl, hfirst, hfault⟩
  · rintro ⟨earlier, d, later, heq, rfl, hfirst, hfault⟩
    refine ⟨⟨d.observer, targetID, .dead, d.now⟩, ?_, rfl⟩
    have hd : d ∈ before ++ after := by simp [heq]
    rw [mem_filter, mem_run]
    refine ⟨.inr ⟨earlier, d, later, heq, hfirst, hfault, rfl⟩, ?_⟩
    simpa using hwindow.spread d hd e he

lemma two_le_dedup_length {l : List ID} (ho : o ∈ l) : 2 ≤ l.dedup.length ↔ ∃ o' ∈ l, o' ≠ o := by
  constructor
  · intro h
    by_contra hall
    have hsub : l.dedup ⊆ [o] := by
      grind [mem_dedup]
    have hle := (subperm_of_subset (nodup_dedup l) hsub).length_le
    rw [length_singleton] at hle
    omega
  · rintro ⟨o', ho', hne⟩
    have hpair : [o', o].Nodup := by simpa using hne
    have hsub : [o', o] ⊆ l.dedup := by
      grind [mem_dedup]
    exact (subperm_of_subset hpair hsub).length_le

attribute [local grind] statement

lemma statement_choosing {cutoff : Int} (hbefore : phase ≠ .choosing cutoff)
    (h : (statement targetID e table phase).2 = .choosing cutoff) :
    phase = .counting ∧ e.fault = false ∧ cutoff = e.now - defaultQuorumWindow ∧
      2 ≤ (deadObservers targetID cutoff table).dedup.length := by
  cases phase with
  | writing => cases h
  | counting =>
    rw [statement] at h
    split at h
    · cases h
    · next hfault =>
      split at h
      · cases h
      · next hquorum =>
        cases h
        exact ⟨rfl, by simpa using hfault, rfl, Nat.le_of_not_lt hquorum⟩
  | choosing cutoff' => grind
  | fired => cases h
  | quiet => cases h

lemma statement_fired (hbefore : phase ≠ .fired) (h : (statement targetID e table phase).2 = .fired) :
    ∃ cutoff, phase = .choosing cutoff ∧ e.fault = false ∧
    (deadObservers targetID cutoff table).min? = some e.observer := by
  cases phase with
  | writing => cases h
  | counting => grind
  | choosing cutoff => grind
  | fired => exact absurd rfl hbefore
  | quiet => cases h

lemma run_fired {c : Config (List (HealthEvent ID)) ID Phase} (h : c.phase o = .fired) (events : List (Event ID)) :
    ((observers targetID).run c events).phase o = .fired := by
  refine run_invariant (P := fun c => c.phase o = Phase.fired) ?_ events h
  intro c e hc
  rcases phase_step_cases (observers targetID) c e o with ⟨-, hphase⟩ | ⟨-, hphase⟩
  · rw [hphase, hc]
    rfl
  · rw [hphase, hc]

section
variable (hwindow : InWindow targetID table events)
include hwindow

lemma elected_of_fired
    (h : ((observers targetID).run (initial table) events).phase o = .fired) : Elected events o := by
  obtain ⟨upto, choice, after, rfl, hchoice, hnot, hfired⟩ :=
    exists_turn (· = Phase.fired) (by simp [initial]) h
  change choice.observer = o at hchoice
  rw [← hchoice, phase_step_own, hchoice] at hfired
  obtain ⟨cutoff, hchoosing, hfault', hmin⟩ := statement_fired hnot hfired
  obtain ⟨before, count, between, rfl, hcount, hnot', hstep⟩ :=
    exists_turn (· = Phase.choosing cutoff) (by simp [initial]) hchoosing
  change count.observer = o at hcount
  rw [← hcount, phase_step_own, hcount] at hstep
  obtain ⟨hcounting, hfault, rfl, hquorum⟩ := statement_choosing hnot' hstep
  have hone : turns before o = 1 := by
    have hafter := run_after targetID table before o
    rwa [hcounting] at hafter
  have htwo : turns (before ++ count :: between) o = 2 := by
    have hafter := run_after targetID table (before ++ count :: between) o
    rwa [hchoosing] at hafter
  have hnone : turns between o = 0 := by
    rw [turns_append, turns_cons_self hcount] at htwo
    omega
  have hmem : count ∈ (before ++ count :: between) ++ choice :: after := by simp
  rw [min?_eq_some_iff, hchoice, mem_deadObservers hwindow hmem] at hmin
  obtain ⟨hself, hlowest⟩ := hmin
  rw [inserted_append (by omega)] at hself
  rw [append_assoc] at hwindow hmem
  have hown := (mem_deadObservers hwindow hmem).2 hself
  obtain ⟨o', ho', hne⟩ := (two_le_dedup_length hown).1 hquorum
  refine ⟨before, count, between, choice, after, append_assoc .., hcount, hchoice, hone, hnone, hfault,
    hfault', hself, ⟨o', hne, (mem_deadObservers hwindow hmem).1 ho'⟩, fun low hlow => ?_⟩
  rw [← append_assoc] at hwindow hmem
  rw [Bool.eq_false_iff]
  intro hinserted
  exact absurd (hlowest low ((mem_deadObservers hwindow hmem).2 hinserted)) (not_le_of_gt hlow)

lemma fired_of_elected (h : Elected events o) :
    ((observers targetID).run (initial table) events).phase o = .fired := by
  obtain ⟨before, count, between, choice, after, rfl, hcount, hchoice, hone, hnone, hfault, hfault', hown,
    ⟨o', hne, hother⟩, hlow⟩ := h
  have hmem : count ∈ before ++ count :: (between ++ choice :: after) := by simp
  have hcounting : ((observers targetID).run (initial table) before).phase o = .counting := by
    grind [run_after, Phase.After.eq_counting]
  have hchoosing : ((observers targetID).run (initial table) (before ++ count :: between)).phase o =
      .choosing (count.now - defaultQuorumWindow) := by
    have hquorum := (two_le_dedup_length ((mem_deadObservers hwindow hmem).2 hown)).2
      ⟨o', (mem_deadObservers hwindow hmem).2 hother, hne⟩
    have hstep : ((observers targetID).step ((observers targetID).run (initial table) before) count).phase o =
        .choosing (count.now - defaultQuorumWindow) := by
      grind [phase_step_own, defaultMinQuorum]
    have hrest : ∀ e ∈ between, (observers targetID).process e ≠ o := turns_eq_zero.1 hnone
    rw [run_append, ← hstep]
    exact phase_run_of_forall_ne hrest
  have hmin : (deadObservers targetID (count.now - defaultQuorumWindow)
      ((observers targetID).run (initial table) (before ++ count :: between)).shared).min? = some o := by
    grind [min?_eq_some_iff, mem_deadObservers, inserted_append]
  have hfired : ((observers targetID).step
      ((observers targetID).run (initial table) (before ++ count :: between)) choice).phase o = .fired := by
    grind [phase_step_own]
  have hrun : (observers targetID).run (initial table) (before ++ count :: (between ++ choice :: after)) =
      (observers targetID).run ((observers targetID).step
        ((observers targetID).run (initial table) (before ++ count :: between)) choice) after := by
    rw [← cons_append, ← append_assoc, run_append]
    rfl
  rw [hrun]
  exact run_fired hfired after

lemma fired_iff (o : ID) : ((observers targetID).run (initial table) events).phase o = .fired ↔ Elected events o :=
  ⟨elected_of_fired hwindow, fired_of_elected hwindow⟩

end
end

/-- Within the window, exactly one observer calls for the recovery if exactly one is elected by the order of
the statements. -/
theorem recovery_fires_once_iff (targetID : ID) (table : List (HealthEvent ID)) (events : List (Event ID))
    (hwindow : InWindow targetID table events) :
    (∃! o, ((observers targetID).run (initial table) events).phase o = .fired) ↔ ∃! o, Elected events o :=
  existsUnique_congr fun o => fired_iff hwindow o

def at0 (o : Fin 4) : Event (Fin 4) := ⟨o, 0, false⟩

lemma inWindow_at0 (targetID : Fin 4) (order : List (Fin 4)) : InWindow targetID [] (order.map at0) := by
  refine ⟨fun d hd e he => ?_, nofun⟩
  obtain ⟨o, -, rfl⟩ := mem_map.1 hd
  obtain ⟨o', -, rfl⟩ := mem_map.1 he
  exact (by decide : (0 : Int) - defaultQuorumWindow < 0)

/-- Both have inserted when the first one counts. -/
theorem recovery_fires_once_in_order :
    ∃! o, ((observers 3).run (initial []) ([0, 1, 0, 1, 0, 1].map at0)).phase o = .fired :=
  (recovery_fires_once_iff 3 [] _ (inWindow_at0 3 _)).2
    ⟨0, ⟨[0, 1].map at0, at0 0, [at0 1], at0 0, [at0 1], rfl, rfl, rfl, by decide, by decide, rfl, rfl, by decide,
      ⟨1, by decide, by decide⟩, by decide⟩, by
      intro o ho
      have hfired := (fired_iff (inWindow_at0 3 [0, 1, 0, 1, 0, 1]) o).2 ho
      clear ho
      revert o
      decide⟩

/-- The lowest observer counts too early and the other one leaves it to that one; or the lowest one comes
last and two fire. -/
theorem recovery_missed_and_doubled :
    (∀ o, ((observers 3).run (initial []) ([0, 0, 1, 1, 1].map at0)).phase o ≠ .fired) ∧
    (((observers 3).run (initial []) ([1, 2, 1, 1, 0, 0, 0, 2, 2].map at0)).phase 1 = .fired ∧
    ((observers 3).run (initial []) ([1, 2, 1, 1, 0, 0, 0, 2, 2].map at0)).phase 0 = .fired) := by
  decide

end Quorum
end Orama.Health
