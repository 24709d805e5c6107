import Orama.Lib.Interleaving
import Orama.Serverless.Cron
import Orama.Serverless.Triggers

namespace Orama.Serverless
open Lib

inductive RunStatus
  | running
  | ok
  | error
deriving DecidableEq, Repr

inductive RunError
  | none
  | badExpression (e : CronError)
  | noNextMatch (e : CronError)
  | invocation (text : Bytes)
deriving DecidableEq, Repr

structure CronTrigger where
  id : Bytes
  functionID : Bytes
  cronExpression : Bytes
  nextRunAt : Option Int
  lastRunAt : Option Int
  lastStatus : Option RunStatus
  lastError : Option RunError
  enabled : Bool
deriving DecidableEq

structure CronDueRow where
  triggerID : Bytes
  functionID : Bytes
  functionName : Bytes
  ns : Bytes
  cronExpression : Bytes
  nextRunAt : Int
deriving DecidableEq

def isDue (now nextRunAt : Int) : Bool := nextRunAt / nanos ≤ now / nanos
def batchLimit : Nat := 100

def dueRow (functions : Keyed Function Function.id) (now : Int) (t : CronTrigger) : Option CronDueRow :=
  match functions.get t.functionID, t.nextRunAt with
  | some f, some nextRunAt =>
    if t.enabled && f.active && isDue now nextRunAt then
      some ⟨t.id, t.functionID, f.name, f.ns, t.cronExpression, nextRunAt⟩
    else none
  | _, _ => none

def listDue (triggers : Keyed CronTrigger CronTrigger.id) (functions : Keyed Function Function.id) (now : Int) :
    List CronDueRow :=
  ((triggers.rows.filterMap (dueRow functions now)).insertionSort fun a b => a.nextRunAt ≤ b.nextRunAt).take batchLimit

def CronTrigger.markRun (ranAt nextRunAt : Int) (status : RunStatus) (error : RunError) (t : CronTrigger) : CronTrigger :=
  { t with lastRunAt := some ranAt, nextRunAt := some nextRunAt, lastStatus := some status, lastError := some error }

lemma CronTrigger.id_markRun (ranAt nextRunAt : Int) (status : RunStatus) (error : RunError) (t : CronTrigger) :
    (t.markRun ranAt nextRunAt status error).id = t.id := rfl

def isExpected (triggerID : Bytes) (expected : Int) (t : CronTrigger) : Bool :=
  t.id = triggerID ∧ t.nextRunAt = some expected

def markRun (triggers : Keyed CronTrigger CronTrigger.id) (triggerID : Bytes) (expected ranAt nextRunAt : Int)
    (status : RunStatus) (error : RunError) : Keyed CronTrigger CronTrigger.id :=
  triggers.update (isExpected triggerID expected) (CronTrigger.markRun ranAt nextRunAt status error)
    (CronTrigger.id_markRun ranAt nextRunAt status error)

def alreadyRan (triggers : Keyed CronTrigger CronTrigger.id) (triggerID : Bytes) (expected : Int) : Bool :=
  !triggers.rows.any (isExpected triggerID expected)

structure CronClaim where
  triggerID : Bytes
  before : Option Int
  after : Option Int
deriving DecidableEq

structure CronInvocation where
  triggerID : Bytes
  dueAt : Int
  ns : Bytes
  functionName : Bytes
deriving DecidableEq

structure CronState where
  triggers : Keyed CronTrigger CronTrigger.id
  claims : List CronClaim
  invocations : List CronInvocation

def CronState.stored (s : CronState) (triggerID : Bytes) : Option Int :=
  (s.triggers.get triggerID).bind CronTrigger.nextRunAt

inductive CronFault
  | none
  | refused
  | lost
deriving DecidableEq, Repr

/-- The next step of a gateway: its clock, the tables as its database node has them when it
reads, a fault of the database, whether it is stopped, and what an invocation returns. -/
structure CronEvent (ι : Type) where
  gateway : ι
  now : Int
  triggers : Keyed CronTrigger CronTrigger.id
  functions : Keyed Function Function.id
  fault : CronFault
  cancelled : Bool
  result : Except Bytes Unit

inductive CronPhase
  | idle
  | dispatching (rows : List CronDueRow) (now : Int)
  | invoking (row : CronDueRow) (next : Int) (rest : List CronDueRow) (now : Int)
  | patching (row : CronDueRow) (next : Int) (result : Except Bytes Unit) (rest : List CronDueRow) (now : Int)

def nextRun (row : CronDueRow) (now : Int) : Except RunError Int :=
  match parseCron row.cronExpression with
  | .error e => .error (.badExpression e)
  | .ok parsed =>
    match parsed.next now with
    | .error e => .error (.noNextMatch e)
    | .ok next => .ok next

def farOut (now : Int) : Int := now + 31536000 * nanos

def CronState.claim (s : CronState) (row : CronDueRow) (ranAt nextRunAt : Int) (status : RunStatus) (error : RunError) :
    CronState :=
  let triggers := markRun s.triggers row.triggerID row.nextRunAt ranAt nextRunAt status error
  if alreadyRan s.triggers row.triggerID row.nextRunAt then { s with triggers := triggers }
  else
    { s with
      triggers := triggers
      claims := s.claims ++ [⟨row.triggerID, s.stored row.triggerID,
        (⟨triggers, s.claims, s.invocations⟩ : CronState).stored row.triggerID⟩] }

def tick {ι : Type} (e : CronEvent ι) : CronPhase :=
  if e.fault ≠ .none then .idle
  else
    match listDue e.triggers e.functions e.now with
    | [] => .idle
    | rows => .dispatching rows e.now

def dispatchRow (fault : CronFault) (s : CronState) (row : CronDueRow) (rest : List CronDueRow) (now : Int) :
    CronState × CronPhase :=
  match nextRun row now with
  | .error error =>
    (if fault = .refused then s else s.claim row now (farOut now) .error error, .dispatching rest now)
  | .ok next =>
    if fault = .refused then (s, .dispatching rest now)
    else
      (s.claim row now next .running .none,
        if fault = .lost || alreadyRan s.triggers row.triggerID row.nextRunAt then .dispatching rest now
        else .invoking row next rest now)

def runResult : Except Bytes Unit → RunStatus × RunError
  | .ok _ => (.ok, .none)
  | .error text => (.error, .invocation text)

def patch (s : CronState) (row : CronDueRow) (next now : Int) (result : Except Bytes Unit) : CronState :=
  { s with triggers := markRun s.triggers row.triggerID next now next (runResult result).1 (runResult result).2 }

def schedulers {ι : Type} : Interleaving CronState ι CronPhase (CronEvent ι) where
  process := CronEvent.gateway
  act e s
    | .idle => (s, tick e)
    | .dispatching [] _ => (s, .idle)
    | .dispatching (row :: rest) now => if e.cancelled then (s, .idle) else dispatchRow e.fault s row rest now
    | .invoking row next rest now =>
      ({ s with invocations := s.invocations ++ [⟨row.triggerID, row.nextRunAt, row.ns, row.functionName⟩] },
        .patching row next e.result rest now)
    | .patching row next result rest now =>
      (if e.fault = .refused then s else patch s row next now result, .dispatching rest now)

def booted {ι : Type} (triggers : Keyed CronTrigger CronTrigger.id) : Config CronState ι CronPhase :=
  ⟨⟨triggers, [], []⟩, fun _ => .idle⟩

open CronState List
section
variable {s : CronState} {triggers : Keyed CronTrigger CronTrigger.id} {triggerID id : Bytes}
  {expected ranAt next now : Int} {status : RunStatus} {error : RunError} {row : CronDueRow}

lemma isDue_of_mem_listDue {functions : Keyed Function Function.id} (h : row ∈ listDue triggers functions now) :
    row.nextRunAt / nanos ≤ now / nanos := by
  obtain ⟨t, -, ht⟩ := mem_filterMap.1 ((mem_insertionSort _).1 (mem_of_mem_take h))
  rw [dueRow] at ht
  split at ht
  · split at ht
    · next hdue =>
      cases ht
      simp only [Bool.and_eq_true] at hdue
      exact of_decide_eq_true hdue.2
    · cases ht
  · cases ht

lemma alreadyRan_eq_false :
    alreadyRan s.triggers triggerID expected = false ↔ s.stored triggerID = some expected := by
  rw [alreadyRan, s.triggers.any_rows _ triggerID fun t ht => (of_decide_eq_true ht).1, stored,
    Bool.not_eq_false', Option.any_eq_true, Option.bind_eq_some_iff]
  constructor
  · rintro ⟨t, ht, hexpected⟩
    exact ⟨t, ht, (of_decide_eq_true hexpected).2⟩
  · rintro ⟨t, ht, hnext⟩
    exact ⟨t, ht, decide_eq_true ⟨(Keyed.get_eq_some.1 ht).2, hnext⟩⟩

lemma stored_markRun (s : CronState) (claims : List CronClaim) (invocations : List CronInvocation) (triggerID : Bytes)
    (expected ranAt next : Int) (status : RunStatus) (error : RunError) (id : Bytes) :
    (⟨markRun s.triggers triggerID expected ranAt next status error, claims, invocations⟩ : CronState).stored id =
      if id = triggerID ∧ s.stored triggerID = some expected then some next else s.stored id := by
  rw [stored, markRun, Keyed.get_update]
  cases hget : s.triggers.get id with
  | none =>
    have hstored : s.stored id = none := by rw [stored, hget]; rfl
    grind
  | some t =>
    have hid : t.id = id := (Keyed.get_eq_some.1 hget).2
    have hstored : s.stored id = t.nextRunAt := by rw [stored, hget]; rfl
    by_cases hexpected : id = triggerID ∧ s.stored triggerID = some expected
    · obtain ⟨rfl, hnext⟩ := hexpected
      rw [hstored] at hnext
      have hp : isExpected id expected t := decide_eq_true ⟨hid, hnext⟩
      simp [hp, hstored, hnext, CronTrigger.markRun]
    · rw [if_neg hexpected, hstored]
      have hp : isExpected triggerID expected t = false := by
        rw [Bool.eq_false_iff]
        intro hp
        obtain ⟨hid', hnext⟩ := of_decide_eq_true hp
        exact hexpected ⟨hid.symm.trans hid', by rw [← hid', hid, hstored, hnext]⟩
      simp [hp]

lemma lt_of_nextRun (h : nextRun row now = .ok next) : now / nanos < next / nanos := by
  rw [nextRun] at h
  split at h
  · cases h
  · split at h
    · cases h
    · next hnext =>
      cases h
      exact CronExpression.lt_of_next hnext

lemma lt_farOut (now : Int) : now / nanos < farOut now / nanos := by
  rw [farOut, nanos]
  omega

end

def CronPhase.rows : CronPhase → List CronDueRow
  | .idle => []
  | .dispatching rows _ => rows
  | .invoking _ _ rest _ => rest
  | .patching _ _ _ rest _ => rest

def CronPhase.clock : CronPhase → Int
  | .idle => 0
  | .dispatching _ now => now
  | .invoking _ _ _ now => now
  | .patching _ _ _ _ now => now

def CronPhase.held : CronPhase → Option CronDueRow
  | .invoking row _ _ _ => some row
  | _ => none

def CronPhase.Due (phase : CronPhase) : Prop := ∀ row ∈ phase.rows, row.nextRunAt / nanos ≤ phase.clock / nanos

def CronDueRow.key (row : CronDueRow) : Bytes × Int := (row.triggerID, row.nextRunAt)

def CronInvocation.key (x : CronInvocation) : Bytes × Int := (x.triggerID, x.dueAt)

def CronState.Passed (s : CronState) (key : Bytes × Int) : Prop := ∃ v, s.stored key.1 = some v ∧ key.2 < v

section
variable {s s' : CronState} {phase : CronPhase} {row : CronDueRow} {now next : Int}

structure Claimed (s s' : CronState) (row : CronDueRow) (next : Int) : Prop where
  expected : s.stored row.triggerID = some row.nextRunAt
  stored : ∀ id, s'.stored id = if id = row.triggerID then some next else s.stored id
  claims : s'.claims = s.claims ++ [⟨row.triggerID, some row.nextRunAt, some next⟩]
  invocations : s'.invocations = s.invocations

structure Unchanged (s s' : CronState) : Prop where
  stored : ∀ id, s'.stored id = s.stored id
  claims : s'.claims = s.claims
  invocations : s'.invocations = s.invocations

lemma Unchanged.refl (s : CronState) : Unchanged s s := ⟨fun _ => rfl, rfl, rfl⟩

lemma claim_cases (s : CronState) (row : CronDueRow) (ranAt next : Int) (status : RunStatus) (error : RunError) :
    (alreadyRan s.triggers row.triggerID row.nextRunAt ∧ Unchanged s (s.claim row ranAt next status error)) ∨
    Claimed s (s.claim row ranAt next status error) row next := by
  rw [claim]
  cases hran : alreadyRan s.triggers row.triggerID row.nextRunAt with
  | true =>
    have hne : s.stored row.triggerID ≠ some row.nextRunAt := by
      intro h
      rw [alreadyRan_eq_false.2 h] at hran
      cases hran
    exact .inl ⟨rfl, fun id => by simp [stored_markRun, hne], rfl, rfl⟩
  | false =>
    have hexpected := alreadyRan_eq_false.1 hran
    refine .inr ⟨hexpected, fun id => by simp [stored_markRun, hexpected], ?_, rfl⟩
    simp [stored_markRun, hexpected]

lemma unchanged_patch (s : CronState) (row : CronDueRow) (next now : Int) (result : Except Bytes Unit) :
    Unchanged s (patch s row next now result) := by
  refine ⟨fun id => ?_, rfl, rfl⟩
  rw [patch, stored_markRun]
  split
  · next h => rw [h.1, h.2]
  · rfl

inductive CronEffect (s : CronState) (phase : CronPhase) (s' : CronState) (phase' : CronPhase) : Prop
  | quiet (h : Unchanged s s') (hheld : phase'.held = none)
  | claims (row : CronDueRow) (next : Int) (hlt : row.nextRunAt < next) (h : Claimed s s' row next)
      (hheld : phase'.held = none ∨ phase'.held = some row)
  | invokes (row : CronDueRow) (hrow : phase.held = some row) (hstored : ∀ id, s'.stored id = s.stored id)
      (hclaims : s'.claims = s.claims)
      (hinvocations : ∃ x : CronInvocation, x.key = row.key ∧ s'.invocations = s.invocations ++ [x])
      (hheld : phase'.held = none)

lemma dispatchRow_effect (fault : CronFault) (s : CronState) {rest : List CronDueRow}
    (hdue : row.nextRunAt / nanos ≤ now / nanos) :
    CronEffect s phase (dispatchRow fault s row rest now).1 (dispatchRow fault s row rest now).2 := by
  have hlater : ∀ next, now / nanos < next / nanos → row.nextRunAt < next := by
    intro next hnext
    rw [nanos] at hdue hnext
    omega
  rw [dispatchRow]
  cases hnext : nextRun row now with
  | error error =>
    dsimp only
    split
    · exact .quiet (.refl s) rfl
    · rcases claim_cases s row now (farOut now) .error error with ⟨-, h⟩ | h
      · exact .quiet h rfl
      · exact .claims row (farOut now) (hlater _ (lt_farOut now)) h (.inl rfl)
  | ok next =>
    dsimp only
    split
    · exact .quiet (.refl s) rfl
    · rcases claim_cases s row now next .running .none with ⟨hran, h⟩ | h
      · rw [hran, Bool.or_true]
        exact .quiet h rfl
      · refine .claims row next (hlater next (lt_of_nextRun hnext)) h ?_
        split
        · exact .inl rfl
        · exact .inr rfl

lemma act_cronEffect {ι : Type} (e : CronEvent ι) (s : CronState) (hdue : phase.Due) :
    CronEffect s phase (schedulers.act e s phase).1 (schedulers.act e s phase).2 := by
  cases phase with
  | idle =>
    refine .quiet (.refl s) ?_
    change (tick e).held = none
    rw [tick]
    split
    · rfl
    · split <;> rfl
  | dispatching rows now =>
    cases rows with
    | nil => exact .quiet (.refl s) rfl
    | cons row rest =>
      change CronEffect s _ (if e.cancelled then (s, .idle) else dispatchRow e.fault s row rest now).1
        (if e.cancelled then (s, .idle) else dispatchRow e.fault s row rest now).2
      split
      · exact .quiet (.refl s) rfl
      · exact dispatchRow_effect e.fault s (hdue row mem_cons_self)
  | invoking row next rest now => exact .invokes row rfl (fun _ => rfl) rfl ⟨_, rfl, rfl⟩ rfl
  | patching row next result rest now =>
    refine .quiet ?_ rfl
    change Unchanged s (if e.fault = .refused then s else patch s row next now result)
    split
    · exact .refl s
    · exact unchanged_patch s row next now result

lemma due_tick {ι : Type} (e : CronEvent ι) : (tick e).Due := by
  rw [tick]
  split
  · exact nofun
  · split
    · exact nofun
    · next rows _ => exact fun row h => isDue_of_mem_listDue h

lemma due_act {ι : Type} (e : CronEvent ι) (s : CronState) (hdue : phase.Due) : (schedulers.act e s phase).2.Due := by
  cases phase with
  | idle => exact due_tick e
  | dispatching rows now =>
    cases rows with
    | nil => exact nofun
    | cons row rest =>
      have hrest : ∀ r ∈ rest, r.nextRunAt / nanos ≤ now / nanos := fun r hr => hdue r (mem_cons_of_mem _ hr)
      change (if e.cancelled then (s, .idle) else dispatchRow e.fault s row rest now).2.Due
      split
      · exact nofun
      · rw [dispatchRow]
        split
        · exact hrest
        · split
          · exact hrest
          · dsimp only
            split <;> exact hrest
  | invoking row next rest now => exact hdue
  | patching row next result rest now => exact hdue

lemma CronState.Passed.of_stored {key : Bytes × Int} (hkey : s.Passed key) (hstored : ∀ id, s'.stored id = s.stored id) :
    s'.Passed key := by
  obtain ⟨v, hv, hlt⟩ := hkey
  exact ⟨v, (hstored _).trans hv, hlt⟩

lemma Claimed.passed {key : Bytes × Int} (h : Claimed s s' row next) (hlt : row.nextRunAt < next) (hkey : s.Passed key) :
    s'.Passed key := by
  obtain ⟨v, hv, hkv⟩ := hkey
  rw [CronState.Passed, h.stored]
  split
  · next hid =>
    rw [hid, h.expected] at hv
    cases hv
    exact ⟨next, rfl, Int.lt_trans hkv hlt⟩
  · exact ⟨v, hv, hkv⟩

lemma Claimed.not_passed (h : Claimed s s' row next) : ¬ s.Passed row.key := by
  rintro ⟨v, hv, hlt⟩
  have hv' : some row.nextRunAt = some v := h.expected.symm.trans hv
  cases hv'
  exact Int.lt_irrefl _ hlt

end

section
variable {ι : Type}

structure Leased (c : Config CronState ι CronPhase) : Prop where
  due : ∀ i, (c.phase i).Due
  forward : ∀ x ∈ c.shared.claims, ∃ v v', x.before = some v ∧ x.after = some v' ∧ v < v'
  past : ∀ x ∈ c.shared.invocations, c.shared.Passed x.key
  held : ∀ i row, (c.phase i).held = some row → c.shared.Passed row.key ∧ ∀ x ∈ c.shared.invocations, x.key ≠ row.key
  apart : ∀ i j row row', (c.phase i).held = some row → (c.phase j).held = some row' → row.key = row'.key → i = j
  nodup : (c.shared.invocations.map CronInvocation.key).Nodup

lemma leased_booted (triggers : Keyed CronTrigger CronTrigger.id) : Leased (ι := ι) (booted triggers) where
  due i row hrow := absurd hrow not_mem_nil
  forward x hx := absurd hx not_mem_nil
  past x hx := absurd hx not_mem_nil
  held i row h := by cases h
  apart i j row row' h := by cases h
  nodup := nodup_nil

variable [DecidableEq ι] {c : Config CronState ι CronPhase} {i : ι} {s' : CronState} {phase' : CronPhase}

lemma held_of_update (hheld : phase'.held = none) {j : ι} {row : CronDueRow}
    (h : (Function.update c.phase i phase' j).held = some row) : j ≠ i ∧ (c.phase j).held = some row := by
  grind

lemma held_of_claims {row : CronDueRow} (hheld : phase'.held = none ∨ phase'.held = some row) {j : ι} {r : CronDueRow}
    (h : (Function.update c.phase i phase' j).held = some r) : (j = i ∧ r = row) ∨ (c.phase j).held = some r := by
  grind

section
variable (h : Leased c) (hdue : phase'.Due)
include h hdue

lemma due_update (j : ι) : (Function.update c.phase i phase' j).Due := by
  by_cases hj : j = i
  · subst hj
    rwa [Function.update_self]
  · rw [Function.update_of_ne hj]
    exact h.due j

lemma Leased.quiet (hsame : Unchanged c.shared s') (hheld : phase'.held = none) :
    Leased ⟨s', Function.update c.phase i phase'⟩ := by
  refine ⟨due_update h hdue, ?_, ?_, ?_, ?_, ?_⟩
  · rw [hsame.claims]
    exact h.forward
  · rw [hsame.invocations]
    exact fun x hx => (h.past x hx).of_stored hsame.stored
  · intro j row hj
    rw [hsame.invocations]
    obtain ⟨hp, hx⟩ := h.held j row (held_of_update hheld hj).2
    exact ⟨hp.of_stored hsame.stored, hx⟩
  · exact fun j k row row' hj hk => h.apart j k row row' (held_of_update hheld hj).2 (held_of_update hheld hk).2
  · rw [hsame.invocations]
    exact h.nodup

lemma Leased.claims {row : CronDueRow} {next : Int} (hlt : row.nextRunAt < next)
    (hclaimed : Claimed c.shared s' row next) (hheld : phase'.held = none ∨ phase'.held = some row) :
    Leased ⟨s', Function.update c.phase i phase'⟩ := by
  have hnew : s'.Passed row.key := ⟨next, by rw [hclaimed.stored]; exact if_pos rfl, hlt⟩
  refine ⟨due_update h hdue, ?_, ?_, ?_, ?_, ?_⟩
  · rw [hclaimed.claims]
    intro x hx
    rcases mem_append.1 hx with hold | hlast
    · exact h.forward x hold
    · grind
  · rw [hclaimed.invocations]
    exact fun x hx => hclaimed.passed hlt (h.past x hx)
  · intro j r hj
    rw [hclaimed.invocations]
    rcases held_of_claims hheld hj with ⟨-, rfl⟩ | hold
    · refine ⟨hnew, fun x hx hkey => hclaimed.not_passed ?_⟩
      rw [← hkey]
      exact h.past x hx
    · obtain ⟨hp, hx⟩ := h.held j r hold
      exact ⟨hclaimed.passed hlt hp, hx⟩
  · intro j k r r' hj hk hkey
    rcases held_of_claims hheld hj with ⟨rfl, rfl⟩ | holdj
    · rcases held_of_claims hheld hk with ⟨rfl, -⟩ | holdk
      · rfl
      · refine absurd ?_ hclaimed.not_passed
        rw [hkey]
        exact (h.held k r' holdk).1
    · rcases held_of_claims hheld hk with ⟨rfl, rfl⟩ | holdk
      · refine absurd ?_ hclaimed.not_passed
        rw [← hkey]
        exact (h.held j r holdj).1
      · exact h.apart j k r r' holdj holdk hkey
  · rw [hclaimed.invocations]
    exact h.nodup

lemma Leased.invokes {row : CronDueRow} {x : CronInvocation}
    (hrow : (c.phase i).held = some row) (hstored : ∀ id, s'.stored id = c.shared.stored id)
    (hclaims : s'.claims = c.shared.claims) (hkey : x.key = row.key)
    (hinvocations : s'.invocations = c.shared.invocations ++ [x]) (hheld : phase'.held = none) :
    Leased ⟨s', Function.update c.phase i phase'⟩ := by
  refine ⟨due_update h hdue, ?_, ?_, ?_, ?_, ?_⟩
  · rw [hclaims]
    exact h.forward
  · rw [hinvocations]
    intro y hy
    rcases mem_append.1 hy with hold | hlast
    · exact (h.past y hold).of_stored hstored
    · rw [mem_singleton.1 hlast, hkey]
      exact (h.held i row hrow).1.of_stored hstored
  · intro j r hj
    obtain ⟨hji, hold⟩ := held_of_update hheld hj
    obtain ⟨hp, hfresh⟩ := h.held j r hold
    refine ⟨hp.of_stored hstored, ?_⟩
    rw [hinvocations]
    intro y hy
    rcases mem_append.1 hy with hyold | hlast
    · exact hfresh y hyold
    · rw [mem_singleton.1 hlast, hkey]
      exact fun hsame => hji (h.apart j i r row hold hrow hsame.symm)
  · exact fun j k r r' hj hk => h.apart j k r r' (held_of_update hheld hj).2 (held_of_update hheld hk).2
  · rw [hinvocations, map_append]
    refine List.Nodup.append h.nodup (nodup_singleton _) ?_
    intro key hold hlast
    obtain ⟨y, hy, rfl⟩ := mem_map.1 hold
    rw [map_singleton, mem_singleton, hkey] at hlast
    exact (h.held i row hrow).2 y hy hlast

end

lemma Leased.step {e : CronEvent ι} (h : Leased c) : Leased (schedulers.step c e) := by
  have heffect := act_cronEffect e c.shared (h.due e.gateway)
  have hdue := due_act e c.shared (h.due e.gateway)
  have hstep : schedulers.step c e = ⟨(schedulers.act e c.shared (c.phase e.gateway)).1,
      Function.update c.phase e.gateway (schedulers.act e c.shared (c.phase e.gateway)).2⟩ := rfl
  rw [hstep]
  cases heffect with
  | quiet hsame hheld => exact h.quiet hdue hsame hheld
  | claims row next hlt hclaimed hheld => exact h.claims hdue hlt hclaimed hheld
  | invokes row hrow hstored hclaims hinvocations hheld => grind [invokes]

structure ExclusiveClaims (c : Config CronState ι CronPhase) : Prop where
  forward : ∀ x ∈ c.shared.claims, ∃ v v', x.before = some v ∧ x.after = some v' ∧ v < v'
  once : (c.shared.invocations.map fun x => (x.triggerID, x.dueAt)).Nodup

/-- Whatever the clocks of the gateways show and however old the rows are that they have read. -/
theorem cron_claims_exclusive (triggers : Keyed CronTrigger CronTrigger.id) (events : List (CronEvent ι)) :
    ExclusiveClaims (schedulers.run (booted triggers) events) := by
  have h : Leased (schedulers.run (booted triggers) events) :=
    Interleaving.run_invariant (fun _ _ => Leased.step) events (leased_booted triggers)
  exact ⟨h.forward, h.nodup⟩

end

end Orama.Serverless
