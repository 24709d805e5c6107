import Orama.Lib.Interleaving
import Orama.Lib.Keyed
import Orama.Lib.Text

namespace Orama.Rqlite.Sequence
open Lib List

structure PublishSeq where
  ns : Bytes
  nextSeq : Int
  updatedAt : Int
deriving DecidableEq

def PublishSeq.advance (now : Int) (s : PublishSeq) : PublishSeq := { s with nextSeq := s.nextSeq + 1, updatedAt := now }

lemma PublishSeq.ns_advance (now : Int) (s : PublishSeq) : (s.advance now).ns = s.ns := rfl

inductive OpKind where
  | exec
  | query
  | unknown (text : Bytes)
deriving DecidableEq

structure UserOp where
  kind : OpKind
  text : Bytes
deriving DecidableEq

inductive Statement where
  | user (text : Bytes)
  | upsertSeq (ns : Bytes) (now : Int)
  | selectSeq (ns : Bytes)
deriving DecidableEq

structure BatchOp where
  kind : OpKind
  statement : Statement
deriving DecidableEq

structure Engine (δ ρ : Type) where
  /-- With the number of rows and the last identifier. -/
  exec : Bytes → δ → Except Bytes (δ × Int × Int)
  query : Bytes → δ → Except Bytes (List ρ)

structure Store (δ : Type) where
  seqs : Keyed PublishSeq PublishSeq.ns
  data : δ

inductive Rows (ρ : Type) where
  | user (rows : List ρ)
  | assignedSeq (values : List Int)
deriving DecidableEq

structure OpResult (ρ : Type) where
  kind : Option OpKind
  rowsAffected : Int
  lastInsertID : Int
  rows : Rows ρ
  error : Bytes
deriving DecidableEq

structure BatchResult (ρ : Type) where
  results : List (OpResult ρ)
  committed : Bool
  failedIndex : Int
deriving DecidableEq

inductive BatchError where
  | namespaceRequired
  | notConfigured
  | tooManyOps (count : Nat)
  | unknownKind (index : Nat) (kind : Bytes)
  | execFailed (index : Nat) (cause : Bytes)
  | failed (cause : Bytes)
  | seqLookupFailed (cause : Bytes)
  | noRows
deriving DecidableEq

def maxBatchOps : Nat := 100

def BatchError.text : BatchError → Bytes
  | namespaceRequired => ascii "rqlite.BatchWithSeq: namespace required"
  | notConfigured => ascii "rqlite.BatchWithSeq: native gorqlite connection not configured"
  | tooManyOps count =>
    ascii "rqlite.Batch: too many ops (" ++ decimal count ++ ascii " > max " ++ decimal maxBatchOps ++ ascii ")"
  | unknownKind index kind => ascii "rqlite.Batch: op " ++ decimal index ++ ascii " has unknown kind \"" ++ kind ++
      ascii "\" (want \"exec\" or \"query\")"
  | execFailed index cause => ascii "rqlite.Batch: exec failed at op " ++ decimal index ++ ascii ": " ++ cause
  | failed cause => ascii "rqlite.Batch: " ++ cause
  | seqLookupFailed cause => ascii "rqlite.BatchWithSeq: seq lookup failed: " ++ cause
  | noRows => ascii "rqlite.BatchWithSeq: seq lookup returned no rows"

section
variable {δ ρ : Type} (engine : Engine δ ρ)

def Store.nextSeq (s : Store δ) (ns : Bytes) : Option Int := (s.seqs.get ns).map PublishSeq.nextSeq

def Store.upsertSeq (s : Store δ) (ns : Bytes) (now : Int) : Store δ :=
  { s with seqs := s.seqs.upsert ⟨ns, 2, now⟩ (PublishSeq.advance now) (PublishSeq.ns_advance now) }

def execOp (s : Store δ) : Statement → Except Bytes (Store δ × Int × Int)
  | .user text => (engine.exec text s.data).map fun r => ({ s with data := r.1 }, r.2)
  | .upsertSeq ns now => .ok (s.upsertSeq ns now, 1, 0)
  | .selectSeq _ => .ok (s, 0, 0)

def runExecs : List (BatchOp × Nat) → Store δ → List (OpResult ρ) → Except (Nat × Bytes) (Store δ × List (OpResult ρ))
  | [], s, results => .ok (s, results)
  | (op, i) :: rest, s, results =>
    match execOp engine s op.statement with
    | .error cause => .error (i, cause)
    | .ok (s', rowsAffected, lastInsertID) =>
      runExecs rest s' (results.set i ⟨some .exec, rowsAffected, lastInsertID, .user [], []⟩)

def queryOp (s : Store δ) (fault : Option Bytes) (statement : Statement) : OpResult ρ :=
  match fault with
  | some cause => ⟨some .query, 0, 0, .user [], cause⟩
  | none =>
    match statement with
    | .user text =>
      match engine.query text s.data with
      | .error cause => ⟨some .query, 0, 0, .user [], cause⟩
      | .ok rows => ⟨some .query, 0, 0, .user rows, []⟩
    | .upsertSeq _ _ => ⟨some .query, 0, 0, .user [], []⟩
    | .selectSeq ns => ⟨some .query, 0, 0, .assignedSeq ((s.nextSeq ns).toList.map fun next => next - 1), []⟩

def unknownKind (ops : List BatchOp) : Option BatchError :=
  ops.zipIdx.findSome? fun op =>
    match op.1.kind with
    | .unknown text => some (.unknownKind op.2 text)
    | _ => none

def ofKind (kind : OpKind) (ops : List BatchOp) : List (BatchOp × Nat) := ops.zipIdx.filter fun op => op.1.kind = kind

def combined (ns : Bytes) (now : Int) (userOps : List UserOp) : List BatchOp :=
  ⟨.exec, .upsertSeq ns now⟩ :: userOps.map (fun op => ⟨op.kind, .user op.text⟩) ++ [⟨.query, .selectSeq ns⟩]

def trimWrappedResults (res : BatchResult ρ) (userOpCount : Nat) : BatchResult ρ :=
  if res.results.length < userOpCount + 1 then res
  else
    { results := (res.results.take (min (res.results.length - 1) (userOpCount + 1))).drop 1
      committed := res.committed
      failedIndex :=
        if res.committed then 0
        else if res.failedIndex = 0 then -1
        else if 0 < res.failedIndex ∧ res.failedIndex ≤ userOpCount then res.failedIndex - 1
        else userOpCount }

end

structure Request where
  ns : Bytes
  userOps : List UserOp
  /-- The native connection is there. -/
  connected : Bool
deriving DecidableEq

structure Event (ι : Type) where
  call : ι
  fault : Option Bytes
  now : Int

inductive Phase (ρ : Type) where
  | start
  | querying (result : BatchResult ρ) (queries : List (BatchOp × Nat)) (assigned : Int)
  | returned (result : Option (BatchResult ρ)) (seq : Int) (error : Option BatchError) (assigned : Option Int)
deriving DecidableEq

open Store
section
variable {δ ρ ι : Type} (engine : Engine δ ρ)

def conclude (userOpCount : Nat) (result : BatchResult ρ) (assigned : Int) : Phase ρ :=
  let trimmed := some (trimWrappedResults result userOpCount)
  match result.results.getLast? with
  | none => .returned trimmed 0 (some .noRows) (some assigned)
  | some last =>
    if last.error ≠ [] then .returned trimmed 0 (some (.seqLookupFailed last.error)) (some assigned)
    else
      match last.rows with
      | .assignedSeq (seq :: _) => .returned trimmed seq none (some assigned)
      | _ => .returned trimmed 0 (some .noRows) (some assigned)

def validate (req : Request) (ops : List BatchOp) : Option BatchError :=
  if req.ns = [] then some .namespaceRequired
  else if !req.connected then some .notConfigured
  else if maxBatchOps < ops.length then some (.tooManyOps ops.length)
  else unknownKind ops

def commit (req : Request) (e : Event ι) (s : Store δ) : Store δ × Phase ρ :=
  let ops := combined req.ns e.now req.userOps
  let blank : List (OpResult ρ) := List.replicate ops.length ⟨none, 0, 0, .user [], []⟩
  let failure (results : List (OpResult ρ)) (index : Int) (error : BatchError) : Phase ρ :=
    .returned (some (trimWrappedResults ⟨results, false, index⟩ req.userOps.length)) 0 (some error) none
  match e.fault with
  | some cause => (s, failure blank 0 (.failed cause))
  | none =>
    match runExecs engine (ofKind .exec ops) s blank with
    | .error (i, cause) => (s, failure (blank.set i ⟨some .exec, 0, 0, .user [], cause⟩) i (.execFailed i cause))
    | .ok (s', results) =>
      (s', .querying ⟨results, true, 0⟩ (ofKind .query ops) ((s'.nextSeq req.ns).getD 0 - 1))

def statement (req : Request) (e : Event ι) (s : Store δ) : Phase ρ → Store δ × Phase ρ
  | .start =>
    match validate req (combined req.ns e.now req.userOps) with
    | some error => (s, .returned none 0 (some error) none)
    | none => commit engine req e s
  | .querying result [] assigned => (s, conclude req.userOps.length result assigned)
  | .querying result ((op, i) :: rest) assigned =>
    let result := { result with results := result.results.set i (queryOp engine s e.fault op.statement) }
    match rest with
    | [] => (s, conclude req.userOps.length result assigned)
    | _ :: _ => (s, .querying result rest assigned)
  | .returned result seq error assigned => (s, .returned result seq error assigned)

def Phase.assigned : Phase ρ → Option Int
  | .start => none
  | .querying _ _ assigned => some assigned
  | .returned _ _ _ assigned => assigned

def Phase.isQuerying : Phase ρ → Bool
  | .querying _ _ _ => true
  | _ => false

variable {engine} {req : Request} {e : Event ι} {s s' : Store δ}

lemma Phase.exists_of_isQuerying {phase : Phase ρ} (h : phase.isQuerying) :
    ∃ result queries a, phase = .querying result queries a := by
  cases phase with
  | start => cases h
  | querying result queries a => exact ⟨result, queries, a, rfl⟩
  | returned result seq error assigned => cases h

lemma nextSeq_upsertSeq (s : Store δ) (ns : Bytes) (now : Int) :
    (s.upsertSeq ns now).nextSeq ns = some ((s.nextSeq ns).elim 2 (· + 1)) := by
  have hget := s.seqs.get_upsert_self ⟨ns, 2, now⟩ (PublishSeq.advance now) (PublishSeq.ns_advance now)
  rw [nextSeq, upsertSeq, nextSeq]
  dsimp only at hget ⊢
  rw [hget]
  cases s.seqs.get ns <;> rfl

lemma nextSeq_upsertSeq_of_ne {ns ns' : Bytes} (now : Int) (h : ns' ≠ ns) :
    (s.upsertSeq ns now).nextSeq ns' = s.nextSeq ns' := by
  rw [nextSeq, upsertSeq, nextSeq, Keyed.get_upsert_of_ne _ _ _ _ h]

lemma nextSeq_of_upserted {ns : Bytes} {now : Int} (hseqs : s'.seqs = (s.upsertSeq ns now).seqs) :
    s'.nextSeq ns = some ((s.nextSeq ns).elim 1 id + 1) := by
  rw [nextSeq, hseqs]
  refine (nextSeq_upsertSeq s ns now).trans ?_
  cases s.nextSeq ns <;> rfl

lemma nextSeq_of_upserted_of_ne {ns ns' : Bytes} {now : Int} (hseqs : s'.seqs = (s.upsertSeq ns now).seqs) (h : ns' ≠ ns) :
    s'.nextSeq ns' = s.nextSeq ns' := by
  rw [nextSeq, hseqs]
  exact nextSeq_upsertSeq_of_ne now h

lemma runExecs_user {ops : List (BatchOp × Nat)} {results results' : List (OpResult ρ)}
    (huser : ∀ op ∈ ops, ∃ text, op.1.statement = .user text) (h : runExecs engine ops s results = .ok (s', results')) :
    s'.seqs = s.seqs ∧ results'.length = results.length := by
  induction ops generalizing s results with
  | nil =>
    cases h
    exact ⟨rfl, rfl⟩
  | cons op ops ih =>
    obtain ⟨op, i⟩ := op
    obtain ⟨text, htext⟩ := huser (op, i) mem_cons_self
    rw [runExecs, htext, execOp] at h
    cases hexec : engine.exec text s.data with
    | error cause =>
      rw [hexec] at h
      cases h
    | ok r => grind [Except.map]

lemma ofKind_exec_combined (ns : Bytes) (now : Int) (userOps : List UserOp) :
    ∃ rest, ofKind .exec (combined ns now userOps) = (⟨.exec, .upsertSeq ns now⟩, 0) :: rest ∧
    ∀ op ∈ rest, ∃ text, op.1.statement = .user text := by
  rw [ofKind, combined, cons_append, zipIdx_cons, filter_cons_of_pos (by simp)]
  grind

lemma ofKind_query_combined (ns : Bytes) (now : Int) (userOps : List UserOp) :
    ∃ before, ofKind .query (combined ns now userOps) =
    before ++ [(⟨.query, .selectSeq ns⟩, (combined ns now userOps).length - 1)] := by
  rw [ofKind, combined, zipIdx_append, filter_append]
  refine ⟨_, congrArg _ ?_⟩
  simp

lemma commit_effect (engine : Engine δ ρ) (req : Request) (e : Event ι) (s : Store δ) :
    (commit engine req e s).1 = s ∧ (∃ result error, (commit engine req e s).2 = .returned result 0 (some error) none) ∨
    ∃ result before, (commit engine req e s).1.seqs = (s.upsertSeq req.ns e.now).seqs ∧
    result.committed ∧ result.results.length = (combined req.ns e.now req.userOps).length ∧
    (commit engine req e s).2 = .querying result
          (before ++ [(⟨.query, .selectSeq req.ns⟩, (combined req.ns e.now req.userOps).length - 1)])
          ((s.nextSeq req.ns).elim 1 id) := by
  rw [commit]
  dsimp only
  cases e.fault with
  | some cause => exact .inl ⟨rfl, _, _, rfl⟩
  | none =>
    dsimp only
    split
    · exact .inl ⟨rfl, _, _, rfl⟩
    · next s' results hexecs =>
      obtain ⟨rest, hrest, huser⟩ := ofKind_exec_combined req.ns e.now req.userOps
      obtain ⟨before, hbefore⟩ := ofKind_query_combined req.ns e.now req.userOps
      rw [hrest, runExecs, execOp] at hexecs
      obtain ⟨hseqs, hlength⟩ := runExecs_user huser hexecs
      have hnext : s'.nextSeq req.ns = some ((s.nextSeq req.ns).elim 2 (· + 1)) := by
        rw [nextSeq, hseqs]
        exact nextSeq_upsertSeq s req.ns e.now
      refine .inr ⟨⟨results, true, 0⟩, before, hseqs, rfl, ?_, ?_⟩
      · rw [hlength, length_set, length_replicate]
      · rw [hbefore, hnext]
        cases s.nextSeq req.ns with
        | none => rfl
        | some next => simp

def Awaits (ns : Bytes) (result : BatchResult ρ) (queries : List (BatchOp × Nat)) : Prop :=
  result.results ≠ [] ∧ ∃ before, queries = before ++ [(⟨.query, .selectSeq ns⟩, result.results.length - 1)]

lemma conclude_select {ns : Bytes} {result : BatchResult ρ} {fault : Option Bytes} {count : Nat} {assigned seq : Int}
    {res : Option (BatchResult ρ)} {own : Option Int} (hne : result.results ≠ []) (h : conclude count { result with
      results := result.results.set (result.results.length - 1) (queryOp engine s fault (.selectSeq ns)) } assigned =
        .returned res seq none own) : s.nextSeq ns = some (seq + 1) ∧ own = some assigned := by
  have hlast : (result.results.set (result.results.length - 1) (queryOp engine s fault (.selectSeq ns))).getLast? =
      some (queryOp engine s fault (.selectSeq ns)) := by
    grind [length_pos_iff]
  rw [conclude] at h
  dsimp only at h
  rw [hlast] at h
  dsimp only at h
  split at h
  · cases h
  · cases fault with
    | some cause => cases h
    | none =>
      rw [queryOp] at h
      dsimp only at h
      cases hnext : s.nextSeq ns with
      | none =>
        rw [hnext] at h
        cases h
      | some next => grind

lemma conclude_assigned (count : Nat) (result : BatchResult ρ) (assigned : Int) :
    (conclude count result assigned).assigned = some assigned ∧ (conclude count result assigned).isQuerying = false := by
  rw [conclude]
  split
  · exact ⟨rfl, rfl⟩
  · split
    · exact ⟨rfl, rfl⟩
    · split <;> exact ⟨rfl, rfl⟩

structure Quiet (req : Request) (s : Store δ) (phase : Phase ρ) (next : Store δ × Phase ρ) : Prop where
  store : next.1 = s
  assigned : next.2.assigned = phase.assigned
  awaits : ∀ result queries a, next.2 = .querying result queries a →
    phase.isQuerying = true ∧ Awaits req.ns result queries
  returns : ∀ result seq a, next.2 = .returned result seq none a →
    phase = .returned result seq none a ∨ (phase.isQuerying = true ∧ s.nextSeq req.ns = some (seq + 1))

lemma statement_effect (engine : Engine δ ρ) (req : Request) (e : Event ι) (s : Store δ) (phase : Phase ρ)
    (hawaits : ∀ result queries a, phase = .querying result queries a → Awaits req.ns result queries) :
    Quiet req s phase (statement engine req e s phase) ∨
      (phase = .start ∧ (statement engine req e s phase).1.seqs = (s.upsertSeq req.ns e.now).seqs ∧
      ∃ result queries, Awaits req.ns result queries ∧
      (statement engine req e s phase).2 = .querying result queries ((s.nextSeq req.ns).elim 1 id)) := by
  cases phase with
  | start =>
    rw [statement]
    split
    · exact .inl ⟨rfl, rfl, fun _ _ _ h => (by cases h), fun _ _ _ h => (by cases h)⟩
    · rcases commit_effect engine req e s with ⟨hstore, result, error, hphase⟩ | ⟨result, before, hseqs, -, hlength, hphase⟩
      · refine .inl ⟨hstore, ?_, fun _ _ _ h => ?_, fun _ _ _ h => ?_⟩
        · rw [hphase]
          rfl
        · rw [hphase] at h
          cases h
        · rw [hphase] at h
          cases h
      · refine .inr ⟨rfl, hseqs, result, _, ⟨?_, before, ?_⟩, hphase⟩
        · rw [← length_pos_iff, hlength]
          simp [combined]
        · rw [hlength]
  | querying result queries a =>
    left
    obtain ⟨hne, before, rfl⟩ := hawaits result queries a rfl
    cases before with
    | nil =>
      rw [nil_append, statement]
      dsimp only
      obtain ⟨hassigned, hquerying⟩ := conclude_assigned req.userOps.length { result with
        results := result.results.set (result.results.length - 1) (queryOp engine s e.fault (.selectSeq req.ns)) } a
      refine ⟨rfl, hassigned, fun result' queries' a' h => ?_, fun result' seq a' h => ?_⟩
      · dsimp only at h
        rw [h] at hquerying
        cases hquerying
      · exact .inr ⟨rfl, (conclude_select hne h).1⟩
    | cons first before =>
      obtain ⟨op, i⟩ := first
      rw [cons_append]
      cases hrest : before ++ [(⟨.query, .selectSeq req.ns⟩, result.results.length - 1)] with
      | nil => simp at hrest
      | cons op' rest =>
        rw [statement]
        refine ⟨rfl, rfl, fun result' queries' a' h => ?_, fun _ _ _ h => (by cases h)⟩
        cases h
        refine ⟨rfl, ?_, before, ?_⟩
        · simpa using hne
        · rw [← hrest, length_set]
  | returned result seq error assigned => exact .inl ⟨rfl, rfl, fun _ _ _ h => (by cases h), fun _ _ _ h => .inl h⟩

end

section
variable {δ ρ ι : Type} (engine : Engine δ ρ) (requests : ι → Request)

def sequencer : Interleaving (Store δ) ι (Phase ρ) (Event ι) where
  process := Event.call
  act e s phase := statement engine (requests e.call) e s phase

def Store.initial (s : Store δ) : Config (Store δ) ι (Phase ρ) := ⟨s, fun _ => .start⟩

def commits (c : Config (Store δ) ι (Phase ρ)) (e : Event ι) : Bool :=
  !(c.phase e.call).isQuerying && (statement engine (requests e.call) e c.shared (c.phase e.call)).2.isQuerying

def Undisturbed (c : Config (Store δ) ι (Phase ρ)) (e : Event ι) : Prop :=
  commits engine requests c e = true → ∀ i, (requests i).ns = (requests e.call).ns → (c.phase i).isQuerying = false

instance [Fintype ι] (c : Config (Store δ) ι (Phase ρ)) (e : Event ι) : Decidable (Undisturbed engine requests c e) :=
  inferInstanceAs (Decidable (_ → _))

structure Numbered (c : Config (Store δ) ι (Phase ρ)) : Prop where
  own : ∀ i result seq a, c.phase i = .returned result seq none a → a = some seq
  apart : ∀ i j result result' seq seq' a a', i ≠ j → (requests i).ns = (requests j).ns →
    c.phase i = .returned result seq none a → c.phase j = .returned result' seq' none a' → seq ≠ seq'

structure Invariant (c : Config (Store δ) ι (Phase ρ)) : Prop where
  below : ∀ i a, (c.phase i).assigned = some a → ∃ next, c.shared.nextSeq (requests i).ns = some next ∧ a < next
  distinct : ∀ i j a, i ≠ j → (requests i).ns = (requests j).ns → (c.phase i).assigned = some a →
    (c.phase j).assigned ≠ some a
  reading : ∀ i result queries a, c.phase i = .querying result queries a →
    Awaits (requests i).ns result queries ∧ c.shared.nextSeq (requests i).ns = some (a + 1)
  own : ∀ i result seq a, c.phase i = .returned result seq none a → a = some seq

variable {engine requests} {c : Config (Store δ) ι (Phase ρ)} {e : Event ι}

lemma Invariant.numbered (h : Invariant requests c) : Numbered requests c := by
  refine ⟨h.own, fun i j result result' seq seq' a a' hij hns hi hj heq => ?_⟩
  have hai := h.own i result seq a hi
  have haj := h.own j result' seq' a' hj
  refine h.distinct i j seq hij hns ?_ ?_
  · rw [hi, hai]
    rfl
  · rw [hj, haj, heq]
    rfl

variable [DecidableEq ι]

lemma Invariant.step_quiet (h : Invariant requests c) (hquiet : Quiet (requests e.call) c.shared (c.phase e.call)
      (statement engine (requests e.call) e c.shared (c.phase e.call))) :
    Invariant requests ((sequencer engine requests).step c e) := by
  have hself : ((sequencer engine requests).step c e).phase e.call =
      (statement engine (requests e.call) e c.shared (c.phase e.call)).2 := (sequencer engine requests).phase_step_self c e
  have hshared : ((sequencer engine requests).step c e).shared = c.shared := hquiet.store
  have hother : ∀ i, i ≠ e.call → ((sequencer engine requests).step c e).phase i = c.phase i := fun i hi =>
    (sequencer engine requests).phase_step_of_ne hi
  have hassigned : ∀ i, (((sequencer engine requests).step c e).phase i).assigned = (c.phase i).assigned := by
    intro i
    by_cases hi : i = e.call
    · rw [hi, hself, hquiet.assigned]
    · rw [hother i hi]
  refine ⟨fun i a ha => ?_, fun i j a hij hns ha => ?_, fun i result queries a hi => ?_, fun i result seq a hi => ?_⟩
  · rw [hassigned] at ha
    rw [hshared]
    exact h.below i a ha
  · rw [hassigned] at ha ⊢
    exact h.distinct i j a hij hns ha
  · rw [hshared]
    by_cases hie : i = e.call
    · subst hie
      have hsame := hassigned e.call
      rw [hi] at hsame
      rw [hself] at hi
      obtain ⟨hquerying, hawaits⟩ := hquiet.awaits result queries a hi
      obtain ⟨result', queries', a', hphase⟩ := Phase.exists_of_isQuerying hquerying
      rw [hphase] at hsame
      cases hsame
      exact ⟨hawaits, (h.reading e.call result' queries' a hphase).2⟩
    · rw [hother i hie] at hi
      exact h.reading i result queries a hi
  · by_cases hie : i = e.call
    · subst hie
      have hsame := hassigned e.call
      rw [hi] at hsame
      rw [hself] at hi
      rcases hquiet.returns result seq a hi with hbefore | ⟨hquerying, hnext⟩
      · exact h.own e.call result seq a hbefore
      · obtain ⟨result', queries', a', hphase⟩ := Phase.exists_of_isQuerying hquerying
        rw [hphase] at hsame
        have hread := (h.reading e.call result' queries' a' hphase).2
        rw [hnext, Option.some_inj] at hread
        change a = some a' at hsame
        rw [hsame]
        exact congrArg some (by omega)
    · rw [hother i hie] at hi
      exact h.own i result seq a hi

lemma Invariant.step_commit (h : Invariant requests c) {result : BatchResult ρ} {queries : List (BatchOp × Nat)}
    (hseqs : (statement engine (requests e.call) e c.shared (c.phase e.call)).1.seqs =
      (c.shared.upsertSeq (requests e.call).ns e.now).seqs) (hawaits : Awaits (requests e.call).ns result queries)
    (hphase : (statement engine (requests e.call) e c.shared (c.phase e.call)).2 =
      .querying result queries ((c.shared.nextSeq (requests e.call).ns).elim 1 id))
    (halone : ∀ i, (requests i).ns = (requests e.call).ns → (c.phase i).isQuerying = false) :
    Invariant requests ((sequencer engine requests).step c e) := by
  have hself : ((sequencer engine requests).step c e).phase e.call =
      .querying result queries ((c.shared.nextSeq (requests e.call).ns).elim 1 id) :=
    ((sequencer engine requests).phase_step_self c e).trans hphase
  have hother : ∀ i, i ≠ e.call → ((sequencer engine requests).step c e).phase i = c.phase i := fun i hi =>
    (sequencer engine requests).phase_step_of_ne hi
  have hnext : ((sequencer engine requests).step c e).shared.nextSeq (requests e.call).ns =
      some ((c.shared.nextSeq (requests e.call).ns).elim 1 id + 1) := nextSeq_of_upserted hseqs
  have hnext' : ∀ ns, ns ≠ (requests e.call).ns →
      ((sequencer engine requests).step c e).shared.nextSeq ns = c.shared.nextSeq ns := fun ns hns =>
    nextSeq_of_upserted_of_ne hseqs hns
  -- What was assigned before is less than what is assigned now.
  have hless : ∀ i a, (requests i).ns = (requests e.call).ns → (c.phase i).assigned = some a →
      a < (c.shared.nextSeq (requests e.call).ns).elim 1 id := by
    intro i a hns ha
    obtain ⟨next, hi, hlt⟩ := h.below i a ha
    rw [hns] at hi
    rw [hi]
    exact hlt
  refine ⟨fun i a ha => ?_, fun i j a hij hns ha haj => ?_, fun i result' queries' a hi => ?_, fun i result' seq a hi => ?_⟩
  · by_cases hie : i = e.call
    · subst hie
      rw [hself] at ha
      cases ha
      exact ⟨_, hnext, by omega⟩
    · rw [hother i hie] at ha
      by_cases hns : (requests i).ns = (requests e.call).ns
      · grind
      · rw [hnext' _ hns]
        exact h.below i a ha
  · by_cases hie : i = e.call
    · subst hie
      rw [hself] at ha
      cases ha
      rw [hother j (Ne.symm hij)] at haj
      exact absurd (hless j _ hns.symm haj) (by omega)
    · rw [hother i hie] at ha
      by_cases hje : j = e.call
      · subst hje
        rw [hself] at haj
        cases haj
        exact absurd (hless i _ hns ha) (by omega)
      · rw [hother j hje] at haj
        exact h.distinct i j a hij hns ha haj
  · by_cases hie : i = e.call
    · grind
    · rw [hother i hie] at hi
      by_cases hns : (requests i).ns = (requests e.call).ns
      · have hnot := halone i hns
        rw [hi] at hnot
        cases hnot
      · rw [hnext' _ hns]
        exact h.reading i result' queries' a hi
  · by_cases hie : i = e.call
    · subst hie
      rw [hself] at hi
      cases hi
    · rw [hother i hie] at hi
      exact h.own i result' seq a hi

lemma Invariant.step (h : Invariant requests c) (hguard : Undisturbed engine requests c e) :
    Invariant requests ((sequencer engine requests).step c e) := by
  rcases statement_effect engine (requests e.call) e c.shared (c.phase e.call)
    (fun result queries a hphase => (h.reading e.call result queries a hphase).1) with
      hquiet | ⟨hstart, hseqs, result, queries, hawaits, hphase⟩
  · exact h.step_quiet hquiet
  · refine h.step_commit hseqs hawaits hphase (hguard ?_)
    rw [commits, hphase, hstart]
    rfl

/-- In a run in which no batch is committed while another call of the namespace has still to read the counter, the numbers
that are returned are those that were assigned, and different ones. -/
theorem publish_seq_unique (engine : Engine δ ρ) (requests : ι → Request) (s : Store δ) (events : List (Event ι))
    (hguard : (sequencer engine requests).Respects (Undisturbed engine requests) s.initial events) :
    Numbered requests ((sequencer engine requests).run s.initial events) := by
  have hinv : Invariant requests ((sequencer engine requests).run s.initial events) := by
    refine hguard.induction (fun c e hc he => hc.step he) ⟨nofun, nofun, nofun, nofun⟩
  exact hinv.numbered

def noTables : Engine Unit Unit := ⟨fun _ _ => .ok ((), 0, 0), fun _ _ => .ok []⟩

def noSeqs : Store Unit := ⟨.empty, ()⟩
def wakeUp (_ : Bool) : Request := ⟨ascii "shop", [], true⟩
def turn (call : Bool) : Event Bool := ⟨call, none, 0⟩

/-- Two calls commit and then read the counter. Both return the second number. -/
theorem publish_seq_duplicate :
    let c := (sequencer noTables wakeUp).run noSeqs.initial [turn false, turn true, turn false, turn true]
    (∃ result, c.phase false = .returned (some result) 2 none (some 1) ∧ result.committed = true) ∧
      (∃ result, c.phase true = .returned (some result) 2 none (some 2) ∧ result.committed = true) ∧
      ¬ Numbered wakeUp c := by
  have hfalse : ((sequencer noTables wakeUp).run noSeqs.initial [turn false, turn true, turn false, turn true]).phase false =
      .returned (some ⟨[], true, 0⟩) 2 none (some 1) := by decide
  have htrue : ((sequencer noTables wakeUp).run noSeqs.initial [turn false, turn true, turn false, turn true]).phase true =
      .returned (some ⟨[], true, 0⟩) 2 none (some 2) := by decide
  refine ⟨⟨_, hfalse, rfl⟩, ⟨_, htrue, rfl⟩, fun h => ?_⟩
  exact h.apart false true _ _ 2 2 _ _ (by decide) rfl hfalse htrue rfl

/-- One call after the other. -/
theorem publish_seq_unique_sequential :
    Numbered wakeUp ((sequencer noTables wakeUp).run noSeqs.initial [turn false, turn false, turn true, turn true]) :=
  publish_seq_unique noTables wakeUp noSeqs [turn false, turn false, turn true, turn true] (by decide)

end
end Orama.Rqlite.Sequence
