import Orama.Rqlite.Sequence

namespace Orama.Rqlite.Batch
open Lib Rqlite.Sequence

/-- What becomes of the one write request: it does not arrive, its answer does not, or it is answered. The client
library may put the error of a lost request into the result of the first statement. -/
inductive Transport
  | lostRequest (named : Bool) (cause : Bytes)
  | lostReply (named : Bool) (cause : Bytes)
  | answered
deriving DecidableEq

inductive Response (ρ : Type)
  | error (status : Nat) (text : Bytes)
  | rollback (failedIndex : Int) (error : Bytes)
  | ok (results : List (OpResult ρ))
deriving DecidableEq

variable {δ ρ : Type} (engine : Engine δ ρ)

def lost (execs : List (BatchOp × Nat)) (named : Bool) (cause : Bytes) : Option (Nat × Bytes) × Bytes :=
  (if named then execs.head?.map fun e => (e.2, cause) else none, cause)

def write (execs : List (BatchOp × Nat)) (s : Store δ) (results : List (OpResult ρ)) :
    Transport → Store δ × Except (Option (Nat × Bytes) × Bytes) (List (OpResult ρ))
  | .lostRequest named cause => (s, .error (lost execs named cause))
  | .lostReply named cause =>
    match runExecs engine execs s results with
    | .ok (s', _) => (s', .error (lost execs named cause))
    | .error _ => (s, .error (lost execs named cause))
  | .answered =>
    match runExecs engine execs s results with
    | .ok (s', results') => (s', .ok results')
    | .error (i, cause) => (s, .error (some (i, cause), cause))

def runQueries (s : Store δ) (fault : Nat → Option Bytes) (queries : List (BatchOp × Nat))
    (results : List (OpResult ρ)) : List (OpResult ρ) :=
  queries.foldl (fun results q => results.set q.2 (queryOp engine s (fault q.2) q.1.statement)) results

def blank (ρ : Type) (n : Nat) : List (OpResult ρ) := List.replicate n ⟨none, 0, 0, .user [], []⟩

def notConfigured : Bytes :=
  ascii "rqlite.Batch: native gorqlite connection not configured (use NewClientWithDSN or NewClientWithConn)"

def batch (configured : Bool) (transport : Transport) (fault : Nat → Option Bytes) (ops : List BatchOp)
    (s : Store δ) : Store δ × Option (BatchResult ρ) × Option Bytes :=
  if ops = [] then (s, some ⟨[], true, 0⟩, none)
  else if maxBatchOps < ops.length then (s, none, some (BatchError.tooManyOps ops.length).text)
  else if !configured then (s, none, some notConfigured)
  else
    match unknownKind ops with
    | some e => (s, none, some e.text)
    | none =>
      let results := blank ρ ops.length
      let written := if ofKind .exec ops = [] then (s, .ok results)
        else write engine (ofKind .exec ops) s results transport
      match written with
      | (s', .error (some (i, cause), _)) =>
        (s', some ⟨results.set i ⟨some .exec, 0, 0, .user [], cause⟩, false, i⟩, some (BatchError.execFailed i cause).text)
      | (s', .error (none, cause)) => (s', some ⟨results, false, 0⟩, some (BatchError.failed cause).text)
      | (s', .ok results) => (s', some ⟨runQueries engine s' fault (ofKind .query ops) results, true, 0⟩, none)

def badRequest : Bytes :=
  ascii "invalid body: \x7bops:[\x7bkind,sql,args?\x7d], return_results?\x7d or \x7bstatements:[sql...]\x7d"

def badKind (ops : List BatchOp) : Option Bytes :=
  ops.findSome? fun op => match op.kind with
    | .unknown text => some text
    | _ => none

def handleTransaction (configured : Bool) (transport : Transport) (fault : Nat → Option Bytes)
    (ops : List BatchOp) (returnResults : Bool) (s : Store δ) : Store δ × Response ρ :=
  if ops = [] then (s, .error 400 badRequest)
  else
    match badKind ops with
    | some kind => (s, .error 400 (ascii "invalid op kind: " ++ kind))
    | none =>
      match batch engine configured transport fault ops s with
      | (s', none, error) => (s', .error 500 (error.getD []))
      | (s', some result, _) =>
        if result.committed then (s', .ok (if returnResults then result.results else []))
        else (s', .rollback result.failedIndex
          (if result.failedIndex < result.results.length then
            ((result.results[result.failedIndex.toNat]?).map OpResult.error).getD [] else []))

variable {engine} {configured : Bool} {transport : Transport} {fault : Nat → Option Bytes} {ops : List BatchOp}
  {execs : List (BatchOp × Nat)} {s s' : Store δ} {results : List (OpResult ρ)}

lemma write_eq_error {e : Option (Nat × Bytes) × Bytes} (h : write engine execs s results transport = (s', .error e))
    (htransport : ∀ named cause, transport ≠ .lostReply named cause) : s' = s := by
  cases transport with
  | lostRequest named cause => exact (congrArg Prod.fst h).symm
  | lostReply named cause => exact absurd rfl (htransport named cause)
  | answered =>
    rw [write] at h
    split at h
    · cases h
    · cases h
      rfl

lemma batch_eq_rollback {result : BatchResult ρ} {error : Option Bytes}
    (h : batch engine configured transport fault ops s = (s', some result, error)) (hresult : result.committed = false)
    (htransport : ∀ named cause, transport ≠ .lostReply named cause) : s' = s := by
  simp only [batch] at h
  split at h
  · cases h
    cases hresult
  split at h
  · cases h
  split at h
  · cases h
  split at h
  · cases h
  -- what is written, if there is anything to write
  split at h <;> cases h
  all_goals
    next hwritten =>
    split at hwritten
    · cases hwritten
      try cases hresult
    · first
        | exact write_eq_error hwritten htransport
        | cases hresult

def counting : Engine Nat Unit where
  exec := fun text n => if text = [] then .error (ascii "empty") else .ok (n + 1, 1, 0)
  query := fun _ _ => .ok []

def counter (n : Nat) : Store Nat := ⟨.empty, n⟩

end Orama.Rqlite.Batch
