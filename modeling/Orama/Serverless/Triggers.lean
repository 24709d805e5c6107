import Orama.Lib.Json
import Orama.Lib.Keyed
import Orama.Lib.Sha256
import Orama.Lib.Strings

namespace Orama.Serverless
open Lib

structure Function where
  id : Bytes
  name : Bytes
  ns : Bytes
  active : Bool
deriving DecidableEq

structure PubSubTrigger where
  id : Bytes
  functionID : Bytes
  topicPattern : Bytes
  enabled : Bool
  aggregationWindowMs : Int
  aggregationMaxBatchSize : Int
deriving DecidableEq

structure PubSubTriggerStore where
  triggers : Keyed PubSubTrigger PubSubTrigger.id
  functions : Keyed Function Function.id
  glob : Bytes → Bytes → Bool

structure TriggerMatch where
  triggerID : Bytes
  functionID : Bytes
  functionName : Bytes
  ns : Bytes
  topic : Bytes
  topicPattern : Bytes
  aggregationWindowMs : Int
  aggregationMaxBatchSize : Int
deriving DecidableEq

def isWildcard (p : Bytes) : Bool := p.any fun c => c = 42 || c = 63 || c = 91

def matchClass (cls : Bytes) (c : UInt8) : Bool :=
  match cls with
  | [] => false
  | d :: rest => if d = 33 then !rest.contains c else cls.contains c

/-- The loop of the matcher, with the last star: the pattern after it, and the text from which
it was tried last. A star does not cross a colon. -/
def globLoop : Nat → Bytes → Bytes → Option (Bytes × Bytes) → Bool
  | 0, _, _, _ => false
  | _ + 1, p, [], _ => p.all fun c => c = 42
  | fuel + 1, p, c :: s, star =>
    let backtrack :=
      match star with
      | some (p, d :: t) => if d = 58 then false else globLoop fuel p t (some (p, t))
      | _ => false
    match p with
    | [] => backtrack
    | d :: p =>
      if d = 63 then globLoop fuel p s star
      else if d = 42 then globLoop fuel p (c :: s) (some (p, c :: s))
      else if d = 91 then
        match cut 93 p with
        | (_, none) => false
        | (cls, some p) => if matchClass cls c then globLoop fuel p s star else backtrack
      else if d = c then globLoop fuel p s star
      else backtrack

def strictGlobMatch (pattern s : Bytes) : Bool :=
  globLoop ((pattern.length + 1) * (s.length + 1) + 1) pattern s none

def patternMatches (pattern topic : Bytes) : Bool :=
  if contains pattern (ascii "**") then true else strictGlobMatch pattern topic

example : strictGlobMatch (ascii "presence:*") (ascii "presence:user-1") = true ∧
    strictGlobMatch (ascii "a*c:[!x]?") (ascii "abcbc:yz") = true ∧
    strictGlobMatch (ascii "presence:*") (ascii "presence:user:1") = false := by decide +kernel

namespace PubSubTriggerStore
variable (store : PubSubTriggerStore)

def toMatch (topic : Bytes) (t : PubSubTrigger) (f : Function) : TriggerMatch :=
  ⟨t.id, t.functionID, f.name, f.ns, topic, t.topicPattern, t.aggregationWindowMs, t.aggregationMaxBatchSize⟩

def matchOf (topic ns : Bytes) (t : PubSubTrigger) : Option TriggerMatch :=
  match store.functions.get t.functionID with
  | none => none
  | some f =>
    if store.glob t.topicPattern topic ∧ f.ns = ns ∧ t.enabled = true ∧ f.active = true ∧
        patternMatches t.topicPattern topic = true then some (toMatch topic t f)
    else none

def getByTopicAndNamespace (topic ns : Bytes) : List TriggerMatch :=
  if topic = [] ∨ ns = [] then [] else store.triggers.rows.filterMap (store.matchOf topic ns)

lemma triggerID_of_matchOf {topic ns : Bytes} {t : PubSubTrigger} {m : TriggerMatch}
    (h : store.matchOf topic ns t = some m) : m.triggerID = t.id ∧ m.ns = ns := by
  rw [matchOf] at h
  split at h
  · cases h
  · next f _ =>
    split at h
    · next hmatch =>
      cases h
      exact ⟨rfl, hmatch.2.1⟩
    · cases h

lemma ns_eq_of_triggerID {topic ns ns' : Bytes} {m m' : TriggerMatch}
    (hm : m ∈ store.getByTopicAndNamespace topic ns) (hm' : m' ∈ store.getByTopicAndNamespace topic ns')
    (hid : m.triggerID = m'.triggerID) : ns = ns' ∧ m = m' := by
  rw [getByTopicAndNamespace] at hm hm'
  split at hm
  · cases hm
  · split at hm'
    · cases hm'
    · obtain ⟨t, ht, hmatch⟩ := List.mem_filterMap.1 hm
      obtain ⟨t', ht', hmatch'⟩ := List.mem_filterMap.1 hm'
      have htt : t.id = t'.id := by
        rw [← (store.triggerID_of_matchOf hmatch).1, hid, (store.triggerID_of_matchOf hmatch').1]
      obtain rfl := store.triggers.eq_of_key ht ht' htt
      rw [matchOf] at hmatch hmatch'
      split at hmatch
      · cases hmatch
      · next f hf =>
        rw [hf] at hmatch'
        dsimp only at hmatch'
        split at hmatch
        · next h =>
          split at hmatch'
          · next h' =>
            cases hmatch
            cases hmatch'
            exact ⟨h.2.1.symm.trans h'.2.1, rfl⟩
          · cases hmatch'
        · cases hmatch

lemma nodup_triggerIDs (topic ns : Bytes) :
    ((store.getByTopicAndNamespace topic ns).map TriggerMatch.triggerID).Nodup := by
  rw [getByTopicAndNamespace]
  split
  · exact List.nodup_nil
  · exact store.triggers.nodup_filterMap fun t m h => (store.triggerID_of_matchOf h).1

end PubSubTriggerStore
end Orama.Serverless
