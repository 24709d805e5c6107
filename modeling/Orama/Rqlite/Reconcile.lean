import Orama.Rqlite.Voters

namespace Orama.Rqlite
open Lib Lib.Ranking

structure RQLiteNode where
  id : Bytes
  voter : Bool
  reachable : Bool
deriving DecidableEq

structure RaftStatus where
  isLeader : Bool
  term : Nat
  leaderID : Bytes
deriving DecidableEq

def voterChangeCooldown : Int := 600

inductive Request where
  | remove (nodeID : Bytes)
  | join (nodeID : Bytes) (voter : Bool)
deriving DecidableEq

def Request.nodeID : Request → Bytes
  | .remove nodeID => nodeID
  | .join nodeID _ => nodeID

def Request.apply (nodes : List RQLiteNode) : Request → List RQLiteNode
  | .remove nodeID => nodes.filter fun n => n.id ≠ nodeID
  | .join nodeID voter => (nodes.filter fun n => n.id ≠ nodeID) ++ [⟨nodeID, voter, true⟩]

structure Session where
  nodes : List RQLiteNode
  faults : List (Option Bytes)
  sent : List Request
deriving DecidableEq

def Session.fault (s : Session) : Option Bytes := s.faults.head?.join
def Session.next (s : Session) : Session := { s with faults := s.faults.tail }

def Session.send (s : Session) (req : Request) : Session :=
  if s.fault.isSome then s.next else { s.next with nodes := req.apply s.nodes, sent := s.sent ++ [req] }

def voterCount (nodes : List RQLiteNode) : Nat := nodes.countP fun n => n.voter && n.reachable

def quorumPreCheck (nodes : List RQLiteNode) (nodeID : Bytes) : Option Bytes :=
  if !(nodes.any fun n => n.id = nodeID && n.reachable) then
    some (ascii "target node " ++ nodeID ++ ascii " is not reachable, skipping voter change")
  else if voterCount nodes ≤ 2 then
    some (ascii "cannot remove voter: only " ++ decimal (voterCount nodes) ++
      ascii " reachable voters, quorum would be lost")
  else none

def rejoin (nodeID : Bytes) (voter : Bool) : Nat → Option Bytes → Session → Session × Option Bytes
  | 0, lastErr, s => (s, lastErr)
  | attempts + 1, _, s =>
    match s.fault with
    | some err => rejoin nodeID voter attempts (some err) s.next
    | none => (s.send (.join nodeID voter), none)

def backoffs : Nat := 5

def removeAndRejoin (s : Session) (nodeID : Bytes) (voter : Bool) : Session × Option Bytes :=
  match s.fault with
  | some err => (s.next, some (ascii "remove node: " ++ err))
  | none =>
    match rejoin nodeID voter backoffs none (s.send (.remove nodeID)) with
    | (s, none) => (s, none)
    | (s, some err) => (s.send (.join nodeID !voter), some (ascii "rejoin node after 5 attempts: " ++ err))

def freshQuorumCheck (s : Session) (nodeID : Bytes) (voter : Bool) : Session × Option Bytes :=
  match s.fault with
  | some err => (s.next, some (ascii "fresh quorum check: " ++ err))
  | none =>
    match s.nodes.find? fun n => !n.reachable with
    | some n => (s.next, some (ascii "node " ++ n.id ++ ascii " is unreachable, aborting voter change"))
    | none => removeAndRejoin s.next nodeID voter

def changeNodeVoterStatus (s : Session) (nodeID : Bytes) (voter : Bool) : Session × Option Bytes :=
  if voter then freshQuorumCheck s nodeID voter
  else
    match s.fault with
    | some err => (s.next, some (ascii "quorum pre-check: " ++ err))
    | none =>
      match quorumPreCheck s.nodes nodeID with
      | some err => (s.next, some err)
      | none => freshQuorumCheck s.next nodeID voter

structure Reconciler where
  nodes : List RQLiteNode
  cooldowns : List (Bytes × Int)
deriving DecidableEq

structure Call where
  status : Except Bytes RaftStatus
  nodes : Except Bytes (List RQLiteNode)
  status2 : Except Bytes RaftStatus
  sorted : List Bytes
  now : Int
  failedAt : Int
  faults : List (Option Bytes)

structure Outcome where
  reconciler : Reconciler
  error : Option Bytes
  sent : List Request
deriving DecidableEq

def coolingDown (cooldowns : List (Bytes × Int)) (now : Int) (nodeID : Bytes) : Bool :=
  match cooldowns.lookup nodeID with
  | some cooldownUntil => now < cooldownUntil
  | none => false

def fixable (desiredVoters : Finset Bytes) (leaderID : Bytes) (n : RQLiteNode) : Bool :=
  (n.voter && n.id ∉ desiredVoters && n.id ≠ leaderID) || (!n.voter && n.id ∈ desiredVoters)

def conclude (r : Reconciler) (call : Call) (nodeID : Bytes) (result : Session × Option Bytes) : Outcome :=
  match result with
  | (s, none) => ⟨{ r with nodes := s.nodes }, none, s.sent⟩
  | (s, some err) => ⟨⟨s.nodes, (nodeID, call.failedAt + voterChangeCooldown) :: r.cooldowns⟩, some err, s.sent⟩

def fix (r : Reconciler) (call : Call) (n : RQLiteNode) : Outcome :=
  let s : Session := ⟨r.nodes, call.faults, []⟩
  if n.voter then conclude r call n.id (changeNodeVoterStatus s n.id false)
  else if s.fault.isNone then conclude r call n.id (s.send (.join n.id true), none)
  else conclude r call n.id (changeNodeVoterStatus s.next n.id true)

def stable (call : Call) (status : RaftStatus) : Bool :=
  match call.status2 with
  | .ok status2 => status2.isLeader && status2.term = status.term
  | .error _ => false

def reconcileNodes (r : Reconciler) (call : Call) (status : RaftStatus) (nodes : List RQLiteNode) : Outcome :=
  if nodes.length ≤ maxDefaultVoters then ⟨r, none, []⟩
  else if nodes.any fun n => !n.reachable then ⟨r, none, []⟩
  else if !stable call status then ⟨r, some (ascii "leader state changed during reconciliation check"), []⟩
  else if status.leaderID ∉ computeVoterSet call.sorted maxDefaultVoters then ⟨r, none, []⟩
  else
    match nodes.find? fun n => !coolingDown r.cooldowns call.now n.id &&
        fixable (computeVoterSet call.sorted maxDefaultVoters) status.leaderID n with
    | none => ⟨r, none, []⟩
    | some n => fix r call n

def reconcileVoters (r : Reconciler) (call : Call) : Outcome :=
  match call.status with
  | .error err => ⟨r, some (ascii "get status: " ++ err), []⟩
  | .ok status =>
    if !status.isLeader then ⟨r, none, []⟩
    else
      match call.nodes with
      | .error err => ⟨r, some (ascii "get all nodes: " ++ err), []⟩
      | .ok nodes => reconcileNodes r call status nodes

def run (calls : Nat → Call) (nodes : List RQLiteNode) : Nat → Reconciler
  | 0 => ⟨nodes, []⟩
  | j + 1 => (reconcileVoters (run calls nodes j) (calls j)).reconciler

def voters (nodes : List RQLiteNode) : Finset Bytes := ((nodes.filter (·.voter)).map (·.id)).toFinset

open Request Session
section
variable {nodes : List RQLiteNode} {n : RQLiteNode}

lemma perm_cons_filter (hnodup : (nodes.map (·.id)).Nodup) (hn : n ∈ nodes) :
    nodes.Perm (n :: nodes.filter fun m => m.id ≠ n.id) := by
  have heq : nodes.erase n = nodes.filter fun m => m.id ≠ n.id := by
    rw [hnodup.of_map.erase_eq_filter]
    refine List.filter_congr fun m hm => ?_
    have hiff : m = n ↔ m.id = n.id := ⟨congrArg _, List.inj_on_of_nodup_map hnodup hm hn⟩
    rw [bne, beq_eq_decide, decide_eq_decide.2 hiff, decide_not]
  rw [← heq]
  exact List.perm_cons_erase hn

lemma countP_remove (hnodup : (nodes.map (·.id)).Nodup) (hn : n ∈ nodes) (p : RQLiteNode → Bool) :
    nodes.countP p = (apply nodes (.remove n.id)).countP p + if p n then 1 else 0 := by
  rw [(perm_cons_filter hnodup hn).countP_eq, List.countP_cons, apply]

lemma countP_join (nodes : List RQLiteNode) (nodeID : Bytes) (voter : Bool) (p : RQLiteNode → Bool) :
    (apply nodes (.join nodeID voter)).countP p =
    (apply nodes (.remove nodeID)).countP p + if p ⟨nodeID, voter, true⟩ then 1 else 0 := by
  simp only [apply, List.countP_append, List.countP_singleton]

lemma apply_join_apply_remove (nodeID : Bytes) (voter : Bool) :
    apply (apply nodes (.remove nodeID)) (.join nodeID voter) = apply nodes (.join nodeID voter) := by
  simp [apply]

lemma map_id_join (hnodup : (nodes.map (·.id)).Nodup) (hn : n ∈ nodes) (voter : Bool) :
    ((apply nodes (.join n.id voter)).map (·.id)).Perm (nodes.map (·.id)) := by
  refine List.Perm.trans ?_ ((perm_cons_filter hnodup hn).map _).symm
  rw [apply, List.map_append, List.map_cons]
  exact List.perm_append_singleton _ _

lemma mem_join {nodeID : Bytes} {voter : Bool} {m : RQLiteNode} :
    m ∈ apply nodes (.join nodeID voter) ↔ m ∈ nodes ∧ m.id ≠ nodeID ∨ m = ⟨nodeID, voter, true⟩ := by
  simp [apply]

end

section

/-- A call that meets no fault: the leader stays the same, every member answers, and the call is over when the next
one is due. -/
structure Undisturbed (leader : Bytes) (now : Int) (r : Reconciler) (call : Call) : Prop where
  leads : ∃ term, call.status = .ok ⟨true, term, leader⟩ ∧ call.status2 = .ok ⟨true, term, leader⟩
  answered : ∃ answer, call.nodes = .ok answer ∧ answer.Perm r.nodes ∧ Sorts lessAddr (answer.map (·.id)) call.sorted
  onTime : call.now = now
  inTime : now ≤ call.failedAt ∧ call.failedAt ≤ now + 120
  succeeds : call.faults = []

structure Target (leader : Bytes) (desiredVoters : Finset Bytes) (ids : List Bytes) : Prop where
  nodup : ids.Nodup
  large : maxDefaultVoters < ids.length
  known : ∀ a ∈ desiredVoters, a ∈ ids
  card : desiredVoters.card = maxDefaultVoters
  leads : leader ∈ desiredVoters

structure Intact (leader : Bytes) (ids : List Bytes) (nodes : List RQLiteNode) : Prop where
  ids : (nodes.map (·.id)).Perm ids
  reachable : ∀ n ∈ nodes, n.reachable = true
  leads : ∀ n ∈ nodes, n.id = leader → n.voter = true

inductive Effect (desiredVoters : Finset Bytes) (leader : Bytes) (r : Reconciler) (call : Call) : Outcome → Prop
  | idle (hall : ∀ n ∈ r.nodes, fixable desiredVoters leader n = true →
      coolingDown r.cooldowns call.now n.id = true) : Effect desiredVoters leader r call ⟨r, none, []⟩
  | refused (n : RQLiteNode) (err : Bytes) (hn : n ∈ r.nodes) (hvoter : n.voter = true) (hmem : n.id ∉ desiredVoters)
      (hfree : coolingDown r.cooldowns call.now n.id = false) (hcount : voterCount r.nodes ≤ 2) :
      Effect desiredVoters leader r call
        ⟨⟨r.nodes, (n.id, call.failedAt + voterChangeCooldown) :: r.cooldowns⟩, some err, []⟩
  | demoted (n : RQLiteNode) (hn : n ∈ r.nodes) (hvoter : n.voter = true) (hmem : n.id ∉ desiredVoters)
      (hcount : 2 < voterCount r.nodes) :
      Effect desiredVoters leader r call
        ⟨{ r with nodes := Request.apply r.nodes (.join n.id false) }, none, [.remove n.id, .join n.id false]⟩
  | promoted (n : RQLiteNode) (hn : n ∈ r.nodes) (hvoter : n.voter = false) (hmem : n.id ∈ desiredVoters) :
      Effect desiredVoters leader r call
        ⟨{ r with nodes := Request.apply r.nodes (.join n.id true) }, none, [.join n.id true]⟩

variable {leader : Bytes} {desiredVoters : Finset Bytes} {ids : List Bytes} {nodes : List RQLiteNode} {r : Reconciler}
  {call : Call} {n : RQLiteNode} {now : Int}

attribute [local simp] fault Session.next

lemma freshQuorumCheck_eq (hreachable : ∀ n ∈ nodes, n.reachable) (nodeID : Bytes) (voter : Bool) :
    freshQuorumCheck ⟨nodes, [], []⟩ nodeID voter =
    (⟨apply nodes (.join nodeID voter), [], [.remove nodeID, .join nodeID voter]⟩, none) := by
  have hfind : (nodes.find? fun n => !n.reachable) = none := by simpa using hreachable
  simp only [freshQuorumCheck, fault, List.head?_nil, Option.join_none, hfind]
  simp [removeAndRejoin, rejoin, backoffs, send, apply_join_apply_remove]

lemma quorumPreCheck_eq_none_iff (hn : n ∈ nodes) (hreachable : ∀ n ∈ nodes, n.reachable) :
    quorumPreCheck nodes n.id = none ↔ 2 < voterCount nodes := by
  grind [quorumPreCheck]

lemma fix_effect (hreachable : ∀ n ∈ r.nodes, n.reachable) (hfaults : call.faults = []) (hn : n ∈ r.nodes)
    (hfree : coolingDown r.cooldowns call.now n.id = false) (hfix : fixable desiredVoters leader n) :
    Effect desiredVoters leader r call (fix r call n) := by
  cases hvoter : n.voter with
  | false =>
    have hmem : n.id ∈ desiredVoters := by simpa [fixable, hvoter] using hfix
    have heq : fix r call n = ⟨{ r with nodes := apply r.nodes (.join n.id true) }, none, [.join n.id true]⟩ := by
      simp [fix, hvoter, hfaults, conclude, send]
    rw [heq]
    exact .promoted n hn hvoter hmem
  | true =>
    have hmem : n.id ∉ desiredVoters := by
      grind [fixable]
    cases hcheck : quorumPreCheck r.nodes n.id with
    | some err =>
      have hcount : voterCount r.nodes ≤ 2 := by grind [quorumPreCheck_eq_none_iff]
      have heq : fix r call n =
          ⟨⟨r.nodes, (n.id, call.failedAt + voterChangeCooldown) :: r.cooldowns⟩, some err, []⟩ := by
        simp [fix, hvoter, hfaults, conclude, changeNodeVoterStatus, hcheck]
      rw [heq]
      exact .refused n err hn hvoter hmem hfree hcount
    | none =>
      have heq : fix r call n =
          ⟨{ r with nodes := apply r.nodes (.join n.id false) }, none, [.remove n.id, .join n.id false]⟩ := by
        grind [freshQuorumCheck_eq, fix, conclude, changeNodeVoterStatus, fault, Session.next]
      rw [heq]
      exact .demoted n hn hvoter hmem ((quorumPreCheck_eq_none_iff hn hreachable).1 hcheck)

lemma Undisturbed.effect (h : Undisturbed leader now r call) (htarget : Target leader desiredVoters ids)
    (hintact : Intact leader ids r.nodes)
    (hdesired : ∀ sorted, Sorts lessAddr ids sorted → computeVoterSet sorted maxDefaultVoters = desiredVoters) :
    Effect desiredVoters leader r call (reconcileVoters r call) := by
  obtain ⟨term, hstatus, hstatus2⟩ := h.leads
  obtain ⟨answer, hnodes, hperm, hsorted⟩ := h.answered
  have hset : computeVoterSet call.sorted maxDefaultVoters = desiredVoters :=
    hdesired _ ((sorts_of_perm ((hperm.map _).trans hintact.ids)).1 hsorted)
  have hlength : ¬ answer.length ≤ maxDefaultVoters := by
    have hids := hintact.ids.length_eq
    rw [List.length_map, ← hperm.length_eq] at hids
    have hlarge := htarget.large
    omega
  have hany : (answer.any fun n => !n.reachable) = false := by
    simpa using fun n hn => hintact.reachable n (hperm.mem_iff.1 hn)
  have hstable : stable call ⟨true, term, leader⟩ := by simp [stable, hstatus2]
  have heq : reconcileVoters r call =
      match answer.find? fun n => !coolingDown r.cooldowns call.now n.id && fixable desiredVoters leader n with
      | none => ⟨r, none, []⟩
      | some n => fix r call n := by
    simp [reconcileVoters, hstatus, hnodes, reconcileNodes, hlength, hany, hstable, hset, htarget.leads]
  rw [heq]
  split
  · next hnone =>
    refine .idle fun n hn hfix => ?_
    have hnot := List.find?_eq_none.1 hnone n (hperm.mem_iff.2 hn)
    simpa [hfix] using hnot
  · next n hfind =>
    have hfound := List.find?_some hfind
    rw [Bool.and_eq_true, Bool.not_eq_true'] at hfound
    exact fix_effect hintact.reachable h.succeeds (hperm.mem_iff.1 (List.mem_of_find?_eq_some hfind)) hfound.1
      hfound.2

end
end Orama.Rqlite
