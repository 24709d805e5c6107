import Orama.Rqlite.Reconcile

namespace Orama.Rqlite
open Lib Lib.Ranking List
section

def excess (desiredVoters : Finset Bytes) (nodes : List RQLiteNode) : Nat :=
  nodes.countP fun n => n.voter && n.id ∉ desiredVoters

def missing (desiredVoters : Finset Bytes) (nodes : List RQLiteNode) : Nat :=
  nodes.countP fun n => !n.voter && n.id ∈ desiredVoters

def seated (desiredVoters : Finset Bytes) (nodes : List RQLiteNode) : Nat :=
  nodes.countP fun n => n.voter && n.id ∈ desiredVoters

variable {desiredVoters : Finset Bytes} {nodes : List RQLiteNode}

lemma voterCount_eq (hreachable : ∀ n ∈ nodes, n.reachable) :
    voterCount nodes = excess desiredVoters nodes + seated desiredVoters nodes := by
  rw [voterCount, excess, seated]
  induction nodes with
  | nil => rfl
  | cons n nodes ih => grind

lemma seated_add_missing (desiredVoters : Finset Bytes) (nodes : List RQLiteNode) :
    seated desiredVoters nodes + missing desiredVoters nodes = (nodes.map (·.id)).countP (· ∈ desiredVoters) := by
  rw [seated, missing]
  induction nodes with
  | nil => rfl
  | cons n nodes ih => grind

lemma countP_mem_eq_card {ids : List Bytes} (hnodup : ids.Nodup) (hsub : ∀ a ∈ desiredVoters, a ∈ ids) :
    ids.countP (· ∈ desiredVoters) = desiredVoters.card := by
  have heq : (ids.filter (· ∈ desiredVoters)).toFinset = desiredVoters := by grind [mem_toFinset]
  rw [countP_eq_length_filter, ← toFinset_card_of_nodup (hnodup.filter _), heq]

lemma voters_eq (hsub : ∀ a ∈ desiredVoters, a ∈ nodes.map (·.id)) (hexcess : excess desiredVoters nodes = 0)
    (hmissing : missing desiredVoters nodes = 0) : voters nodes = desiredVoters := by
  rw [excess, countP_eq_zero] at hexcess
  rw [missing, countP_eq_zero] at hmissing
  grind [mem_toFinset, voters]

lemma eq_of_excess_le_one (hexcess : excess desiredVoters nodes ≤ 1) {n m : RQLiteNode} (hn : n ∈ nodes)
    (hnvoter : n.voter) (hnmem : n.id ∉ desiredVoters) (hm : m ∈ nodes) (hmvoter : m.voter)
    (hmmem : m.id ∉ desiredVoters) : m = n := by
  rw [excess, countP_eq_length_filter] at hexcess
  have hn' : n ∈ nodes.filter fun n => n.voter && n.id ∉ desiredVoters := by simp [hn, hnvoter, hnmem]
  have hm' : m ∈ nodes.filter fun n => n.voter && n.id ∉ desiredVoters := by simp [hm, hmvoter, hmmem]
  generalize nodes.filter _ = l at hexcess hn' hm'
  match l with
  | [] => cases hn'
  | [_] => rw [mem_singleton.1 hn', mem_singleton.1 hm']
  | _ :: _ :: _ => simp at hexcess

lemma excess_add_missing_le (desiredVoters : Finset Bytes) (nodes : List RQLiteNode) :
    excess desiredVoters nodes + missing desiredVoters nodes ≤ nodes.length := by
  rw [excess, missing]
  induction nodes with
  | nil => exact Nat.le_refl _
  | cons n nodes ih => grind

end

open Request
section
variable {leader : Bytes} {desiredVoters : Finset Bytes} {ids : List Bytes} {nodes : List RQLiteNode} {r : Reconciler}
  {call : Call} {n : RQLiteNode} {start : Int} {j : Nat}

section
variable (h : Intact leader ids nodes)
include h

lemma Intact.seated_add_missing (htarget : Target leader desiredVoters ids) :
    seated desiredVoters nodes + missing desiredVoters nodes = 5 := by
  rw [Rqlite.seated_add_missing, h.ids.countP_eq, countP_mem_eq_card htarget.nodup htarget.known, htarget.card,
    maxDefaultVoters]

lemma Intact.seated_pos (htarget : Target leader desiredVoters ids) : 0 < seated desiredVoters nodes := by
  obtain ⟨n, hn, hid⟩ := mem_map.1 (h.ids.mem_iff.2 (htarget.known leader htarget.leads))
  exact countP_pos_iff.2 ⟨n, hn, by simp [h.leads n hn hid, hid, htarget.leads]⟩

lemma Intact.voterCount_eq (desiredVoters : Finset Bytes) :
    voterCount nodes = excess desiredVoters nodes + seated desiredVoters nodes :=
  Rqlite.voterCount_eq h.reachable

lemma Intact.nodup (htarget : Target leader desiredVoters ids) :
    (nodes.map (·.id)).Nodup := h.ids.nodup_iff.2 htarget.nodup

end

lemma excess_pos (hn : n ∈ nodes) (hvoter : n.voter) (hmem : n.id ∉ desiredVoters) :
    0 < excess desiredVoters nodes :=
  countP_pos_iff.2 ⟨n, hn, by simp [hvoter, hmem]⟩

section
variable (h : Intact leader ids nodes) (htarget : Target leader desiredVoters ids) (hn : n ∈ nodes)
include h htarget hn

lemma Intact.join (hne : n.id ≠ leader) (voter : Bool) : Intact leader ids (apply nodes (.join n.id voter)) where
  ids := (map_id_join (h.nodup htarget) hn voter).trans h.ids
  reachable := by
    intro m hm
    rcases mem_join.1 hm with ⟨hm, -⟩ | rfl
    · exact h.reachable m hm
    · rfl
  leads := by
    intro m hm hid
    rcases mem_join.1 hm with ⟨hm, -⟩ | rfl
    · exact h.leads m hm hid
    · exact absurd hid hne

lemma Intact.counts_demoted (hvoter : n.voter) (hmem : n.id ∉ desiredVoters) :
    excess desiredVoters nodes = excess desiredVoters (apply nodes (.join n.id false)) + 1 ∧
    missing desiredVoters (apply nodes (.join n.id false)) = missing desiredVoters nodes := by
  have hnodup := h.nodup htarget
  refine ⟨?_, ?_⟩
  · grind [countP_remove, countP_join, excess]
  · grind [countP_remove, countP_join, missing]

lemma Intact.counts_promoted (hvoter : n.voter = false) (hmem : n.id ∈ desiredVoters) :
    excess desiredVoters (apply nodes (.join n.id true)) = excess desiredVoters nodes ∧
    missing desiredVoters nodes = missing desiredVoters (apply nodes (.join n.id true)) + 1 := by
  have hnodup := h.nodup htarget
  refine ⟨?_, ?_⟩
  · grind [countP_remove, countP_join, excess]
  · grind [countP_remove, countP_join, missing]

end

lemma ne_leader_of_not_mem (htarget : Target leader desiredVoters ids) (hmem : n.id ∉ desiredVoters) :
    n.id ≠ leader := by
  intro hid
  exact hmem (hid ▸ htarget.leads)

lemma Intact.ne_leader_of_not_voter (h : Intact leader ids nodes) (hn : n ∈ nodes) (hvoter : n.voter = false) :
    n.id ≠ leader := by
  intro hid
  rw [h.leads n hn hid] at hvoter
  cases hvoter

lemma fixable_of_excess (htarget : Target leader desiredVoters ids) (hvoter : n.voter)
    (hmem : n.id ∉ desiredVoters) : fixable desiredVoters leader n := by
  simp [fixable, hvoter, hmem, ne_leader_of_not_mem htarget hmem]

lemma fixable_of_missing (hvoter : n.voter = false) (hmem : n.id ∈ desiredVoters) :
    fixable desiredVoters leader n := by
  simp [fixable, hvoter, hmem]

lemma missing_eq_zero_of_idle (hall : ∀ n ∈ r.nodes, fixable desiredVoters leader n →
      coolingDown r.cooldowns call.now n.id)
    (hwarm : ∀ a ∈ desiredVoters, coolingDown r.cooldowns call.now a = false) :
    missing desiredVoters r.nodes = 0 := by
  rw [missing, countP_eq_zero]
  grind [fixable_of_missing]

lemma out_of_place_eq_zero (htarget : Target leader desiredVoters ids)
    (hnobody : ∀ n ∈ nodes, fixable desiredVoters leader n = false) :
    excess desiredVoters nodes + missing desiredVoters nodes = 0 := by
  have hexcess : excess desiredVoters nodes = 0 := by grind [fixable_of_excess, excess]
  have hmissing : missing desiredVoters nodes = 0 := by
    rw [missing, countP_eq_zero]
    grind [fixable_of_missing]
  rw [hexcess, hmissing]

variable {o : Outcome}

section
variable (heffect : Effect desiredVoters leader r call o)
include heffect

section
variable (htarget : Target leader desiredVoters ids) (h : Intact leader ids r.nodes)
include htarget h

lemma Effect.intact : Intact leader ids o.reconciler.nodes := by
  cases heffect with
  | idle _ => exact h
  | refused n err hn hvoter hmem hfree hcount => exact h
  | demoted n hn hvoter hmem hcount => exact h.join htarget hn (ne_leader_of_not_mem htarget hmem) false
  | promoted n hn hvoter hmem => exact h.join htarget hn (h.ne_leader_of_not_voter hn hvoter) true

lemma Effect.single : (∀ req ∈ o.sent, req.nodeID ≠ leader) ∧ ∃ nodeID, (∀ req ∈ o.sent, req.nodeID = nodeID) ∧
        ∀ m : RQLiteNode, m.id ≠ nodeID → (m ∈ o.reconciler.nodes ↔ m ∈ r.nodes) := by
  have hothers : ∀ (nodeID : Bytes) (voter : Bool) (m : RQLiteNode), m.id ≠ nodeID →
      (m ∈ apply r.nodes (.join nodeID voter) ↔ m ∈ r.nodes) := by
    grind [mem_join]
  cases heffect with
  | idle _ => exact ⟨by simp, leader, by simp⟩
  | refused n err hn hvoter hmem hfree hcount => exact ⟨by simp, leader, by simp⟩
  | demoted n hn hvoter hmem hcount =>
    have hne := ne_leader_of_not_mem htarget hmem
    exact ⟨by simp [nodeID, hne], n.id, by simp [nodeID], hothers n.id false⟩
  | promoted n hn hvoter hmem =>
    have hne := h.ne_leader_of_not_voter hn hvoter
    exact ⟨by simp [nodeID, hne], n.id, by simp [nodeID], hothers n.id true⟩

end

lemma Effect.nodes_eq : o.reconciler.nodes = o.sent.foldl apply r.nodes := by
  cases heffect with
  | idle _ => rfl
  | refused n err hn hvoter hmem hfree hcount => rfl
  | demoted n hn hvoter hmem hcount => exact (apply_join_apply_remove n.id false).symm
  | promoted n hn hvoter hmem => rfl

lemma Effect.two_voters (htarget : Target leader desiredVoters ids)
    (h : Intact leader ids r.nodes) (hwarm : ∀ a ∈ desiredVoters, coolingDown r.cooldowns call.now a = false)
    {k : Nat} (hk : 0 < k) : 2 ≤ voterCount ((o.sent.take k).foldl apply r.nodes) := by
  have hfive := h.seated_add_missing htarget
  have hpos := h.seated_pos htarget
  have hcount := h.voterCount_eq desiredVoters
  obtain ⟨k, rfl⟩ := Nat.exists_eq_succ_of_ne_zero hk.ne'
  cases heffect with
  | idle hall =>
    have hmissing := missing_eq_zero_of_idle hall hwarm
    simp only [take_nil, foldl_nil]
    omega
  | refused n err hn hvoter hmem hfree hfew => grind [excess_pos]
  | demoted n hn hvoter hmem hmany =>
    have hremove := countP_remove (h.nodup htarget) hn fun n => n.voter && n.reachable
    have hjoin := countP_join r.nodes n.id false fun n => n.voter && n.reachable
    rw [← voterCount, ← voterCount] at hremove hjoin
    simp only [hvoter, h.reachable n hn, Bool.and_self, if_true] at hremove
    cases k with
    | zero => grind
    | succ k =>
      simp only [Nat.succ_eq_add_one, take_succ_cons, take_nil, foldl_cons, foldl_nil, apply_join_apply_remove]
      omega
  | promoted n hn hvoter hmem =>
    have hcounts := h.counts_promoted htarget hn hvoter hmem
    have hintact := h.join htarget hn (h.ne_leader_of_not_voter hn hvoter) true
    have hfive' := hintact.seated_add_missing htarget
    have hcount' := hintact.voterCount_eq desiredVoters
    simp only [Nat.succ_eq_add_one, take_succ_cons, take_nil, foldl_cons, foldl_nil]
    omega

end

/-- Where the calls stand. As long as no demotion has been refused, every call puts one node in its place. A refusal
comes when the leader and one excess voter are the only voters, so it is the only one, and while the node is left
alone the missing voters are promoted. -/
inductive Progress (desiredVoters : Finset Bytes) (start : Int) (size j : Nat) (r : Reconciler) : Prop
  | smooth (hnone : r.cooldowns = [])
      (hbound : excess desiredVoters r.nodes + missing desiredVoters r.nodes = 0 ∨
        excess desiredVoters r.nodes + missing desiredVoters r.nodes + j ≤ size) :
      Progress desiredVoters start size j r
  | refused (nodeID : Bytes) (cooldownUntil : Int) (i : Nat) (hone : r.cooldowns = [(nodeID, cooldownUntil)])
      (hmem : nodeID ∉ desiredVoters) (hi : i < j) (hsize : i + 5 ≤ size) (hfrom : start + 120 * (i + 5) ≤ cooldownUntil)
      (huntil : cooldownUntil ≤ start + 120 * (i + 6))
      (honly : ∀ n ∈ r.nodes, n.voter = true → n.id ∉ desiredVoters → n.id = nodeID)
      (hexcess : excess desiredVoters r.nodes ≤ 1)
      (henough : j = i + 1 ∨ 2 < voterCount r.nodes ∨ excess desiredVoters r.nodes = 0)
      (hbound : excess desiredVoters r.nodes + missing desiredVoters r.nodes = 0 ∨
        excess desiredVoters r.nodes + missing desiredVoters r.nodes + j ≤ size + 2) :
      Progress desiredVoters start size j r

variable {size : Nat}

lemma Progress.not_coolingDown (h : Progress desiredVoters start size j r) {a : Bytes}
    (ha : a ∈ desiredVoters) (now : Int) : coolingDown r.cooldowns now a = false := by
  cases h with
  | smooth hnone hbound => simp [coolingDown, hnone]
  | refused nodeID cooldownUntil i hone hmem => grind [coolingDown]

lemma Progress.step_smooth (hnone : r.cooldowns = [])
    (hbound : excess desiredVoters r.nodes + missing desiredVoters r.nodes = 0 ∨ excess desiredVoters r.nodes + missing desiredVoters r.nodes + j ≤ size)
    (heffect : Effect desiredVoters leader r call o) (htarget : Target leader desiredVoters ids)
    (h : Intact leader ids r.nodes) (hnow : call.now = start + 120 * j)
    (hfailed : call.now ≤ call.failedAt ∧ call.failedAt ≤ call.now + 120) :
    Progress desiredVoters start size (j + 1) o.reconciler := by
  cases heffect with
  | idle hall =>
    have hnobody : ∀ n ∈ r.nodes, fixable desiredVoters leader n = false := by
      grind [coolingDown]
    exact .smooth hnone (.inl (out_of_place_eq_zero htarget hnobody))
  | refused n err hn hvoter hmem hfree hfew =>
    have hfive := h.seated_add_missing htarget
    have hpos := h.seated_pos htarget
    have hcount := h.voterCount_eq desiredVoters
    have hexcess := excess_pos hn hvoter hmem
    have hone : excess desiredVoters r.nodes ≤ 1 := by omega
    refine .refused n.id (call.failedAt + voterChangeCooldown) j (by rw [hnone]) hmem (by omega) (by omega) ?_ ?_ ?_ hone
      (.inl rfl) (.inr ?_)
    all_goals grind [eq_of_excess_le_one, voterChangeCooldown]
  | demoted n hn hvoter hmem hmany =>
    obtain ⟨hexcess, hmissing⟩ := h.counts_demoted htarget hn hvoter hmem
    exact .smooth hnone (.inr (by dsimp only; omega))
  | promoted n hn hvoter hmem =>
    obtain ⟨hexcess, hmissing⟩ := h.counts_promoted htarget hn hvoter hmem
    exact .smooth hnone (.inr (by dsimp only; omega))

lemma Progress.step (h : Progress desiredVoters start size j r)
    (heffect : Effect desiredVoters leader r call o) (htarget : Target leader desiredVoters ids)
    (hintact : Intact leader ids r.nodes) (hcall : Undisturbed leader (start + 120 * j) r call) :
    Progress desiredVoters start size (j + 1) o.reconciler := by
  have hwarm : ∀ a ∈ desiredVoters, coolingDown r.cooldowns call.now a = false := fun a ha => h.not_coolingDown ha call.now
  cases h with
  | smooth hnone hbound =>
    refine Progress.step_smooth hnone hbound heffect htarget hintact hcall.onTime ?_
    rw [hcall.onTime]
    exact hcall.inTime
  | refused nodeID cooldownUntil i hone hmem hi hsize hfrom huntil honly hexcess henough hbound =>
    have hnow := hcall.onTime
    have hcooling : coolingDown r.cooldowns call.now nodeID = decide (call.now < cooldownUntil) := by
      simp [coolingDown, hone]
    have hfive := hintact.seated_add_missing htarget
    have hpos := hintact.seated_pos htarget
    have hcount := hintact.voterCount_eq desiredVoters
    cases heffect with
    | idle hall =>
      have hmissing := missing_eq_zero_of_idle hall hwarm
      refine .refused nodeID cooldownUntil i hone hmem (by omega) hsize hfrom huntil honly hexcess ?_ ?_
      · exact .inr (.inl (by dsimp only; omega))
      · -- Only the excess voter is out of place, and only as long as it is left alone.
        rcases Nat.eq_zero_or_pos (excess desiredVoters r.nodes) with hzero | hsome
        · exact .inl (by dsimp only; omega)
        · obtain ⟨n, hn, hout⟩ := countP_pos_iff.1 hsome
          grind [fixable_of_excess]
    | refused n err hn hvoter hnmem hfree hfew => grind [excess_pos]
    | demoted n hn hvoter hnmem hmany =>
      obtain ⟨hexcess', hmissing'⟩ := hintact.counts_demoted htarget hn hvoter hnmem
      refine .refused nodeID cooldownUntil i hone hmem (by omega) hsize hfrom huntil ?_ ?_ ?_ ?_
      all_goals grind [mem_join]
    | promoted n hn hvoter hnmem =>
      obtain ⟨hexcess', hmissing'⟩ := hintact.counts_promoted htarget hn hvoter hnmem
      have hintact' := hintact.join htarget hn (hintact.ne_leader_of_not_voter hn hvoter) true
      have hfive' := hintact'.seated_add_missing htarget
      have hcount' := hintact'.voterCount_eq desiredVoters
      refine .refused nodeID cooldownUntil i hone hmem (by omega) hsize hfrom huntil ?_ ?_ ?_ ?_
      all_goals grind [mem_join]

lemma Progress.voters_eq (h : Progress desiredVoters start size j r)
    (htarget : Target leader desiredVoters ids) (hintact : Intact leader ids r.nodes) (hj : size + 2 ≤ j) :
    voters r.nodes = desiredVoters := by
  have hzero : excess desiredVoters r.nodes + missing desiredVoters r.nodes = 0 := by
    cases h with
    | smooth hnone hbound => omega
    | refused nodeID cooldownUntil i hone hmem hi hsize hfrom huntil honly hexcess henough hbound => omega
  exact Rqlite.voters_eq (fun a ha => hintact.ids.mem_iff.2 (htarget.known a ha)) (Nat.eq_zero_of_add_eq_zero_right hzero)
    (Nat.eq_zero_of_add_eq_zero_left hzero)

end

section
variable {leader : Bytes} {desiredVoters : Finset Bytes} {nodes : List RQLiteNode} {calls : Nat → Call} {start : Int}

lemma run_progress (htarget : Target leader desiredVoters (nodes.map (·.id)))
    (hintact : Intact leader (nodes.map (·.id)) nodes)
    (hdesired : ∀ sorted, Sorts lessAddr (nodes.map (·.id)) sorted →
      computeVoterSet sorted maxDefaultVoters = desiredVoters)
    (hcalls : ∀ j : Nat, Undisturbed leader (start + 120 * j) (run calls nodes j) (calls j)) (j : Nat) :
    Intact leader (nodes.map (·.id)) (run calls nodes j).nodes ∧
      Progress desiredVoters start nodes.length j (run calls nodes j) := by
  induction j with
  | zero => exact ⟨hintact, .smooth rfl (.inr (excess_add_missing_le desiredVoters nodes))⟩
  | succ j ih =>
    have heffect := (hcalls j).effect htarget ih.1 hdesired
    exact ⟨heffect.intact htarget ih.1, ih.2.step heffect htarget ih.1 (hcalls j)⟩

/-- For every large cluster of distinct hosts whose leader is among the voters to be, the calls change at most one
node each, never ask for a change of the leader, never leave fewer than two voters after any request, and give the
right voters after two calls more than there are nodes. -/
theorem reconciliation_converges {sorted : List Bytes} (hlarge : maxDefaultVoters < nodes.length)
    (hreachable : ∀ n ∈ nodes, n.reachable = true) (hhosts : DistinctHosts (nodes.map (·.id)))
    (hsorted : Sorts lessAddr (nodes.map (·.id)) sorted) (hleader : leader ∈ computeVoterSet sorted maxDefaultVoters)
    (hleads : ∀ n ∈ nodes, n.id = leader → n.voter = true)
    (hcalls : ∀ j : Nat, Undisturbed leader (start + 120 * j) (run calls nodes j) (calls j)) :
    (∀ j, (∀ req ∈ (reconcileVoters (run calls nodes j) (calls j)).sent, req.nodeID ≠ leader) ∧
      (∃ nodeID, (∀ req ∈ (reconcileVoters (run calls nodes j) (calls j)).sent, req.nodeID = nodeID) ∧
      ∀ n : RQLiteNode, n.id ≠ nodeID → (n ∈ (run calls nodes (j + 1)).nodes ↔ n ∈ (run calls nodes j).nodes)) ∧
      (run calls nodes (j + 1)).nodes =
      (reconcileVoters (run calls nodes j) (calls j)).sent.foldl Request.apply (run calls nodes j).nodes ∧
      ∀ k > 0, 2 ≤ voterCount
        (((reconcileVoters (run calls nodes j) (calls j)).sent.take k).foldl Request.apply (run calls nodes j).nodes)) ∧
      ∀ j, nodes.length + 2 ≤ j → voters (run calls nodes j).nodes = computeVoterSet sorted maxDefaultVoters := by
  have htarget : Target leader (computeVoterSet sorted maxDefaultVoters) (nodes.map (·.id)) := by
    refine ⟨hhosts.nodup, by rwa [length_map], fun a ha => mem_of_mem_computeVoterSet hsorted ha, ?_, hleader⟩
    rw [hhosts.card_computeVoterSet hsorted, length_map, Nat.min_eq_left hlarge.le]
  have hintact : Intact leader (nodes.map (·.id)) nodes := ⟨List.Perm.refl _, hreachable, hleads⟩
  have hdesired : ∀ sorted', Sorts lessAddr (nodes.map (·.id)) sorted' →
      computeVoterSet sorted' maxDefaultVoters = computeVoterSet sorted maxDefaultVoters :=
    fun sorted' hsorted' => hhosts.computeVoterSet_eq hsorted' hsorted maxDefaultVoters
  have hrun := run_progress htarget hintact hdesired hcalls
  refine ⟨fun j => ?_, fun j hj => (hrun j).2.voters_eq htarget (hrun j).1 hj⟩
  have heffect := (hcalls j).effect htarget (hrun j).1 hdesired
  have hsingle := heffect.single htarget (hrun j).1
  refine ⟨hsingle.1, hsingle.2, heffect.nodes_eq, fun k hk => ?_⟩
  exact heffect.two_voters htarget (hrun j).1 (fun a ha => (hrun j).2.not_coolingDown ha _) hk

def undisturbedCall (leader : Bytes) (now : Int) (r : Reconciler) : Call :=
  ⟨.ok ⟨true, 1, leader⟩, .ok r.nodes, .ok ⟨true, 1, leader⟩, arrange lessAddr (r.nodes.map (·.id)), now, now, []⟩

def undisturbedRun (leader : Bytes) (start : Int) (nodes : List RQLiteNode) : Nat → Reconciler
  | 0 => ⟨nodes, []⟩
  | j + 1 => (reconcileVoters (undisturbedRun leader start nodes j)
      (undisturbedCall leader (start + 120 * j) (undisturbedRun leader start nodes j))).reconciler

lemma run_undisturbed (leader : Bytes) (start : Int) (nodes : List RQLiteNode) (j : Nat) :
    run (fun j => undisturbedCall leader (start + 120 * j) (undisturbedRun leader start nodes j)) nodes j =
    undisturbedRun leader start nodes j := by
  induction j with
  | zero => rfl
  | succ j ih => rw [run, undisturbedRun, ih]

lemma undisturbed_of_run (leader : Bytes) (start : Int) (nodes : List RQLiteNode) (j : Nat) :
    Undisturbed leader (start + 120 * j)
      (run (fun j => undisturbedCall leader (start + 120 * j) (undisturbedRun leader start nodes j)) nodes j)
      (undisturbedCall leader (start + 120 * j) (undisturbedRun leader start nodes j)) := by
  rw [run_undisturbed]
  exact ⟨⟨1, rfl, rfl⟩, ⟨_, rfl, List.Perm.refl _, arrange_sorts lessAddr _⟩, rfl,
    ⟨Int.le_refl _, by simp [undisturbedCall]⟩, rfl⟩

def hostAddr (i : Nat) : Bytes := ascii "10.0.0." ++ decimal (i + 1) ++ ascii ":7001"

def sixNodes : List RQLiteNode := (List.range 6).map fun i => ⟨hostAddr i, i = 0 || i = 5, true⟩

/-- After eight calls the voters of the six nodes are the first five. -/
theorem six_nodes_converge :
    (reconcileVoters ⟨sixNodes.reverse, []⟩ (undisturbedCall (hostAddr 0) 0 ⟨sixNodes.reverse, []⟩)).error =
    some (ascii "cannot remove voter: only 2 reachable voters, quorum would be lost") ∧
    voters (undisturbedRun (hostAddr 0) 0 sixNodes.reverse 8).nodes = ((List.range 5).map hostAddr).toFinset := by
  refine ⟨by decide, ?_⟩
  have hset : computeVoterSet (arrange lessAddr (sixNodes.reverse.map (·.id))) maxDefaultVoters =
      ((List.range 5).map hostAddr).toFinset := by decide
  rw [← hset, ← run_undisturbed]
  have hleader : hostAddr 0 ∈ computeVoterSet (arrange lessAddr (sixNodes.reverse.map (·.id))) maxDefaultVoters := by
    decide
  exact (reconciliation_converges (by decide) (by decide) ⟨by decide, by decide⟩ (arrange_sorts lessAddr _) hleader
    (by decide) (undisturbed_of_run (hostAddr 0) 0 sixNodes.reverse)).2 8 (by decide)

end
end Orama.Rqlite
