import Orama.Lib.Interleaving
import Orama.Namespace.Clusters

namespace Orama.Namespace.Suspects
open Lib

inductive Kind where
  | suspect
  | recovery
deriving DecidableEq

structure Request where
  kind : Kind
  gateway : Nat
  nodeID : Bytes
deriving DecidableEq

structure Event (ι : Type) where
  request : ι
  fault : Bool

structure Shared where
  db : Database
  provisioning : List (Nat × Bytes)
deriving DecidableEq

inductive Phase where
  | start
  | finding
  | loading (refs : List Bytes) (clusters : List NamespaceCluster)
  | locating (clusters : List NamespaceCluster)
  | counting (ip name : Bytes) (rest : List NamespaceCluster)
  | updating (ip name : Bytes) (counted : Nat) (rest : List NamespaceCluster)
  | updatingWildcard (ip name : Bytes) (rest : List NamespaceCluster)
  | releasing
  | done
deriving DecidableEq

def Request.suspectKey (req : Request) : Nat × Bytes := (req.gateway, ascii "suspect:" ++ req.nodeID)

def Kind.active : Kind → Bool
  | .suspect => false
  | .recovery => true

def Kind.finish : Kind → Phase
  | .suspect => .releasing
  | .recovery => .done

def Kind.load (kind : Kind) (refs : List Bytes) (clusters : List NamespaceCluster) : Phase :=
  match refs, clusters with
  | [], [] => kind.finish
  | [], cluster :: clusters => .locating (cluster :: clusters)
  | ref :: refs, clusters => .loading (ref :: refs) clusters

def Kind.visit (kind : Kind) (ip : Bytes) : List NamespaceCluster → Phase
  | [] => kind.finish
  | cluster :: rest =>
    match kind with
    | .suspect => .counting ip cluster.namespaceName rest
    | .recovery => .updating ip cluster.namespaceName 0 rest

variable {ι : Type} (baseDomain : Bytes)

def Shared.setActive (s : Shared) (fault : Bool) (fqdn ip : Bytes) (active : Bool) : Shared :=
  if fault then s
  else { s with db := { s.db with dnsRecords := s.db.dnsRecords.setActive fqdn ip active } }

def statement (req : Request) (e : Event ι) (s : Shared) : Phase → Shared × Phase
  | .start =>
    match req.kind with
    | .recovery => (s, .finding)
    | .suspect =>
      if s.provisioning.contains req.suspectKey then (s, .done)
      else ({ s with provisioning := req.suspectKey :: s.provisioning }, .finding)
  | .finding => (s, if e.fault then req.kind.finish else req.kind.load (getClustersByNodeID s.db req.nodeID) [])
  | .loading refs clusters =>
    match refs with
    | [] => (s, req.kind.load [] clusters)
    | ref :: refs =>
      let found := if e.fault then none else getCluster s.db ref
      (s, req.kind.load refs (clusters ++ found.toList))
  | .locating clusters =>
    match if e.fault then none else s.db.dnsNodes.ipAddress req.nodeID with
    | none => (s, req.kind.finish)
    | some ip => (s, req.kind.visit ip clusters)
  | .counting ip name rest =>
    let activeCount := s.db.dnsRecords.activeCount (mainFqdn baseDomain name)
    (s, if e.fault || activeCount ≤ 1 then req.kind.visit ip rest else .updating ip name activeCount rest)
  | .updating ip name _ rest =>
    (s.setActive e.fault (mainFqdn baseDomain name) ip req.kind.active, .updatingWildcard ip name rest)
  | .updatingWildcard ip name rest =>
    (s.setActive e.fault (wildcardFqdn baseDomain name) ip req.kind.active, req.kind.visit ip rest)
  | .releasing => ({ s with provisioning := s.provisioning.erase req.suspectKey }, .done)
  | .done => (s, .done)

def handlers (request : ι → Request) : Interleaving Shared ι Phase (Event ι) where
  process := Event.request
  act e s phase := statement baseDomain (request e.request) e s phase

def Shared.initial (s : Shared) : Config Shared ι Phase := ⟨s, fun _ => .start⟩

open DnsRecord Interleaving
section
variable {records : DnsRecords} {fqdn fqdn' value : Bytes}

lemma activeCount_setActive (records : DnsRecords) (fqdn' value fqdn : Bytes) (active : Bool) :
    (records.setActive fqdn' value active).activeCount fqdn = records.rows.countP fun r =>
      r.fqdn = fqdn && r.recordType = .a && (r.setActive fqdn' value active).isActive := by
  rw [DnsRecords.activeCount, DnsRecords.setActive, Unique.map, List.countP_map]
  apply List.countP_congr
  intro r _
  have hkey := key_setActive fqdn' value active r
  simp only [key, DnsKey.mk.injEq] at hkey
  simp [hkey]

lemma activeCount_le_setActive_false (records : DnsRecords) (fqdn value : Bytes) :
    records.activeCount fqdn ≤ (records.setActive fqdn value false).activeCount fqdn + 1 := by
  have hkey : records.rows.countP (fun r => decide (r.key = ⟨fqdn, .a, value⟩)) ≤ 1 := by
    grind [Unique.countP_le_one, conflicts_iff]
  rw [activeCount_setActive]
  refine (Unique.countP_le_countP_add ?_).trans (Nat.add_le_add_left hkey _)
  intro r _ hr
  simp only [Bool.and_eq_true, decide_eq_true_eq] at hr ⊢
  obtain ⟨⟨hfqdn, htype⟩, hactive⟩ := hr
  by_cases hvalue : r.value = value
  · exact .inr (by rw [key, hfqdn, htype, hvalue])
  · grind [setActive]

lemma activeCount_setActive_of_ne (h : fqdn' ≠ fqdn) (active : Bool) :
    (records.setActive fqdn' value active).activeCount fqdn = records.activeCount fqdn := by
  grind [activeCount_setActive, DnsRecords.activeCount, setActive]

lemma activeCount_le_setActive_true :
    records.activeCount fqdn ≤ (records.setActive fqdn' value true).activeCount fqdn := by
  rw [activeCount_setActive, DnsRecords.activeCount]
  apply List.countP_mono_left
  intro r _ hr
  simp only [Bool.and_eq_true, decide_eq_true_eq] at hr ⊢
  refine ⟨hr.1, ?_⟩
  rw [setActive]
  split
  · rfl
  · exact hr.2

end

section
variable {baseDomain} {req : Request} {e : Event ι} {s : Shared} {phase : Phase}

lemma statement_db (baseDomain : Bytes) (req : Request) (e : Event ι) (s : Shared) (phase : Phase) :
    (statement baseDomain req e s phase).1.db = s.db ∨ (∃ ip name counted rest, phase = .updating ip name counted rest ∧
    (statement baseDomain req e s phase).1.db.dnsRecords =
    s.db.dnsRecords.setActive (mainFqdn baseDomain name) ip req.kind.active) ∨
    ∃ ip name rest, phase = .updatingWildcard ip name rest ∧ (statement baseDomain req e s phase).1.db.dnsRecords =
    s.db.dnsRecords.setActive (wildcardFqdn baseDomain name) ip req.kind.active := by
  cases phase with
  | start => grind [statement]
  | finding => exact .inl rfl
  | loading refs clusters =>
    left
    cases refs <;> rfl
  | locating clusters =>
    left
    rw [statement]
    split <;> rfl
  | counting ip name rest => exact .inl rfl
  | updating ip name counted rest => grind [statement, Shared.setActive]
  | updatingWildcard ip name rest => grind [statement, Shared.setActive]
  | releasing => exact .inl rfl
  | done => exact .inl rfl

def Phase.Touches (name : Bytes) : Phase → Prop
  | .updating _ n _ _ => n = name
  | .updatingWildcard _ n _ => n = name
  | _ => False

lemma not_touches_finish (kind : Kind) (name : Bytes) : ¬ kind.finish.Touches name := by
  cases kind <;> exact id

lemma not_touches_load (kind : Kind) (refs : List Bytes) (clusters : List NamespaceCluster) (name : Bytes) :
    ¬ (kind.load refs clusters).Touches name := by
  cases refs with
  | nil =>
    cases clusters with
    | nil => exact not_touches_finish kind name
    | cons cluster clusters => exact id
  | cons ref refs => exact id

lemma not_touches_visit (ip : Bytes) (clusters : List NamespaceCluster) (name : Bytes) :
    ¬ (Kind.suspect.visit ip clusters).Touches name := by
  cases clusters with
  | nil => exact not_touches_finish .suspect name
  | cons cluster rest => exact id

lemma statement_touches (hkind : req.kind = .suspect) {name : Bytes}
    (h : (statement baseDomain req e s phase).2.Touches name) :
    (∃ ip rest, phase = .counting ip name rest ∧ 2 ≤ s.db.dnsRecords.activeCount (mainFqdn baseDomain name) ∧
      (statement baseDomain req e s phase).2 =
      .updating ip name (s.db.dnsRecords.activeCount (mainFqdn baseDomain name)) rest) ∨
      ∃ ip counted rest, phase = .updating ip name counted rest ∧
      (statement baseDomain req e s phase).2 = .updatingWildcard ip name rest := by
  cases phase with
  | start =>
    rw [statement, hkind] at h
    dsimp only at h
    split at h <;> exact h.elim
  | finding => grind [not_touches_finish, not_touches_load, statement]
  | loading refs clusters =>
    cases refs with
    | nil => exact (not_touches_load _ _ _ _ h).elim
    | cons ref refs => exact (not_touches_load _ _ _ _ h).elim
  | locating clusters =>
    rw [statement] at h
    split at h
    · exact (not_touches_finish _ _ h).elim
    · rw [hkind] at h
      exact (not_touches_visit _ _ _ h).elim
  | counting ip n rest =>
    rw [statement] at h ⊢
    dsimp only at h ⊢
    split at h
    · rw [hkind] at h
      exact (not_touches_visit _ _ _ h).elim
    · next hcount =>
      cases h
      simp only [Bool.or_eq_true, decide_eq_true_eq, not_or] at hcount
      rw [if_neg (by simpa using hcount)]
      exact .inl ⟨ip, rest, rfl, by omega, rfl⟩
  | updating ip n counted rest =>
    cases h
    exact .inr ⟨ip, counted, rest, rfl, rfl⟩
  | updatingWildcard ip n rest =>
    rw [statement, hkind] at h
    exact (not_touches_visit _ _ _ h).elim
  | releasing => exact h.elim
  | done => exact h.elim

end

section
variable (request : ι → Request) (name : Bytes)

def current (c : Config Shared ι Phase) (e : Event ι) : Bool :=
  match c.phase e.request with
  | .updating _ n counted _ =>
    (request e.request).kind = .recovery || n ≠ name ||
      counted ≤ c.shared.db.dnsRecords.activeCount (mainFqdn baseDomain name)
  | _ => true

def Shared.active (s : Shared) : Nat := s.db.dnsRecords.activeCount (mainFqdn baseDomain name)

def Shared.activeWildcard (s : Shared) : Nat := s.db.dnsRecords.activeCount (wildcardFqdn baseDomain name)

def Counted (c : Config Shared ι Phase) : Prop :=
  ∀ i ip counted rest, (request i).kind = .suspect → c.phase i = .updating ip name counted rest → 2 ≤ counted

def Untouched (c : Config Shared ι Phase) : Prop :=
  ∀ i, (request i).kind = .suspect → ¬ (c.phase i).Touches name

variable {baseDomain request name} [DecidableEq ι] {c : Config Shared ι Phase} {e : Event ι}

lemma Counted.step (h : Counted request name c) : Counted request name ((handlers baseDomain request).step c e) := by
  intro i ip counted rest hkind hphase
  rcases phase_step_cases (handlers baseDomain request) c e i with ⟨hi, hnext⟩ | ⟨-, hnext⟩
  · change i = e.request at hi
    subst hi
    have heq : (statement baseDomain (request e.request) e c.shared (c.phase e.request)).2 =
        .updating ip name counted rest := hnext.symm.trans hphase
    have htouches : (statement baseDomain (request e.request) e c.shared (c.phase e.request)).2.Touches name := by
      rw [heq]
      rfl
    rcases statement_touches hkind htouches with ⟨_, _, -, htwo, hupdating⟩ | ⟨_, _, _, -, hwildcard⟩
    · rw [hupdating] at heq
      cases heq
      exact htwo
    · rw [hwildcard] at heq
      cases heq
  · exact h i ip counted rest hkind (hnext.symm.trans hphase)

lemma one_le_active_step (hcounted : Counted request name c) (hguard : current baseDomain request name c e)
    (h : 1 ≤ c.shared.active baseDomain name) :
    1 ≤ ((handlers baseDomain request).step c e).shared.active baseDomain name := by
  change 1 ≤ (statement baseDomain (request e.request) e c.shared (c.phase e.request)).1.active baseDomain name
  rw [Shared.active] at h ⊢
  rcases statement_db baseDomain (request e.request) e c.shared (c.phase e.request) with
    hsame | ⟨ip, n, counted, rest, hphase, hrecords⟩ | ⟨ip, n, rest, -, hrecords⟩
  · rwa [hsame]
  · rw [hrecords]
    cases hkind : (request e.request).kind with
    | recovery => exact h.trans activeCount_le_setActive_true
    | suspect =>
      by_cases hn : n = name
      · subst hn
        have htwo := hcounted e.request ip counted rest hkind hphase
        have hle : counted ≤ c.shared.db.dnsRecords.activeCount (mainFqdn baseDomain n) := by
          simpa [current, hphase, hkind] using hguard
        have hone := activeCount_le_setActive_false c.shared.db.dnsRecords (mainFqdn baseDomain n) ip
        rw [Kind.active]
        omega
      · rw [activeCount_setActive_of_ne fun heq => hn (mainFqdn_inj heq)]
        exact h
  · grind [activeCount_setActive_of_ne, wildcardFqdn_ne_mainFqdn]

lemma Untouched.step (hnone : c.shared.active baseDomain name = 0) (huntouched : Untouched request name c) :
    Untouched request name ((handlers baseDomain request).step c e) := by
  intro i hkind htouches
  rcases phase_step_cases (handlers baseDomain request) c e i with ⟨hi, hnext⟩ | ⟨-, hnext⟩
  · change i = e.request at hi
    subst hi
    rw [hnext] at htouches
    rcases statement_touches hkind htouches with ⟨_, _, -, htwo, -⟩ | ⟨_, _, _, hphase, -⟩
    · rw [Shared.active] at hnone
      omega
    · refine huntouched e.request hkind ?_
      rw [hphase]
      rfl
  · rw [hnext] at htouches
    exact huntouched i hkind htouches

lemma activeWildcard_le_step (huntouched : Untouched request name c) : c.shared.activeWildcard baseDomain name ≤
      ((handlers baseDomain request).step c e).shared.activeWildcard baseDomain name := by
  change _ ≤ (statement baseDomain (request e.request) e c.shared (c.phase e.request)).1.activeWildcard baseDomain name
  rw [Shared.activeWildcard, Shared.activeWildcard]
  rcases statement_db baseDomain (request e.request) e c.shared (c.phase e.request) with
    hsame | ⟨ip, n, counted, rest, hphase, hrecords⟩ | ⟨ip, n, rest, hphase, hrecords⟩
  · rw [hsame]
  · rw [hrecords, activeCount_setActive_of_ne (wildcardFqdn_ne_mainFqdn baseDomain name n).symm]
  · rw [hrecords]
    cases hkind : (request e.request).kind with
    | recovery => exact activeCount_le_setActive_true
    | suspect =>
      rw [activeCount_setActive_of_ne]
      intro heq
      refine huntouched e.request hkind ?_
      rw [hphase]
      exact wildcardFqdn_inj heq

structure Served (baseDomain : Bytes) (request : ι → Request) (name : Bytes) (c : Config Shared ι Phase) : Prop where
  counted : Counted request name c
  served : 1 ≤ c.shared.active baseDomain name ∨
    (c.shared.active baseDomain name = 0 ∧ 1 ≤ c.shared.activeWildcard baseDomain name ∧ Untouched request name c)

lemma Served.step (h : Served baseDomain request name c) (hguard : current baseDomain request name c e) :
    Served baseDomain request name ((handlers baseDomain request).step c e) := by
  refine ⟨h.counted.step, ?_⟩
  rcases h.served with hactive | ⟨hnone, hwildcard, huntouched⟩
  · exact .inl (one_le_active_step h.counted hguard hactive)
  · grind [activeWildcard_le_step, Untouched.step]

omit [DecidableEq ι] in
lemma counted_initial (s : Shared) : Counted request name s.initial := nofun

/-- While every count is still current when a record is disabled, the last active record of a namespace stays. -/
theorem namespace_keeps_active_record (baseDomain : Bytes) (request : ι → Request) (s : Shared) (name : Bytes)
    (events : List (Event ι))
    (hguarded : (handlers baseDomain request).guarded (current baseDomain request name) s.initial events = true) :
    (1 ≤ s.active baseDomain name →
      1 ≤ ((handlers baseDomain request).run s.initial events).shared.active baseDomain name) ∧
    (1 ≤ s.active baseDomain name + s.activeWildcard baseDomain name →
      1 ≤ ((handlers baseDomain request).run s.initial events).shared.active baseDomain name +
      ((handlers baseDomain request).run s.initial events).shared.activeWildcard baseDomain name) := by
  constructor
  · intro hactive
    have hrun : Counted request name ((handlers baseDomain request).run s.initial events) ∧
        1 ≤ ((handlers baseDomain request).run s.initial events).shared.active baseDomain name := by
      refine run_induction (P := fun c => Counted request name c ∧ 1 ≤ c.shared.active baseDomain name)
        ?_ ⟨counted_initial s, hactive⟩ hguarded
      intro c e h hguard
      exact ⟨h.1.step, one_le_active_step h.1 hguard h.2⟩
    exact hrun.2
  · intro hactive
    have hinitial : Served baseDomain request name s.initial := by
      refine ⟨counted_initial s, ?_⟩
      change 1 ≤ s.active baseDomain name ∨ (s.active baseDomain name = 0 ∧ 1 ≤ s.activeWildcard baseDomain name ∧ _)
      rcases Nat.eq_zero_or_pos (s.active baseDomain name) with h0 | h1
      · exact .inr ⟨h0, by omega, fun i _ h => h⟩
      · exact .inl h1
    have hrun : Served baseDomain request name ((handlers baseDomain request).run s.initial events) :=
      run_induction (fun c e h hguard => h.step hguard) hinitial hguarded
    rcases hrun.served with h1 | ⟨-, h1, -⟩ <;> omega

end

section

def twoNodes : Shared where
  db :=
    { dnsNodes := ⟨[⟨ascii "a", ascii "1.1.1.1", none, .active, 0⟩, ⟨ascii "b", ascii "2.2.2.2", none, .active, 0⟩],
        by decide⟩
      clusters := ⟨[⟨ascii "c", 1, ascii "x", .ready, 2, 2, 2⟩], by decide⟩
      clusterNodes := ⟨[⟨ascii "1", ascii "c", ascii "a", .gateway, .running⟩,
        ⟨ascii "2", ascii "c", ascii "b", .gateway, .running⟩], by decide⟩
      allocations := .empty
      dnsRecords := ⟨[⟨mainFqdn (ascii "d") (ascii "x"), .a, ascii "1.1.1.1", true⟩,
        ⟨mainFqdn (ascii "d") (ascii "x"), .a, ascii "2.2.2.2", true⟩,
        ⟨wildcardFqdn (ascii "d") (ascii "x"), .a, ascii "1.1.1.1", true⟩,
        ⟨wildcardFqdn (ascii "d") (ascii "x"), .a, ascii "2.2.2.2", true⟩], by decide⟩ }
  provisioning := []

def suspicion (i : Bool) : Request := ⟨.suspect, 0, if i then ascii "b" else ascii "a"⟩

/-- The second suspicion counts what the first has left. -/
theorem active_record_kept_in_turn : 1 ≤ ((handlers (ascii "d") suspicion).run twoNodes.initial
      (List.replicate 8 ⟨false, false⟩ ++ List.replicate 8 ⟨true, false⟩)).shared.active (ascii "d") (ascii "x") :=
  (namespace_keeps_active_record (ascii "d") suspicion twoNodes (ascii "x") _ (by decide)).1 (by decide)

/-- Both suspicions count two records, and each disables one. -/
theorem last_active_record_disabled : 2 ≤ twoNodes.active (ascii "d") (ascii "x") ∧
    ((handlers (ascii "d") suspicion).run twoNodes.initial
        (List.replicate 5 ⟨false, false⟩ ++ List.replicate 5 ⟨true, false⟩ ++ List.replicate 2 ⟨false, false⟩ ++
          List.replicate 2 ⟨true, false⟩)).shared.active (ascii "d") (ascii "x") +
        ((handlers (ascii "d") suspicion).run twoNodes.initial
          (List.replicate 5 ⟨false, false⟩ ++ List.replicate 5 ⟨true, false⟩ ++ List.replicate 2 ⟨false, false⟩ ++
            List.replicate 2 ⟨true, false⟩)).shared.activeWildcard (ascii "d") (ascii "x") = 0 := by
  decide

end
end Orama.Namespace.Suspects
