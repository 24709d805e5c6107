import Orama.Health.Monitor
import Orama.Namespace.Suspects

namespace Orama.Namespace.Suspects
open Lib Health List
variable {ι : Type} {baseDomain : Bytes} {request : ι → Request}

def SameMembers (db db' : Database) : Prop :=
  db'.dnsNodes = db.dnsNodes ∧ db'.clusters = db.clusters ∧ db'.clusterNodes = db.clusterNodes

def Visited (db : Database) (nodeID : Bytes) (cluster : NamespaceCluster) : Prop :=
  ∃ ref ∈ getClustersByNodeID db nodeID, getCluster db ref = some cluster

def Addressed (baseDomain : Bytes) (db : Database) (nodeID : Bytes) (key : DnsKey) : Prop :=
  db.dnsNodes.ipAddress nodeID = some key.value ∧ ∃ cluster, Visited db nodeID cluster ∧
    (key.fqdn = mainFqdn baseDomain cluster.namespaceName ∨ key.fqdn = wildcardFqdn baseDomain cluster.namespaceName)

def Phase.Read (db : Database) (nodeID : Bytes) : Phase → Prop
  | .start => True
  | .finding => True
  | .loading refs clusters =>
    (∀ ref ∈ refs, ref ∈ getClustersByNodeID db nodeID) ∧ ∀ cluster ∈ clusters, Visited db nodeID cluster
  | .locating clusters => ∀ cluster ∈ clusters, Visited db nodeID cluster
  | .counting ip name rest => db.dnsNodes.ipAddress nodeID = some ip ∧
    (∃ cluster, Visited db nodeID cluster ∧ cluster.namespaceName = name) ∧ ∀ cluster ∈ rest, Visited db nodeID cluster
  | .updating ip name _ rest => db.dnsNodes.ipAddress nodeID = some ip ∧
    (∃ cluster, Visited db nodeID cluster ∧ cluster.namespaceName = name) ∧ ∀ cluster ∈ rest, Visited db nodeID cluster
  | .updatingWildcard ip name rest => db.dnsNodes.ipAddress nodeID = some ip ∧
    (∃ cluster, Visited db nodeID cluster ∧ cluster.namespaceName = name) ∧ ∀ cluster ∈ rest, Visited db nodeID cluster
  | .releasing => True
  | .done => True

section
variable {db : Database} {nodeID : Bytes} {req : Request} {e : Event ι} {s : Shared} {phase : Phase}

lemma sameMembers_statement (baseDomain : Bytes) (req : Request) (e : Event ι) (s : Shared) (phase : Phase) :
    SameMembers s.db (statement baseDomain req e s phase).1.db := by
  cases phase with
  | start =>
    rw [statement]
    cases req.kind with
    | recovery => exact ⟨rfl, rfl, rfl⟩
    | suspect =>
      dsimp only
      split <;> exact ⟨rfl, rfl, rfl⟩
  | finding => exact ⟨rfl, rfl, rfl⟩
  | loading refs clusters => cases refs <;> exact ⟨rfl, rfl, rfl⟩
  | locating clusters =>
    rw [statement]
    split <;> exact ⟨rfl, rfl, rfl⟩
  | counting ip name rest => exact ⟨rfl, rfl, rfl⟩
  | updating ip name counted rest =>
    rw [statement, Shared.setActive]
    split <;> exact ⟨rfl, rfl, rfl⟩
  | updatingWildcard ip name rest =>
    rw [statement, Shared.setActive]
    split <;> exact ⟨rfl, rfl, rfl⟩
  | releasing => exact ⟨rfl, rfl, rfl⟩
  | done => exact ⟨rfl, rfl, rfl⟩

variable {db' : Database}

lemma SameMembers.visited (h : SameMembers db db') : Visited db' = Visited db := by
  obtain ⟨-, hclusters, hclusterNodes⟩ := h
  grind [Visited, getClustersByNodeID, getCluster]

lemma SameMembers.read (h : SameMembers db db') : Phase.Read db' = Phase.Read db := by
  have hvisited := h.visited
  obtain ⟨hnodes, hclusters, hclusterNodes⟩ := h
  funext nodeID phase
  have hrefs : getClustersByNodeID db' nodeID = getClustersByNodeID db nodeID := by
    simp only [getClustersByNodeID, hclusters, hclusterNodes]
  cases phase <;> simp only [Phase.Read, hvisited, hnodes, hrefs]

lemma SameMembers.trans {db'' : Database} (h : SameMembers db db') (h' : SameMembers db' db'') :
    SameMembers db db'' :=
  ⟨h'.1.trans h.1, h'.2.1.trans h.2.1, h'.2.2.trans h.2.2⟩

lemma read_finish (kind : Kind) : kind.finish.Read db nodeID := by
  cases kind <;> trivial

variable {kind : Kind} {clusters : List NamespaceCluster}

lemma read_load {refs : List Bytes} (hrefs : ∀ ref ∈ refs, ref ∈ getClustersByNodeID db nodeID)
    (hclusters : ∀ cluster ∈ clusters, Visited db nodeID cluster) : (kind.load refs clusters).Read db nodeID := by
  cases refs with
  | nil =>
    cases clusters with
    | nil => exact read_finish kind
    | cons cluster clusters => exact hclusters
  | cons ref refs => exact ⟨hrefs, hclusters⟩

lemma read_visit {ip : Bytes} (hip : db.dnsNodes.ipAddress nodeID = some ip)
    (hclusters : ∀ cluster ∈ clusters, Visited db nodeID cluster) : (kind.visit ip clusters).Read db nodeID := by
  cases clusters with
  | nil => exact read_finish kind
  | cons cluster rest =>
    have hfirst := hclusters cluster mem_cons_self
    have hrest : ∀ cluster ∈ rest, Visited db nodeID cluster := fun c hc => hclusters c (mem_cons_of_mem _ hc)
    cases kind with
    | suspect => exact ⟨hip, ⟨cluster, hfirst, rfl⟩, hrest⟩
    | recovery => exact ⟨hip, ⟨cluster, hfirst, rfl⟩, hrest⟩

lemma read_statement (h : phase.Read s.db req.nodeID) :
    (statement baseDomain req e s phase).2.Read s.db req.nodeID := by
  cases phase with
  | start =>
    rw [statement]
    cases req.kind with
    | recovery => trivial
    | suspect =>
      dsimp only
      split <;> trivial
  | finding =>
    rw [statement]
    dsimp only
    split
    · exact read_finish _
    · exact read_load (fun _ h => h) (by simp)
  | loading refs clusters =>
    obtain ⟨hrefs, hclusters⟩ := h
    cases refs with
    | nil => exact read_load hrefs hclusters
    | cons ref refs =>
      refine read_load (fun r hr => hrefs r (mem_cons_of_mem _ hr)) fun cluster hcluster => ?_
      rcases mem_append.1 hcluster with hc | hc
      · exact hclusters cluster hc
      · cases hfault : e.fault with
        | true => simp [hfault] at hc
        | false =>
          rw [hfault] at hc
          exact ⟨ref, hrefs ref mem_cons_self, by simpa using hc⟩
  | locating clusters =>
    rw [statement]
    split
    · exact read_finish _
    · next ip hip =>
      obtain ⟨-, hip⟩ := Option.ite_none_left_eq_some.1 hip
      exact read_visit hip h
  | counting ip name rest =>
    obtain ⟨hip, hname, hrest⟩ := h
    rw [statement]
    dsimp only
    split
    · exact read_visit hip hrest
    · exact ⟨hip, hname, hrest⟩
  | updating ip name counted rest => exact h
  | updatingWildcard ip name rest => exact read_visit h.1 h.2.2
  | releasing => trivial
  | done => trivial

end

open Interleaving
section
variable [DecidableEq ι] {c : Config Shared ι Phase}

lemma read_run (baseDomain : Bytes) (request : ι → Request) (s : Shared) (events : List (Event ι)) :
    SameMembers s.db ((handlers baseDomain request).run s.initial events).shared.db ∧
    ∀ i, (((handlers baseDomain request).run s.initial events).phase i).Read s.db (request i).nodeID := by
  refine run_invariant (P := fun c : Config Shared ι Phase => SameMembers s.db c.shared.db ∧
    ∀ i, (c.phase i).Read s.db (request i).nodeID) ?_ events ⟨⟨rfl, rfl, rfl⟩, fun _ => trivial⟩
  intro c e ⟨hsame, hread⟩
  have hstep : SameMembers c.shared.db ((handlers baseDomain request).step c e).shared.db :=
    sameMembers_statement baseDomain (request e.request) e c.shared (c.phase e.request)
  refine ⟨hsame.trans hstep, fun i => ?_⟩
  rcases phase_step_cases (handlers baseDomain request) c e i with ⟨hi, hnext⟩ | ⟨-, hnext⟩
  · change i = e.request at hi
    subst hi
    have hphase := hread e.request
    rw [← hsame.read] at hphase ⊢
    rw [hnext]
    exact read_statement hphase
  · rw [hnext]
    exact hread i

lemma addressed_of_disabled {e : Event ι} {key : DnsKey} (hread : (c.phase e.request).Read c.shared.db (request e.request).nodeID)
    (hbefore : c.shared.db.dnsRecords.Active key)
    (hafter : ¬ ((handlers baseDomain request).step c e).shared.db.dnsRecords.Active key) :
    Addressed baseDomain c.shared.db (request e.request).nodeID key := by
  change ¬ (statement baseDomain (request e.request) e c.shared (c.phase e.request)).1.db.dnsRecords.Active key at hafter
  rcases statement_db baseDomain (request e.request) e c.shared (c.phase e.request) with
    hsame | ⟨ip, name, counted, rest, hphase, hrecords⟩ | ⟨ip, name, rest, hphase, hrecords⟩
  · rw [hsame] at hafter
    exact absurd hbefore hafter
  all_goals
    rw [hrecords] at hafter
    rw [hphase] at hread
    obtain ⟨hip, ⟨cluster, hvisited, rfl⟩, -⟩ := hread
    obtain ⟨hfqdn, hvalue⟩ := hbefore.of_not_setActive hafter
  · exact ⟨hvalue ▸ hip, cluster, hvisited, .inl hfqdn⟩
  · exact ⟨hvalue ▸ hip, cluster, hvisited, .inr hfqdn⟩

end

open DnsRecord
section
variable {records : DnsRecords} {ip : Bytes}

def Enabled (baseDomain ip : Bytes) (clusters : List NamespaceCluster) (records : DnsRecords) : Prop :=
  ∀ r ∈ records.rows, r.value = ip → (∃ cluster ∈ clusters,
    r.fqdn = mainFqdn baseDomain cluster.namespaceName ∨ r.fqdn = wildcardFqdn baseDomain cluster.namespaceName) →
    r.isActive = true

lemma isActive_setActive_true {r : DnsRecord} {fqdn value : Bytes}
    (h : r.isActive ∨ (r.fqdn = fqdn ∧ r.value = value)) : (r.setActive fqdn value true).isActive := by
  grind [setActive]

lemma Enabled.visit {clusters : List NamespaceCluster} (h : Enabled baseDomain ip clusters records)
    (cluster : NamespaceCluster) : Enabled baseDomain ip (clusters ++ [cluster])
      ((records.setActive (mainFqdn baseDomain cluster.namespaceName) ip true).setActive
        (wildcardFqdn baseDomain cluster.namespaceName) ip true) := by
  intro r' hr' hvalue hcluster
  obtain ⟨r₁, hr₁, rfl⟩ := mem_map.1 hr'
  obtain ⟨r, hr, rfl⟩ := mem_map.1 hr₁
  have hkey₁ := key_setActive (mainFqdn baseDomain cluster.namespaceName) ip true r
  have hkey₂ := key_setActive (wildcardFqdn baseDomain cluster.namespaceName) ip true
    (r.setActive (mainFqdn baseDomain cluster.namespaceName) ip true)
  simp only [key, DnsKey.mk.injEq] at hkey₁ hkey₂
  rw [hkey₂.2.2, hkey₁.2.2] at hvalue
  rw [hkey₂.1, hkey₁.1] at hcluster
  obtain ⟨other, hother, hfqdn⟩ := hcluster
  apply isActive_setActive_true
  rcases mem_append.1 hother with hvisited | hlast
  · exact .inl (isActive_setActive_true (.inl (h r hr hvalue ⟨other, hvisited, hfqdn⟩)))
  · grind [isActive_setActive_true]

variable [DecidableEq ι] {c : Config Shared ι Phase} {j : ι}

lemma step_own (baseDomain : Bytes) (request : ι → Request) {phase : Phase} (hphase : c.phase j = phase) :
    ((handlers baseDomain request).step c ⟨j, false⟩).shared =
    (statement baseDomain (request j) (⟨j, false⟩ : Event ι) c.shared phase).1 ∧
    ((handlers baseDomain request).step c ⟨j, false⟩).phase j =
    (statement baseDomain (request j) (⟨j, false⟩ : Event ι) c.shared phase).2 := by
  subst hphase
  exact ⟨rfl, phase_step_self (handlers baseDomain request) c ⟨j, false⟩⟩

lemma leadsTo_visit (hkind : (request j).kind = .recovery) (visited clusters : List NamespaceCluster)
    (hphase : c.phase j = Kind.recovery.visit ip clusters)
    (henabled : Enabled baseDomain ip visited c.shared.db.dnsRecords) :
    (handlers baseDomain request).LeadsTo ⟨j, false⟩ c fun c' => c'.phase j = .done ∧
      Enabled baseDomain ip (visited ++ clusters) c'.shared.db.dnsRecords ∧
      c'.shared.db.dnsRecords.rows.map key = c.shared.db.dnsRecords.rows.map key := by
  induction clusters generalizing c visited with
  | nil =>
    rw [append_nil]
    exact .here ⟨hphase, henabled, rfl⟩
  | cons cluster clusters ih =>
    change c.phase j = .updating ip cluster.namespaceName 0 clusters at hphase
    obtain ⟨hshared₁, hphase₁⟩ := step_own baseDomain request hphase
    rw [statement, hkind, Kind.active] at hshared₁
    rw [statement] at hphase₁
    dsimp only at hshared₁ hphase₁
    obtain ⟨hshared₂, hphase₂⟩ := step_own baseDomain request hphase₁
    rw [statement, hkind, Kind.active, hshared₁] at hshared₂
    rw [statement, hkind] at hphase₂
    have hvisit := henabled.visit cluster
    apply Interleaving.LeadsTo.step
    apply Interleaving.LeadsTo.step
    obtain ⟨k, hdone, hall, hkeys⟩ := ih (visited ++ [cluster]) hphase₂ (by rw [hshared₂]; exact hvisit)
    refine ⟨k, hdone, ?_, ?_⟩
    · rw [append_assoc] at hall
      exact hall
    · rw [hkeys, hshared₂]
      exact (DnsRecords.keys_setActive ..).trans (DnsRecords.keys_setActive ..)

lemma leadsTo_load (hkind : (request j).kind = .recovery) {Q : Config Shared ι Phase → Prop} (refs : List Bytes)
    (clusters : List NamespaceCluster) (hphase : c.phase j = Kind.recovery.load refs clusters)
    (hrest : ∀ c' : Config Shared ι Phase, c'.shared = c.shared →
      c'.phase j = Kind.recovery.load [] (clusters ++ refs.filterMap (getCluster c.shared.db)) →
      (handlers baseDomain request).LeadsTo ⟨j, false⟩ c' Q) :
    (handlers baseDomain request).LeadsTo ⟨j, false⟩ c Q := by
  induction refs generalizing c clusters with
  | nil => exact hrest c rfl (by rwa [filterMap_nil, append_nil])
  | cons ref refs ih =>
    change c.phase j = .loading (ref :: refs) clusters at hphase
    obtain ⟨hshared, hnext⟩ := step_own baseDomain request hphase
    rw [statement] at hshared hnext
    grind [Interleaving.LeadsTo.step]

lemma leadsTo_recovered (baseDomain : Bytes) (hkind : (request j).kind = .recovery) (hphase : c.phase j = .start) :
    (handlers baseDomain request).LeadsTo ⟨j, false⟩ c fun c' => c'.phase j = .done ∧
    (∀ r ∈ c'.shared.db.dnsRecords.rows, Addressed baseDomain c.shared.db (request j).nodeID r.key →
    r.isActive) ∧ c'.shared.db.dnsRecords.rows.map key = c.shared.db.dnsRecords.rows.map key := by
  obtain ⟨hshared₁, hphase₁⟩ := step_own baseDomain request hphase
  rw [statement, hkind] at hshared₁ hphase₁
  dsimp only at hshared₁ hphase₁
  obtain ⟨hshared₂, hphase₂⟩ := step_own baseDomain request hphase₁
  rw [statement, hshared₁] at hshared₂ hphase₂
  rw [hkind] at hphase₂
  apply Interleaving.LeadsTo.step
  apply Interleaving.LeadsTo.step
  apply leadsTo_load hkind _ _ hphase₂
  intro c' hshared' hphase'
  rw [hshared₂] at hshared' hphase'
  have hfound : ∀ cluster, Visited c.shared.db (request j).nodeID cluster →
      cluster ∈ (getClustersByNodeID c.shared.db (request j).nodeID).filterMap (getCluster c.shared.db) := by
    intro cluster hvisited
    obtain ⟨ref, href, hcluster⟩ := hvisited
    exact mem_filterMap.2 ⟨ref, href, hcluster⟩
  rw [nil_append] at hphase'
  generalize (getClustersByNodeID c.shared.db (request j).nodeID).filterMap (getCluster c.shared.db) = clusters
    at hphase' hfound
  cases clusters with
  | nil =>
    refine .here ⟨hphase', fun r _ haddressed => ?_, by rw [hshared']⟩
    obtain ⟨-, cluster, hvisited, -⟩ := haddressed
    exact absurd (hfound cluster hvisited) not_mem_nil
  | cons cluster clusters =>
    change c'.phase j = .locating (cluster :: clusters) at hphase'
    obtain ⟨hshared₃, hphase₃⟩ := step_own baseDomain request hphase'
    apply Interleaving.LeadsTo.step
    cases hip : c.shared.db.dnsNodes.ipAddress (request j).nodeID with
    | none =>
      simp only [statement, hshared', hip, hkind, Bool.false_eq_true, if_false] at hshared₃ hphase₃
      refine .here ⟨hphase₃, fun r _ haddressed => ?_, by rw [hshared₃]⟩
      rw [Addressed, hip] at haddressed
      cases haddressed.1
    | some ip =>
      simp only [statement, hshared', hip, hkind, Bool.false_eq_true, if_false] at hshared₃ hphase₃
      have hnone : Enabled baseDomain ip [] ((handlers baseDomain request).step c' ⟨j, false⟩).shared.db.dnsRecords := by
        intro r hr hvalue hlisted
        obtain ⟨cluster, hcluster, -⟩ := hlisted
        cases hcluster
      obtain ⟨k, hdone, henabled, hkeys⟩ := leadsTo_visit hkind [] _ hphase₃ hnone
      refine ⟨k, hdone, fun r hr haddressed => ?_, by rw [hkeys, hshared₃]⟩
      obtain ⟨hvalue, cluster, hvisited, hfqdn⟩ := haddressed
      rw [hip] at hvalue
      exact henabled r hr (Option.some.inj hvalue).symm ⟨cluster, hfound cluster hvisited, hfqdn⟩

end

/-- A monitor that never drops what it holds against the node recovers it after every suspicion. The recovery,
when nobody disturbs it, enables what a suspicion of the node has disabled. -/
theorem suspicion_always_taken_back [DecidableEq ι] (cfg : MonitorConfig Bytes) (hfn : cfg.onRecoveredFn = true)
    (n baseDomain : Bytes) (request : ι → Request) (s : Shared) :
    (∀ (before between : List (Round Bytes)) (r last : Round Bytes) (new : List (Bytes × Action)),
      Monitor.new.KeepsAll cfg n (before ++ r :: (between ++ [last])) →
      (Monitor.new.run cfg (before ++ [r])).log = (Monitor.new.run cfg before).log ++ new →
      (n, .onSuspect) ∈ new → (∃ l ∈ last.neighbors, n ∈ l) → last.healthy n = true →
      ∃ later, (Monitor.new.run cfg (before ++ r :: (between ++ [last]))).log =
      (Monitor.new.run cfg (before ++ [r])).log ++ later ∧ (n, .onRecovered) ∈ later) ∧
    ∀ (events : List (Event ι)) (e : Event ι) (key : DnsKey) (c : Config Shared ι Phase) (j : ι),
      (request e.request).nodeID = n →
      ((handlers baseDomain request).run s.initial events).shared.db.dnsRecords.Active key →
      ¬ ((handlers baseDomain request).run s.initial (events ++ [e])).shared.db.dnsRecords.Active key →
      SameMembers s.db c.shared.db → (request j).kind = .recovery → (request j).nodeID = n → c.phase j = .start →
      (handlers baseDomain request).LeadsTo ⟨j, false⟩ c fun c' => c'.phase j = .done ∧
      (∀ r ∈ c'.shared.db.dnsRecords.rows, r.key = key → r.isActive = true) ∧
      c'.shared.db.dnsRecords.rows.map DnsRecord.key = c.shared.db.dnsRecords.rows.map DnsRecord.key := by
  constructor
  · intro before between r last new hkeeps hlog hsuspect ⟨l, hl, hn⟩ hhealthy
    have hrun : Monitor.new.run cfg (before ++ [r]) = (Monitor.new.run cfg before).probeRound cfg r := by
      rw [Monitor.run, foldl_append]
      rfl
    have hunhealthy : (Monitor.new.run cfg (before ++ [r])).Unhealthy n := by
      obtain ⟨new', hlog', hnew'⟩ := log_probeRound cfg (Monitor.new.run cfg before) r
      grind [append_cancel_left, unhealthy_of_onSuspect]
    have hsplit : before ++ r :: (between ++ [last]) = (before ++ [r]) ++ (between ++ [last]) := by simp
    rw [hsplit, Monitor.keepsAll_append] at hkeeps
    obtain ⟨later, hlater, hmem⟩ := hunhealthy.recovered hkeeps.2 hfn hl hn hhealthy
    grind [Monitor.run]
  · intro events e key c j hnode hbefore hafter hsame hkind hnode' hphase
    obtain ⟨hmembers, hread⟩ := read_run baseDomain request s events
    rw [run_concat] at hafter
    have hreadnow := hread e.request
    rw [← hmembers.read] at hreadnow
    have haddressed := addressed_of_disabled hreadnow hbefore hafter
    rw [hnode] at haddressed
    have haddressed' : Addressed baseDomain c.shared.db n key := by
      rw [Addressed, hsame.visited, hsame.1, ← hmembers.visited, ← hmembers.1]
      exact haddressed
    obtain ⟨k, hdone, hactive, hkeys⟩ := leadsTo_recovered baseDomain hkind hphase
    refine ⟨k, hdone, fun r hr hkey => hactive r hr ?_, hkeys⟩
    rw [hkey, hnode']
    exact haddressed'

section

def probing (n : Bytes) (healthy : Bool) : Round Bytes where
  now := 0
  neighbors := some [n]
  healthy _ := healthy
  distinct l hl := by
    cases hl
    exact nodup_singleton n

def gatewayConfig : MonitorConfig Bytes :=
  ⟨ascii "m", defaultNeighbors, -defaultStartupGracePeriod, defaultStartupGracePeriod, true, true, true⟩

/-- The node leaves the ring while it is suspect, comes back and answers. -/
theorem suspicion_not_taken_back :
    (ascii "n", .onSuspect) ∈ (Monitor.new.run gatewayConfig (List.replicate 3 (probing (ascii "n") false))).log ∧
    (ascii "n", .onRecovered) ∉ (Monitor.new.run gatewayConfig (List.replicate 3 (probing (ascii "n") false) ++
    [probing (ascii "o") true, probing (ascii "n") true])).log := by
  decide

def suspicionAndRecovery (i : Bool) : Request := ⟨if i then .recovery else .suspect, 0, ascii "a"⟩

/-- Three misses and an answer, and the records that the suspicion has disabled. -/
theorem suspicion_taken_back_in_turn :
    (∃ later, (Monitor.new.run gatewayConfig (List.replicate 2 (probing (ascii "n") false) ++
    probing (ascii "n") false :: ([] ++ [probing (ascii "n") true]))).log =
    (Monitor.new.run gatewayConfig (List.replicate 2 (probing (ascii "n") false) ++ [probing (ascii "n") false])).log ++
    later ∧ (ascii "n", .onRecovered) ∈ later) ∧ (handlers (ascii "d") suspicionAndRecovery).LeadsTo ⟨true, false⟩
      ((handlers (ascii "d") suspicionAndRecovery).run twoNodes.initial (List.replicate 8 ⟨false, false⟩)) fun c =>
        c.phase true = .done ∧
        (∀ r ∈ c.shared.db.dnsRecords.rows, r.key = ⟨mainFqdn (ascii "d") (ascii "x"), .a, ascii "1.1.1.1"⟩ →
          r.isActive = true) ∧
        c.shared.db.dnsRecords.rows.map DnsRecord.key = ((handlers (ascii "d") suspicionAndRecovery).run
          twoNodes.initial (List.replicate 8 ⟨false, false⟩)).shared.db.dnsRecords.rows.map DnsRecord.key := by
  constructor
  · refine (suspicion_always_taken_back gatewayConfig rfl (ascii "n") [] suspicionAndRecovery twoNodes).1 _ _ _ _
      [(ascii "n", .writeEvent .suspect), (ascii "n", .onSuspect)] ?_ (by decide) (by decide)
      ⟨[ascii "n"], rfl, mem_singleton_self _⟩ rfl
    apply Monitor.keepsAll_of_forall
    intro r hr l hl
    have hprobing : r.neighbors = some [ascii "n"] := by
      simp only [mem_append, mem_replicate, mem_cons, nil_append, not_mem_nil, or_false] at hr
      rcases hr with ⟨-, rfl⟩ | rfl | rfl <;> rfl
    rw [hprobing] at hl
    cases hl
    exact .inr (mem_singleton_self _)
  · refine (suspicion_always_taken_back gatewayConfig rfl (ascii "a") (ascii "d") suspicionAndRecovery twoNodes).2
      (List.replicate 5 ⟨false, false⟩) ⟨false, false⟩ _ _ true rfl ?_ ?_ (read_run _ _ _ _).1 rfl rfl ?_
    · exact ⟨⟨_, .a, ascii "1.1.1.1", true⟩, by decide, rfl, rfl⟩
    · rintro ⟨r, hr, hkey, hactive⟩
      revert hkey hactive
      revert r
      decide
    · decide

end
end Orama.Namespace.Suspects
