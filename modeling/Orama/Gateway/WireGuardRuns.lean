import Orama.Gateway.WireGuard

namespace Orama.Gateway.WireGuard
open Lib List
variable {ι : Type}

structure Mesh (ι : Type) where
  db : Tables
  phase : ι → Phase

variable [DecidableEq ι]

def Mesh.step (isIPv4 : Bytes → Bool) (req : ι → NodeRequest) (s : Mesh ι) (e : Event ι) : Mesh ι :=
  let next := statement isIPv4 (req e.request) e s.db (s.phase e.request)
  ⟨next.1, Function.update s.phase e.request next.2⟩

def Mesh.upToDate (s : Mesh ι) (e : Event ι) : Bool :=
  match s.phase e.request with
  | .assigned _ seen _ => s.db.peers.rows.all fun p => seen.contains p.wgIP
  | _ => true

def Mesh.guarded (isIPv4 : Bytes → Bool) (req : ι → NodeRequest) : Mesh ι → List (Event ι) → Bool
  | _, [] => true
  | s, e :: events => s.upToDate e && Mesh.guarded isIPv4 req (s.step isIPv4 req e) events

def Mesh.Sound (req : ι → NodeRequest) (s : Mesh ι) : Prop :=
  (∀ i wgIP, s.phase i = .answered wgIP → ∃ p ∈ s.db.peers.rows, p.wgIP = wgIP ∧ p.publicKey = (req i).publicKey) ∧
  ∀ i j wgIP, s.phase i = .answered wgIP → s.phase j = .answered wgIP → i = j

/-- What holds between the statements: a request that is about to insert has an
address that it has not read, and a request that has inserted still has its row. -/
structure Mesh.Inv (req : ι → NodeRequest) (s : Mesh ι) : Prop where
  proper : ∀ p ∈ s.db.peers.rows, Proper p.wgIP
  issued : ∀ i wallet seen wgIP, s.phase i = .assigned wallet seen wgIP → wgIP ∉ seen ∧ Issued (req i).kind wgIP
  kept : ∀ i wgIP, s.phase i = .registered wgIP ∨ s.phase i = .answered wgIP →
    Issued (req i).kind wgIP ∧ ∃ wallet, (req i).row wallet wgIP ∈ s.db.peers.rows

variable {isIPv4 : Bytes → Bool} {req : ι → NodeRequest} {s : Mesh ι} {e : Event ι}

section
variable (isIPv4 : Bytes → Bool) (req : ι → NodeRequest) (s : Mesh ι) (e : Event ι)

lemma Mesh.db_step :
    (s.step isIPv4 req e).db = (statement isIPv4 (req e.request) e s.db (s.phase e.request)).1 := rfl

lemma Mesh.phase_step_self :
    (s.step isIPv4 req e).phase e.request = (statement isIPv4 (req e.request) e s.db (s.phase e.request)).2 :=
  Function.update_self ..

end

variable {i : ι}

lemma Mesh.phase_step_of_ne (isIPv4 : Bytes → Bool) (req : ι → NodeRequest) (s : Mesh ι) {e : Event ι}
    (hi : i ≠ e.request) : (s.step isIPv4 req e).phase i = s.phase i := Function.update_of_ne hi ..

lemma Mesh.Inv.proper_step (hs : s.Inv req) : ∀ p ∈ (s.step isIPv4 req e).db.peers.rows, Proper p.wgIP := by
  intro p hp
  rcases statement_peers isIPv4 (req e.request) e s.db (s.phase e.request) with
    heq | ⟨wallet, _, heq⟩ | ⟨wallet, seen, wgIP, hphase, heq⟩
  · rw [db_step, heq] at hp
    exact hs.proper p hp
  · rw [db_step, heq] at hp
    exact hs.proper p (mem_of_mem_filter hp)
  · rw [db_step, heq] at hp
    rcases mem_append.1 hp with hp | hp
    · exact hs.proper p (mem_of_mem_filter hp)
    · rw [mem_singleton.1 hp]
      exact (hs.issued _ _ _ _ hphase).2.1

section
variable (hs : s.Inv req) (hkeys : Function.Injective fun i => (req i).publicKey) (hips : Function.Injective fun i =>
  (req i).publicIP) (he : s.upToDate e = true)
include hs hkeys hips he

/-- The rows of the other requests stay: they have another public address than
the rows that a join deletes, and no column in common with a row whose address
is new. -/
lemma Mesh.Inv.mem_step (hi : i ≠ e.request)
    {wallet : Option Bytes} {wgIP : Bytes} (hissued : Issued (req i).kind wgIP)
    (hrow : (req i).row wallet wgIP ∈ s.db.peers.rows) :
    (req i).row wallet wgIP ∈ (s.step isIPv4 req e).db.peers.rows := by
  rcases statement_peers isIPv4 (req e.request) e s.db (s.phase e.request) with
    heq | ⟨_, _, heq⟩ | ⟨wallet', seen, wgIP', hphase, heq⟩
  · rw [db_step, heq]
    exact hrow
  · rw [db_step, heq]
    refine mem_filter.2 ⟨hrow, ?_⟩
    have hne : (req i).publicIP ≠ (req e.request).publicIP := fun h => hi (hips h)
    simp [NodeRequest.row, hne]
  · rw [db_step, heq]
    refine mem_append_left _ (mem_filter.2 ⟨hrow, ?_⟩)
    obtain ⟨hnew, hissued'⟩ := hs.issued _ _ _ _ hphase
    have hread : wgIP ∈ seen := by
      rw [upToDate, hphase] at he
      exact contains_iff_mem.1 (all_eq_true.1 he _ hrow)
    have hne : wgIP ≠ wgIP' := fun h => hnew (h ▸ hread)
    rw [Bool.not_eq_true', ← Bool.not_eq_true, conflicts_iff]
    rintro (h | h | h)
    · exact hne (eq_of_nodeID h hissued hissued')
    · exact hne h
    · exact hi (hkeys h)

lemma Mesh.Inv.step : (s.step isIPv4 req e).Inv req := by
  have hproper : ∀ p ∈ (s.step isIPv4 req e).db.peers.rows, Proper p.wgIP := hs.proper_step
  refine ⟨hproper, ?_, ?_⟩
  · intro i wallet seen wgIP hphase
    by_cases hi : i = e.request
    · subst hi
      rw [phase_step_self] at hphase
      obtain ⟨rfl, hassign⟩ := statement_assigned hphase
      refine assignWGIP_fresh hassign ?_
      simpa using hs.proper
    · rw [phase_step_of_ne isIPv4 req s hi] at hphase
      exact hs.issued i wallet seen wgIP hphase
  · intro i wgIP hphase
    by_cases hi : i = e.request
    · subst hi
      rw [phase_step_self] at hphase
      rcases hphase with hphase | hphase
      · obtain ⟨wallet, seen, hbefore, heq⟩ := statement_registered hphase
        refine ⟨(hs.issued _ _ _ _ hbefore).2, wallet, ?_⟩
        rw [db_step, heq]
        exact mem_append_right _ (mem_singleton_self _)
      · obtain ⟨hbefore, heq⟩ := statement_answered hphase
        obtain ⟨hissued, wallet, hrow⟩ := hs.kept _ _ hbefore
        exact ⟨hissued, wallet, heq ▸ hrow⟩
    · rw [phase_step_of_ne isIPv4 req s hi] at hphase
      obtain ⟨hissued, wallet, hrow⟩ := hs.kept i wgIP hphase
      exact ⟨hissued, wallet, hs.mem_step hkeys hips he hi hissued hrow⟩

end

lemma Mesh.Inv.run (hkeys : Function.Injective fun i => (req i).publicKey)
    (hips : Function.Injective fun i => (req i).publicIP) (events : List (Event ι)) (hs : s.Inv req)
    (hguard : s.guarded isIPv4 req events) : (events.foldl (Mesh.step isIPv4 req) s).Inv req := by
  induction events generalizing s with
  | nil => exact hs
  | cons e events ih => grind [step, guarded]

omit [DecidableEq ι] in
lemma Mesh.Inv.sound (hs : s.Inv req) (hkeys : Function.Injective fun i => (req i).publicKey) : s.Sound req := by
  refine ⟨?_, ?_⟩
  · intro i wgIP hi
    obtain ⟨_, wallet, hrow⟩ := hs.kept i wgIP (.inr hi)
    exact ⟨_, hrow, rfl, rfl⟩
  · intro i j wgIP hi hj
    obtain ⟨_, wallet, hrow⟩ := hs.kept i wgIP (.inr hi)
    obtain ⟨_, wallet', hrow'⟩ := hs.kept j wgIP (.inr hj)
    exact hkeys (congrArg WGPeer.publicKey (s.db.peers.eq_of_wgIP hrow hrow' rfl))

def newcomers (second : Bool) : NodeRequest :=
  if second then ⟨.join, ascii "token-2", Base64.encode (List.replicate 32 2), ascii "198.51.100.2", []⟩
  else ⟨.join, ascii "token-1", Base64.encode (List.replicate 32 1), ascii "198.51.100.1", []⟩

def invited : Tables := ⟨[⟨ascii "token-1", 1, none, none⟩, ⟨ascii "token-2", 1, none, none⟩], .empty⟩

def inOrder (requests : List Bool) : Mesh Bool :=
  (requests.map fun i => ⟨i, 0, none⟩).foldl (Mesh.step (fun _ => true) newcomers) ⟨invited, fun _ => .start⟩

def oneByOne : List Bool := List.replicate 6 false ++ List.replicate 6 true

def crossing : List Bool :=
  List.replicate 4 false ++ List.replicate 4 true ++ [false, true, false, true]

end Orama.Gateway.WireGuard
