import Orama.Vault.Cluster

namespace Orama.Vault.Client
open Shamir List
variable {cfg : VaultConfig} {c : StoreCall} {cluster cluster' : Cluster} {result : StoreResult}

lemma nodup_acks (cfg : VaultConfig) (c : StoreCall) (cluster : Cluster) : (acks cfg c cluster).Nodup := by
  unfold acks
  split
  · exact nodup_nil
  · exact (cfg.distinct.filter _).filter _

lemma length_acks_le_answering {net : PullNet} (hs : Stored cfg c cluster cluster' result)
    (ha : ∀ ep ∈ acks cfg c cluster, Answers net ep) :
    (acks cfg c cluster).length ≤ (answering cfg net cluster').length := by
  apply ((nodup_acks cfg c cluster).subperm _).length_le
  intro ep hep
  obtain ⟨hg, hh⟩ := hs.acked ep hep
  exact mem_answering.mpr ⟨hg, ha ep hep, by rw [hh]; rfl⟩

lemma adaptiveThreshold_le_writeQuorum {n : Nat} (h : 4 ≤ n) : adaptiveThreshold n ≤ writeQuorum n := by
  grind [adaptiveThreshold, writeQuorum]

def only (eps : List Endpoint) : PullNet := ⟨fun ep => decide (ep ∈ eps), fun _ => none⟩

variable {ep : Endpoint}

lemma answers_only {eps : List Endpoint} : Answers (only eps) ep ↔ ep ∈ eps := by simp [Answers, only]

lemma exists_heldShare (cfg : VaultConfig) (calls : List StoreCall) :
    ∃ f : Endpoint → Share, ∀ ep ∈ cfg.guardians, ∀ held, run cfg calls ep = some held →
    held.share = shareBytes (f ep) ∧ (f ep).y ≠ [] ∧ (f ep).x = UInt8.ofNat (cfg.guardians.idxOf ep + 1) := by
  have h : ∀ ep, ∃ s : Share, ep ∈ cfg.guardians → ∀ held, run cfg calls ep = some held →
      held.share = shareBytes s ∧ s.y ≠ [] ∧ s.x = UInt8.ofNat (cfg.guardians.idxOf ep + 1) := by
    intro ep
    by_cases hep : ep ∈ cfg.guardians
    · cases hr : run cfg calls ep with
      | none => exact ⟨⟨0, []⟩, nofun⟩
      | some held =>
        obtain ⟨c, _, hs, rfl⟩ := run_held cfg calls hep hr
        refine ⟨ownShare cfg c ep, fun _ held hh => ?_⟩
        cases hh
        exact ⟨rfl, ownShare_y_ne_nil hs ep, rfl⟩
    · exact ⟨⟨0, []⟩, fun he => absurd he hep⟩
  choose f hf using h
  exact ⟨f, hf⟩

lemma shareBytes_injective {s t : Share} (h : shareBytes s = shareBytes t) : s = t := by
  obtain ⟨hx, hy⟩ := List.cons.inj h
  exact Share.ext hx hy

lemma run_append {history : List StoreCall} (h : store cfg c (run cfg history) = .ok (cluster', result)) :
    cluster' = run cfg (history ++ [c]) := by
  grind [run, step]

def Readable (cfg : VaultConfig) (c : StoreCall) (cluster cluster' : Cluster) : Prop :=
  ∀ net, (∀ ep ∈ acks cfg c cluster, Answers net ep) → ∃ m, retrieve cfg net cluster' = .ok ⟨c.data, m⟩

def OnlyOwn (cfg : VaultConfig) (c : StoreCall) (cluster : Cluster) (ep : Endpoint) : Prop :=
  ∀ held, cluster ep = some held → held.share = shareBytes (ownShare cfg c ep)

lemma readable_of_onlyOwn (hs : Stored cfg c cluster cluster' result)
    (hk : adaptiveThreshold cfg.guardians.length ≤ (acks cfg c cluster).length)
    (hown : ∀ ep ∈ cfg.guardians, ep ∈ acks cfg c cluster ∨ OnlyOwn cfg c cluster' ep) :
    Readable cfg c cluster cluster' := by
  intro net ha
  refine ⟨_, retrieve_of_own hs.splittable ?_ (hk.trans (length_acks_le_answering hs ha))⟩
  intro ep hep _ held hh
  rcases hown ep hep with hack | ho
  · rw [(hs.acked ep hack).2] at hh
    cases hh
    rfl
  · exact ho held hh

lemma length_acks_lt (hs : Stored cfg c cluster cluster' result) (hep : ep ∈ cfg.guardians)
    (hn : ep ∉ acks cfg c cluster) : (acks cfg c cluster).length < cfg.guardians.length := by
  have hsub : acks cfg c cluster ⊆ cfg.guardians.erase ep := by
    intro e he
    have hne : e ≠ ep := by
      rintro rfl
      exact hn he
    exact (mem_erase_of_ne hne).mpr (hs.acked e he).1
  have hl := ((nodup_acks cfg c cluster).subperm hsub).length_le
  rw [length_erase_of_mem hep] at hl
  have hpos := length_pos_of_mem hep
  omega

section
variable {history : List StoreCall}

section
variable (h : store cfg c (run cfg history) = .ok (cluster', result)) (hr : Readable cfg c (run cfg history) cluster')
include h hr

lemma Readable.threshold_le : adaptiveThreshold cfg.guardians.length ≤ (acks cfg c (run cfg history)).length := by
  obtain ⟨f, hf⟩ := exists_heldShare cfg (history ++ [c])
  rw [← run_append h] at hf
  obtain ⟨m, hm⟩ := hr (only (acks cfg c (run cfg history))) fun ep hep => answers_only.mpr hep
  have hk := (retrieve_ok hm).1
  rw [collect_eq f fun ep hep _ held hh => ⟨(hf ep hep held hh).1, (hf ep hep held hh).2.1⟩, length_map] at hk
  apply hk.trans
  apply (nodup_answering.subperm _).length_le
  intro ep hep
  exact answers_only.mp (mem_answering.mp hep).2.1

lemma Readable.onlyOwn {g : Endpoint} (hg : g ∈ cfg.guardians) : OnlyOwn cfg c cluster' g := by
  intro held hheld
  have hs := store_spec h
  obtain ⟨f, hf⟩ := exists_heldShare cfg (history ++ [c])
  rw [← run_append h] at hf
  let net := only (g :: acks cfg c (run cfg history))
  obtain ⟨m, hm⟩ := hr net fun ep hep => answers_only.mpr (by simp [hep])
  obtain ⟨hk, hv, hrec⟩ := retrieve_ok hm
  have hc : collect cfg net cluster' = (answering cfg net cluster').map f :=
    collect_eq f fun ep hep _ held hh => ⟨(hf ep hep held hh).1, (hf ep hep held hh).2.1⟩
  rw [hc] at hk hv hrec
  rw [length_map] at hk
  have hsub : ∀ ep ∈ answering cfg net cluster', ep ∈ cfg.guardians :=
    fun ep hep => (mem_answering.mp hep).1
  have hheldOf : ∀ ep ∈ answering cfg net cluster', ∃ held, cluster' ep = some held :=
    fun ep hep => Option.isSome_iff_exists.mp (mem_answering.mp hep).2.2
  obtain ⟨hvo, hro⟩ := valid_own hs.splittable nodup_answering hsub hk
  have hmem : g ∈ answering cfg net cluster' :=
    mem_answering.mpr ⟨hg, answers_only.mpr (by simp), by rw [hheld]; rfl⟩
  have he := eq_of_reconstruct_eq hv hvo hmem
    (fun ep hep => by
      obtain ⟨held, hh⟩ := hheldOf ep hep
      exact (hf ep (hsub ep hep) held hh).2.2)
    (fun ep hep hne => by
      have hack : ep ∈ acks cfg c (run cfg history) :=
        (mem_cons.mp (answers_only.mp (mem_answering.mp hep).2.1)).resolve_left hne
      have hb := (hf ep (hsub ep hep) _ (hs.acked ep hack).2).1
      exact (shareBytes_injective hb).symm)
    (hrec.trans hro.symm)
  rw [← he]
  exact (hf g hg held hheld).1

end

/-- A store call that reports its quorum is readable exactly when there are
four guardians or all three acknowledge, and no guardian keeps an older share. -/
theorem store_readable_iff (cfg : VaultConfig) (history : List StoreCall) (c : StoreCall)
    (cluster' : Cluster) (result : StoreResult) (hn : 3 ≤ cfg.guardians.length)
    (hstore : store cfg c (run cfg history) = .ok (cluster', result))
    (hq : result.quorumMet = true) :
    (∀ net, (∀ ep ∈ acks cfg c (run cfg history), Answers net ep) →
      ∃ m, retrieve cfg net cluster' = .ok ⟨c.data, m⟩) ↔
    (4 ≤ cfg.guardians.length ∨ ∀ ep ∈ cfg.guardians, ep ∈ acks cfg c (run cfg history)) ∧
      ∀ ep ∈ cfg.guardians, ep ∈ acks cfg c (run cfg history) ∨ ∀ held, cluster' ep = some held →
      held.share = shareBytes (ownShare cfg c ep) := by
  have hs := store_spec hstore
  have hquorum := hs.quorumMet_iff.mp hq
  constructor
  · intro hr
    refine ⟨?_, fun ep hep => .inr (Readable.onlyOwn hstore hr hep)⟩
    by_contra hcon
    rw [not_or, not_forall] at hcon
    obtain ⟨h4, ep, hnot⟩ := hcon
    rw [Classical.not_imp] at hnot
    have hlt := length_acks_lt hs hnot.1 hnot.2
    have hk := Readable.threshold_le hstore hr
    rw [adaptiveThreshold] at hk
    omega
  · rintro ⟨hcount, hown⟩
    apply readable_of_onlyOwn hs _ hown
    rcases hcount with h4 | hall
    · exact (adaptiveThreshold_le_writeQuorum h4).trans hquorum
    · have hle := (cfg.distinct.subperm hall).length_le
      rw [adaptiveThreshold]
      omega

end

def guardianA : Endpoint := ⟨"10.0.0.1", 7500⟩
def guardianB : Endpoint := ⟨"10.0.0.2", 7500⟩
def guardianC : Endpoint := ⟨"10.0.0.3", 7500⟩
def trio : VaultConfig := ⟨[guardianA, guardianB, guardianC], by decide⟩

lemma splittable_trio {c : StoreCall} (h : c.data ≠ []) : Splittable trio c :=
  ⟨by decide, by decide, by decide, fun hl => h (length_eq_zero_iff.mp hl)⟩

theorem store_readable_iff_trio :
    let c : StoreCall := ⟨[42], 1, fun _ _ => 0, reaching fun _ => true⟩
    ∃ cluster' result, store trio c (run trio []) = .ok (cluster', result) ∧
      result.quorumMet = true ∧ ∀ net, (∀ ep ∈ acks trio c (run trio []), Answers net ep) →
      ∃ m, retrieve trio net cluster' = .ok ⟨[42], m⟩ := by
  intro c
  obtain ⟨hacks, result, hstore, hq⟩ := store_reaching trio c (run trio [])
    (splittable_trio (by decide)) rfl nofun
  have hquorum := hq (by decide)
  refine ⟨_, result, hstore, hquorum, (store_readable_iff trio [] c _ result (by decide) hstore hquorum).mpr ?_⟩
  rw [hacks]
  exact ⟨.inr fun ep hep => mem_filter.mpr ⟨hep, rfl⟩, fun ep hep => .inl (mem_filter.mpr ⟨hep, rfl⟩)⟩

/-- Two of three guardians are a write quorum but one share short of the threshold. -/
theorem two_of_three_unreadable :
    let c : StoreCall := ⟨[42], 1, fun _ _ => 0, reaching fun ep => ep ≠ guardianC⟩
    ∃ cluster' result, store trio c (run trio []) = .ok (cluster', result) ∧ result.quorumMet = true ∧
      (∀ ep ∈ acks trio c (run trio []), Answers (only [guardianA, guardianB]) ep) ∧
      retrieve trio (only [guardianA, guardianB]) cluster' = .error (.notEnoughShares 2 3 2) := by
  intro c
  have hs : Splittable trio c := splittable_trio (by decide)
  obtain ⟨hacks, result, hstore, hq⟩ := store_reaching trio c (run trio []) hs rfl
    nofun
  have hfilter : trio.guardians.filter (fun ep => ep ≠ guardianC) = [guardianA, guardianB] := by decide
  rw [hfilter] at hacks hstore hq
  refine ⟨_, result, hstore, hq (by decide), ?_, ?_⟩
  · rw [hacks]
    exact fun ep hep => answers_only.mpr hep
  · refine (retrieve_of_few hs (fun ep _ ha held hh => ?_) (by decide)).trans (by decide)
    rw [if_pos (answers_only.mp ha)] at hh
    cases hh
    rfl

end Orama.Vault.Client
