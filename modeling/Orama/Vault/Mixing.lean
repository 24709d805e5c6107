import Orama.Vault.Quorum

namespace Orama.Vault.Client
open Shamir Lib.Interpolation List
variable {cfg : VaultConfig} {calls : List StoreCall} {net : PullNet}

lemma eq_of_version_eq (hv : calls.Pairwise fun c d => c.version < d.version) {c d : StoreCall}
    (hc : c ∈ calls) (hd : d ∈ calls) (h : c.version = d.version) : c = d := by
  have hnd : (calls.map StoreCall.version).Nodup :=
    pairwise_map.mpr (hv.imp fun hlt => Nat.ne_of_lt hlt)
  exact inj_on_of_nodup_map hnd hc hd h

def SameVersion (cfg : VaultConfig) (net : PullNet) (cluster : Cluster) : Prop :=
  ∀ ep ∈ cfg.guardians, Answers net ep → ∀ held, cluster ep = some held →
    ∀ ep' ∈ cfg.guardians, Answers net ep' → ∀ held', cluster ep' = some held' → held.version = held'.version

def LengthsDiffer (cfg : VaultConfig) (net : PullNet) (cluster : Cluster) : Prop :=
  ∃ ep ∈ cfg.guardians, Answers net ep ∧ ∃ held, cluster ep = some held ∧
    ∃ ep' ∈ cfg.guardians, Answers net ep' ∧ ∃ held', cluster ep' = some held' ∧
    held.share.length ≠ held'.share.length

lemma lagrangeZero_trio (x y : Fin 3 → GF256) (h0 : x 0 = ⟨1⟩) (h1 : x 1 = ⟨2⟩) (h2 : x 2 = ⟨3⟩) :
    lagrangeZero x y = y 0 + y 1 + y 2 := by
  have hquot : ∀ a b c d : GF256, a ≠ 0 → b ≠ 0 → c = b → d = a → a / c * (b / d) = 1 := by
    intro a b c d ha hb hc hd
    subst hc hd
    field_simp
  have hb0 : ∏ j ∈ Finset.univ.erase 0, x j / (x j - x 0) = 1 := by
    rw [show (Finset.univ : Finset (Fin 3)).erase 0 = {1, 2} by decide, Finset.prod_pair (by decide), h0, h1, h2]
    exact hquot _ _ _ _ (by decide) (by decide) (by decide) (by decide)
  have hb1 : ∏ j ∈ Finset.univ.erase 1, x j / (x j - x 1) = 1 := by
    rw [show (Finset.univ : Finset (Fin 3)).erase 1 = {0, 2} by decide, Finset.prod_pair (by decide), h0, h1, h2]
    exact hquot _ _ _ _ (by decide) (by decide) (by decide) (by decide)
  have hb2 : ∏ j ∈ Finset.univ.erase 2, x j / (x j - x 2) = 1 := by
    rw [show (Finset.univ : Finset (Fin 3)).erase 2 = {0, 1} by decide, Finset.prod_pair (by decide), h0, h1, h2]
    exact hquot _ _ _ _ (by decide) (by decide) (by decide) (by decide)
  rw [lagrangeZero, Fin.sum_univ_three, hb0, hb1, hb2, mul_one, mul_one, mul_one]

lemma reconstruct_trio (a b c : UInt8) : reconstruct [⟨1, [a]⟩, ⟨2, [b]⟩, ⟨3, [c]⟩] = [a ^^^ b ^^^ c] :=
  congrArg (fun v : GF256 => [v.byte]) (lagrangeZero_trio _ _ rfl rfl rfl)

lemma length_collect (cfg : VaultConfig) (calls : List StoreCall) (net : PullNet) :
    (collect cfg net (run cfg calls)).length = (answering cfg net (run cfg calls)).length := by
  obtain ⟨f, hf⟩ := exists_heldShare cfg calls
  rw [collect_eq f fun ep hep _ held hh => ⟨(hf ep hep held hh).1, (hf ep hep held hh).2.1⟩, length_map]

lemma retrieve_of_lengthsDiffer (h : LengthsDiffer cfg net (run cfg calls)) :
    ∃ e, retrieve cfg net (run cfg calls) = .error e := by
  obtain ⟨f, hf⟩ := exists_heldShare cfg calls
  have hc : collect cfg net (run cfg calls) = (answering cfg net (run cfg calls)).map f :=
    collect_eq f fun ep hep _ held hh => ⟨(hf ep hep held hh).1, (hf ep hep held hh).2.1⟩
  cases hr : retrieve cfg net (run cfg calls) with
  | error e => exact ⟨e, rfl⟩
  | ok r =>
    have hv := (retrieve_ok hr).2.1
    have hlen : ∀ ep ∈ cfg.guardians, Answers net ep → ∀ held, run cfg calls ep = some held →
        held.share.length = secretLen (collect cfg net (run cfg calls)) + 1 := by
      intro ep hep ha held hh
      have hmem : f ep ∈ collect cfg net (run cfg calls) := by grind [mem_answering]
      rw [(hf ep hep held hh).1, ← hv.y_length _ hmem, shareBytes, length_cons]
    obtain ⟨ep, hep, ha, held, hh, ep', hep', ha', held', hh', hne⟩ := h
    exact absurd ((hlen ep hep ha held hh).trans (hlen ep' hep' ha' held' hh').symm) hne

lemma retrieve_of_sameVersion (hv : calls.Pairwise fun c d => c.version < d.version)
    (h : SameVersion cfg net (run cfg calls)) : (∃ e, retrieve cfg net (run cfg calls) = .error e) ∨
      ∃ c ∈ calls, ∃ m, retrieve cfg net (run cfg calls) = .ok ⟨c.data, m⟩ := by
  by_cases hk : (answering cfg net (run cfg calls)).length < adaptiveThreshold cfg.guardians.length
  · exact .inl ⟨_, retrieve_of_length_lt (by rwa [length_collect])⟩
  have hpos : 0 < (answering cfg net (run cfg calls)).length := by
    rw [adaptiveThreshold] at hk
    omega
  obtain ⟨ep, hep⟩ := exists_mem_of_length_pos hpos
  obtain ⟨hg, ha, hsome⟩ := mem_answering.mp hep
  obtain ⟨held, hh⟩ := Option.isSome_iff_exists.mp hsome
  obtain ⟨c, hc, hs, rfl⟩ := run_held cfg calls hg hh
  refine .inr ⟨c, hc, _, retrieve_of_own hs ?_ (Nat.not_lt.mp hk)⟩
  intro ep' hg' ha' held' hh'
  obtain ⟨d, hd, _, rfl⟩ := run_held cfg calls hg' hh'
  have hcd : c = d := eq_of_version_eq hv hc hd (h ep hg ha _ hh ep' hg' ha' _ hh')
  rw [hcd]
  rfl

/-- With strictly increasing versions, retrieval that gets too few shares,
shares of different lengths or shares of one version throws or returns the
data of one of the store calls. -/
theorem retrieve_stored (cfg : VaultConfig) (calls : List StoreCall) (net : PullNet)
    (hv : calls.Pairwise fun c d => c.version < d.version)
    (h : (answering cfg net (run cfg calls)).length < adaptiveThreshold cfg.guardians.length ∨
      LengthsDiffer cfg net (run cfg calls) ∨ SameVersion cfg net (run cfg calls)) :
    (∃ e, retrieve cfg net (run cfg calls) = .error e) ∨
      ∃ c ∈ calls, ∃ m, retrieve cfg net (run cfg calls) = .ok ⟨c.data, m⟩ := by
  rcases h with hk | hd | hs
  · exact .inl ⟨_, retrieve_of_length_lt (by rwa [length_collect])⟩
  · exact .inl (retrieve_of_lengthsDiffer hd)
  · exact retrieve_of_sameVersion hv hs

def firstCall : StoreCall := ⟨[0], 1, fun _ _ => 0, reaching fun _ => true⟩

def secondCall : StoreCall :=
  ⟨[1], 2, fun _ j => if j = 0 then 1 else 0, reaching fun ep => ep = guardianB⟩

lemma run_firstCall : run trio [firstCall] = fun ep =>
    if ep ∈ trio.guardians then some (ownHeld trio firstCall ep) else none := by
  obtain ⟨_, result, hstore, _⟩ := store_reaching trio firstCall (run trio [])
    (splittable_trio (by decide)) rfl nofun
  change step trio (run trio []) firstCall = _
  rw [step, hstore]
  funext ep
  rw [show trio.guardians.filter (fun _ => true) = trio.guardians by decide]
  rfl

lemma run_secondCall : run trio [firstCall, secondCall] = fun ep =>
    if ep ∈ [guardianB] then some (ownHeld trio secondCall ep) else run trio [firstCall] ep := by
  obtain ⟨_, result, hstore, _⟩ := store_reaching trio secondCall (run trio [firstCall])
    (splittable_trio (by decide)) rfl fun ep hep old h => by
      rw [run_firstCall] at h
      dsimp only at h
      rw [if_pos hep] at h
      cases h
      exact Nat.lt_succ_self 1
  change step trio (run trio [firstCall]) secondCall = _
  rw [step, hstore]
  funext ep
  rw [show trio.guardians.filter (fun ep => ep = guardianB) = [guardianB] by decide]

theorem retrieve_stored_first : (∃ e, retrieve trio (only trio.guardians) (run trio [firstCall]) = .error e) ∨
    ∃ c ∈ [firstCall], ∃ m, retrieve trio (only trio.guardians) (run trio [firstCall]) = .ok ⟨c.data, m⟩ := by
  have hversion : ∀ ep held, run trio [firstCall] ep = some held → held.version = 1 := by
    intro ep held hh
    rw [run_firstCall] at hh
    dsimp only at hh
    split at hh
    · cases hh
      rfl
    · cases hh
  exact retrieve_stored trio [firstCall] (only trio.guardians) (pairwise_singleton _ _)
    (.inr (.inr fun ep _ _ held hh ep' _ _ held' hh' =>
      (hversion ep held hh).trans (hversion ep' held' hh').symm))

lemma ownShare_firstCall (ep : Endpoint) :
    ownShare trio firstCall ep = ⟨UInt8.ofNat (trio.guardians.idxOf ep + 1), [0]⟩ := by
  have hz : (⟨0⟩ : GF256) = 0 := rfl
  ext1
  · rfl
  · change [evalByte (0 :: (List.range 2).map fun _ => 0) _] = [0]
    simp [evalByte, range_succ, horner, hz, GF256.byte_zero]

lemma ownShare_secondCall : ownShare trio secondCall guardianB = ⟨2, [3]⟩ := by
  have hz : (⟨0⟩ : GF256) = 0 := rfl
  ext1
  · rfl
  · change [evalByte (1 :: (List.range 2).map fun j => if j = 0 then 1 else 0) 2] = [3]
    simp only [evalByte, range_succ, horner, hz, GF256.mk_one, map_cons,
      map_nil, range_zero, nil_append, cons_append, if_true, one_ne_zero, if_false, zero_mul, zero_add, one_mul]
    rfl

/-- The guardians that the second version did not reach answer with the first,
and the mixture combines to bytes that nobody stored. -/
theorem retrieve_mixture : [firstCall, secondCall].Pairwise (fun c d => c.version < d.version) ∧
    retrieve trio (only trio.guardians) (run trio [firstCall, secondCall]) = .ok ⟨[3], 3⟩ ∧
    ∀ c ∈ [firstCall, secondCall], c.data ≠ [3] := by
  refine ⟨by simp [firstCall, secondCall], ?_, by simp [firstCall, secondCall]⟩
  have hc : collect trio (only trio.guardians) (run trio [firstCall, secondCall]) = [⟨1, [0]⟩, ⟨2, [3]⟩, ⟨3, [0]⟩] := by
    rw [run_secondCall, run_firstCall, collect_eq fun ep =>
      if ep = guardianB then ⟨2, [3]⟩ else ownShare trio firstCall ep]
    · rw [show answering trio (only trio.guardians) _ = trio.guardians by decide]
      simp only [ownShare_firstCall]
      decide
    · intro ep hep _ held hh
      dsimp only at hh ⊢
      split at hh
      · next hB =>
        rw [mem_singleton] at hB
        subst hB
        cases hh
        rw [if_pos rfl]
        exact ⟨by rw [← ownShare_secondCall]; rfl, by decide⟩
      · next hB =>
        rw [mem_singleton] at hB
        cases hh
        rw [if_neg hB]
        refine ⟨rfl, ?_⟩
        rw [ownShare_firstCall]
        simp
  have hv : Valid [⟨1, [0]⟩, ⟨2, [3]⟩, ⟨3, [0]⟩] :=
    ⟨by decide, by decide, by decide, by decide⟩
  have hcomb : Ts.combine (collect trio (only trio.guardians) (run trio [firstCall, secondCall])) = .ok [3] := by
    rw [hc, Ts.combine_of_valid hv, reconstruct_trio]
    rfl
  have hr := retrieve_of_le (by rw [hc]; decide) hcomb
  rwa [hc] at hr

end Orama.Vault.Client
