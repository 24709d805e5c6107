import Orama.Vault.Client

namespace Orama.Vault.Client
open Shamir List

def Splittable (cfg : VaultConfig) (c : StoreCall) : Prop :=
  Admissible c.data cfg.guardians.length (adaptiveThreshold cfg.guardians.length)

def ownShare (cfg : VaultConfig) (c : StoreCall) (ep : Endpoint) : Share :=
  shareOf c.data (adaptiveThreshold cfg.guardians.length) c.tape
    (UInt8.ofNat (cfg.guardians.idxOf ep + 1))

def ownHeld (cfg : VaultConfig) (c : StoreCall) (ep : Endpoint) : Held :=
  ⟨c.version, shareBytes (ownShare cfg c ep)⟩

section
variable {cfg : VaultConfig} {c : StoreCall} {cluster cluster' : Cluster} {result : StoreResult}

lemma split_eq (h : Splittable cfg c) :
    Ts.split c.data cfg.guardians.length (adaptiveThreshold cfg.guardians.length) c.tape =
    .ok (sharesOf c.data cfg.guardians.length (adaptiveThreshold cfg.guardians.length) c.tape) := by
  rw [Ts.split_of_admissible h c.tape, Int.toNat_natCast, Int.toNat_natCast]

lemma accept_fst (held : Option Held) (version : Nat) (share : List UInt8) :
    (accept held version share).1 = held ∨ (accept held version share).1 = some ⟨version, share⟩ := by
  unfold accept
  split
  · exact .inl rfl
  · exact .inr rfl

variable {version : Nat} {share : List UInt8} {u : Unit} {held : Option Held}

lemma accept_ok (h : (accept held version share).2 = .ok u) :
    (accept held version share).1 = some ⟨version, share⟩ := by
  grind [accept]

lemma putSecret_fst (d : Delivery) (held : Option Held) (version : Nat) (share : List UInt8) :
    (putSecret d held version share).1 = held ∨ (putSecret d held version share).1 = some ⟨version, share⟩ := by
  cases d with
  | lost err => exact .inl rfl
  | unanswered err => exact accept_fst held version share
  | answered => exact accept_fst held version share

lemma putSecret_ok {d : Delivery} (h : (putSecret d held version share).2 = .ok u) :
    (putSecret d held version share).1 = some ⟨version, share⟩ := by
  cases d with
  | lost err => cases h
  | unanswered err => cases h
  | answered => exact accept_ok h

variable {ep : Endpoint}

lemma shares_getElem? (hep : ep ∈ cfg.guardians) :
    (sharesOf c.data cfg.guardians.length (adaptiveThreshold cfg.guardians.length) c.tape)[
      cfg.guardians.idxOf ep]? = some (ownShare cfg c ep) := by
  grind [sharesOf, ownShare]

lemma push_spec (hep : ep ∈ cfg.guardians) (put : Nat → Delivery) (held : Option Held) :
    let r := push cfg
      (sharesOf c.data cfg.guardians.length (adaptiveThreshold cfg.guardians.length) c.tape)
      c.version put held ep
    (r.1 = held ∨ r.1 = some (ownHeld cfg c ep)) ∧ (isFulfilled r.2 → r.1 = some (ownHeld cfg c ep)) := by
  intro r
  have hr := withRetry_rule
    (fun i held => putSecret (put i) held c.version (shareBytes (ownShare cfg c ep)))
    (fun s => s = held ∨ s = some (ownHeld cfg c ep)) (fun s => s = some (ownHeld cfg c ep))
    (fun i s hs => by
      rcases putSecret_fst (put i) s c.version (shareBytes (ownShare cfg c ep)) with h | h
      · rw [h]
        exact hs
      · exact .inr h)
    (fun i s u _ hok => putSecret_ok hok) 2 0 held (.inl rfl)
  simp only [r, push, shares_getElem? hep]
  refine ⟨hr.1, fun hf => ?_⟩
  generalize withRetry _ 2 0 held = t at hr hf
  obtain ⟨s, out⟩ := t
  cases out with
  | ok u => exact hr.2 u rfl
  | error err => cases hf

/-- A successful store call gives every guardian its own share or leaves it
as it was, and those that acknowledge have the share. -/
structure Stored (cfg : VaultConfig) (c : StoreCall) (cluster cluster' : Cluster)
    (result : StoreResult) : Prop where
  splittable : Splittable cfg c
  quorumMet_iff : result.quorumMet = true ↔ writeQuorum cfg.guardians.length ≤ (acks cfg c cluster).length
  held : ∀ ep ∈ cfg.guardians, cluster' ep = cluster ep ∨ cluster' ep = some (ownHeld cfg c ep)
  acked : ∀ ep ∈ acks cfg c cluster, ep ∈ cfg.guardians ∧ cluster' ep = some (ownHeld cfg c ep)

lemma acks_eq (h : Splittable cfg c) :
    acks cfg c cluster = (authenticateAll c.net.auth cfg.guardians).filter fun ep => isFulfilled (push cfg
        (sharesOf c.data cfg.guardians.length (adaptiveThreshold cfg.guardians.length) c.tape)
        c.version (c.net.put ep) (cluster ep) ep).2 := by rw [acks, split_eq h]

lemma store_spec (h : store cfg c cluster = .ok (cluster', result)) : Stored cfg c cluster cluster' result := by
  have hs : Splittable cfg c := by
    by_contra hn
    obtain ⟨e, he⟩ := Ts.split_of_not_admissible hn c.tape
    rw [store, he] at h
    cases h
  rw [store, split_eq hs] at h
  cases h
  refine ⟨hs, ?_, ?_, ?_⟩
  · rw [decide_eq_true_iff, filter_map, length_map, acks_eq hs]
    rfl
  · grind [push_spec]
  · intro ep hep
    rw [acks_eq hs] at hep
    obtain ⟨hauth, hok⟩ := mem_filter.mp hep
    have hg := (mem_filter.mp hauth).1
    refine ⟨hg, ?_⟩
    dsimp only
    rw [if_pos hauth]
    exact (push_spec hg _ _).2 hok

end

def Answers (net : PullNet) (ep : Endpoint) : Prop := net.auth ep = true ∧ net.failure ep = none

instance (net : PullNet) (ep : Endpoint) : Decidable (Answers net ep) := inferInstanceAs (Decidable (_ ∧ _))

def answering (cfg : VaultConfig) (net : PullNet) (cluster : Cluster) : List Endpoint :=
  cfg.guardians.filter fun ep => Answers net ep ∧ (cluster ep).isSome

section
variable {cfg : VaultConfig} {c : StoreCall} {net : PullNet} {cluster : Cluster}

lemma pull_eq {h : Held} {s : Share} (hs : h.share = shareBytes s) (hy : s.y ≠ []) :
    pull none (some h) = .ok s := by
  obtain ⟨x, y⟩ := s
  cases y with
  | nil => exact absurd rfl hy
  | cons y₀ ys => simp [pull, getSecret, hs, shareBytes]

variable {ep : Endpoint}

lemma pull_toOption (f : Endpoint → Share)
    (hf : Answers net ep → ∀ h, cluster ep = some h → h.share = shareBytes (f ep) ∧ (f ep).y ≠ []) :
    (if net.auth ep then (pull (net.failure ep) (cluster ep)).toOption else none) =
      if Answers net ep ∧ (cluster ep).isSome then some (f ep) else none := by
  cases ha : net.auth ep with
  | false => simp [Answers, ha]
  | true =>
    cases hn : net.failure ep with
    | some err => simp [Answers, hn, pull, getSecret, Except.toOption]
    | none =>
      cases hc : cluster ep with
      | none => simp [pull, getSecret, Except.toOption]
      | some h =>
        obtain ⟨hb, hy⟩ := hf ⟨ha, hn⟩ h hc
        rw [pull_eq hb hy]
        simp [Answers, ha, hn, Except.toOption]

lemma collect_eq (f : Endpoint → Share) (hf : ∀ ep ∈ cfg.guardians, Answers net ep → ∀ h,
    cluster ep = some h → h.share = shareBytes (f ep) ∧ (f ep).y ≠ []) :
    collect cfg net cluster = (answering cfg net cluster).map f := by
  rw [collect, authenticateAll, filterMap_filter, answering]
  refine (filterMap_congr fun ep hep => pull_toOption f (hf ep hep)).trans ?_
  rw [← filterMap_eq_map, filterMap_filter]
  simp only [decide_eq_true_eq, Function.comp_def]

lemma ownShare_mem (hep : ep ∈ cfg.guardians) : ownShare cfg c ep ∈
      sharesOf c.data cfg.guardians.length (adaptiveThreshold cfg.guardians.length) c.tape :=
  mem_map.mpr ⟨_, mem_range.mpr (idxOf_lt_length_iff.mpr hep), rfl⟩

lemma ownShare_y_ne_nil (h : Splittable cfg c) (ep : Endpoint) : (ownShare cfg c ep).y ≠ [] := by
  intro he
  have hl := congrArg List.length he
  rw [ownShare, shareOf, length_map, length_range] at hl
  exact h.nonempty hl

lemma point_inj (h : Splittable cfg c) {ep' : Endpoint} (hep : ep ∈ cfg.guardians) (hep' : ep' ∈ cfg.guardians)
    (hx : UInt8.ofNat (cfg.guardians.idxOf ep + 1) = UInt8.ofNat (cfg.guardians.idxOf ep' + 1)) : ep = ep' := by
  have hn := h.n_le
  have hi := idxOf_lt_length_iff.mpr hep
  have hi' := idxOf_lt_length_iff.mpr hep'
  have he := point_injective (by omega) (by omega) hx
  exact (idxOf_inj hep).mp he

lemma nodup_answering : (answering cfg net cluster).Nodup := cfg.distinct.filter _

lemma mem_answering :
    ep ∈ answering cfg net cluster ↔ ep ∈ cfg.guardians ∧ Answers net ep ∧ (cluster ep).isSome := by
  rw [answering, mem_filter, decide_eq_true_iff]

lemma sharing_own (h : Splittable cfg c) : Sharing c.data (adaptiveThreshold cfg.guardians.length)
    (sharesOf c.data cfg.guardians.length (adaptiveThreshold cfg.guardians.length) c.tape) := by
  have hn := h.n_le
  have h2 := h.two_le
  exact sharing_sharesOf c.data _ _ c.tape (by omega) (by omega)

lemma valid_own (h : Splittable cfg c) {eps : List Endpoint} (hnd : eps.Nodup)
    (hsub : ∀ ep ∈ eps, ep ∈ cfg.guardians) (hk : adaptiveThreshold cfg.guardians.length ≤ eps.length) :
    Valid (eps.map (ownShare cfg c)) ∧ reconstruct (eps.map (ownShare cfg c)) = c.data := by
  have h2 := h.two_le
  have hnd' : (eps.map (ownShare cfg c)).Nodup := hnd.map_on fun ep hep ep' hep' he =>
    point_inj h (hsub ep hep) (hsub ep' hep') (congrArg Share.x he)
  have hmem : ∀ s ∈ eps.map (ownShare cfg c), s ∈
      sharesOf c.data cfg.guardians.length (adaptiveThreshold cfg.guardians.length) c.tape := by
    grind [ownShare_mem]
  have hv := (sharing_own h).valid hmem hnd' (by rw [length_map]; omega)
  exact ⟨hv, (sharing_own h).reconstruct_eq hmem hv (by rwa [length_map])⟩

lemma retrieve_of_length_lt (h : (collect cfg net cluster).length < adaptiveThreshold cfg.guardians.length) :
    retrieve cfg net cluster = .error (.notEnoughShares (collect cfg net cluster).length
      (adaptiveThreshold cfg.guardians.length) (authenticateAll net.auth cfg.guardians).length) := by
  rw [retrieve]
  simp only [if_pos h]

variable {data : List UInt8}

lemma retrieve_of_le (h : adaptiveThreshold cfg.guardians.length ≤ (collect cfg net cluster).length)
    (hc : Ts.combine (collect cfg net cluster) = .ok data) :
    retrieve cfg net cluster = .ok ⟨data, (collect cfg net cluster).length⟩ := by
  rw [retrieve]
  simp only [if_neg (Nat.not_lt.mpr h), hc]

lemma retrieve_ok {m : Nat} (h : retrieve cfg net cluster = .ok ⟨data, m⟩) :
    adaptiveThreshold cfg.guardians.length ≤ (collect cfg net cluster).length ∧
    Valid (collect cfg net cluster) ∧ reconstruct (collect cfg net cluster) = data := by
  by_cases hl : (collect cfg net cluster).length < adaptiveThreshold cfg.guardians.length
  · rw [retrieve_of_length_lt hl] at h
    cases h
  rw [retrieve] at h
  simp only [if_neg hl] at h
  by_cases hv : Valid (collect cfg net cluster)
  · grind [Ts.combine_of_valid]
  · grind [Ts.combine_of_not_valid]

section
variable (h : Splittable cfg c)
  (hown : ∀ ep ∈ cfg.guardians, Answers net ep → ∀ held, cluster ep = some held → held.share = shareBytes (ownShare cfg c ep))
include h hown

lemma collect_own : collect cfg net cluster = (answering cfg net cluster).map (ownShare cfg c) :=
  collect_eq (ownShare cfg c) fun ep hep ha held hh =>
    ⟨hown ep hep ha held hh, ownShare_y_ne_nil h ep⟩

lemma retrieve_of_few (hk : (answering cfg net cluster).length < adaptiveThreshold cfg.guardians.length) :
    retrieve cfg net cluster = .error (.notEnoughShares (answering cfg net cluster).length
      (adaptiveThreshold cfg.guardians.length) (authenticateAll net.auth cfg.guardians).length) := by
  have hl : (collect cfg net cluster).length = (answering cfg net cluster).length := by
    rw [collect_own h hown, length_map]
  rw [← hl]
  exact retrieve_of_length_lt (by rwa [hl])

lemma retrieve_of_own (hk : adaptiveThreshold cfg.guardians.length ≤ (answering cfg net cluster).length) :
    retrieve cfg net cluster = .ok ⟨c.data, (answering cfg net cluster).length⟩ := by
  have hc := collect_own h hown
  obtain ⟨hv, hr⟩ := valid_own h nodup_answering (fun ep hep => (mem_answering.mp hep).1) hk
  have hl : (collect cfg net cluster).length = (answering cfg net cluster).length := by rw [hc, length_map]
  rw [← hl]
  apply retrieve_of_le (by rwa [hl])
  rw [hc, Ts.combine_of_valid hv, hr]

end
end

section
variable {cfg : VaultConfig} {c : StoreCall} {cluster : Cluster}

def reaching (p : Endpoint → Bool) : StoreNet := ⟨p, fun _ _ => .answered⟩

lemma push_answered {ep : Endpoint} (hep : ep ∈ cfg.guardians) {held : Option Held}
    (h : ∀ old, held = some old → old.version < c.version) :
    push cfg (sharesOf c.data cfg.guardians.length (adaptiveThreshold cfg.guardians.length) c.tape)
      c.version (fun _ => .answered) held ep = (some (ownHeld cfg c ep), .ok ()) := by
  have ha : accept held c.version (shareBytes (ownShare cfg c ep)) = (some (ownHeld cfg c ep), .ok ()) := by
    cases held with
    | none => rfl
    | some old => simp [accept, h old rfl, ownHeld]
  simp only [push, shares_getElem? hep, withRetry, putSecret, ha]
  rfl

lemma store_reaching (cfg : VaultConfig) (c : StoreCall) (cluster : Cluster) {p : Endpoint → Bool} (hs : Splittable cfg c) (hnet : c.net = reaching p)
    (h : ∀ ep ∈ cfg.guardians, ∀ old, cluster ep = some old → old.version < c.version) :
    acks cfg c cluster = cfg.guardians.filter p ∧
      ∃ result, store cfg c cluster = .ok (fun ep => if ep ∈ cfg.guardians.filter p
        then some (ownHeld cfg c ep) else cluster ep, result) ∧
        (writeQuorum cfg.guardians.length ≤ (cfg.guardians.filter p).length → result.quorumMet) := by
  have hpush : ∀ ep ∈ cfg.guardians.filter p, push cfg
      (sharesOf c.data cfg.guardians.length (adaptiveThreshold cfg.guardians.length) c.tape)
      c.version (c.net.put ep) (cluster ep) ep = (some (ownHeld cfg c ep), .ok ()) := by
    intro ep hep
    rw [hnet]
    exact push_answered (mem_filter.mp hep).1 (h ep (mem_filter.mp hep).1)
  have hauth : authenticateAll c.net.auth cfg.guardians = cfg.guardians.filter p := by
    rw [hnet]
    rfl
  have hacks : acks cfg c cluster = cfg.guardians.filter p := by
    rw [acks_eq hs, hauth, filter_eq_self]
    intro ep hep
    rw [hpush ep hep]
    rfl
  refine ⟨hacks, ?_⟩
  cases hst : store cfg c cluster with
  | error e =>
    rw [store, split_eq hs] at hst
    cases hst
  | ok r =>
    obtain ⟨cluster', result⟩ := r
    refine ⟨result, ?_, fun hq => (store_spec hst).quorumMet_iff.mpr (by rwa [hacks])⟩
    rw [store, split_eq hs] at hst
    cases hst
    congr 2
    funext ep
    rw [hauth]
    split
    · next hep => exact congrArg Prod.fst (hpush ep hep)
    · rfl

end

variable {ep : Endpoint}

lemma step_held (cfg : VaultConfig) (cluster : Cluster) (c : StoreCall) (hep : ep ∈ cfg.guardians) :
    step cfg cluster c ep = cluster ep ∨ (Splittable cfg c ∧ step cfg cluster c ep = some (ownHeld cfg c ep)) := by
  unfold step
  cases h : store cfg c cluster with
  | error e => exact .inl rfl
  | ok r =>
    have hs := store_spec h
    rcases hs.held ep hep with he | he
    · exact .inl he
    · exact .inr ⟨hs.splittable, he⟩

lemma run_held (cfg : VaultConfig) (calls : List StoreCall) (hep : ep ∈ cfg.guardians) {held : Held}
    (h : run cfg calls ep = some held) : ∃ c ∈ calls, Splittable cfg c ∧ held = ownHeld cfg c ep := by
  induction calls using List.reverseRecOn with
  | nil => cases h
  | append_singleton calls c ih =>
    rw [run, foldl_append] at h
    rcases step_held cfg (run cfg calls) c hep with he | ⟨hs, he⟩
    · obtain ⟨d, hd, hh⟩ := ih (he.symm.trans h)
      exact ⟨d, by simp [hd], hh⟩
    · exact ⟨c, by simp, hs, (Option.some.inj (he.symm.trans h)).symm⟩

end Orama.Vault.Client
