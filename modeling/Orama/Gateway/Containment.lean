import Orama.Gateway.Admin
import Orama.Gateway.Frames
import Orama.Gateway.KeyLookup

namespace Orama.Gateway
open Lib

structure Database.Hosts (db : Database) (n : Nat) (name : Bytes) : Prop where
  valid : db.Valid
  mem : (n, name) ∈ db.namespaces.rows

structure Spares (svc : AuthService) (n : Nat) (name : Bytes) (Safe : Bytes → List (Bytes × Bytes) → Prop)
    (db db' : Database) : Prop where
  grows : Grows db db'
  valid : db'.Valid
  owners : ∀ o, o.namespaceID = n → db'.owns o = true → db.owns o = true
  entries : ∀ {key ns raw}, lookupAPIKeyEntry svc.toKeyService db' key = some (ns, raw) →
    actsOn svc.clientNamespace ns = name → lookupAPIKeyEntry svc.toKeyService db key = some (ns, raw)
  refresh : ∀ t ∈ db'.refreshTokens.rows, Safe t.2.subject t.2.customClaims ∨
    ∃ t₀ ∈ db.refreshTokens.rows, t.2.token = t₀.2.token ∧ t.2.subject = t₀.2.subject ∧
    t.2.customClaims = t₀.2.customClaims
variable {Safe : Bytes → List (Bytes × Bytes) → Prop} {db db' : Database} {name : Bytes} {svc : AuthService} {n : Nat}

lemma Spares.hosts (h : Spares svc n name Safe db db') (hdb : db.Hosts n name) : db'.Hosts n name :=
  ⟨h.valid, h.grows.mem _ hdb.mem⟩

lemma Spares.refl (hdb : db.Hosts n name) : Spares svc n name Safe db db :=
  ⟨.refl db, hdb.valid, fun _ _ h => h, fun h _ => h, fun t ht => .inr ⟨t, ht, rfl, rfl, rfl⟩⟩

lemma Spares.trans {db₁ db₂ db₃ : Database}
    (h : Spares svc n name Safe db₁ db₂) (h' : Spares svc n name Safe db₂ db₃) : Spares svc n name Safe db₁ db₃ := by
  refine ⟨h.grows.trans h'.grows, h'.valid, fun o ho ho' => h.owners o ho (h'.owners o ho ho'),
    fun hl ha => h.entries (h'.entries hl ha) ha, ?_⟩
  intro t ht
  rcases h'.refresh t ht with hsafe | ⟨t₂, ht₂, htoken, hsubject, hclaims⟩
  · exact .inl hsafe
  · rw [htoken, hsubject, hclaims]
    exact h.refresh t₂ ht₂

lemma actsOn_namespaceName (clientNamespace ns : Bytes) :
    actsOn clientNamespace (namespaceName ns) = namespaceName ns := by
  have htrim : trimSpace (namespaceName ns) = namespaceName ns := by
    rw [namespaceName]
    split
    · decide
    · exact trimSpace_trimSpace ns
  rw [actsOn, htrim, if_pos (namespaceName_ne_nil ns)]

variable {o : NamespaceOwner}
open Table

lemma Database.owns_iff : db.owns o ↔ ∃ row ∈ db.ownership.rows, row.2 = o := by simp [owns, select]

lemma Database.owns_of_own {nsID : Nat} {t : OwnerType} {ownerID : Bytes}
    (hne : o.namespaceID ≠ nsID) (h : (db.own nsID t ownerID).owns o) : db.owns o := by
  obtain ⟨row, hrow, rfl⟩ := owns_iff.1 h
  rcases mem_insertOrIgnore.1 hrow with hold | ⟨_, rfl⟩
  · exact owns_iff.2 ⟨row, hold, rfl⟩
  · exact absurd rfl hne

variable {raw : Bytes}

lemma lookup_of_rows {svc : KeyService} (hv : db.Valid) (hv' : db'.Valid)
    (hgrows : Grows db db') (Mine : Bytes → Prop) (hold : ∀ k ∈ db.apiKeys.rows, k ∈ db'.apiKeys.rows)
    (hnew : ∀ k ∈ db'.apiKeys.rows, k ∈ db.apiKeys.rows ∨
      ∃ name, (k.2.namespaceID, name) ∈ db'.namespaces.rows ∧ ¬ Mine name)
    {key ns : Bytes} (h : lookupAPIKeyEntry svc db' key = some (ns, raw)) (hmine : Mine ns) :
    lookupAPIKeyEntry svc db key = some (ns, raw) := by
  have hback : ∀ {stored}, db'.activeEntry stored = some (ns, raw) → db.activeEntry stored = some (ns, raw) := by
    intro stored hstored
    obtain ⟨k, hk, hactive, hkey, hname, hraw⟩ := hv'.activeEntry_eq_some_iff.1 hstored
    have hmem : k ∈ db.apiKeys.rows := by
      grind [eq_of_id]
    obtain ⟨name, hplaced⟩ := hv.placed k hmem
    obtain rfl : name = ns :=
      congrArg Prod.snd (db'.namespaces.eq_of_id (hgrows.mem _ hplaced) hname rfl)
    exact hv.activeEntry_eq_some_iff.2 ⟨k, hmem, hactive, hkey, hplaced, hraw⟩
  have hnone : ∀ {stored}, db'.activeEntry stored = none → db.activeEntry stored = none := by
    intro stored hstored
    by_contra hsome
    obtain ⟨k, hk, hactive, hkey⟩ := hv.isSome_activeEntry_iff.1 (Option.isSome_iff_ne_none.2 hsome)
    have hstill := hv'.isSome_activeEntry_iff.2 ⟨k, hold k hk, hactive, hkey⟩
    rw [hstored] at hstill
    cases hstill
  apply lookupAPIKeyEntry_eq_some_iff.2
  rcases lookupAPIKeyEntry_eq_some_iff.1 h with hhash | ⟨hmiss, hkey⟩
  · exact .inl (hback hhash)
  · exact .inr ⟨hnone hmiss, hback hkey⟩

open Database
section
variable {svc : AuthService} {n : Nat} {name : Bytes} {Safe : Bytes → List (Bytes × Bytes) → Prop} {db db' : Database}

section
variable (hdb : db.Hosts n name) (hgrows : Grows db db') (hk : db'.apiKeys = db.apiKeys)
  (hl : db'.walletAPIKeys = db.walletAPIKeys) (ho : db'.ownership = db.ownership)
include hdb hgrows hk hl ho

lemma spares_of_same (hr : ∀ t ∈ db'.refreshTokens.rows, Safe t.2.subject t.2.customClaims ∨
      ∃ t₀ ∈ db.refreshTokens.rows, t.2.token = t₀.2.token ∧ t.2.subject = t₀.2.subject ∧
      t.2.customClaims = t₀.2.customClaims) : Spares svc n name Safe db db' := by
  have heffect : KeyEffect svc.toKeyService db none db' := .idle hgrows hk hl
  have hv' := heffect.valid hdb.valid
  refine ⟨hgrows, hv', ?_, ?_, hr⟩
  · intro o _ h
    rwa [owns, ho] at h
  · exact lookup_of_rows hdb.valid hv' hgrows (fun ns => actsOn svc.clientNamespace ns = name)
      (fun _ h => hk ▸ h) (fun _ h => .inl (hk ▸ h))

lemma spares_of_grows (hr : db'.refreshTokens = db.refreshTokens) : Spares svc n name Safe db db' :=
  spares_of_same hdb hgrows hk hl ho fun t ht => .inr ⟨t, hr ▸ ht, rfl, rfl, rfl⟩

end

variable {other : Bytes}

lemma spares_ensureNamespace (hdb : db.Hosts n name) (h : other ≠ []) :
    Spares svc n name Safe db (db.ensureNamespace other) :=
  spares_of_grows hdb (grows_ensureNamespace db h) rfl rfl rfl rfl

variable {now : Int} {nsID : Nat}

section
variable (hdb : db.Hosts n name)
include hdb

lemma spares_storeRefreshToken {subject refresh : Bytes} {custom : List (Bytes × Bytes)}
    (hs : Safe subject custom) (h : storeRefreshToken db now nsID subject refresh custom = some db') :
    Spares svc n name Safe db db' := by
  obtain ⟨tokens, hins, rfl⟩ := Option.map_eq_some_iff.1 h
  refine spares_of_same hdb (.congr (.refl db) rfl) rfl rfl rfl ?_
  intro t ht
  rcases (mem_insert hins).1 ht with hold | rfl
  · exact .inr ⟨t, hold, rfl, rfl, rfl⟩
  · exact .inl hs

lemma spares_updateRefreshTokens (p : Nat × RefreshToken → Bool)
    {f : RefreshToken → RefreshToken} (hf : ∀ t, (f t).token = t.token)
    (hsubject : ∀ t, (f t).subject = t.subject) (hclaims : ∀ t, (f t).customClaims = t.customClaims) :
    Spares svc n name Safe db { db with refreshTokens := db.refreshTokens.update p f hf } := by
  refine spares_of_same hdb (.congr (.refl db) rfl) rfl rfl rfl ?_
  intro t ht
  obtain ⟨t₀, ht₀, rfl⟩ := List.mem_map.1 ht
  refine .inr ⟨t₀, ht₀, ?_⟩
  dsimp only
  split
  · exact ⟨hf _, hsubject _, hclaims _⟩
  · exact ⟨rfl, rfl, rfl⟩

lemma spares_claimRefreshToken {hashed : Bytes} {row : RefreshToken}
    (h : claimRefreshToken db now nsID hashed = some (row, db')) : Spares svc n name Safe db db' := by
  simp only [claimRefreshToken] at h
  split at h
  · cases h
    exact spares_updateRefreshTokens hdb _ _ (fun _ => rfl) (fun _ => rfl)
  split at h
  · split at h
    · cases h
    · cases h
      exact spares_updateRefreshTokens hdb _ _ (fun _ => rfl) (fun _ => rfl)
  · cases h

lemma spares_recordKey {wallet raw : Bytes} {apiKeys : Table APIKey APIKey.key}
    (hmem : (nsID, other) ∈ db.namespaces.rows) (hother : other ≠ name)
    (hacts : actsOn svc.clientNamespace other = other) (hraw : IsRaw raw)
    (hins : db.apiKeys.insert ⟨svc.hashAPIKey raw, [], nsID, none, false⟩ = some apiKeys) :
    Spares svc n name Safe db (({ db with apiKeys := apiKeys } : Database).recordKey svc.toKeyService nsID
      wallet (svc.hashAPIKey raw)) := by
  have hne : n ≠ nsID := by
    intro heq
    exact hother (congrArg Prod.snd (db.namespaces.eq_of_id hdb.mem hmem heq)).symm
  have heffect := keyEffect_recordKey wallet (.refl db) rfl rfl hmem hraw hins
  have hv' := heffect.valid hdb.valid
  refine ⟨heffect.grows, hv', ?_, ?_, ?_⟩
  · intro o ho h
    have hlink := owns_of_own (ho ▸ hne) (owns_of_own (ho ▸ hne) h)
    rw [linkWallet] at hlink
    split at hlink <;> exact hlink
  · refine lookup_of_rows hdb.valid hv' heffect.grows (fun ns => actsOn svc.clientNamespace ns = name)
      (fun k hk => ?_) (fun k hk => ?_)
    · simpa [recordKey] using (mem_insert hins).2 (.inl hk)
    · rcases (mem_insert hins).1 (by simpa [recordKey] using hk) with hold | rfl
      · exact .inl hold
      · exact .inr ⟨other, heffect.grows.mem _ hmem, fun h => hother (hacts.symm.trans h)⟩
  · intro t ht
    refine .inr ⟨t, ?_, rfl, rfl, rfl⟩
    rw [recordKey, linkWallet] at ht
    split at ht <;> exact ht

lemma spares_getOrCreateAPIKey (wallet : Bytes) {ns : Bytes} (buf : Random 18) (hns : namespaceName ns ≠ name) :
    Spares svc n name Safe db (getOrCreateAPIKey svc.toKeyService db wallet ns buf).2 := by
  have hR : Spares svc n name Safe db (db.ensureNamespace (namespaceName ns)) :=
    spares_ensureNamespace hdb (namespaceName_ne_nil ns)
  obtain ⟨nsID, hmem, ⟨_, h⟩ | ⟨e, h⟩ | ⟨raw, apiKeys, _, hraw, hins, h⟩⟩ :=
    getOrCreateAPIKey_cases svc.toKeyService db wallet ns buf rfl
  · exact h ▸ hR
  · exact h ▸ hR
  · grind [Spares.trans, spares_recordKey, Spares.hosts, actsOn_namespaceName, isRaw_of_newKey]

end

lemma frame_spares (svc : AuthService) (n : Nat) (name : Bytes) (Safe : Bytes → List (Bytes × Bytes) → Prop) :
    Frame svc.toKeyService (· ≠ name) Safe fun db db' => db.Hosts n name → Spares svc n name Safe db db' where
  refl _ hdb := .refl hdb
  trans h h' hdb := (h hdb).trans (h' ((h hdb).hosts hdb))
  ensureNamespace _ _ hne hdb := spares_ensureNamespace hdb hne
  storeRefreshToken hs h hdb := spares_storeRefreshToken hdb hs h
  claimRefreshToken h hdb := spares_claimRefreshToken hdb h
  getOrCreateAPIKey _ wallet _ buf hns hdb := spares_getOrCreateAPIKey hdb wallet buf hns

end

def Database.Separated (db : Database) (svc : KeyService) : Prop :=
  ∀ k ∈ db.apiKeys.rows, ∀ k' ∈ db.apiKeys.rows, svc.hashAPIKey k.2.key = k'.2.key → k = k'

instance (db : Database) (svc : KeyService) : Decidable (db.Separated svc) :=
  inferInstanceAs (Decidable (∀ k ∈ db.apiKeys.rows, _))

lemma lookup_stored {svc : KeyService} (hv : db.Valid) (hsep : db.Separated svc) {k : Nat × APIKey}
    (hk : k ∈ db.apiKeys.rows) {ns : Bytes} (h : lookupAPIKeyEntry svc db k.2.key = some (ns, raw)) :
    (k.2.namespaceID, ns) ∈ db.namespaces.rows := by
  rcases lookupAPIKeyEntry_eq_some_iff.1 h with hhash | ⟨_, hkey⟩
  · obtain ⟨r, hr, _, hkey, hname, _⟩ := hv.activeEntry_eq_some_iff.1 hhash
    rw [hsep k hk r hr hkey.symm]
    exact hname
  · grind [Database.Valid.activeEntry_eq_some_iff, eq_of_key]

lemma lookup_getOrCreateAPIKey {svc : KeyService} (hv : db.Valid) (hsep : db'.Separated svc)
    {wallet ns key : Bytes} {buf : Random 18} (h : getOrCreateAPIKey svc db wallet ns buf = (.ok key, db')) (hl : lookupAPIKeyEntry svc db' key = some (name, raw)) : name = namespaceName ns := by
  obtain ⟨hv', nsID, k, hk, hns, _, hname, ⟨_, rfl, _⟩ | ⟨_, hkey, hactive⟩⟩ := getOrCreateAPIKey_ok hv h
  · exact congrArg Prod.snd (eq_of_id _ (lookup_stored hv' hsep hk hl) hname hns)
  · grind [Database.Valid.lookup_created]

end Orama.Gateway
