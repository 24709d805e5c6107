import Orama.Gateway.KeyRuns

namespace Orama.Gateway
open Lib Table

def KeyState.ActiveRaw (s : KeyState) (text : Bytes) : Prop :=
  ∃ k ∈ s.db.apiKeys.rows, k.2.revoked = false ∧ (k.1, text) ∈ s.raws

def Database.ActiveStored (db : Database) (text : Bytes) : Prop :=
  ∃ k ∈ db.apiKeys.rows, k.2.revoked = false ∧ k.2.key = text

instance (s : KeyState) (text : Bytes) : Decidable (s.ActiveRaw text) :=
  inferInstanceAs (Decidable (∃ k ∈ s.db.apiKeys.rows, _))

instance (db : Database) (text : Bytes) : Decidable (db.ActiveStored text) :=
  inferInstanceAs (Decidable (∃ k ∈ db.apiKeys.rows, _))

variable {db : Database} {stored : Bytes}

lemma Database.Valid.isSome_activeEntry_iff (hv : db.Valid) :
    (db.activeEntry stored).isSome ↔ db.ActiveStored stored := by
  constructor
  · intro h
    by_contra hnone
    rw [activeEntry_eq_none] at h
    · cases h
    · intro k hk hkey
      by_contra hrev
      exact hnone ⟨k, hk, by simpa using hrev, hkey⟩
  · rintro ⟨k, hk, hactive, rfl⟩
    obtain ⟨name, hname⟩ := hv.placed k hk
    rw [hv.activeEntry_eq_some hk hactive hname]
    rfl

variable {raw name : Bytes}

lemma Database.Valid.activeEntry_eq_some_iff (hv : db.Valid) :
    db.activeEntry stored = some (name, raw) ↔ ∃ k ∈ db.apiKeys.rows, k.2.revoked = false ∧
    k.2.key = stored ∧ (k.2.namespaceID, name) ∈ db.namespaces.rows ∧ k.2.scopes.getD [] = raw := by
  constructor
  · intro h
    obtain ⟨k, hk, hactive, rfl⟩ := hv.isSome_activeEntry_iff.1 (by rw [h]; rfl)
    obtain ⟨name', hname⟩ := hv.placed k hk
    rw [hv.activeEntry_eq_some hk hactive hname] at h
    cases h
    exact ⟨k, hk, hactive, rfl, hname, rfl⟩
  · rintro ⟨k, hk, hactive, rfl, hname, rfl⟩
    exact hv.activeEntry_eq_some hk hactive hname

variable {svc : KeyService}

lemma lookupAPIKeyEntry_eq_some_iff {key : Bytes} {e : Bytes × Bytes} :
    lookupAPIKeyEntry svc db key = some e ↔ db.activeEntry (svc.hashAPIKey key) = some e ∨
    db.activeEntry (svc.hashAPIKey key) = none ∧ db.activeEntry key = some e := by
  grind [Option.or_eq_some_iff, lookupAPIKeyEntry]

lemma Database.Valid.isSome_lookupAPIKeyEntry_iff (hv : db.Valid) (svc : KeyService) (text : Bytes) :
    (lookupAPIKeyEntry svc db text).isSome ↔ db.ActiveStored (svc.hashAPIKey text) ∨ db.ActiveStored text := by
  grind [isSome_activeEntry_iff, lookupAPIKeyEntry]

lemma not_isRaw_bytesToHex (bytes : Bytes) : ¬ IsRaw (bytesToHex bytes) := by
  rintro ⟨t, h⟩
  have hdecode := hexToBytes_bytesToHex bytes
  rw [h] at hdecode
  cases hdecode

section
variable {svc : KeyService} (hsecret : svc.apiKeyHMACSecret ≠ [])
include hsecret

variable {s : KeyState} {text : Bytes}

lemma KeyState.Generated.not_activeRaw (hs : s.Generated svc) (h : s.db.ActiveStored text) :
    ¬ s.ActiveRaw text := by
  rintro ⟨_, _, _, hraw⟩
  obtain ⟨k, hk, _, rfl⟩ := h
  obtain ⟨raw, _, hkey⟩ := hs.raw k hk
  apply not_isRaw_bytesToHex (Sha256.hmac svc.apiKeyHMACSecret raw)
  rw [KeyService.hashAPIKey, if_neg hsecret, hmacSHA256Hex] at hkey
  exact hkey ▸ hs.isRaw _ hraw

omit hsecret in
lemma KeyState.Generated.activeStored_hash_iff (hs : s.Generated svc)
    (hcollision : ∀ e ∈ s.raws, svc.hashAPIKey e.2 = svc.hashAPIKey text → e.2 = text) :
    s.db.ActiveStored (svc.hashAPIKey text) ↔ s.ActiveRaw text := by
  constructor
  · rintro ⟨k, hk, hactive, hkey⟩
    obtain ⟨raw, hraw, hhash⟩ := hs.raw k hk
    have heq : raw = text := hcollision _ hraw (hhash.symm.trans hkey)
    exact ⟨k, hk, hactive, heq ▸ hraw⟩
  · rintro ⟨k, hk, hactive, hraw⟩
    obtain ⟨k', hk', hid, hkey⟩ := hs.row _ hraw
    have heq : k' = k := s.db.apiKeys.eq_of_id hk' hk hid
    exact ⟨k, hk, hactive, heq ▸ hkey⟩

/-- The lookup accepts exactly the keys that were generated, apart from the
hashes in the table, which it accepts as well. -/
theorem lookupAPIKeyEntry_generated_iff (ops : List KeyOp) {text : Bytes}
    (hcollision : ∀ e ∈ (KeyState.run svc ops).raws, svc.hashAPIKey e.2 = svc.hashAPIKey text → e.2 = text) :
    ((lookupAPIKeyEntry svc (KeyState.run svc ops).db text).isSome ↔ (KeyState.run svc ops).ActiveRaw text) ↔
        ¬ (KeyState.run svc ops).db.ActiveStored text := by
  have hs := generated_run svc ops
  rw [hs.valid.isSome_lookupAPIKeyEntry_iff, hs.activeStored_hash_iff hcollision]
  by_cases h : (KeyState.run svc ops).db.ActiveStored text
  · simp [h, hs.not_activeRaw hsecret h]
  · simp [h]

end

def sampleService : KeyService := ⟨ascii "secret", fun s => s.map lowerAscii⟩
def sampleSeed : Random 18 := some ⟨List.replicate 18 0, rfl⟩

def sampleOps : List KeyOp := [.getOrCreateAPIKey (ascii "0xab") (ascii "tenant") sampleSeed]

def sampleKey : Bytes := rawKey (List.replicate 18 0) (ascii "tenant")

theorem lookupAPIKeyEntry_generated_sampleKey :
    ((lookupAPIKeyEntry sampleService (KeyState.run sampleService sampleOps).db sampleKey).isSome ↔
    (KeyState.run sampleService sampleOps).ActiveRaw sampleKey) ↔
    ¬ (KeyState.run sampleService sampleOps).db.ActiveStored sampleKey :=
  lookupAPIKeyEntry_generated_iff (by decide) sampleOps (by decide +kernel)

/-- The hash of a key, read from the table, is accepted in its place. -/
theorem storedHash_accepted :
    (KeyState.run sampleService sampleOps).db.ActiveStored (sampleService.hashAPIKey sampleKey) ∧
    lookupAPIKeyEntry sampleService (KeyState.run sampleService sampleOps).db
        (sampleService.hashAPIKey sampleKey) = some (ascii "tenant", []) ∧
      ¬ (KeyState.run sampleService sampleOps).ActiveRaw (sampleService.hashAPIKey sampleKey) := by
  decide +kernel

/-- A lookup of what is stored for a row finds the namespace: the hash of it is
stored for no other, and the row is not revoked. -/
def Resolves (svc : KeyService) (db : Database) (nsID : Nat) (k : Nat × APIKey) : Prop :=
  match db.apiKeys.select fun r => r.2.key = svc.hashAPIKey k.2.key ∧ r.2.revoked = false with
  | some r => r.2.namespaceID = nsID
  | none => k.2.revoked = false

def Usable (svc : KeyService) (db : Database) (wallet ns : Bytes) : Prop :=
  ∀ nsID k, db.namespaceID (namespaceName ns) = some nsID → linkedRow db nsID wallet = some k → Resolves svc db nsID k

variable {nsID : Nat} {wallet : Bytes}

lemma exists_linkedRow (h : linkedKey db nsID wallet ≠ []) :
    ∃ k, linkedRow db nsID wallet = some k ∧ linkedKey db nsID wallet = k.2.key := by
  rw [linkedKey] at h ⊢
  cases hrow : linkedRow db nsID wallet with
  | none => exact absurd (by rw [hrow]; rfl) h
  | some k => exact ⟨k, rfl, rfl⟩

variable {k : Nat × APIKey}

lemma Database.Valid.mem_of_linkedRow (hv : db.Valid) (h : linkedRow db nsID wallet = some k) :
    k ∈ db.apiKeys.rows ∧ k.2.namespaceID = nsID := by
  obtain ⟨l, hl, hk⟩ := Option.bind_eq_some_iff.1 h
  obtain ⟨hmem, hid⟩ := db.apiKeys.select_id_eq_some_iff.1 hk
  obtain ⟨hlmem, hlink⟩ := mem_of_select hl
  obtain ⟨k', hk', hid', hns⟩ := hv.linked l hlmem
  have heq : k' = k := db.apiKeys.eq_of_id hk' hmem (hid'.trans hid.symm)
  exact ⟨hmem, heq ▸ hns.trans (of_decide_eq_true hlink).1⟩

lemma Database.namespaceID_of_mem_ensureNamespace (h : (nsID, name) ∈ (db.ensureNamespace name).namespaces.rows) :
    db.namespaceID name = some nsID ∨ db.namespaceID name = none ∧ nsID = db.namespaces.next := by
  rcases mem_insertOrIgnore.1 h with hold | ⟨hnew, heq⟩
  · exact .inl (namespaceID_eq_some_iff.2 hold)
  · refine .inr ⟨?_, congrArg Prod.fst heq⟩
    cases hid : db.namespaceID name with
    | none => rfl
    | some i => grind [namespaceID_eq_some_iff]

section
variable (hv : db.Valid)
include hv

lemma Database.Valid.ensureNamespace (ns : Bytes) : (db.ensureNamespace (namespaceName ns)).Valid := by
  have heffect : KeyEffect ⟨[], id⟩ db none (db.ensureNamespace (namespaceName ns)) :=
    .idle (grows_ensureNamespace db (namespaceName_ne_nil ns)) rfl rfl
  exact heffect.valid hv

lemma Database.Valid.activeEntry_namespace_iff (hk : k ∈ db.apiKeys.rows)
    (hactive : k.2.revoked = false) (hname : (nsID, name) ∈ db.namespaces.rows) (hkey : k.2.key = stored) :
    (∃ scopes, db.activeEntry stored = some (name, scopes)) ↔ k.2.namespaceID = nsID := by
  obtain ⟨name', hname'⟩ := hv.placed k hk
  rw [← hkey, hv.activeEntry_eq_some hk hactive hname']
  constructor
  · grind [eq_of_key]
  · rintro rfl
    obtain rfl : name' = name := congrArg Prod.snd (db.namespaces.eq_of_id hname' hname rfl)
    exact ⟨_, rfl⟩

lemma Database.Valid.lookup_stored_iff (svc : KeyService) (hk : k ∈ db.apiKeys.rows)
    (hns : k.2.namespaceID = nsID) (hname : (nsID, name) ∈ db.namespaces.rows) :
    (∃ scopes, lookupAPIKeyEntry svc db k.2.key = some (name, scopes)) ↔ Resolves svc db nsID k := by
  rw [Resolves]
  cases hhash : db.apiKeys.select fun r => decide (r.2.key = svc.hashAPIKey k.2.key ∧ r.2.revoked = false) with
  | some r =>
    obtain ⟨hr, hcond⟩ := mem_of_select hhash
    obtain ⟨hkey, hactive⟩ := of_decide_eq_true hcond
    obtain ⟨e, he⟩ := Option.isSome_iff_exists.1 (hv.isSome_activeEntry_iff.2 ⟨r, hr, hactive, hkey⟩)
    change _ ↔ r.2.namespaceID = nsID
    rw [← hv.activeEntry_namespace_iff hr hactive hname hkey, lookupAPIKeyEntry, he, Option.some_or]
  | none =>
    change _ ↔ k.2.revoked = false
    have hmiss : db.activeEntry (svc.hashAPIKey k.2.key) = none := by
      rw [activeEntry, hhash]
      rfl
    simp only [lookupAPIKeyEntry_eq_some_iff, hmiss, reduceCtorEq, true_and, false_or]
    constructor
    · grind [activeEntry_eq_some_iff, eq_of_key]
    · intro hactive
      exact (hv.activeEntry_namespace_iff hk hactive hname rfl).2 hns

lemma Database.Valid.usable_iff (svc : KeyService) {ns : Bytes}
    (hmem : (nsID, namespaceName ns) ∈ (db.ensureNamespace (namespaceName ns)).namespaces.rows) :
    Usable svc db wallet ns ↔ ∀ k, linkedRow db nsID wallet = some k → Resolves svc db nsID k := by
  rcases namespaceID_of_mem_ensureNamespace hmem with hid | ⟨hid, hnext⟩
  · constructor
    · exact fun h k => h nsID k hid
    · intro h i k hi
      rw [hid] at hi
      cases hi
      exact h k
  · refine iff_of_true (by simp [Usable, hid]) ?_
    intro k hk
    obtain ⟨hkmem, hns⟩ := hv.mem_of_linkedRow hk
    obtain ⟨name, hname⟩ := hv.placed k hkmem
    have hlt := db.namespaces.fresh _ hname
    rw [hns, hnext] at hlt
    exact absurd hlt (Nat.lt_irrefl _)

lemma Database.Valid.lookup_created (hk : k ∈ db.apiKeys.rows)
    (hkey : k.2.key = svc.hashAPIKey raw) (hactive : k.2.revoked = false)
    (hname : (k.2.namespaceID, name) ∈ db.namespaces.rows) :
    ∃ scopes, lookupAPIKeyEntry svc db raw = some (name, scopes) := by
  have hentry := hv.activeEntry_eq_some_iff.2 ⟨k, hk, hactive, hkey, hname, rfl⟩
  exact ⟨_, lookupAPIKeyEntry_eq_some_iff.2 (.inl hentry)⟩

end

variable {db' : Database}

lemma getOrCreateAPIKey_ok (hv : db.Valid) {ns key : Bytes} {buf : Random 18}
    (h : getOrCreateAPIKey svc db wallet ns buf = (.ok key, db')) :
    db'.Valid ∧ ∃ nsID, ∃ k ∈ db'.apiKeys.rows, k.2.namespaceID = nsID ∧
      (nsID, namespaceName ns) ∈ (db.ensureNamespace (namespaceName ns)).namespaces.rows ∧
      (nsID, namespaceName ns) ∈ db'.namespaces.rows ∧
      (linkedRow db nsID wallet = some k ∧ key = k.2.key ∧ db'.apiKeys = db.apiKeys ∨
      linkedRow db nsID wallet = none ∧ k.2.key = svc.hashAPIKey key ∧ k.2.revoked = false) := by
  have hv' : db'.Valid := by
    obtain ⟨_, _, heffect⟩ := keyEffect_getOrCreateAPIKey svc db wallet ns buf
    rw [h] at heffect
    exact heffect.valid hv
  refine ⟨hv', ?_⟩
  obtain ⟨nsID, hmem, ⟨hlink, heq⟩ | ⟨e, heq⟩ | ⟨raw, apiKeys, hlink, hraw, hins, heq⟩⟩ :=
    getOrCreateAPIKey_cases svc db wallet ns buf rfl
  · rw [heq] at h
    cases h
    obtain ⟨k, hrow, hkey⟩ := exists_linkedRow hlink
    obtain ⟨hk, hns⟩ := hv.mem_of_linkedRow hrow
    exact ⟨nsID, k, hk, hns, hmem, hmem, .inl ⟨hrow, hkey, rfl⟩⟩
  · rw [heq] at h
    cases h
  · rw [heq] at h
    cases h
    have hrow := (mem_insert hins).2 (.inr rfl)
    refine ⟨nsID, _, by simpa [Database.recordKey] using hrow, rfl, hmem,
      by simpa [Database.recordKey] using hmem, .inr ⟨?_, rfl, rfl⟩⟩
    change linkedKey db nsID wallet = [] at hlink
    cases hlinked : linkedRow db nsID wallet with
    | none => rfl
    | some k =>
      rw [linkedKey, hlinked] at hlink
      exact absurd hlink (hv.texts k (hv.mem_of_linkedRow hlinked).1)

/-- The key that a call returns is accepted exactly when the wallet has no linked
key, or one that can be looked up. -/
theorem getOrCreateAPIKey_works_iff (svc : KeyService) (ops : List KeyOp) (wallet ns : Bytes)
    (buf : Random 18) {key : Bytes} {db' : Database}
    (h : getOrCreateAPIKey svc (KeyState.run svc ops).db wallet ns buf = (.ok key, db')) :
    (∃ scopes, lookupAPIKeyEntry svc db' key = some (namespaceName ns, scopes)) ↔
      Usable svc (KeyState.run svc ops).db wallet ns := by
  have hv := (generated_run svc ops).valid
  generalize (KeyState.run svc ops).db = db at h hv
  obtain ⟨hv', nsID, k, hk, hns, hmem, hname, ⟨hrow, rfl, hkeys⟩ | ⟨hrow, hkey, hactive⟩⟩ :=
    getOrCreateAPIKey_ok hv h
  · have hresolves : Resolves svc db' nsID k ↔ Resolves svc db nsID k := by
      rw [Resolves, Resolves, hkeys]
    rw [hv'.lookup_stored_iff svc hk hns hname, hresolves, hv.usable_iff svc hmem, hrow]
    simp only [Option.some.injEq, forall_eq']
  · grind [Database.Valid.lookup_created, Database.Valid.usable_iff]

theorem getOrCreateAPIKey_works_sampleKey : (∃ scopes, lookupAPIKeyEntry sampleService
        (getOrCreateAPIKey sampleService (KeyState.run sampleService []).db (ascii "0xab")
          (ascii "tenant") sampleSeed).2 sampleKey = some (namespaceName (ascii "tenant"), scopes)) ↔
      Usable sampleService (KeyState.run sampleService []).db (ascii "0xab") (ascii "tenant") :=
  getOrCreateAPIKey_works_iff sampleService [] (ascii "0xab") (ascii "tenant") sampleSeed
    (Prod.ext (by decide +kernel) rfl)

/-- After the keys of the namespace are revoked, the owner is given the hash of a
revoked key, which the lookup refuses. -/
theorem revokedKey_returned : (getOrCreateAPIKey sampleService
        (KeyState.run sampleService (sampleOps ++ [.revokeAllLegacy (ascii "tenant")])).db
        (ascii "0xab") (ascii "tenant") sampleSeed).1 = .ok (sampleService.hashAPIKey sampleKey) ∧
      lookupAPIKeyEntry sampleService
        (getOrCreateAPIKey sampleService
          (KeyState.run sampleService (sampleOps ++ [.revokeAllLegacy (ascii "tenant")])).db
          (ascii "0xab") (ascii "tenant") sampleSeed).2 (sampleService.hashAPIKey sampleKey) = none := by
  decide +kernel

end Orama.Gateway
