import Orama.Gateway.Keys

namespace Orama.Gateway
open Lib

structure Database.Valid (db : Database) : Prop where
  named : ∀ n ∈ db.namespaces.rows, n.2 ≠ []
  placed : ∀ k ∈ db.apiKeys.rows, ∃ name, (k.2.namespaceID, name) ∈ db.namespaces.rows
  texts : ∀ k ∈ db.apiKeys.rows, k.2.key ≠ []
  linked : ∀ l ∈ db.walletAPIKeys.rows, ∃ k ∈ db.apiKeys.rows, k.1 = l.2.apiKeyID ∧ k.2.namespaceID = l.2.namespaceID

structure Grows (db db' : Database) : Prop where
  mem : ∀ n ∈ db.namespaces.rows, n ∈ db'.namespaces.rows
  named : ∀ n ∈ db'.namespaces.rows, n ∈ db.namespaces.rows ∨ n.2 ≠ []

def IsRaw (s : Bytes) : Prop := ∃ t, s = ascii "ak_" ++ t

inductive KeyEffect (svc : KeyService) (db : Database) : Option Bytes → Database → Prop
  | idle {db' : Database} (hns : Grows db db') (hk : db'.apiKeys = db.apiKeys)
      (hl : db'.walletAPIKeys = db.walletAPIKeys) : KeyEffect svc db none db'
  | create {db' : Database} {row : APIKey} {raw : Bytes} (hns : Grows db db')
      (hk : db.apiKeys.insert row = some db'.apiKeys) (hkey : row.key = svc.hashAPIKey raw)
      (hraw : IsRaw raw) (hactive : row.revoked = false)
      (hplaced : ∃ name, (row.namespaceID, name) ∈ db'.namespaces.rows)
      (hl : ∀ l ∈ db'.walletAPIKeys.rows, l ∈ db.walletAPIKeys.rows ∨
        l.2.namespaceID = row.namespaceID ∧ l.2.apiKeyID = db.apiKeys.next) :
      KeyEffect svc db (some raw) db'
  | revoke {db' : Database} (p : Nat × APIKey → Bool) (hns : Grows db db')
      (hk : db'.apiKeys = db.apiKeys.update p APIKey.revoke APIKey.key_revoke)
      (hl : db'.walletAPIKeys = db.walletAPIKeys) : KeyEffect svc db none db'

section
variable (db : Database) (nsID : Nat) (t : OwnerType) (ownerID : Bytes)

@[simp]
lemma Database.apiKeys_own : (db.own nsID t ownerID).apiKeys = db.apiKeys := rfl

@[simp]
lemma Database.namespaces_own : (db.own nsID t ownerID).namespaces = db.namespaces := rfl

@[simp]
lemma Database.walletAPIKeys_own : (db.own nsID t ownerID).walletAPIKeys = db.walletAPIKeys := rfl

end

@[simp]
lemma Database.apiKeys_linkWallet (db : Database) (svc : KeyService) (nsID : Nat)
    (wallet stored : Bytes) : (db.linkWallet svc nsID wallet stored).apiKeys = db.apiKeys := by
  rw [linkWallet]
  split <;> rfl

@[simp]
lemma Database.namespaces_linkWallet (db : Database) (svc : KeyService) (nsID : Nat)
    (wallet stored : Bytes) : (db.linkWallet svc nsID wallet stored).namespaces = db.namespaces := by
  rw [linkWallet]
  split <;> rfl

open Database Table
variable {name : Bytes}

lemma grows_ensureNamespace (db : Database) (h : name ≠ []) : Grows db (db.ensureNamespace name) := by
  constructor
  · exact fun n hn => mem_insertOrIgnore.2 (.inl hn)
  · intro n hn
    rcases mem_insertOrIgnore.1 hn with hn | ⟨_, rfl⟩
    · exact .inl hn
    · exact .inr h

variable {db₁ : Database}

lemma Grows.congr {db db₂ : Database} (h : Grows db db₁) (hns : db₂.namespaces = db₁.namespaces) :
    Grows db db₂ := ⟨hns ▸ h.mem, hns ▸ h.named⟩

lemma resolveNamespaceID_eq (db : Database) (ns : Bytes) :
    ∃ nsID, resolveNamespaceID db ns = (some nsID, db.ensureNamespace (namespaceName ns)) ∧
    (nsID, namespaceName ns) ∈ (db.ensureNamespace (namespaceName ns)).namespaces.rows := by
  obtain ⟨nsID, h⟩ := db.exists_namespaceID_ensureNamespace (namespaceName ns)
  refine ⟨nsID, ?_, namespaceID_eq_some_iff.1 h⟩
  rw [resolveNamespaceID, h]

def newKey (buf : Random 18) (ns : Bytes) : Option Bytes := buf.map fun b => rawKey b.1 ns

lemma isRaw_rawKey (buf ns : Bytes) : IsRaw (rawKey buf ns) := ⟨_, List.append_assoc _ _ _⟩

lemma keyID_insert {db db' : Database} {row : APIKey} (h : db.apiKeys.insert row = some db'.apiKeys) :
    db'.keyID row.key = some db.apiKeys.next := by
  have hp : ∀ k : Nat × APIKey, decide (k.2.key = row.key) → k.2.key = row.key := by simp
  have hrow := (db'.apiKeys.select_eq_some_iff row.key hp).2
    ⟨(mem_insert h).2 (.inr rfl), decide_eq_true rfl⟩
  rw [keyID, hrow]
  rfl

variable {nsID : Nat} {svc : KeyService}

lemma mem_linkWallet {db db' : Database} {row : APIKey} {wallet : Bytes}
    (h : db.apiKeys.insert row = some db'.apiKeys) {l : Nat × WalletAPIKey}
    (hl : l ∈ (db'.linkWallet svc nsID wallet row.key).walletAPIKeys.rows) :
    l ∈ db'.walletAPIKeys.rows ∨ l.2.namespaceID = nsID ∧ l.2.apiKeyID = db.apiKeys.next := by
  grind [keyID_insert, mem_insertOrIgnore, linkWallet]

lemma getOrCreateAPIKey_cases (svc : KeyService) (db : Database) (wallet ns : Bytes) (buf : Random 18)
    (h₁ : db₁ = db.ensureNamespace (namespaceName ns)) :
    ∃ nsID, (nsID, namespaceName ns) ∈ db₁.namespaces.rows ∧ ((linkedKey db₁ nsID wallet ≠ [] ∧
          getOrCreateAPIKey svc db wallet ns buf = (.ok (linkedKey db₁ nsID wallet), db₁)) ∨
          (∃ e, getOrCreateAPIKey svc db wallet ns buf = (.error e, db₁)) ∨
          ∃ raw apiKeys, linkedKey db₁ nsID wallet = [] ∧ some raw = newKey buf ns ∧
          db₁.apiKeys.insert ⟨svc.hashAPIKey raw, [], nsID, none, false⟩ = some apiKeys ∧
          getOrCreateAPIKey svc db wallet ns buf = (.ok raw,
          ({ db₁ with apiKeys := apiKeys } : Database).recordKey svc nsID wallet (svc.hashAPIKey raw))) := by
  obtain ⟨nsID, hres, hmem⟩ := resolveNamespaceID_eq db ns
  rw [← h₁] at hres hmem
  refine ⟨nsID, hmem, ?_⟩
  rw [getOrCreateAPIKey, hres]
  by_cases hlink : linkedKey db₁ nsID wallet = []
  · simp only [hlink, ne_eq, not_true_eq_false, if_false]
    cases buf with
    | none => exact .inr (.inl ⟨_, rfl⟩)
    | some buf =>
      simp only [createAPIKey]
      cases hins : db₁.apiKeys.insert ⟨svc.hashAPIKey (rawKey buf.1 ns), [], nsID, none, false⟩ with
      | none => exact .inr (.inl ⟨_, rfl⟩)
      | some apiKeys => exact .inr (.inr ⟨_, apiKeys, trivial, rfl, hins, rfl⟩)
  · exact .inl ⟨hlink, by simp [hlink]⟩

variable {raw : Bytes}

lemma keyEffect_create {db db' : Database} (row : APIKey)
    (hns : Grows db db₁) (hk₁ : db₁.apiKeys = db.apiKeys) (hl₁ : db₁.walletAPIKeys = db.walletAPIKeys)
    (hk : db₁.apiKeys.insert row = some db'.apiKeys) (hns' : db'.namespaces = db₁.namespaces)
    (hkey : row.key = svc.hashAPIKey raw) (hraw : IsRaw raw) (hactive : row.revoked = false)
    (hplaced : ∃ name, (row.namespaceID, name) ∈ db₁.namespaces.rows)
    (hl : ∀ l ∈ db'.walletAPIKeys.rows, l ∈ db₁.walletAPIKeys.rows ∨
      l.2.namespaceID = row.namespaceID ∧ l.2.apiKeyID = db₁.apiKeys.next) : KeyEffect svc db (some raw) db' := by
  rw [hk₁] at hk hl
  rw [hl₁] at hl
  exact .create (hns.congr hns') hk hkey hraw hactive (hns' ▸ hplaced) hl

lemma keyEffect_recordKey {db : Database} (wallet : Bytes)
    {apiKeys : Table APIKey APIKey.key} (hns : Grows db db₁) (hk₁ : db₁.apiKeys = db.apiKeys)
    (hl₁ : db₁.walletAPIKeys = db.walletAPIKeys) (hmem : (nsID, name) ∈ db₁.namespaces.rows) (hraw : IsRaw raw)
    (hins : db₁.apiKeys.insert ⟨svc.hashAPIKey raw, [], nsID, none, false⟩ = some apiKeys) :
    KeyEffect svc db (some raw)
      (({ db₁ with apiKeys := apiKeys } : Database).recordKey svc nsID wallet (svc.hashAPIKey raw)) := by
  refine keyEffect_create ⟨svc.hashAPIKey raw, [], nsID, none, false⟩ hns hk₁ hl₁ ?_ ?_ rfl hraw rfl
    ⟨name, hmem⟩ ?_
  · simpa [recordKey] using hins
  · simp [recordKey]
  · have hins' : db₁.apiKeys.insert _ = some ({ db₁ with apiKeys := apiKeys } : Database).apiKeys := hins
    exact fun l hl => mem_linkWallet hins' hl

lemma isRaw_of_newKey {buf : Random 18} {ns : Bytes} (h : some raw = newKey buf ns) : IsRaw raw := by
  obtain ⟨b, _, rfl⟩ := Option.map_eq_some_iff.1 h.symm
  exact isRaw_rawKey _ _

section
variable (svc : KeyService) (db : Database)

lemma keyEffect_getOrCreateAPIKey (wallet ns : Bytes)
    (buf : Random 18) : ∃ raw, (raw = none ∨ raw = newKey buf ns) ∧
      KeyEffect svc db raw (getOrCreateAPIKey svc db wallet ns buf).2 := by
  have hgrows := grows_ensureNamespace db (namespaceName_ne_nil ns)
  obtain ⟨nsID, hmem, ⟨_, h⟩ | ⟨e, h⟩ | ⟨raw, apiKeys, _, hraw, hins, h⟩⟩ :=
    getOrCreateAPIKey_cases svc db wallet ns buf rfl
  · exact ⟨none, .inl rfl, h ▸ .idle hgrows rfl rfl⟩
  · exact ⟨none, .inl rfl, h ▸ .idle hgrows rfl rfl⟩
  · rw [h]
    exact ⟨some raw, .inr hraw, keyEffect_recordKey wallet hgrows rfl rfl hmem (isRaw_of_newKey hraw) hins⟩

lemma keyEffect_issueScopedKey (ns storedScopes label : Bytes) (buf : Random 18) :
    ∃ raw, (raw = none ∨ raw = newKey buf (trimSpace ns)) ∧
    KeyEffect svc db raw (issueScopedKey svc db ns storedScopes label buf).2 := by
  have hsame : Grows db db := ⟨fun _ h => h, fun _ h => .inl h⟩
  have hgrows := grows_ensureNamespace db (namespaceName_ne_nil (trimSpace ns))
  obtain ⟨nsID, hres, hmem⟩ := resolveNamespaceID_eq db (trimSpace ns)
  simp only [issueScopedKey, hres]
  split
  · exact ⟨none, .inl rfl, .idle hsame rfl rfl⟩
  split
  · exact ⟨none, .inl rfl, .idle hsame rfl rfl⟩
  split
  · exact ⟨none, .inl rfl, .idle hgrows rfl rfl⟩
  · next buf =>
    simp only [storeScopedKey]
    split
    · exact ⟨none, .inl rfl, .idle hgrows rfl rfl⟩
    · next apiKeys hins =>
      refine ⟨some (rawKey buf.1 (trimSpace ns)), .inr rfl, ?_⟩
      have heffect : ∀ db', db'.apiKeys = apiKeys →
          db'.namespaces = (db.ensureNamespace (namespaceName (trimSpace ns))).namespaces →
          db'.walletAPIKeys = db.walletAPIKeys → KeyEffect svc db (some (rawKey buf.1 (trimSpace ns))) db' := by
        rintro db' rfl hns hl
        exact keyEffect_create _ hgrows rfl rfl hins hns rfl (isRaw_rawKey _ _) rfl ⟨_, hmem⟩
          fun l h => .inl (hl ▸ h)
      split
      · split <;> exact heffect _ rfl rfl rfl
      · exact heffect _ rfl rfl rfl

lemma keyEffect_revokeKey (ns : Bytes) (id : Nat) : KeyEffect svc db none (revokeKey db ns id).2 := by
  have hgrows := grows_ensureNamespace db (namespaceName_ne_nil ns)
  obtain ⟨nsID, hres, _⟩ := resolveNamespaceID_eq db ns
  rw [revokeKey, hres]
  dsimp only
  split
  · exact .idle hgrows rfl rfl
  · refine .revoke (fun k => k.1 = id ∧ k.2.namespaceID = nsID) ?_ ?_ ?_
    · split <;> exact hgrows.congr rfl
    · split <;> rfl
    · split <;> rfl

end

lemma foldl_disown (hashes : List Bytes) (db : Database) (nsID : Nat) :
    ∃ ownership, hashes.foldl (fun db h => db.disown nsID h) db = { db with ownership := ownership } := by
  induction hashes generalizing db with
  | nil => exact ⟨db.ownership, rfl⟩
  | cons h hashes ih =>
    obtain ⟨ownership, heq⟩ := ih (db.disown nsID h)
    exact ⟨ownership, heq⟩

lemma keyEffect_revokeAllLegacy (svc : KeyService) (db : Database) (ns : Bytes) :
    KeyEffect svc db none (revokeAllLegacy db ns).2 := by
  have hgrows := grows_ensureNamespace db (namespaceName_ne_nil ns)
  obtain ⟨nsID, hres, _⟩ := resolveNamespaceID_eq db ns
  rw [revokeAllLegacy, hres]
  dsimp only
  obtain ⟨ownership, heq⟩ := foldl_disown _ _ nsID
  rw [heq]
  exact .revoke (isLegacy nsID) (hgrows.congr rfl) rfl rfl

inductive KeyOp
  | getOrCreateAPIKey (wallet ns : Bytes) (buf : Random 18)
  | issueScopedKey (ns storedScopes label : Bytes) (buf : Random 18)
  | revokeKey (ns : Bytes) (id : Nat)
  | revokeAllLegacy (ns : Bytes)

def KeyOp.apply (svc : KeyService) (db : Database) : KeyOp → Database
  | getOrCreateAPIKey wallet ns buf => (Gateway.getOrCreateAPIKey svc db wallet ns buf).2
  | issueScopedKey ns storedScopes label buf =>
    (Gateway.issueScopedKey svc db ns storedScopes label buf).2
  | revokeKey ns id => (Gateway.revokeKey db ns id).2
  | revokeAllLegacy ns => (Gateway.revokeAllLegacy db ns).2

def KeyOp.newKey : KeyOp → Option Bytes
  | getOrCreateAPIKey _ ns buf => Gateway.newKey buf ns
  | issueScopedKey ns _ _ buf => Gateway.newKey buf (trimSpace ns)
  | _ => none

def KeyOp.created (svc : KeyService) (db : Database) (op : KeyOp) : Option Bytes :=
  if (op.apply svc db).apiKeys.next = db.apiKeys.next then none else op.newKey

lemma KeyOp.keyEffect (svc : KeyService) (db : Database) (op : KeyOp) :
    KeyEffect svc db (op.created svc db) (op.apply svc db) := by
  have hop : ∃ raw, (raw = none ∨ raw = op.newKey) ∧ KeyEffect svc db raw (op.apply svc db) := by
    cases op with
    | getOrCreateAPIKey wallet ns buf => exact keyEffect_getOrCreateAPIKey svc db wallet ns buf
    | issueScopedKey ns scopes label buf => exact keyEffect_issueScopedKey svc db ns scopes label buf
    | revokeKey ns id => exact ⟨none, .inl rfl, keyEffect_revokeKey svc db ns id⟩
    | revokeAllLegacy ns => exact ⟨none, .inl rfl, keyEffect_revokeAllLegacy svc db ns⟩
  obtain ⟨raw, hraw, heffect⟩ := hop
  have hcreated : op.created svc db = raw := by
    rw [created]
    cases heffect with
    | idle hns hk hl => rw [hk, if_pos rfl]
    | revoke p hns hk hl =>
      rw [hk]
      exact if_pos rfl
    | create hns hk hkey hisRaw hactive hplaced hl =>
      obtain ⟨_, hpush⟩ := insert_eq_some_iff.1 hk
      have hne : (op.apply svc db).apiKeys.next ≠ db.apiKeys.next := by
        rw [← hpush]
        exact Nat.succ_ne_self _
      grind
  rw [hcreated]
  exact heffect

lemma hashAPIKey_ne_nil (svc : KeyService) (h : IsRaw raw) : svc.hashAPIKey raw ≠ [] := by
  obtain ⟨t, rfl⟩ := h
  rw [KeyService.hashAPIKey]
  split
  · exact List.cons_ne_nil _ _
  · grind [length_bytesToHex, Sha256.length_hmac, hmacSHA256Hex]

structure SameKey (k k₀ : Nat × APIKey) : Prop where
  id : k.1 = k₀.1
  key : k.2.key = k₀.2.key
  namespaceID : k.2.namespaceID = k₀.2.namespaceID

section
variable {svc : KeyService} {db db' : Database} {raw : Option Bytes} (h : KeyEffect svc db raw db')
include h

lemma KeyEffect.grows : Grows db db' := by
  cases h with
  | idle hns hk hl => exact hns
  | create hns hk hkey hraw hactive hp hl => exact hns
  | revoke p hns hk hl => exact hns

lemma KeyEffect.exists_after {k₀ : Nat × APIKey} (hk₀ : k₀ ∈ db.apiKeys.rows) :
    ∃ k ∈ db'.apiKeys.rows, SameKey k k₀ := by
  cases h with
  | idle hns hk hl => exact ⟨k₀, hk ▸ hk₀, rfl, rfl, rfl⟩
  | create hns hk hkey hraw hactive hp hl => exact ⟨k₀, (mem_insert hk).2 (.inl hk₀), rfl, rfl, rfl⟩
  | revoke p hns hk hl =>
    refine ⟨(k₀.1, if p k₀ then k₀.2.revoke else k₀.2), ?_, rfl, ?_, ?_⟩
    · rw [hk]
      exact mem_update.2 ⟨k₀, hk₀, rfl⟩
    · dsimp only
      split <;> rfl
    · dsimp only
      split <;> rfl

lemma KeyEffect.exists_before {k : Nat × APIKey} (hk' : k ∈ db'.apiKeys.rows) :
    (∃ k₀ ∈ db.apiKeys.rows, SameKey k k₀) ∨
    ∃ r, raw = some r ∧ IsRaw r ∧ k.1 = db.apiKeys.next ∧ k.2.key = svc.hashAPIKey r ∧
    ∃ name, (k.2.namespaceID, name) ∈ db'.namespaces.rows := by
  cases h with
  | idle hns hk hl => exact .inl ⟨k, hk ▸ hk', rfl, rfl, rfl⟩
  | create hns hk hkey hraw hactive hp hl =>
    rcases (mem_insert hk).1 hk' with hold | rfl
    · exact .inl ⟨k, hold, rfl, rfl, rfl⟩
    · exact .inr ⟨_, rfl, hraw, rfl, hkey, hp⟩
  | revoke p hns hk hl =>
    obtain ⟨k₀, hk₀, rfl⟩ := mem_update.1 (hk ▸ hk')
    refine .inl ⟨k₀, hk₀, rfl, ?_, ?_⟩
    · dsimp only
      split <;> rfl
    · dsimp only
      split <;> rfl

lemma KeyEffect.exists_created {r : Bytes} (hr : raw = some r) :
    IsRaw r ∧ ∃ k ∈ db'.apiKeys.rows, k.1 = db.apiKeys.next ∧ k.2.key = svc.hashAPIKey r := by
  cases h with
  | idle hns hk hl => cases hr
  | create hns hk hkey hraw hactive hp hl =>
    cases hr
    exact ⟨hraw, _, (mem_insert hk).2 (.inr rfl), rfl, hkey⟩
  | revoke p hns hk hl => cases hr

lemma KeyEffect.exists_linked {l : Nat × WalletAPIKey} (hl' : l ∈ db'.walletAPIKeys.rows) :
    l ∈ db.walletAPIKeys.rows ∨ ∃ k ∈ db'.apiKeys.rows, k.1 = l.2.apiKeyID ∧ k.2.namespaceID = l.2.namespaceID := by
  cases h with
  | idle hns hk hl => exact .inl (hl ▸ hl')
  | create hns hk hkey hraw hactive hp hl =>
    rcases hl l hl' with hold | ⟨hid, hkeyID⟩
    · exact .inl hold
    · exact .inr ⟨_, (mem_insert hk).2 (.inr rfl), hkeyID.symm, hid.symm⟩
  | revoke p hns hk hl => exact .inl (hl ▸ hl')

lemma KeyEffect.valid (hv : db.Valid) : db'.Valid where
  named n hn := by
    rcases h.grows.named n hn with hold | hne
    · exact hv.named n hold
    · exact hne
  placed k hk := by
    rcases h.exists_before hk with ⟨k₀, hk₀, hsame⟩ | ⟨r, _, _, _, _, hp⟩
    · obtain ⟨name, hname⟩ := hv.placed k₀ hk₀
      exact ⟨name, hsame.namespaceID ▸ h.grows.mem _ hname⟩
    · exact hp
  texts k hk := by
    rcases h.exists_before hk with ⟨k₀, hk₀, hsame⟩ | ⟨r, _, hraw, _, hkey, _⟩
    · exact hsame.key ▸ hv.texts k₀ hk₀
    · exact hkey ▸ hashAPIKey_ne_nil svc hraw
  linked l hl := by
    rcases h.exists_linked hl with hold | hnew
    · obtain ⟨k₀, hk₀, hid, hns⟩ := hv.linked l hold
      obtain ⟨k, hk, hsame⟩ := h.exists_after hk₀
      exact ⟨k, hk, hsame.id.trans hid, hsame.namespaceID.trans hns⟩
    · exact hnew

end

structure KeyState where
  db : Database
  raws : List (Nat × Bytes)

def KeyState.step (svc : KeyService) (s : KeyState) (op : KeyOp) : KeyState where
  db := op.apply svc s.db
  raws := ((op.created svc s.db).map fun raw => (s.db.apiKeys.next, raw)).toList ++ s.raws

def KeyState.run (svc : KeyService) (ops : List KeyOp) : KeyState :=
  ops.foldl (KeyState.step svc) ⟨Database.empty, []⟩

structure KeyState.Generated (svc : KeyService) (s : KeyState) : Prop where
  valid : s.db.Valid
  isRaw : ∀ e ∈ s.raws, IsRaw e.2
  raw : ∀ k ∈ s.db.apiKeys.rows, ∃ raw, (k.1, raw) ∈ s.raws ∧ k.2.key = svc.hashAPIKey raw
  row : ∀ e ∈ s.raws, ∃ k ∈ s.db.apiKeys.rows, k.1 = e.1 ∧ k.2.key = svc.hashAPIKey e.2

lemma KeyState.Generated.step {s : KeyState} (hs : s.Generated svc) (op : KeyOp) :
    (s.step svc op).Generated svc := by
  have h := op.keyEffect svc s.db
  have hnew : ∀ e, e ∈ (s.step svc op).raws ↔
      (∃ r, op.created svc s.db = some r ∧ (s.db.apiKeys.next, r) = e) ∨ e ∈ s.raws := by
    intro e
    simp [KeyState.step]
  constructor
  · exact h.valid hs.valid
  · intro e he
    rcases (hnew e).1 he with ⟨r, hr, rfl⟩ | hold
    · exact (h.exists_created hr).1
    · exact hs.isRaw e hold
  · intro k hk
    rcases h.exists_before hk with ⟨k₀, hk₀, hsame⟩ | ⟨r, hr, _, hid, hkey, _⟩
    · obtain ⟨raw, hraw, hkey⟩ := hs.raw k₀ hk₀
      exact ⟨raw, (hnew _).2 (.inr (hsame.id ▸ hraw)), hsame.key.trans hkey⟩
    · exact ⟨r, (hnew _).2 (.inl ⟨r, hr, by rw [hid]⟩), hkey⟩
  · intro e he
    rcases (hnew e).1 he with ⟨r, hr, rfl⟩ | hold
    · exact (h.exists_created hr).2
    · obtain ⟨k₀, hk₀, hid, hkey⟩ := hs.row e hold
      obtain ⟨k, hk, hsame⟩ := h.exists_after hk₀
      exact ⟨k, hk, hsame.id.trans hid, hsame.key.trans hkey⟩

lemma Database.valid_empty : empty.Valid := by
  have hkeys : empty.apiKeys.rows = [] := rfl
  have hlinks : empty.walletAPIKeys.rows = [] := rfl
  exact ⟨by decide, by simp [hkeys], by simp [hkeys], by simp [hlinks]⟩

lemma generated_run (svc : KeyService) (ops : List KeyOp) : (KeyState.run svc ops).Generated svc := by
  apply List.foldlRecOn
  · have hkeys : empty.apiKeys.rows = [] := rfl
    exact ⟨valid_empty, by simp, by simp [hkeys], by simp⟩
  · exact fun s hs op _ => hs.step op

lemma Database.Valid.activeEntry_eq_some {db : Database} (hv : db.Valid) {k : Nat × APIKey} (hk : k ∈ db.apiKeys.rows) (hactive : k.2.revoked = false)
    (hname : (k.2.namespaceID, name) ∈ db.namespaces.rows) :
    db.activeEntry k.2.key = some (name, k.2.scopes.getD []) := by
  have hrow : db.apiKeys.select (fun r => r.2.key = k.2.key ∧ r.2.revoked = false) = some k :=
    (db.apiKeys.select_eq_some_iff k.2.key (by simp +contextual)).2 ⟨hk, by simp [hactive]⟩
  have hns : db.namespaces.select (fun n => n.1 = k.2.namespaceID) = some (k.2.namespaceID, name) :=
    db.namespaces.select_id_eq_some_iff.2 ⟨hname, rfl⟩
  rw [activeEntry, hrow, Option.bind_some, hns, Option.bind_some, if_neg (hv.named _ hname)]

lemma Database.activeEntry_eq_none {db : Database} {stored : Bytes}
    (h : ∀ k ∈ db.apiKeys.rows, k.2.key = stored → k.2.revoked) : db.activeEntry stored = none := by
  grind [select_eq_none_iff, activeEntry]

end Orama.Gateway
