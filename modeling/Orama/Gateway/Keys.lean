import Orama.Gateway.Database

namespace Orama.Gateway
open Lib

structure KeyService where
  apiKeyHMACSecret : Bytes
  toLower : Bytes → Bytes

def hmacSHA256Hex (data secret : Bytes) : Bytes := bytesToHex (Sha256.hmac secret data)

def KeyService.hashAPIKey (svc : KeyService) (key : Bytes) : Bytes :=
  if svc.apiKeyHMACSecret = [] then key else hmacSHA256Hex key svc.apiKeyHMACSecret

def rawURLEncode (bytes : Bytes) : Bytes :=
  ((Base64.encode bytes).filter (· ≠ Base64.padChar)).map fun c =>
    if c = 43 then 45 else if c = 47 then 95 else c

abbrev Random (n : Nat) := Option { bytes : Bytes // bytes.length = n }

def rawKey (buf : Bytes) (ns : Bytes) : Bytes := ascii "ak_" ++ rawURLEncode buf ++ 58 :: ns

def sqlLower (s : Bytes) : Bytes := s.map lowerAscii

def sqlTrim (s : Bytes) : Bytes := ((s.dropWhile (· = 32)).reverse.dropWhile (· = 32)).reverse

inductive KeyError
  | namespaceUnresolved
  | randomUnavailable
  | notStored
  | emptyScopeSet
  | namespaceRequired
  | idUnresolved
  | noActiveKey (id : Nat)
deriving DecidableEq, Repr

def linkedRow (db : Database) (nsID : Nat) (wallet : Bytes) : Option (Nat × APIKey) :=
  (db.walletAPIKeys.select fun l =>
    l.2.namespaceID = nsID ∧ sqlLower l.2.wallet = sqlLower wallet ∧
      (db.apiKeys.select fun k => k.1 = l.2.apiKeyID).isSome).bind fun l =>
    db.apiKeys.select fun k => k.1 = l.2.apiKeyID

def linkedKey (db : Database) (nsID : Nat) (wallet : Bytes) : Bytes :=
  ((linkedRow db nsID wallet).map fun k => k.2.key).getD []

def Database.keyID (db : Database) (stored : Bytes) : Option Nat :=
  (db.apiKeys.select fun k => k.2.key = stored).map Prod.fst

def Database.own (db : Database) (nsID : Nat) (ownerType : OwnerType) (ownerID : Bytes) : Database :=
  { db with ownership := db.ownership.insertOrIgnore ⟨nsID, ownerType, ownerID⟩ }

def Database.disown (db : Database) (nsID : Nat) (ownerID : Bytes) : Database :=
  { db with ownership := db.ownership.delete fun o => o.2 = ⟨nsID, .apiKey, ownerID⟩ }

def Database.linkWallet (db : Database) (svc : KeyService) (nsID : Nat) (wallet stored : Bytes) : Database :=
  match db.keyID stored with
  | some id =>
    { db with walletAPIKeys := db.walletAPIKeys.insertOrIgnore ⟨nsID, svc.toLower wallet, id⟩ }
  | none => db

def Database.recordKey (db : Database) (svc : KeyService) (nsID : Nat) (wallet stored : Bytes) : Database :=
  ((db.linkWallet svc nsID wallet stored).own nsID .apiKey stored).own nsID .wallet wallet

def createAPIKey (svc : KeyService) (db : Database) (nsID : Nat) (wallet ns buf : Bytes) :
    Except KeyError Bytes × Database :=
  let apiKey := rawKey buf ns
  let hashedKey := svc.hashAPIKey apiKey
  match db.apiKeys.insert ⟨hashedKey, [], nsID, none, false⟩ with
  | none => (.error .notStored, db)
  | some apiKeys =>
    (.ok apiKey, ({ db with apiKeys := apiKeys } : Database).recordKey svc nsID wallet hashedKey)

def getOrCreateAPIKey (svc : KeyService) (db : Database) (wallet ns : Bytes) (buf : Random 18) :
    Except KeyError Bytes × Database :=
  match resolveNamespaceID db ns with
  | (none, db) => (.error .namespaceUnresolved, db)
  | (some nsID, db) =>
    let apiKey := linkedKey db nsID wallet
    if apiKey ≠ [] then (.ok apiKey, db)
    else
      match buf with
      | none => (.error .randomUnavailable, db)
      | some buf => createAPIKey svc db nsID wallet ns buf.1

def storeScopedKey (svc : KeyService) (db : Database) (nsID : Nat) (ns storedScopes label buf : Bytes) :
    Except KeyError (Bytes × Nat) × Database :=
  let apiKey := rawKey buf ns
  let hashedKey := svc.hashAPIKey apiKey
  match db.apiKeys.insert ⟨hashedKey, label, nsID, some storedScopes, false⟩ with
  | none => (.error .notStored, db)
  | some apiKeys =>
    let db := ({ db with apiKeys := apiKeys } : Database).own nsID .apiKey hashedKey
    match db.keyID hashedKey with
    | some id => if id = 0 then (.error .idUnresolved, db) else (.ok (apiKey, id), db)
    | none => (.error .idUnresolved, db)

def issueScopedKey (svc : KeyService) (db : Database) (ns storedScopes label : Bytes)
    (buf : Random 18) : Except KeyError (Bytes × Nat) × Database :=
  if trimSpace storedScopes = [] then (.error .emptyScopeSet, db)
  else
    let ns := trimSpace ns
    if ns = [] then (.error .namespaceRequired, db)
    else
      match resolveNamespaceID db ns with
      | (none, db) => (.error .namespaceUnresolved, db)
      | (some nsID, db) =>
        match buf with
        | none => (.error .randomUnavailable, db)
        | some buf => storeScopedKey svc db nsID ns storedScopes label buf.1

def APIKey.revoke (k : APIKey) : APIKey := { k with revoked := true }

lemma APIKey.key_revoke (k : APIKey) : k.revoke.key = k.key := rfl

def Database.revokeWhere (db : Database) (p : Nat × APIKey → Bool) : Database :=
  { db with apiKeys := db.apiKeys.update p APIKey.revoke APIKey.key_revoke }

def revokeKey (db : Database) (ns : Bytes) (id : Nat) : Except KeyError Unit × Database :=
  match resolveNamespaceID db ns with
  | (none, db) => (.error .namespaceUnresolved, db)
  | (some nsID, db) =>
    match db.apiKeys.select fun k => k.1 = id ∧ k.2.namespaceID = nsID ∧ k.2.revoked = false with
    | none => (.error (.noActiveKey id), db)
    | some k =>
      let db := db.revokeWhere fun k => k.1 = id ∧ k.2.namespaceID = nsID
      (.ok (), if k.2.key ≠ [] then db.disown nsID k.2.key else db)

def isLegacy (nsID : Nat) (k : Nat × APIKey) : Bool :=
  k.2.namespaceID = nsID ∧ k.2.revoked = false ∧ (k.2.scopes.all fun s => sqlTrim s = []) = true

def revokeAllLegacy (db : Database) (ns : Bytes) : Except KeyError Nat × Database :=
  match resolveNamespaceID db ns with
  | (none, db) => (.error .namespaceUnresolved, db)
  | (some nsID, db) =>
    let hashes := ((db.apiKeys.rows.filter (isLegacy nsID)).map fun k => k.2.key).filter (· ≠ [])
    (.ok hashes.length, hashes.foldl (fun db h => db.disown nsID h) (db.revokeWhere (isLegacy nsID)))

def Database.activeEntry (db : Database) (stored : Bytes) : Option (Bytes × Bytes) :=
  (db.apiKeys.select fun k => k.2.key = stored ∧ k.2.revoked = false).bind fun k =>
    (db.namespaces.select fun n => n.1 = k.2.namespaceID).bind fun n =>
      if n.2 = [] then none else some (n.2, k.2.scopes.getD [])

def lookupAPIKeyEntry (svc : KeyService) (db : Database) (key : Bytes) : Option (Bytes × Bytes) :=
  let hashedKey := svc.hashAPIKey key
  (db.activeEntry hashedKey).or (if hashedKey ≠ key then db.activeEntry key else none)

end Orama.Gateway
