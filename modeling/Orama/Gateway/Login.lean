import Orama.Gateway.Signature

namespace Orama.Gateway
open Lib

structure AuthService extends KeyService where
  lib : WalletLib
  clientNamespace : Bytes
  defaultNS : Bytes
  hasSigningKey : Bool
  hasEdSigningKey : Bool
  hasRotation : Bool

inductive ClusterStatus
  | needsProvisioning (started : Bool)
  | provisioning
  | ready
deriving DecidableEq, Repr

/-- What a request finds outside the database: the time, random bytes, the
answer of the claims provider and the state of the cluster. -/
structure Moment where
  now : Int
  buf : Random 32
  keyBuf : Random 18
  provided : List (Bytes × Option Bytes)
  cluster : Option ClusterStatus

inductive AuthError
  | randomUnavailable
  | namespaceUnresolved
  | notStored
  | signingKeyUnavailable
  | rotationNotConfigured
  | invalidRefreshToken
  | key (e : KeyError)
deriving DecidableEq, Repr

def reservedClaimKeys : List Bytes := [ascii "sub", ascii "iss", ascii "aud", ascii "iat", ascii "nbf",
  ascii "exp", ascii "namespace", ascii "custom", ascii "scopes"]

def maxCustomClaims : Nat := 16
def maxCustomClaimsBytes : Nat := 4096

def sanitizeLoop (count total : Nat) : List (Bytes × Option Bytes) → List (Bytes × Bytes)
  | [] => []
  | (key, value) :: claims =>
    if maxCustomClaims ≤ count then []
    else if reservedClaimKeys.contains key then sanitizeLoop count total claims
    else
      match value with
      | none => sanitizeLoop count total claims
      | some s =>
        if maxCustomClaimsBytes < total + key.length + s.length then []
        else (key, s) :: sanitizeLoop (count + 1) (total + key.length + s.length) claims

def sanitizeProviderClaims (claims : List (Bytes × Option Bytes)) : List (Bytes × Bytes) :=
  sanitizeLoop 0 0 claims

def resolveCustomClaims (m : Moment) (wallet ns : Bytes) : List (Bytes × Bytes) :=
  if wallet = [] ∨ ns = [] then [] else sanitizeProviderClaims m.provided

def accessClaims (now : Int) (ns subject : Bytes) (custom : List (Bytes × Bytes)) : JWTClaims :=
  ⟨ascii "orama-gateway", subject, ascii "gateway", now, now, now + 900, ns, custom⟩

def generateJWT (svc : AuthService) (now : Int) (ns subject : Bytes) (custom : List (Bytes × Bytes)) :
    Except AuthError JWTClaims :=
  if svc.hasEdSigningKey || svc.hasSigningKey then .ok (accessClaims now ns subject custom)
  else .error .signingKeyUnavailable

def sha256Hex (s : Bytes) : Bytes := bytesToHex (Sha256.hash s)

def challengeNamespace (svc : AuthService) (ns : Bytes) : Bytes :=
  if ns ≠ [] then ns else if svc.defaultNS ≠ [] then svc.defaultNS else ascii "default"

def createNonce (svc : AuthService) (db : Database) (m : Moment) (wallet purpose ns : Bytes) :
    Except AuthError Bytes × Database :=
  match m.buf with
  | none => (.error .randomUnavailable, db)
  | some buf =>
    let nonce := rawURLEncode buf.1
    let ns := challengeNamespace svc ns
    match resolveNamespaceID (db.ensureNamespace ns) ns with
    | (none, db) => (.error .namespaceUnresolved, db)
    | (some nsID, db) =>
      match db.nonces.insert ⟨nsID, svc.toLower (trimSpace wallet), nonce, purpose, m.now + 300, none⟩ with
      | none => (.error .notStored, db)
      | some nonces => (.ok nonce, { db with nonces := nonces })

def Nonce.markUsed (now : Int) (n : Nonce) : Nonce := { n with usedAt := some now }

lemma Nonce.key_markUsed (now : Int) (n : Nonce) : (n.markUsed now).key = n.key := rfl

def markNonceUsed (db : Database) (now : Int) (nsID : Option Nat) (wallet nonce : Bytes) : Database :=
  { db with
    nonces := db.nonces.update
      (fun n => some n.2.namespaceID = nsID ∧ n.2.wallet = wallet ∧ n.2.nonce = nonce)
      (Nonce.markUsed now) (Nonce.key_markUsed now) }

def storeRefreshToken (db : Database) (now : Int) (nsID : Nat) (subject refresh : Bytes)
    (custom : List (Bytes × Bytes)) : Option Database :=
  (db.refreshTokens.insert ⟨nsID, subject, sha256Hex refresh, ascii "gateway", now + 2592000, custom,
    none, none⟩).map fun tokens => { db with refreshTokens := tokens }

def issueTokens (svc : AuthService) (db : Database) (m : Moment) (wallet ns : Bytes) :
    Except AuthError (JWTClaims × Bytes) × Database :=
  if !svc.hasSigningKey then (.error .signingKeyUnavailable, db)
  else
    let custom := resolveCustomClaims m wallet ns
    match generateJWT svc m.now ns wallet custom, m.buf with
    | .error e, _ => (.error e, db)
    | .ok _, none => (.error .randomUnavailable, db)
    | .ok token, some buf =>
      let refresh := rawURLEncode buf.1
      match resolveNamespaceID db ns with
      | (none, db) => (.error .namespaceUnresolved, db)
      | (some nsID, db) =>
        match storeRefreshToken db m.now nsID wallet refresh custom with
        | none => (.error .notStored, db)
        | some db => (.ok (token, refresh), db)

def refreshReuseGrace : Int := 60

def RefreshToken.revoke (now : Int) (t : RefreshToken) : RefreshToken := { t with revokedAt := some now }

def RefreshToken.useGrace (now : Int) (t : RefreshToken) : RefreshToken :=
  { t with graceUsedAt := some now }

lemma RefreshToken.token_revoke (now : Int) (t : RefreshToken) : (t.revoke now).token = t.token := rfl

lemma RefreshToken.token_useGrace (now : Int) (t : RefreshToken) : (t.useGrace now).token = t.token := rfl

def inGrace (now : Int) (t : RefreshToken) : Bool :=
  (t.revokedAt.any fun at' => now - refreshReuseGrace < at') && t.graceUsedAt.isNone

def claimRefreshToken (db : Database) (now : Int) (nsID : Nat) (hashed : Bytes) : Option (RefreshToken × Database) :=
  let isRow := fun t : Nat × RefreshToken => t.2.namespaceID = nsID ∧ t.2.token = hashed
  match db.refreshTokens.select fun t => isRow t ∧ t.2.revokedAt = none ∧ now < t.2.expiresAt with
  | some t =>
    some (t.2, { db with
      refreshTokens := db.refreshTokens.update (fun t => isRow t ∧ t.2.revokedAt = none)
        (RefreshToken.revoke now) (RefreshToken.token_revoke now) })
  | none =>
    match db.refreshTokens.select fun t => isRow t ∧ inGrace now t.2 = true ∧ now < t.2.expiresAt with
    | some t =>
      if t.2.subject = [] then none
      else
        some (t.2, { db with
          refreshTokens := db.refreshTokens.update (fun t => isRow t ∧ inGrace now t.2 = true)
            (RefreshToken.useGrace now) (RefreshToken.token_useGrace now) })
    | none => none

def refreshToken (svc : AuthService) (db : Database) (m : Moment) (token ns : Bytes) :
    Except AuthError (JWTClaims × Bytes) × Database :=
  if !svc.hasRotation then (.error .rotationNotConfigured, db)
  else
    match resolveNamespaceID db ns with
    | (none, db) => (.error .namespaceUnresolved, db)
    | (some nsID, db) =>
      match claimRefreshToken db m.now nsID (sha256Hex token) with
      | none => (.error .invalidRefreshToken, db)
      | some (row, db) =>
        match generateJWT svc m.now ns row.subject row.customClaims, m.buf with
        | .error e, _ => (.error e, db)
        | .ok _, none => (.error .randomUnavailable, db)
        | .ok token, some buf =>
          let refresh := rawURLEncode buf.1
          match storeRefreshToken db m.now nsID row.subject refresh row.customClaims with
          | none => (.error .notStored, db)
          | some db => (.ok (token, refresh), db)

end Orama.Gateway
