import Mathlib.Data.Finset.Sort
import Orama.Gateway.Authorization
import Orama.Gateway.Login

namespace Orama.Gateway
open Lib

structure Call (β : Type) where
  method : Method
  body : Option β

structure ChallengeRequest where
  wallet : Bytes
  purpose : Bytes
  ns : Bytes

structure SignedRequest where
  wallet : Bytes
  nonce : Bytes
  signature : Bytes
  ns : Bytes
  chainType : Bytes
deriving DecidableEq

structure SimpleAPIKeyRequest where
  wallet : Bytes
  ns : Bytes

structure RefreshRequest where
  refreshToken : Bytes
  ns : Bytes

inductive AuthResponse
  | error (status : Nat) (message : Bytes)
  | failed (status : Nat) (e : AuthError)
  | challenge (wallet ns nonce purpose : Bytes)
  | session (status : Nat) (accessToken : JWTClaims) (refreshToken apiKey : Bytes)
  | provisioning
  | apiKey (key : Bytes)
  | token (accessToken : JWTClaims)
  | refreshed (accessToken : JWTClaims) (refreshToken : Bytes)
deriving DecidableEq

def Call.serve {β : Type} (c : Call β) (db : Database) (f : β → AuthResponse × Database) : AuthResponse × Database :=
  if c.method ≠ .post then (.error 405 (ascii "method not allowed"), db)
  else
    match c.body with
    | none => (.error 400 (ascii "invalid json body"), db)
    | some body => f body

def challengeHandler (svc : AuthService) (db : Database) (m : Moment) (c : Call ChallengeRequest) :
    AuthResponse × Database :=
  c.serve db fun req =>
    if trimSpace req.wallet = [] then (.error 400 (ascii "wallet is required"), db)
    else
      match createNonce svc db m req.wallet req.purpose req.ns with
      | (.error e, db) => (.failed 500 e, db)
      | (.ok nonce, db) => (.challenge req.wallet req.ns nonce req.purpose, db)

def SignedRequest.refused (svc : AuthService) (req : SignedRequest) : Option AuthResponse :=
  if trimSpace req.wallet = [] ∨ trimSpace req.nonce = [] ∨ trimSpace req.signature = [] then
    some (.error 400 (ascii "wallet, nonce and signature are required"))
  else if !svc.verifySignature svc.lib req.wallet req.nonce req.signature req.chainType then
    some (.error 401 (ascii "signature verification failed"))
  else none

def SignedRequest.mark (svc : AuthService) (db : Database) (m : Moment) (req : SignedRequest) : Database :=
  let (nsID, db) := resolveNamespaceID db req.ns
  markNonceUsed db m.now nsID (svc.toLower req.wallet) req.nonce

def issueAPIKey (svc : AuthService) (db : Database) (m : Moment) (wallet ns : Bytes) :
    Except AuthError Bytes × Database :=
  match getOrCreateAPIKey svc.toKeyService db wallet ns m.keyBuf with
  | (.error e, db) => (.error (.key e), db)
  | (.ok key, db) => (.ok key, db)

def issueSession (svc : AuthService) (db : Database) (m : Moment) (wallet ns : Bytes) :
    Except AuthError (JWTClaims × Bytes × Bytes) × Database :=
  match issueTokens svc db m wallet ns with
  | (.error e, db) => (.error e, db)
  | (.ok (token, refresh), db) =>
    match issueAPIKey svc db m wallet ns with
    | (.error e, db) => (.error e, db)
    | (.ok key, db) => (.ok (token, refresh, key), db)

def Moment.clusterOf (m : Moment) (ns : Bytes) : ClusterStatus :=
  if namespaceName ns = ascii "default" then .ready else m.cluster.getD .ready

def verifyHandler (svc : AuthService) (db : Database) (m : Moment) (c : Call SignedRequest) :
    AuthResponse × Database :=
  c.serve db fun req =>
    match req.refused svc with
    | some response => (response, db)
    | none =>
      match issueSession svc (req.mark svc db m) m req.wallet req.ns with
      | (.error e, db) => (.failed 500 e, db)
      | (.ok (token, refresh, key), db) =>
        match m.clusterOf req.ns with
        | .needsProvisioning true => (.session 202 token refresh key, db)
        | .needsProvisioning false => (.error 500 (ascii "failed to start cluster provisioning"), db)
        | .provisioning => (.session 202 token refresh key, db)
        | .ready => (.session 200 token refresh key, db)

def finishKey (svc : AuthService) (db : Database) (m : Moment) (wallet ns : Bytes) : AuthResponse × Database :=
  match issueAPIKey svc db m wallet ns with
  | (.error e, db) => (.failed 500 e, db)
  | (.ok key, db) => (.apiKey key, db)

def issueAPIKeyHandler (svc : AuthService) (db : Database) (m : Moment) (c : Call SignedRequest) :
    AuthResponse × Database :=
  c.serve db fun req =>
    match req.refused svc with
    | some response => (response, db)
    | none =>
      let db := req.mark svc db m
      match m.clusterOf req.ns with
      | .needsProvisioning true => (.provisioning, db)
      | .needsProvisioning false => (.error 500 (ascii "failed to start cluster provisioning"), db)
      | .provisioning => (.provisioning, db)
      | .ready => finishKey svc db m req.wallet req.ns

def simpleAPIKeyHandler (svc : AuthService) (db : Database) (m : Moment) (existingKey : Bytes)
    (c : Call SimpleAPIKeyRequest) : AuthResponse × Database :=
  if c.method ≠ .post then (.error 405 (ascii "method not allowed"), db)
  else if existingKey = [] then
    (.error 401 (ascii "simple auth requires an existing API key"), db)
  else
    c.serve db fun req =>
      if trimSpace req.wallet = [] then (.error 400 (ascii "wallet is required"), db)
      else
        match m.clusterOf req.ns with
        | .needsProvisioning started =>
          let db := db.ensureNamespace (namespaceName req.ns)
          if started then (.provisioning, db)
          else (.error 500 (ascii "failed to start cluster provisioning"), db)
        | .provisioning => (.provisioning, db)
        | .ready => finishKey svc db m req.wallet req.ns

def ScopeSet.canonical (scopes : ScopeSet) : Bytes := List.intercalate [44] (scopes.sort (· ≤ ·))

def apiKeyToJWTHandler (svc : AuthService) (db : Database) (m : Moment) (method : Method) (key : Bytes) :
    AuthResponse × Database :=
  if method ≠ .post then (.error 405 (ascii "method not allowed"), db)
  else if trimSpace key = [] then (.error 401 (ascii "missing API key"), db)
  else
    match lookupAPIKeyEntry svc.toKeyService db key with
    | none => (.error 401 (ascii "invalid API key"), db)
    | some (ns, rawScopes) =>
      let scopes := ScopeSet.canonical (scopesFromStored svc.toLower rawScopes)
      match generateJWT svc m.now ns key [(ascii "scopes", scopes)] with
      | .error e => (.failed 500 e, db)
      | .ok token => (.token token, db)

def AuthError.isTransient : AuthError → Bool
  | rotationNotConfigured => true
  | namespaceUnresolved => true
  | notStored => true
  | _ => false

def refreshHandler (svc : AuthService) (db : Database) (m : Moment) (c : Call RefreshRequest) :
    AuthResponse × Database :=
  c.serve db fun req =>
    if trimSpace req.refreshToken = [] then (.error 400 (ascii "refresh_token is required"), db)
    else
      match refreshToken svc db m req.refreshToken req.ns with
      | (.error e, db) =>
        if e.isTransient then (.error 503 (ascii "refresh temporarily unavailable, retry"), db)
        else (.error 401 (ascii "invalid or expired refresh token"), db)
      | (.ok (token, refresh), db) => (.refreshed token refresh, db)

inductive AuthRequest
  | challenge (c : Call ChallengeRequest)
  | verify (c : Call SignedRequest)
  | apiKey (c : Call SignedRequest)
  | simpleKey (key : Bytes) (c : Call SimpleAPIKeyRequest)
  | token (method : Method) (key : Bytes)
  | refresh (c : Call RefreshRequest)

def withAPIKey (svc : AuthService) (db : Database) (key : Bytes) (f : AuthResponse × Database) :
    AuthResponse × Database :=
  match lookupAPIKeyEntry svc.toKeyService db key with
  | none => (.error 401 (ascii "invalid API key"), db)
  | some (ns, _) =>
    let gateway := gatewayNamespace svc.clientNamespace
    if gateway ≠ ascii "default" ∧ trimSpace ns ≠ [] ∧ trimSpace ns ≠ gateway then
      (.error 403 (ascii "API key does not belong to this namespace"), db)
    else f

def handleAuth (svc : AuthService) (db : Database) (m : Moment) : AuthRequest → AuthResponse × Database
  | .challenge c => challengeHandler svc db m c
  | .verify c => verifyHandler svc db m c
  | .apiKey c => issueAPIKeyHandler svc db m c
  | .simpleKey key c => withAPIKey svc db key (simpleAPIKeyHandler svc db m key c)
  | .token method key => withAPIKey svc db key (apiKeyToJWTHandler svc db m method key)
  | .refresh c => refreshHandler svc db m c

end Orama.Gateway
