import Orama.Gateway.Auth
import Orama.Gateway.Keys

namespace Orama.Gateway
open Lib

def requiresNamespaceOwnership (p : Bytes) : Bool :=
  p = ascii "/rqlite" || p = ascii "/v1/rqlite" || hasPrefix p (ascii "/v1/rqlite/") ||
    hasPrefix p (ascii "/v1/pubsub") || hasPrefix p (ascii "/v1/proxy/") ||
    hasPrefix p (ascii "/v1/functions") || hasPrefix p (ascii "/v1/webrtc/") ||
    hasPrefix p (ascii "/v1/push/") || p = ascii "/v1/namespace/push-credentials" ||
    hasPrefix p (ascii "/v1/namespace/push-credentials/") || hasPrefix p (ascii "/v1/serverless/") ||
    p = ascii "/v1/namespace/keys" || hasPrefix p (ascii "/v1/namespace/keys/")

def apiKeyOwnerCandidates (ownerType : OwnerType) (ownerID hashed : Bytes) : List Bytes :=
  if ownerType = .apiKey ∧ hashed ≠ [] ∧ hashed ≠ ownerID then [hashed, ownerID] else [ownerID]

def Database.owns (db : Database) (o : NamespaceOwner) : Bool :=
  (db.ownership.select fun row => row.2 = o).isSome

def ownsBy (svc : KeyService) (db : Database) (nsID : Nat) (ownerType : OwnerType) (ownerID : Bytes) : Bool :=
  let hashed := if ownerType = .apiKey then svc.hashAPIKey ownerID else []
  (apiKeyOwnerCandidates ownerType ownerID hashed).any fun c => db.owns ⟨nsID, ownerType, c⟩

def nonBlank (s : Option Bytes) : Option Bytes := (s.map trimSpace).filter (· ≠ [])

def actorOf (svc : KeyService) (ctx : Context) : Option (OwnerType × Bytes) :=
  match nonBlank (ctx.jwt.map JWTClaims.sub) with
  | some subj =>
    if hasPrefix (svc.toLower subj) (ascii "ak_") || contains subj (ascii ":") then some (.apiKey, subj)
    else some (.wallet, subj)
  | none => (nonBlank ctx.apiKey).map (Prod.mk .apiKey)

def isOwner (svc : KeyService) (db : Database) (nsID : Nat) (ctx : Context) (ownerType : OwnerType)
    (ownerID : Bytes) : Bool :=
  ownsBy svc db nsID ownerType ownerID ||
    (ownerType = .wallet && (nonBlank ctx.apiKey).any fun key => ownsBy svc db nsID .apiKey key)

def forbidden (message : Bytes) : AuthResult := .reject 403 message []

def gatewayNamespace (clientNamespace : Bytes) : Bytes :=
  if clientNamespace ≠ [] then trimSpace clientNamespace else ascii "default"

def effectiveNamespace (clientNamespace : Bytes) (ctx : Context) : Bytes :=
  let ns := trimSpace (ctx.namespaceOverride.getD [])
  if ns ≠ [] then ns else trimSpace clientNamespace

def checkOwnership (svc : KeyService) (clientNamespace : Bytes) (db : Database) (r : Request) : AuthResult :=
  let ns := effectiveNamespace clientNamespace r.context
  if ns = [] then forbidden (ascii "namespace not resolved")
  else
    match actorOf svc r.context with
    | none => forbidden (ascii "missing identity")
    | some (ownerType, ownerID) =>
      match (db.ensureNamespace ns).namespaceID ns with
      | none => forbidden (ascii "namespace not found")
      | some nsID =>
        if isOwner svc db nsID r.context ownerType ownerID then
          if ownerType = .wallet then .next { r with context := { r.context with ownerConfirmed := true } }
          else .next r
        else forbidden (ascii "forbidden: not an owner of namespace")

def authorizationMiddleware (svc : KeyService) (clientNamespace : Bytes) (db : Database) (r : Request) : AuthResult :=
  if r.method = .options || isPublicPath r.path then .next r
  else if r.path = ascii "/v1/auth/whoami" then .next r
  else if hasPrefix r.path (ascii "/v1/namespace/status") then .next r
  else if r.headers.get headerValidated = ascii "true" && isInternalIP r.remoteAddr then .next r
  else
    let userNamespace := trimSpace (r.context.namespaceOverride.getD [])
    if gatewayNamespace clientNamespace ≠ ascii "default" ∧ userNamespace ≠ [] ∧
        userNamespace ≠ gatewayNamespace clientNamespace then
      forbidden (ascii "API key does not belong to this namespace")
    else if !requiresNamespaceOwnership r.path then .next r
    else checkOwnership svc clientNamespace db r

def isAPIKeySubject (toLower : Bytes → Bytes) (sub : Bytes) : Bool :=
  hasPrefix (toLower (trimSpace sub)) (ascii "ak_")

def dataPlaneScopes : ScopeSet :=
  {Grant.invoke.text, Grant.storage.text, Grant.push.text, Grant.webrtc.text, Grant.proxy.text,
    Grant.pubsub.text, Grant.cache.text}

def scopesClaim (toLower : Bytes → Bytes) (claims : JWTClaims) : Option Bytes :=
  if isAPIKeySubject toLower claims.sub then
    nonBlank ((claims.custom.find? fun e => e.1 = ascii "scopes").map Prod.snd)
  else none

def callerScopes (toLower : Bytes → Bytes) (ctx : Context) : ScopeSet :=
  match ctx.jwt with
  | some claims =>
    match scopesClaim toLower claims with
    | some raw => parseScopes toLower raw
    | none => if ctx.ownerConfirmed then {Grant.admin.text} else dataPlaneScopes
  | none => ctx.scopes.getD ∅

def requiresUserJWT (grant : Grant) : Bool := grant = .storage || grant = .webrtc || grant = .proxy

def hasWalletJWT (toLower : Bytes → Bytes) (ctx : Context) : Bool :=
  ctx.jwt.any fun claims => trimSpace claims.sub ≠ [] && !isAPIKeySubject toLower (trimSpace claims.sub)

def scopeMiddleware (toLower : Bytes → Bytes) (r : Request) : AuthResult :=
  if r.method = .options || isPublicPath r.path then .next r
  else
    match requiredScope r.method r.path with
    | none => .next r
    | some required =>
      let scopes := callerScopes toLower r.context
      if !scopes.has (some required) then
        forbidden (ascii "insufficient scope: this credential lacks the '" ++ required.text ++
          ascii "' grant required for " ++ r.path)
      else if requiresUserJWT required && !decide (Grant.admin.text ∈ scopes) && !hasWalletJWT toLower r.context then
        .reject 401 (ascii "user authentication required (JWT): the '" ++ required.text ++
          ascii "' operation requires a logged-in user; an API key alone is not sufficient") []
      else .next r

def AuthResult.bind (a : AuthResult) (f : Request → AuthResult) : AuthResult :=
  match a with
  | .next r => f r
  | .reject status message authenticate => .reject status message authenticate

def gatewayEnv (env : Env) (svc : KeyService) (db : Database) : Env :=
  { env with toLower := svc.toLower, lookupAPIKeyEntry := lookupAPIKeyEntry svc db }

def middlewares (env : Env) (svc : KeyService) (clientNamespace : Bytes) (db : Database) (r : Request) : AuthResult :=
  ((authMiddleware (gatewayEnv env svc db) r).bind (authorizationMiddleware svc clientNamespace db)).bind
    (scopeMiddleware svc.toLower)

end Orama.Gateway
