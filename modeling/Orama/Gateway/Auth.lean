import Orama.Gateway.Request

namespace Orama.Gateway
open Lib

def headerValidated : Bytes := ascii "X-Internal-Auth-Validated"
def headerNamespace : Bytes := ascii "X-Internal-Auth-Namespace"
def headerJWTSub : Bytes := ascii "X-Internal-Auth-JWT-Sub"
def headerJWTCustom : Bytes := ascii "X-Internal-Auth-JWT-Custom"
def headerScopes : Bytes := ascii "X-Internal-Auth-Scopes"

inductive AuthResult
  | next (r : Request)
  | reject (status : Nat) (message authenticate : Bytes)
deriving DecidableEq

def claimsFromInternalAuthHeaders (env : Env) (h : Headers) (ns : Bytes) : Option JWTClaims :=
  let sub := trimSpace (h.get headerJWTSub)
  if sub = [] then none
  else
    let raw := trimSpace (h.get headerJWTCustom)
    let custom := if raw = [] then [] else (env.decodeCustom raw).getD []
    some ⟨[], sub, [], 0, 0, 0, ns, custom⟩

def internalContext (env : Env) (h : Headers) (ctx : Context) : Option Context :=
  if h.get headerValidated = ascii "true" then
    let ns := trimSpace (h.get headerNamespace)
    if ns = [] then none
    else
      let raw := trimSpace (h.get headerScopes)
      some { ctx with
        namespaceOverride := some ns
        jwt := (claimsFromInternalAuthHeaders env h ns).or ctx.jwt
        scopes := if raw = [] then ctx.scopes else some (parseScopes env.toLower raw) }
  else none

def withClaims (ctx : Context) (claims : JWTClaims) : Context :=
  let ns := trimSpace claims.ns
  { ctx with
    jwt := some claims
    namespaceOverride := if ns = [] then ctx.namespaceOverride else some ns }

def verifyToken (env : Env) (tok : Bytes) : Option JWTClaims :=
  if tok.count 46 = 2 then (parseAndVerifyJWT env.lib env.keys env.now tok).toOption else none

def bearerClaims (env : Env) (h : Headers) : Option JWTClaims :=
  let auth := h.get (ascii "Authorization")
  if auth = [] then none
  else if hasPrefix (env.toLower auth) (ascii "bearer ") then verifyToken env (trimSpace (auth.drop 7))
  else none

def isWebSocketUpgrade (env : Env) (h : Headers) : Bool :=
  contains (env.toLower (h.get (ascii "Connection"))) (ascii "upgrade") &&
    env.toLower (h.get (ascii "Upgrade")) = ascii "websocket"

def maxQueryJWTLength : Nat := 4096

def queryClaims (env : Env) (r : Request) : Option JWTClaims :=
  if isWebSocketUpgrade env r.headers then
    let tok := trimSpace (queryGet r.query (ascii "jwt"))
    if tok ≠ [] ∧ tok.length ≤ maxQueryJWTLength then verifyToken env tok else none
  else none

def stripJWTQueryParam (query : List (Bytes × Bytes)) : List (Bytes × Bytes) :=
  query.filter fun e => e.1 ≠ ascii "jwt"

def authorizationKey (env : Env) (h : Headers) : Option Bytes :=
  let auth := h.get (ascii "Authorization")
  if auth = [] then none
  else if hasPrefix (env.toLower auth) (ascii "bearer ") then
    let tok := trimSpace (auth.drop 7)
    if tok.count 46 = 2 then none else some tok
  else if hasPrefix (env.toLower auth) (ascii "apikey ") then some (trimSpace (auth.drop 7))
  else if contains auth (ascii " ") then none
  else
    let tok := trimSpace auth
    if tok.count 46 ≠ 2 then some tok else none

def extractAPIKey (env : Env) (r : Request) : Bytes :=
  let header := trimSpace (r.headers.get (ascii "X-API-Key"))
  if header ≠ [] then header
  else
    match authorizationKey env r.headers with
    | some key => key
    | none =>
      if isWebSocketUpgrade env r.headers then
        let apiKey := trimSpace (queryGet r.query (ascii "api_key"))
        if apiKey ≠ [] then apiKey else trimSpace (queryGet r.query (ascii "token"))
      else []

def withKey (env : Env) (ctx : Context) (key ns rawScopes : Bytes) : Context :=
  { ctx with
    apiKey := some key
    namespaceOverride := some ns
    scopes := some (scopesFromStored env.toLower rawScopes) }

def onlyPublic (r : Request) (message authenticate : Bytes) : AuthResult :=
  if isPublicPath r.path then .next r else .reject 401 message authenticate

def apiKeyAuth (env : Env) (r : Request) : AuthResult :=
  let key := extractAPIKey env r
  if key = [] then
    onlyPublic r (ascii "missing API key") (ascii "Bearer realm=\"gateway\", charset=\"UTF-8\"")
  else
    match env.lookupAPIKeyEntry key with
    | none => onlyPublic r (ascii "invalid API key") (ascii "Bearer error=\"invalid_token\"")
    | some (ns, rawScopes) => .next { r with context := withKey env r.context key ns rawScopes }

def credentialAuth (env : Env) (r : Request) : AuthResult :=
  match bearerClaims env r.headers with
  | some claims => .next { r with context := withClaims r.context claims }
  | none =>
    match queryClaims env r with
    | some claims =>
      .next { r with query := stripJWTQueryParam r.query, context := withClaims r.context claims }
    | none => apiKeyAuth env r

def internalAuth (env : Env) (r : Request) : Option Context :=
  if isInternalIP r.remoteAddr then internalContext env r.headers r.context else none

def authMiddleware (env : Env) (r : Request) : AuthResult :=
  if r.method = .options then .next r
  else
    match internalAuth env r with
    | some ctx => .next { r with context := ctx }
    | none => credentialAuth env r

structure Identity where
  ns : Option Bytes
  jwt : Option JWTClaims
  scopes : Option ScopeSet
deriving DecidableEq

def Context.identity (ctx : Context) : Identity := ⟨ctx.namespaceOverride, ctx.jwt, ctx.scopes⟩

def attached : AuthResult → Option Identity
  | .next r => some r.context.identity
  | .reject _ _ _ => none

def isInternalHeader (name : Bytes) : Bool := hasPrefix (canonical name) (ascii "x-internal-auth-")

structure SameExceptInternal (r₁ r₂ : Request) : Prop where
  method : r₁.method = r₂.method
  path : r₁.path = r₂.path
  query : r₁.query = r₂.query
  headers : (r₁.headers.filter fun e => !isInternalHeader e.1) = r₂.headers.filter fun e => !isInternalHeader e.1
  remoteAddr : r₁.remoteAddr = r₂.remoteAddr
  context : r₁.context = r₂.context

def claimedIdentity (env : Env) (r : Request) : Option Identity :=
  (internalContext env r.headers r.context).map Context.identity

def HeadersAgree (env : Env) (r₁ r₂ : Request) : Prop :=
  match claimedIdentity env r₁, claimedIdentity env r₂ with
  | none, none => True
  | some i, some j => i = j
  | some i, none => attached (credentialAuth env r₂) = some i
  | none, some j => attached (credentialAuth env r₁) = some j

lemma Headers.get_filter (h : Headers) {name : Bytes} (hn : isInternalHeader name = false) :
    Headers.get (h.filter fun e => !isInternalHeader e.1) name = h.get name := by
  grind [get, isInternalHeader]

section
variable {env : Env} {r₁ r₂ : Request} (h : SameExceptInternal r₁ r₂)
include h

lemma SameExceptInternal.get {name : Bytes} (hn : isInternalHeader name = false) :
    r₁.headers.get name = r₂.headers.get name := by
  rw [← Headers.get_filter r₁.headers hn, h.headers, Headers.get_filter r₂.headers hn]

lemma SameExceptInternal.authorization :
    r₁.headers.get (ascii "Authorization") = r₂.headers.get (ascii "Authorization") := h.get (by decide)

lemma SameExceptInternal.upgrade : isWebSocketUpgrade env r₁.headers = isWebSocketUpgrade env r₂.headers := by
  rw [isWebSocketUpgrade, h.get (by decide), h.get (by decide), isWebSocketUpgrade]

lemma SameExceptInternal.bearerClaims : bearerClaims env r₁.headers = bearerClaims env r₂.headers := by
  rw [Gateway.bearerClaims, h.authorization, Gateway.bearerClaims]

lemma SameExceptInternal.queryClaims : queryClaims env r₁ = queryClaims env r₂ := by
  rw [Gateway.queryClaims, h.upgrade, h.query, Gateway.queryClaims]

lemma SameExceptInternal.extractAPIKey : extractAPIKey env r₁ = extractAPIKey env r₂ := by
  have hkey : authorizationKey env r₁.headers = authorizationKey env r₂.headers := by
    rw [authorizationKey, h.authorization, authorizationKey]
  rw [Gateway.extractAPIKey, h.get (by decide), hkey, h.upgrade, h.query, Gateway.extractAPIKey]

lemma SameExceptInternal.onlyPublic (message authenticate : Bytes) :
    attached (onlyPublic r₁ message authenticate) = attached (onlyPublic r₂ message authenticate) := by
  rw [Gateway.onlyPublic, Gateway.onlyPublic, h.path]
  split
  · simp [attached, h.context]
  · rfl

lemma SameExceptInternal.apiKeyAuth : attached (apiKeyAuth env r₁) = attached (apiKeyAuth env r₂) := by
  rw [Gateway.apiKeyAuth, Gateway.apiKeyAuth, h.extractAPIKey, h.context]
  split
  · exact h.onlyPublic _ _
  · cases env.lookupAPIKeyEntry (Gateway.extractAPIKey env r₂) with
    | none => exact h.onlyPublic _ _
    | some entry => rfl

lemma SameExceptInternal.credentialAuth : attached (credentialAuth env r₁) = attached (credentialAuth env r₂) := by
  rw [Gateway.credentialAuth, Gateway.credentialAuth, h.bearerClaims, h.queryClaims, h.context]
  cases Gateway.bearerClaims env r₂.headers with
  | some claims => rfl
  | none =>
    cases Gateway.queryClaims env r₂ with
    | some claims => rfl
    | none => exact h.apiKeyAuth

end

lemma attached_authMiddleware {env : Env} {r : Request} (hm : r.method ≠ .options)
    (hloop : r.remoteAddr.isLoopback) :
    attached (authMiddleware env r) = (claimedIdentity env r).or (attached (credentialAuth env r)) := by
  have hinternal : internalAuth env r = internalContext env r.headers r.context := by
    simp [internalAuth, isInternalIP, hloop]
  rw [authMiddleware, if_neg hm, hinternal, claimedIdentity]
  cases internalContext env r.headers r.context with
  | some ctx => rfl
  | none => rfl

def bareEnv : Env where
  lib := ⟨fun _ => none, fun _ => none, fun _ => none, fun _ _ => false, fun _ _ => false⟩
  keys := ⟨[], false, [], false⟩
  now := 0
  toLower := fun s => s.map lowerAscii
  decodeCustom := fun _ => none
  lookupAPIKeyEntry := fun _ => none

def plainRequest : Request :=
  ⟨.get, ascii "/v1/functions", [], [], .v4 127 0 0 1, Context.empty⟩

def forgedRequest : Request :=
  { plainRequest with
    headers := [(headerValidated, ascii "true"), (headerNamespace, ascii "victim"), (headerScopes, ascii "admin")] }

lemma sameExceptInternal_forgedRequest : SameExceptInternal plainRequest forgedRequest :=
  ⟨rfl, rfl, rfl, by decide, rfl, rfl⟩

end Orama.Gateway
