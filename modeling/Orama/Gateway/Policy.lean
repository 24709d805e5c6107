import Orama.Lib.Strings

namespace Orama.Gateway
open Lib

inductive Method
  | get
  | post
  | put
  | delete
  | options
  | other (name : Bytes)
deriving DecidableEq, Repr

inductive Grant
  | admin
  | invoke
  | storage
  | push
  | webrtc
  | proxy
  | pubsub
  | cache
deriving DecidableEq, Repr

def Grant.text : Grant → Bytes
  | admin => ascii "admin"
  | invoke => ascii "invoke"
  | storage => ascii "storage"
  | push => ascii "push"
  | webrtc => ascii "webrtc"
  | proxy => ascii "proxy"
  | pubsub => ascii "pubsub"
  | cache => ascii "cache"

def publicPaths : List Bytes := [ascii "/health", ascii "/v1/health", ascii "/status", ascii "/v1/status",
  ascii "/v1/auth/jwks", ascii "/.well-known/jwks.json", ascii "/v1/version", ascii "/v1/auth/challenge",
  ascii "/v1/auth/verify", ascii "/v1/auth/register", ascii "/v1/auth/refresh", ascii "/v1/auth/logout",
  ascii "/v1/auth/api-key", ascii "/v1/network/status", ascii "/v1/network/peers",
  ascii "/v1/internal/tls/check", ascii "/v1/internal/acme/present", ascii "/v1/internal/acme/cleanup",
  ascii "/v1/internal/ping"]

def functionsPath : Bytes := ascii "/v1/functions/"

def isPublicPath (p : Bytes) : Bool :=
  if hasPrefix p (ascii "/.well-known/acme-challenge/") then true
  else if hasPrefix p (ascii "/v1/invoke/") || (hasPrefix p functionsPath && hasSuffix p (ascii "/invoke")) then true
  else if hasPrefix p (ascii "/v1/internal/deployments/replica/") then true
  else if hasPrefix p (ascii "/v1/internal/wg/") then true
  else if p = ascii "/v1/internal/join" then true
  else if p = ascii "/v1/internal/namespace/spawn" then true
  else if p = ascii "/v1/internal/namespace/repair" then true
  else if hasPrefix p (ascii "/v1/internal/namespace/webrtc/") then true
  else if hasPrefix p (ascii "/v1/vault/") then true
  else if hasPrefix p (ascii "/v1/auth/phantom/") then true
  else if p ∈ publicPaths then true
  else hasPrefix p (ascii "/v1/namespace/status")

def requiredScope (_method : Method) (path : Bytes) : Option Grant :=
  if isPublicPath path then none
  else if path = ascii "/v1/functions" || hasPrefix path functionsPath then
    if hasSuffix path (ascii "/ws") then some .invoke else some .admin
  else if hasPrefix path (ascii "/v1/storage/") then some .storage
  else if path = ascii "/v1/push/devices" || hasPrefix path (ascii "/v1/push/devices/") then some .push
  else if hasPrefix path (ascii "/v1/push/") then some .admin
  else if path = ascii "/v1/namespace/push-credentials" ||
      hasPrefix path (ascii "/v1/namespace/push-credentials/") then some .admin
  else if hasPrefix path (ascii "/v1/webrtc/") then some .webrtc
  else if hasPrefix path (ascii "/v1/namespace/webrtc/") then
    if hasSuffix path (ascii "/status") then none else some .admin
  else if hasPrefix path (ascii "/v1/proxy/") then some .proxy
  else if hasPrefix path (ascii "/v1/pubsub/") then some .pubsub
  else if hasPrefix path (ascii "/v1/cache/") then some .cache
  else if path = ascii "/rqlite" || path = ascii "/v1/rqlite" || hasPrefix path (ascii "/v1/rqlite/") then
    some .admin
  else if hasPrefix path (ascii "/v1/deployments/") then some .admin
  else if hasPrefix path (ascii "/v1/db/sqlite/") then some .admin
  else if hasPrefix path (ascii "/v1/serverless/") then some .admin
  else if path = ascii "/v1/namespace/rate-limit" then some .admin
  else if path = ascii "/v1/namespace/keys" || hasPrefix path (ascii "/v1/namespace/keys/") then some .admin
  else if path = ascii "/v1/namespace/delete" || path = ascii "/v1/namespace/list" then some .admin
  else none

lemma isPublicPath_functions (rest : Bytes) :
    isPublicPath (functionsPath ++ rest) = hasSuffix (functionsPath ++ rest) (ascii "/invoke") := by
  have hp : ∀ p, Differ p functionsPath → hasPrefix (functionsPath ++ rest) p = false :=
    fun p h => hasPrefix_of_differ h rest
  have he : ∀ q, hasPrefix q functionsPath = false → functionsPath ++ rest ≠ q := by
    rintro q hq rfl
    simp [hasPrefix_append] at hq
  have hnone : functionsPath ++ rest ∉ publicPaths := by
    intro h
    have hall : ∀ q ∈ publicPaths, hasPrefix q functionsPath = false := by decide
    exact he _ (hall _ h) rfl
  simp only [isPublicPath, hp _ (by decide : Differ (ascii "/.well-known/acme-challenge/") functionsPath),
    hp _ (by decide : Differ (ascii "/v1/invoke/") functionsPath), hasPrefix_append,
    hp _ (by decide : Differ (ascii "/v1/internal/deployments/replica/") functionsPath),
    hp _ (by decide : Differ (ascii "/v1/internal/wg/") functionsPath),
    he (ascii "/v1/internal/join") (by decide), he (ascii "/v1/internal/namespace/spawn") (by decide),
    he (ascii "/v1/internal/namespace/repair") (by decide),
    hp _ (by decide : Differ (ascii "/v1/internal/namespace/webrtc/") functionsPath),
    hp _ (by decide : Differ (ascii "/v1/vault/") functionsPath),
    hp _ (by decide : Differ (ascii "/v1/auth/phantom/") functionsPath), hnone,
    hp _ (by decide : Differ (ascii "/v1/namespace/status") functionsPath)]
  cases hasSuffix (functionsPath ++ rest) (ascii "/invoke") <;> rfl

lemma requiredScope_functions (method : Method) (rest : Bytes) :
    requiredScope method (functionsPath ++ rest) = if hasSuffix (functionsPath ++ rest) (ascii "/invoke") then none
      else if hasSuffix (functionsPath ++ rest) (ascii "/ws") then some .invoke else some .admin := by
  simp [requiredScope, isPublicPath_functions, hasPrefix_append]

end Orama.Gateway
