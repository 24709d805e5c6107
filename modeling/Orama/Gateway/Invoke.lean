import Orama.Gateway.Auth
import Orama.Gateway.Functions

namespace Orama.Gateway
open Lib

inductive FunctionStatus
  | active
  | inactive
  | error
deriving DecidableEq, Repr

structure Function where
  ns : Bytes
  name : Bytes
  version : Int
  isPublic : Bool
  status : FunctionStatus
deriving DecidableEq, Repr

structure Registry where
  rows : List Function
  cache : List (Bytes × Function)

inductive InvokeError
  | emptyFunctionName
  | emptyNamespace
  | functionNotFound
  | versionNotFound
  | unauthorized
deriving DecidableEq, Repr

def fnCacheKey (ns name : Bytes) (version : Int) : Bytes :=
  ns ++ 0 :: (name ++ 0 :: decimalInt version)

def latest (rows : List Function) : Option Function :=
  rows.foldl
    (fun best fn =>
      match best with
      | none => some fn
      | some b => if b.version < fn.version then some fn else some b)
    none

def Registry.get (reg : Registry) (ns name : Bytes) (version : Int) : Except InvokeError Function :=
  let ns := trimSpace ns
  let name := trimSpace name
  match reg.cache.find? fun e => e.1 = fnCacheKey ns name version with
  | some e => .ok e.2
  | none =>
    if version = 0 then
      match latest (reg.rows.filter fun f => f.ns = ns ∧ f.name = name ∧ f.status = .active) with
      | some f => .ok f
      | none => .error .functionNotFound
    else
      match reg.rows.find? fun f => f.ns = ns ∧ f.name = name ∧ f.version = version with
      | some f => .ok f
      | none => .error .versionNotFound

inductive TriggerType
  | http
  | webSocket
  | cron
  | pubsub
  | database
  | timer
  | job
  | internal
deriving DecidableEq, Repr

def isSystemTrigger : TriggerType → Bool
  | .http => false
  | .webSocket => false
  | _ => true

structure InvokeRequest where
  ns : Bytes
  functionName : Bytes
  version : Int
  triggerType : TriggerType
  callerWallet : Bytes

def canInvokeFn (fn : Function) (callerWallet : Bytes) : Bool :=
  if fn.isPublic then true else trimSpace callerWallet ≠ []

def invoke (reg : Registry) (req : InvokeRequest) : Except InvokeError Function :=
  if req.functionName = [] then .error .emptyFunctionName
  else if req.ns = [] then .error .emptyNamespace
  else
    match reg.get req.ns req.functionName req.version with
    | .error e => .error e
    | .ok fn =>
      if !isSystemTrigger req.triggerType && !canInvokeFn fn req.callerWallet then
        .error .unauthorized
      else .ok fn

def getNamespaceFromRequest (r : Request) : Bytes :=
  let override := r.context.namespaceOverride.getD []
  if override ≠ [] then override
  else
    let query := queryGet r.query (ascii "namespace")
    if query ≠ [] then query
    else
      let header := r.headers.get (ascii "X-Namespace")
      if header ≠ [] then header else ascii "default"

def isBlank (c : UInt8) : Bool := c = 32 || c = 9 || c = 10 || c = 13

def trimBlanks (s : Bytes) : Bytes := ((s.dropWhile isBlank).reverse.dropWhile isBlank).reverse

def walletSubject (claims : JWTClaims) : Option Bytes :=
  let subj := trimBlanks claims.sub
  if hasPrefix (subj.map lowerAscii) (ascii "ak_") || contains subj (ascii ":") then none else some subj

def getWalletFromRequest (r : Request) : Bytes :=
  let wallet := r.headers.get (ascii "X-Wallet")
  if wallet ≠ [] then wallet
  else (r.context.jwt.bind walletSubject).getD (r.context.namespaceOverride.getD [])

def addressOf (r : Request) (nameWithNS : Bytes) : Bytes × Bytes :=
  let bare :=
    let ns := queryGet r.query (ascii "namespace")
    (if ns = [] then getNamespaceFromRequest r else ns, nameWithNS)
  match cut 47 nameWithNS with
  | (ns, some name) => if ns = [] then bare else (ns, name)
  | (_, none) => bare

inductive Invocation
  | notAllowed
  | badRequest (message : Bytes)
  | invoked (result : Except InvokeError Function)
  | elsewhere

def Invocation.executed : Invocation → Option Function
  | invoked result => result.toOption
  | _ => none

def invokeFunction (reg : Registry) (r : Request) (nameWithNS : Bytes) (version : Int) : Invocation :=
  if r.method ≠ .post then .notAllowed
  else
    let address := addressOf r nameWithNS
    if address.1 = [] then .badRequest (ascii "namespace required")
    else .invoked (invoke reg ⟨address.1, address.2, version, .http, getWalletFromRequest r⟩)

def invokePath : Bytes := ascii "/v1/invoke/"

def handleInvoke (reg : Registry) (r : Request) : Invocation :=
  if r.method ≠ .post then .notAllowed
  else
    match cut 47 (trimPrefix r.path invokePath) with
    | (_, none) => .badRequest (ascii "Path must be /v1/invoke/\x7bnamespace\x7d/\x7bname\x7d")
    | (ns, some rest) =>
      let (name, version) := parseVersion rest
      invokeFunction reg r (ns ++ 47 :: name) version

def routeInvocation (reg : Registry) (r : Request) : Invocation :=
  if hasPrefix r.path functionsPath then
    match handleFunctionByName r.method r.path with
    | .invokeFunction name version => invokeFunction reg r name version
    | _ => .elsewhere
  else if hasPrefix r.path invokePath then handleInvoke reg r
  else .elsewhere

/-- The function that a request makes the gateway execute. The paths of the
invocations are public, so that no later middleware reads the request. -/
def execute (env : Env) (reg : Registry) (r : Request) : Option Function :=
  match authMiddleware env r with
  | .next r => (routeInvocation reg r).executed
  | .reject _ _ _ => none

def invocationOf (r : Request) : Option (Bytes × Int) :=
  if hasPrefix r.path functionsPath then
    match handleFunctionByName r.method r.path with
    | .invokeFunction name version => some (name, version)
    | _ => none
  else if hasPrefix r.path invokePath then
    match cut 47 (trimPrefix r.path invokePath) with
    | (_, none) => none
    | (ns, some rest) => some (ns ++ 47 :: (parseVersion rest).1, (parseVersion rest).2)
  else none

def Registry.at (reg : Registry) (address : Bytes × Bytes) (version : Int) : Option Function :=
  if address.1 = [] ∨ address.2 = [] then none else (reg.get address.1 address.2 version).toOption

def requested (reg : Registry) (r : Request) : Option Function :=
  if r.method = .post then (invocationOf r).bind fun p => reg.at (addressOf r p.1) p.2 else none

def credentialNamespace (env : Env) (r : Request) : Option Bytes :=
  match (bearerClaims env r.headers).or (queryClaims env r) with
  | some claims => some (trimSpace claims.ns)
  | none =>
    let key := extractAPIKey env r
    if key = [] then none else (env.lookupAPIKeyEntry key).map Prod.fst

/-- The function that is asked for is public, nobody is named as the caller, or
the credential belongs to the namespace of the function. -/
def Guarded (env : Env) (reg : Registry) (r : Request) : Prop :=
  ∀ r' fn, authMiddleware env r = .next r' → requested reg r' = some fn →
    fn.isPublic = true ∨ trimSpace (getWalletFromRequest r') = [] ∨ credentialNamespace env r = some fn.ns

lemma invoke_toOption (reg : Registry) (address : Bytes × Bytes) (version : Int) (wallet : Bytes)
    (hns : address.1 ≠ []) : (invoke reg ⟨address.1, address.2, version, .http, wallet⟩).toOption =
      (reg.at address version).filter fun fn => canInvokeFn fn wallet := by
  by_cases hname : address.2 = []
  · simp [invoke, Registry.at, hname, Except.toOption]
  · simp only [invoke, Registry.at, hns, hname, if_false, or_self]
    cases reg.get address.1 address.2 version with
    | error e => rfl
    | ok fn => grind [isSystemTrigger, Except.toOption]

lemma invokeFunction_executed {r : Request} (hm : r.method = .post) (reg : Registry)
    (nameWithNS : Bytes) (version : Int) :
    (invokeFunction reg r nameWithNS version).executed = (reg.at (addressOf r nameWithNS) version).filter
        fun fn => canInvokeFn fn (getWalletFromRequest r) := by
  grind [invoke_toOption, invokeFunction, Registry.at, Invocation.executed]

lemma routeInvocation_executed (reg : Registry) (r : Request) :
    (routeInvocation reg r).executed = (requested reg r).filter fun fn => canInvokeFn fn (getWalletFromRequest r) := by
  by_cases hm : r.method = .post
  · rw [routeInvocation, requested, if_pos hm, invocationOf]
    split
    · cases handleFunctionByName r.method r.path with
      | invokeFunction name version => exact invokeFunction_executed hm reg name version
      | _ => rfl
    · grind [invokeFunction_executed, handleInvoke, Invocation.executed]
  · have hnone : ∀ name version, invokeFunction reg r name version = .notAllowed := by
      intro name version
      simp [invokeFunction, hm]
    have hinvoke : handleInvoke reg r = .notAllowed := by simp [handleInvoke, hm]
    rw [requested, if_neg hm, routeInvocation, hinvoke]
    split
    · grind [Invocation.executed]
    · split <;> rfl

def privateFunction : Function := ⟨ascii "victim", ascii "payroll", 1, false, .active⟩

def walletRequest : Request :=
  ⟨.post, ascii "/v1/invoke/victim/payroll", [], [(ascii "X-Wallet", ascii "anyone")], .v4 203 0 113 7, Context.empty⟩

end Orama.Gateway
