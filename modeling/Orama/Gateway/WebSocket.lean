import Orama.Gateway.NamespaceProxy
import Orama.Lib.Url

namespace Orama.Gateway
open Lib List

def encodeURIComponent (s : Bytes) : Bytes := Url.escape Url.componentByte s

structure WSAddress where
  base : Bytes
  params : List (Bytes × Bytes)
  plain : ∀ c ∈ base, 32 < c ∧ c ≠ 35 ∧ c ≠ 63
  unauthenticated : ∀ e ∈ params, e.1 ∉ [ascii "jwt", ascii "api_key", ascii "token"]

def WSAddress.wsURL (a : WSAddress) : Bytes :=
  if a.params = [] then a.base else a.base ++ 63 :: Url.formSerialize a.params

def isKeyText (authToken : Bytes) : Bool := hasPrefix authToken (ascii "ak_")

def paramName (authToken : Bytes) : Bytes := if isKeyText authToken then ascii "api_key" else ascii "token"

def encodedToken (authToken : Bytes) : Bytes :=
  if isKeyText authToken then authToken else encodeURIComponent authToken

def buildWSUrl (wsURL authToken : Bytes) : Bytes :=
  if authToken = [] then wsURL
  else
    let separator := if wsURL.contains 63 then 38 else 63
    wsURL ++ separator :: (paramName authToken ++ 61 :: encodedToken authToken)

structure InHeader (env : Env) (cred : Bytes) (r : Request) : Prop where
  method : r.method ≠ .options
  external : internalAuth env r = none
  context : r.context = Context.empty
  http : isWebSocketUpgrade env r.headers = false
  header : (r.headers.get (ascii "Authorization") = ascii "Bearer " ++ cred ∧
      r.headers.get (ascii "X-API-Key") = []) ∨
      (r.headers.get (ascii "X-API-Key") = cred ∧ r.headers.get (ascii "Authorization") = [])

structure Upgrade (env : Env) (url : Bytes) (w : Request) : Prop where
  method : w.method ≠ .options
  external : internalAuth env w = none
  context : w.context = Context.empty
  upgrade : isWebSocketUpgrade env w.headers = true
  query : w.query = Url.parseQuery (Url.rawQuery url)
  authorization : w.headers.get (ascii "Authorization") = []
  apiKey : w.headers.get (ascii "X-API-Key") = []

def Understood (env : Env) (a : WSAddress) (cred : Bytes) : Prop :=
  ∀ r r', InHeader env cred r → authMiddleware env r = .next r' → r'.context ≠ Context.empty →
    ∀ w, Upgrade env (buildWSUrl a.wsURL cred) w → ∃ w', authMiddleware env w = .next w' ∧
    w'.context.namespaceOverride = r'.context.namespaceOverride ∧ w'.context.jwt = r'.context.jwt

def queryKey (query : List (Bytes × Bytes)) : Bytes :=
  let apiKey := trimSpace (queryGet query (ascii "api_key"))
  if apiKey ≠ [] then apiKey else trimSpace (queryGet query (ascii "token"))

section
variable {env : Env}
variable {r r' : Request}

lemma context_onlyPublic {message authenticate : Bytes} (h : onlyPublic r message authenticate = .next r') :
    r' = r := by
  rw [onlyPublic] at h
  split at h
  · cases h
    rfl
  · cases h

lemma apiKeyAuth_next (h : apiKeyAuth env r = .next r') : r' = r ∨ extractAPIKey env r ≠ [] ∧ ∃ ns raw,
      env.lookupAPIKeyEntry (extractAPIKey env r) = some (ns, raw) ∧
      r' = { r with context := withKey env r.context (extractAPIKey env r) ns raw } := by
  grind [context_onlyPublic, apiKeyAuth]

lemma apiKeyAuth_of_lookup {key ns raw : Bytes} (hkey : extractAPIKey env r = key) (hne : key ≠ [])
    (hlookup : env.lookupAPIKeyEntry key = some (ns, raw)) :
    apiKeyAuth env r = .next { r with context := withKey env r.context key ns raw } := by
  rw [apiKeyAuth, hkey, if_neg hne, hlookup]

variable {cred : Bytes}

lemma InHeader.authMiddleware_eq (hr : InHeader env cred r) : authMiddleware env r = credentialAuth env r := by
  rw [authMiddleware, if_neg hr.method, hr.external]

lemma InHeader.queryClaims_eq (hr : InHeader env cred r) : queryClaims env r = none := by
  rw [queryClaims, hr.http]
  rfl

lemma hasPrefix_bearer (hf : GoLower env.toLower) (cred : Bytes) :
    hasPrefix (env.toLower (ascii "Bearer " ++ cred)) (ascii "bearer ") := by
  rw [hf.append (all_iff_forall_prop.1 (by decide))]
  exact hasPrefix_append (ascii "bearer ") _

lemma InHeader.extractAPIKey_eq (hf : GoLower env.toLower) (hr : InHeader env cred r) :
    extractAPIKey env r = trimSpace cred ∨ extractAPIKey env r = [] := by
  have hnil : trimSpace [] = [] := rfl
  rw [extractAPIKey, hr.http]
  rcases hr.header with ⟨hauth, hkey⟩ | ⟨hkey, hauth⟩
  · have hdrop : (ascii "Bearer " ++ cred).drop 7 = cred := rfl
    rw [hkey, hnil, if_neg (by simp), authorizationKey, hauth, if_neg (append_ne_nil_of_left_ne_nil (by decide) _),
      if_pos (hasPrefix_bearer hf cred), hdrop]
    dsimp only
    split
    · grind
    · exact .inr rfl
  · grind [authorizationKey]

lemma InHeader.accepted (hf : GoLower env.toLower) (hr : InHeader env cred r)
    (h : authMiddleware env r = .next r') (hne : r'.context ≠ Context.empty) :
    (∃ claims, verifyToken env (trimSpace cred) = some claims) ∨
      ∃ ns raw, trimSpace cred ≠ [] ∧ env.lookupAPIKeyEntry (trimSpace cred) = some (ns, raw) ∧
      r'.context = withKey env Context.empty (trimSpace cred) ns raw := by
  rw [hr.authMiddleware_eq, credentialAuth, hr.queryClaims_eq] at h
  cases hclaims : bearerClaims env r.headers with
  | some claims =>
    refine .inl ⟨claims, ?_⟩
    rw [bearerClaims] at hclaims
    rcases hr.header with ⟨hauth, -⟩ | ⟨-, hauth⟩
    · rwa [hauth, if_neg (append_ne_nil_of_left_ne_nil (by decide) _), if_pos (hasPrefix_bearer hf cred)] at hclaims
    · rw [hauth, if_pos rfl] at hclaims
      cases hclaims
  | none =>
    rw [hclaims] at h
    rcases apiKeyAuth_next h with rfl | ⟨hkey, ns, raw, hlookup, rfl⟩
    · exact absurd hr.context hne
    · have heq : extractAPIKey env r = trimSpace cred := (hr.extractAPIKey_eq hf).resolve_right hkey
      rw [heq] at hkey hlookup
      refine .inr ⟨ns, raw, hkey, hlookup, ?_⟩
      rw [heq, hr.context]

variable {url : Bytes} {w : Request}

lemma Upgrade.authMiddleware_eq (hw : Upgrade env url w) : authMiddleware env w = match queryClaims env w with
      | some claims => .next { w with query := stripJWTQueryParam w.query, context := withClaims w.context claims }
      | none => apiKeyAuth env w := by
  have hbearer : bearerClaims env w.headers = none := by rw [bearerClaims, hw.authorization, if_pos rfl]
  have hcredential : authMiddleware env w = credentialAuth env w := by
    rw [authMiddleware, if_neg hw.method, hw.external]
  rw [hcredential]
  cases hquery : queryClaims env w <;> simp only [credentialAuth, hbearer, hquery]

lemma Upgrade.extractAPIKey_eq (hw : Upgrade env url w) : extractAPIKey env w = queryKey w.query := by
  rw [extractAPIKey, hw.apiKey, authorizationKey, hw.authorization, if_pos rfl, hw.upgrade]
  rfl

end

open Url WSAddress
section
variable (a : WSAddress) {cred : Bytes}

def WSAddress.lead : Bytes := if a.params = [] then [] else Url.formSerialize a.params ++ [38]

lemma buildWSUrl_eq (hcred : cred ≠ []) :
    buildWSUrl a.wsURL cred = a.base ++ 63 :: (a.lead ++ paramName cred ++ [61] ++ encodedToken cred) := by
  have hbase : 63 ∉ a.base := fun h => (a.plain 63 h).2.2 rfl
  rw [buildWSUrl, if_neg hcred, wsURL, lead]
  by_cases hparams : a.params = []
  · simp [hparams, hbase]
  · simp [hparams]

lemma WSAddress.lead_plain : ∀ c ∈ a.lead, 32 < c ∧ c ≠ 35 := by
  have hform := forall_mem_formSerialize (P := fun c => 32 < c ∧ c ≠ 35)
    (by intro c; simp [formByte, isAlnum]; grind) (all_iff_forall_prop.1 (by decide)) a.params
  rw [lead]
  split
  · simp
  · grind

lemma WSAddress.parseQuery_lead (q : Bytes) : parseQuery (a.lead ++ q) = a.params ++ parseQuery q := by
  grind [parseQuery_append_cons, parseQuery_formSerialize, lead]

lemma paramName_plain (cred : Bytes) : ∀ c ∈ paramName cred, 32 < c ∧ c ∉ [35, 37, 38, 43, 59, 61] := by
  rw [paramName]
  cases isKeyText cred <;> exact all_iff_forall_prop.1 (by decide)

lemma parseQuery_buildWSUrl (hcred : cred ≠ []) (hvisible : ∃ c ∈ encodedToken cred, 32 < c) :
    parseQuery (rawQuery (buildWSUrl a.wsURL cred)) =
    a.params ++ parseQuery (paramName cred ++ 61 :: tidy (encodedToken cred)) := by
  have hq : ∀ c ∈ a.lead ++ paramName cred ++ [61], 32 < c ∧ c ≠ 35 := by grind [lead_plain, paramName_plain]
  rw [buildWSUrl_eq a hcred, rawQuery_append a.plain hq hvisible,
    transparent_queryByte.parseQuery_escape, append_assoc, append_assoc, a.parseQuery_lead]
  rfl

variable {a} in
lemma queryGet_params {name : Bytes} (hname : name ∈ [ascii "jwt", ascii "api_key", ascii "token"])
    (rest : List (Bytes × Bytes)) : queryGet (a.params ++ rest) name = queryGet rest name := by
  have hnone : (a.params.find? fun e => e.1 = name) = none := by
    rw [find?_eq_none]
    intro e he heq
    exact a.unauthenticated e he (of_decide_eq_true heq ▸ hname)
  rw [queryGet, find?_append, hnone, Option.none_or, queryGet]

end
end Orama.Gateway
