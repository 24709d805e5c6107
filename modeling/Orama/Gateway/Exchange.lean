import Orama.Gateway.Admin
import Orama.Gateway.KeyLookup
import Orama.Gateway.Nonces
import Orama.Gateway.Scopes

namespace Orama.Gateway
open Lib

def KeyOp.returned (svc : KeyService) (db : Database) : KeyOp → Option Bytes
  | getOrCreateAPIKey wallet ns buf => (Gateway.getOrCreateAPIKey svc db wallet ns buf).1.toOption
  | issueScopedKey ns storedScopes label buf =>
    (Gateway.issueScopedKey svc db ns storedScopes label buf).1.toOption.map Prod.fst
  | revokeKey _ _ => none
  | revokeAllLegacy _ => none

def HandedOut (svc : KeyService) (ops : List KeyOp) (key : Bytes) : Prop :=
  ∃ before op later, ops = before ++ op :: later ∧ op.returned svc (KeyState.run svc before).db = some key

variable {db : Database} {svc : KeyService} {key : Bytes}

lemma isRaw_of_issueScopedKey {db' : Database} {ns storedScopes label : Bytes}
    {buf : Random 18} {id : Nat} (h : issueScopedKey svc db ns storedScopes label buf = (.ok (key, id), db')) :
    IsRaw key := by
  obtain ⟨nsID, hres, _⟩ := resolveNamespaceID_eq db (trimSpace ns)
  simp only [issueScopedKey, hres] at h
  split at h
  · cases h
  split at h
  · cases h
  split at h
  · cases h
  · grind [isRaw_rawKey, storeScopedKey]

lemma HandedOut.cases {ops : List KeyOp} (h : HandedOut svc ops key) :
    IsRaw key ∨ ∃ raw, IsRaw raw ∧ key = svc.hashAPIKey raw := by
  obtain ⟨before, op, _, _, hkey⟩ := h
  have hs := generated_run svc before
  cases op with
  | getOrCreateAPIKey wallet ns buf =>
    obtain ⟨nsID, _, ⟨hlink, heq⟩ | ⟨e, heq⟩ | ⟨raw, _, _, hraw, _, heq⟩⟩ :=
      getOrCreateAPIKey_cases svc (KeyState.run svc before).db wallet ns buf rfl
    · obtain ⟨k, hrow, hk⟩ := exists_linkedRow hlink
      have hmem := ((hs.valid.ensureNamespace ns).mem_of_linkedRow hrow).1
      obtain ⟨raw, hraw, hhash⟩ := hs.raw k hmem
      simp only [KeyOp.returned, heq, Except.toOption, Option.some.injEq] at hkey
      exact .inr ⟨raw, hs.isRaw _ hraw, hkey ▸ hk.trans hhash⟩
    · simp [KeyOp.returned, heq, Except.toOption] at hkey
    · grind [isRaw_of_newKey, KeyOp.returned, Except.toOption]
  | issueScopedKey ns storedScopes label buf =>
    obtain ⟨⟨_, id⟩, hok, rfl⟩ := Option.map_eq_some_iff.1 hkey
    cases hres : issueScopedKey svc (KeyState.run svc before).db ns storedScopes label buf with
    | mk res db' =>
      cases res with
      | error e => simp [hres, Except.toOption] at hok
      | ok r => grind [isRaw_of_issueScopedKey, Except.toOption]
  | revokeKey ns id => cases hkey
  | revokeAllLegacy ns => cases hkey

lemma hexDigit_ascii : ∀ d < 16, hexDigit d < 128 ∧ lowerAscii (hexDigit d) = hexDigit d ∧
    ∀ w ∈ whiteSpace, hexDigit d ∉ w := by decide

lemma trimSpace_bytesToHex (bytes : Bytes) : trimSpace (bytesToHex bytes) = bytesToHex bytes := by
  grind [trimSpace_eq_self_of_forall, exists_hexDigit_of_mem, hexDigit_ascii]

section
variable {f : Bytes → Bytes} (hf : GoLower f)
include hf

lemma GoLower.isAPIKeySubject_of_isRaw {key : Bytes} (h : IsRaw key) : isAPIKeySubject f key := by
  obtain ⟨t, rfl⟩ := h
  obtain ⟨t', ht⟩ := exists_trimSpace_append (p := ascii "ak_") (by decide)
    (List.all_iff_forall_prop.1 (by decide)) t
  rw [isAPIKeySubject, ht, hf.append (List.all_iff_forall_prop.1 (by decide))]
  exact hasPrefix_append (ascii "ak_") (f t')

lemma GoLower.isAPIKeySubject_bytesToHex (bytes : Bytes) : isAPIKeySubject f (bytesToHex bytes) = false := by
  have hlower : f (bytesToHex bytes) = bytesToHex bytes := by
    have hdigit : ∀ c ∈ bytesToHex bytes, c < 128 ∧ lowerAscii c = c := by
      grind [exists_hexDigit_of_mem, hexDigit_ascii]
    rw [hf.of_ascii fun c hc => (hdigit c hc).1, List.map_congr_left fun c hc => (hdigit c hc).2, List.map_id']
  rw [isAPIKeySubject, trimSpace_bytesToHex, hlower, Bool.eq_false_iff]
  exact fun h => not_isRaw_bytesToHex bytes (exists_append_of_hasPrefix h)

lemma GoLower.isAPIKeySubject_iff {svc : KeyService} {ops : List KeyOp} {key : Bytes}
    (h : HandedOut svc ops key) : isAPIKeySubject f key ↔ IsRaw key := by
  refine ⟨fun hsub => ?_, hf.isAPIKeySubject_of_isRaw⟩
  rcases h.cases with hraw | ⟨raw, hraw, rfl⟩
  · exact hraw
  · grind [isAPIKeySubject_bytesToHex, KeyService.hashAPIKey, hmacSHA256Hex]

end

def ScopeAllows (toLower : Bytes → Bytes) (r : Request) (ctx : Context) : Prop :=
  ∃ r', scopeMiddleware toLower { r with context := ctx } = .next r'

def Permits (scopes : ScopeSet) (wallet : Bool) (r : Request) : Prop :=
  r.method = .options ∨ ∀ g, requiredScope r.method r.path = some g →
    scopes.has (some g) = true ∧ (requiresUserJWT g = true → Grant.admin.text ∈ scopes ∨ wallet = true)

lemma scopeAllows_iff (f : Bytes → Bytes) (r : Request) (ctx : Context) :
    ScopeAllows f r ctx ↔ Permits (callerScopes f ctx) (hasWalletJWT f ctx) r := by
  rw [ScopeAllows, Permits, scopeMiddleware]
  cases hg : requiredScope r.method r.path with
  | none => simp
  | some g =>
    have hp := isPublicPath_of_requiredScope hg
    by_cases hm : r.method = .options
    · simp [hm]
    · simp only [hm, hp, decide_false, Bool.or_self, Bool.false_eq_true, if_false, false_or,
        Option.some.injEq, forall_eq', forbidden]
      cases (callerScopes f ctx).has (some g) <;> cases requiresUserJWT g <;>
        cases hasWalletJWT f ctx <;> by_cases ha : Grant.admin.text ∈ callerScopes f ctx <;> simp [ha]

variable {svc : AuthService} {token : JWTClaims}

lemma apiKeyToJWTHandler_token {m : Moment} {method : Method} {ns raw : Bytes}
    (hlookup : lookupAPIKeyEntry svc.toKeyService db key = some (ns, raw))
    (h : (apiKeyToJWTHandler svc db m method key).1 = .token token) :
    trimSpace key ≠ [] ∧ token = accessClaims m.now ns key
      [(ascii "scopes", ScopeSet.canonical (scopesFromStored svc.toLower raw))] := by
  rw [apiKeyToJWTHandler] at h
  split at h
  · cases h
  split at h
  · cases h
  · grind [generateJWT]

section
variable {f : Bytes → Bytes} (hf : GoLower f) (now : Int) (ns key raw : Bytes)

def exchangedContext (f : Bytes → Bytes) : Context :=
  withClaims Context.empty
    (accessClaims now ns key [(ascii "scopes", ScopeSet.canonical (scopesFromStored f raw))])

include hf in
lemma GoLower.callerScopes_exchanged : callerScopes f (exchangedContext now ns key raw f) =
    if isAPIKeySubject f key ∧ scopesFromStored f raw ≠ ∅ then scopesFromStored f raw
    else dataPlaneScopes := by
  have hclean := hf.clean_scopesFromStored raw
  have hclaim : scopesClaim f (accessClaims now ns key
      [(ascii "scopes", ScopeSet.canonical (scopesFromStored f raw))]) =
      if isAPIKeySubject f key = true then
        nonBlank (some (ScopeSet.canonical (scopesFromStored f raw)))
      else none := rfl
  simp only [callerScopes, exchangedContext, withClaims, hclaim, nonBlank_some,
    hclean.trimSpace_canonical, hclean.canonical_eq_nil_iff]
  by_cases hsub : isAPIKeySubject f key
  · by_cases hempty : scopesFromStored f raw = ∅
    · simp [hsub, hempty, Context.empty]
    · simp [hsub, hempty, hclean.parseScopes_canonical hempty]
  · simp [hsub, Context.empty]

lemma hasWalletJWT_exchanged (hkey : trimSpace key ≠ []) :
    hasWalletJWT f (exchangedContext now ns key raw f) = !isAPIKeySubject f key := by
  simp [hasWalletJWT, exchangedContext, withClaims, accessClaims, isAPIKeySubject, trimSpace_trimSpace, hkey]

end

def getRequest (path : Bytes) : Request := ⟨.get, path, [], [], .v4 127 0 0 1, Context.empty⟩

attribute [local simp] ScopeSet.has requiresUserJWT

lemma not_permits_iff_dataPlane (scopes : ScopeSet) :
    ¬ ∀ r, Permits scopes false r ↔ Permits dataPlaneScopes true r := by
  intro h
  by_cases ha : Grant.admin.text ∈ scopes
  · have hreq : requiredScope .get (ascii "/v1/deployments/list") = some .admin := by decide
    have hdata := h (getRequest (ascii "/v1/deployments/list"))
    simp only [Permits, getRequest, hreq] at hdata
    simp [ha, admin_notMem_dataPlaneScopes] at hdata
  · have hreq : requiredScope .get (ascii "/v1/storage/get") = some .storage := by decide
    have hdata := h (getRequest (ascii "/v1/storage/get"))
    have hmem : Grant.storage.text ∈ dataPlaneScopes := by decide
    simp only [Permits, getRequest, hreq] at hdata
    simp [ha, hmem] at hdata

lemma not_permits_empty_iff : ¬ ∀ r, Permits ∅ false r ↔ Permits dataPlaneScopes false r := by
  intro h
  have hreq : requiredScope .get (ascii "/v1/pubsub/topics") = some .pubsub := by decide
  have hdata := h (getRequest (ascii "/v1/pubsub/topics"))
  have hmem : Grant.pubsub.text ∈ dataPlaneScopes := by decide
  simp only [Permits, getRequest, hreq] at hdata
  simp [hmem] at hdata

/-- A key and the token it is exchanged for pass the same scope checks exactly when
the key is a new one, not the stored hash of one, and has a grant. -/
theorem exchange_same_iff (env : Env) (svc : AuthService) (hf : GoLower svc.toLower) (ops : List KeyOp)
    {key ns raw : Bytes} (hout : HandedOut svc.toKeyService ops key)
    (hlookup : lookupAPIKeyEntry svc.toKeyService (KeyState.run svc.toKeyService ops).db key = some (ns, raw))
    (m : Moment) {token : JWTClaims}
    (htoken : (apiKeyToJWTHandler svc (KeyState.run svc.toKeyService ops).db m .post key).1 = .token token) :
    (∀ r, ScopeAllows svc.toLower r
        (withKey (gatewayEnv env svc.toKeyService (KeyState.run svc.toKeyService ops).db) Context.empty
          key ns raw) ↔
      ScopeAllows svc.toLower r (withClaims Context.empty token)) ↔
      IsRaw key ∧ scopesFromStored svc.toLower raw ≠ ∅ := by
  obtain ⟨hkey, rfl⟩ := apiKeyToJWTHandler_token hlookup htoken
  have hcaller := hf.callerScopes_exchanged m.now ns key raw
  have hwallet := hasWalletJWT_exchanged (f := svc.toLower) m.now ns key raw hkey
  change (∀ r, _ ↔ ScopeAllows svc.toLower r (exchangedContext m.now ns key raw svc.toLower)) ↔ _
  simp only [scopeAllows_iff, hcaller, hwallet, ← hf.isAPIKeySubject_iff hout]
  change (∀ r, Permits (scopesFromStored svc.toLower raw) false r ↔ _) ↔ _
  cases hsub : isAPIKeySubject svc.toLower key with
  | true =>
    by_cases hempty : scopesFromStored svc.toLower raw = ∅
    · simpa [hempty] using not_permits_empty_iff
    · simp [hempty]
  | false => simpa using not_permits_iff_dataPlane (scopesFromStored svc.toLower raw)

lemma apiKeyToJWTHandler_eq_token {ns raw : Bytes} (m : Moment) (hsign : svc.hasSigningKey)
    (hkey : trimSpace key ≠ []) (hlookup : lookupAPIKeyEntry svc.toKeyService db key = some (ns, raw)) :
    (apiKeyToJWTHandler svc db m .post key).1 = .token (accessClaims m.now ns key
      [(ascii "scopes", ScopeSet.canonical (scopesFromStored svc.toLower raw))]) := by
  simp [apiKeyToJWTHandler, hkey, hlookup, generateJWT, hsign]

def hashingService : AuthService := { echoService with apiKeyHMACSecret := ascii "secret" }

def askTwice : List KeyOp := sampleOps ++ sampleOps
def secondAnswer : Bytes := hashingService.hashAPIKey sampleKey

lemma handedOut_sampleKey : HandedOut hashingService.toKeyService askTwice sampleKey :=
  ⟨[], _, sampleOps, rfl, by decide +kernel⟩

lemma handedOut_secondAnswer : HandedOut hashingService.toKeyService askTwice secondAnswer :=
  ⟨sampleOps, _, [], rfl, by decide +kernel⟩

lemma lookup_askTwice : ∀ key ∈ [sampleKey, secondAnswer],
    lookupAPIKeyEntry hashingService.toKeyService (KeyState.run hashingService.toKeyService askTwice).db key =
    some (ascii "tenant", []) := by
  decide +kernel

theorem exchange_same_sampleKey : (∀ r, ScopeAllows hashingService.toLower r
        (withKey (gatewayEnv bareEnv hashingService.toKeyService
          (KeyState.run hashingService.toKeyService askTwice).db) Context.empty sampleKey (ascii "tenant") []) ↔
      ScopeAllows hashingService.toLower r
        (exchangedContext 0 (ascii "tenant") sampleKey [] hashingService.toLower)) ↔
      IsRaw sampleKey ∧ scopesFromStored hashingService.toLower [] ≠ ∅ :=
  exchange_same_iff bareEnv hashingService goLower_lowerAscii askTwice handedOut_sampleKey
    (lookup_askTwice _ (by simp)) (momentAt 0)
    (apiKeyToJWTHandler_eq_token (momentAt 0) rfl (by decide +kernel) (lookup_askTwice _ (by simp)))

/-- The answer to the second call is the hash of the key. It is an administrator as
a key, and its token is taken for that of a wallet. -/
theorem secondAnswer_loses_admin : HandedOut hashingService.toKeyService askTwice secondAnswer ∧
    lookupAPIKeyEntry hashingService.toKeyService (KeyState.run hashingService.toKeyService askTwice).db
        secondAnswer = some (ascii "tenant", []) ∧
      (apiKeyToJWTHandler hashingService (KeyState.run hashingService.toKeyService askTwice).db (momentAt 0)
        .post secondAnswer).1 = .token (accessClaims 0 (ascii "tenant") secondAnswer
          [(ascii "scopes", ScopeSet.canonical (scopesFromStored hashingService.toLower []))]) ∧
      ScopeAllows hashingService.toLower (getRequest (ascii "/v1/deployments/list"))
        (withKey (gatewayEnv bareEnv hashingService.toKeyService
          (KeyState.run hashingService.toKeyService askTwice).db) Context.empty secondAnswer
          (ascii "tenant") []) ∧
      ¬ ScopeAllows hashingService.toLower (getRequest (ascii "/v1/deployments/list"))
        (exchangedContext 0 (ascii "tenant") secondAnswer [] hashingService.toLower) := by
  have hlookup := lookup_askTwice secondAnswer (by simp)
  have hf : GoLower hashingService.toLower := goLower_lowerAscii
  have hsub : isAPIKeySubject hashingService.toLower secondAnswer = false :=
    hf.isAPIKeySubject_bytesToHex _
  have hreq : requiredScope .get (ascii "/v1/deployments/list") = some .admin := by decide
  refine ⟨handedOut_secondAnswer, hlookup,
    apiKeyToJWTHandler_eq_token (momentAt 0) rfl (by decide +kernel) hlookup, ?_, ?_⟩
  · rw [scopeAllows_iff]
    simp only [Permits, getRequest, hreq, Option.some.injEq, forall_eq']
    exact .inr ⟨by decide, by decide⟩
  · rw [scopeAllows_iff, hf.callerScopes_exchanged, hsub]
    simp [Permits, getRequest, hreq, admin_notMem_dataPlaneScopes]

end Orama.Gateway
