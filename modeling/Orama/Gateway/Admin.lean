import Orama.Gateway.Authorization

namespace Orama.Gateway
open Lib
variable {g : Grant}

lemma isPublicPath_of_requiredScope {method : Method} {path : Bytes} (h : requiredScope method path = some g) :
    isPublicPath path = false := by
  grind [requiredScope]

structure SameRoute (r r' : Request) : Prop where
  method : r'.method = r.method
  path : r'.path = r.path
  headers : r'.headers = r.headers

variable {env : Env} {r r' : Request}

lemma credentialAuth_next (hp : isPublicPath r.path = false) (h : credentialAuth env r = .next r') : SameRoute r r' ∧
      ((∃ claims, (bearerClaims env r.headers = some claims ∨ queryClaims env r = some claims) ∧
      r'.context = withClaims r.context claims) ∨
      ∃ ns rawScopes, env.lookupAPIKeyEntry (extractAPIKey env r) = some (ns, rawScopes) ∧
      r'.context = withKey env r.context (extractAPIKey env r) ns rawScopes) := by
  rw [credentialAuth] at h
  cases hb : bearerClaims env r.headers with
  | some claims =>
    rw [hb] at h
    cases h
    exact ⟨⟨rfl, rfl, rfl⟩, .inl ⟨claims, .inl rfl, rfl⟩⟩
  | none =>
    rw [hb] at h
    cases hq : queryClaims env r with
    | some claims =>
      rw [hq] at h
      cases h
      exact ⟨⟨rfl, rfl, rfl⟩, .inl ⟨claims, .inr rfl, rfl⟩⟩
    | none =>
      rw [hq] at h
      simp only [apiKeyAuth, onlyPublic, hp, Bool.false_eq_true, if_false] at h
      split at h
      · cases h
      · cases hl : env.lookupAPIKeyEntry (extractAPIKey env r) with
        | none =>
          rw [hl] at h
          cases h
        | some entry =>
          rw [hl] at h
          cases h
          exact ⟨⟨rfl, rfl, rfl⟩, .inr ⟨_, _, rfl, rfl⟩⟩

lemma authMiddleware_eq_credentialAuth (env : Env) (hm : r.method ≠ .options)
    (hh : r.headers.get headerValidated ≠ ascii "true") : authMiddleware env r = credentialAuth env r := by
  have hnone : internalAuth env r = none := by rw [internalAuth, internalContext, if_neg hh, ite_self]
  rw [authMiddleware, if_neg hm, hnone]

def Confirms (svc : KeyService) (clientNamespace : Bytes) (db : Database) (ctx : Context) : Prop :=
  ∃ ownerID nsID, actorOf svc ctx = some (.wallet, ownerID) ∧
    (db.ensureNamespace (effectiveNamespace clientNamespace ctx)).namespaceID
      (effectiveNamespace clientNamespace ctx) = some nsID ∧
    isOwner svc db nsID ctx .wallet ownerID = true

variable {svc : KeyService} {clientNamespace : Bytes} {db : Database}

lemma checkOwnership_next (h : checkOwnership svc clientNamespace db r = .next r') :
    r' = r ∨ r' = { r with context := { r.context with ownerConfirmed := true } } ∧
    Confirms svc clientNamespace db r.context := by
  simp only [checkOwnership] at h
  split at h
  · cases h
  split at h
  · cases h
  · next ownerType ownerID hactor =>
    split at h
    · cases h
    · next nsID hid =>
      split at h
      · next howner =>
        split at h
        · next hw =>
          subst hw
          cases h
          exact .inr ⟨rfl, ownerID, nsID, hactor, hid, howner⟩
        · cases h
          exact .inl rfl
      · cases h

lemma authorizationMiddleware_next (h : authorizationMiddleware svc clientNamespace db r = .next r') :
    ∃ confirmed, r' = { r with context := { r.context with ownerConfirmed := confirmed } } ∧
    (confirmed → r.context.ownerConfirmed ∨ Confirms svc clientNamespace db r.context) := by
  have hcheck : r' = r ∨ checkOwnership svc clientNamespace db r = .next r' := by
    grind [authorizationMiddleware, forbidden]
  rcases hcheck.imp_right checkOwnership_next with rfl | rfl | ⟨rfl, hconfirms⟩
  · exact ⟨_, rfl, .inl⟩
  · exact ⟨_, rfl, .inl⟩
  · exact ⟨true, rfl, fun _ => .inr hconfirms⟩

open Context AuthResult

lemma scopeMiddleware_next {toLower : Bytes → Bytes} (hm : r.method ≠ .options)
    (hg : requiredScope r.method r.path = some g) (h : scopeMiddleware toLower r = .next r') :
    r' = r ∧ (callerScopes toLower r.context).has (some g) := by
  have hp := isPublicPath_of_requiredScope hg
  simp only [scopeMiddleware, hm, decide_false, hp, Bool.or_self, Bool.false_eq_true, if_false, hg, forbidden] at h
  split_ifs at h with hscopes huser
  · exact ⟨(next.inj h).symm, by simpa using hscopes⟩

def actsOn (clientNamespace ns : Bytes) : Bytes :=
  if trimSpace ns ≠ [] then trimSpace ns else trimSpace clientNamespace

def AdminClaims (svc : KeyService) (db : Database) (ns : Bytes) (claims : JWTClaims) : Prop :=
  (∃ raw, scopesClaim svc.toLower claims = some raw ∧ Grant.admin.text ∈ parseScopes svc.toLower raw) ∨
      ∃ nsID, (db.ensureNamespace ns).namespaceID ns = some nsID ∧
      db.owns ⟨nsID, .wallet, trimSpace claims.sub⟩ = true

lemma effectiveNamespace_withClaims (clientNamespace : Bytes) (claims : JWTClaims) :
    effectiveNamespace clientNamespace (withClaims empty claims) = actsOn clientNamespace claims.ns := by
  by_cases h : trimSpace claims.ns = []
  · simp only [effectiveNamespace, withClaims, actsOn, h, ne_eq, not_true_eq_false, if_false, if_true]
    rfl
  · simp [effectiveNamespace, withClaims, actsOn, h, trimSpace_trimSpace]

lemma admin_notMem_dataPlaneScopes : Grant.admin.text ∉ dataPlaneScopes := by decide

lemma has_admin_iff (scopes : ScopeSet) : scopes.has (some .admin) ↔ Grant.admin.text ∈ scopes := by
  simp [ScopeSet.has]

lemma ownsBy_wallet (svc : KeyService) (db : Database) (nsID : Nat) (ownerID : Bytes) :
    ownsBy svc db nsID .wallet ownerID = db.owns ⟨nsID, .wallet, ownerID⟩ := by
  simp [ownsBy, apiKeyOwnerCandidates]

lemma nonBlank_some (s : Bytes) : nonBlank (some s) = if trimSpace s = [] then none else some (trimSpace s) := by
  grind [nonBlank]

lemma eq_trimSpace_of_nonBlank {s t : Bytes} (h : nonBlank (some s) = some t) : t = trimSpace s := by
  obtain ⟨hs, _⟩ := Option.filter_eq_some_iff.1 h
  exact (Option.some.inj hs).symm

variable {claims : JWTClaims}

lemma eq_sub_of_actorOf {ctx : Context} {ownerID : Bytes} (hjwt : ctx.jwt = some claims)
    (h : actorOf svc ctx = some (.wallet, ownerID)) : ownerID = trimSpace claims.sub := by
  grind [eq_trimSpace_of_nonBlank, Option.map_eq_some_iff, actorOf]

lemma Confirms.adminClaims (h : Confirms svc clientNamespace db (withClaims empty claims)) :
    AdminClaims svc db (actsOn clientNamespace claims.ns) claims := by
  obtain ⟨ownerID, nsID, hactor, hid, howner⟩ := h
  rw [effectiveNamespace_withClaims] at hid
  have hkey : nonBlank (withClaims empty claims).apiKey = none := rfl
  rw [isOwner, hkey, ownsBy_wallet, eq_sub_of_actorOf rfl hactor] at howner
  exact .inr ⟨nsID, hid, by simpa using howner⟩

lemma adminClaims_of_callerScopes {confirmed : Bool}
    (hconfirmed : confirmed → Confirms svc clientNamespace db (withClaims empty claims))
    (hadmin : Grant.admin.text ∈ callerScopes svc.toLower
      { withClaims empty claims with ownerConfirmed := confirmed }) :
    AdminClaims svc db (actsOn clientNamespace claims.ns) claims := by
  have hjwt : (withClaims empty claims).jwt = some claims := rfl
  simp only [callerScopes, hjwt] at hadmin
  split at hadmin
  · next raw hraw => exact .inl ⟨raw, hraw, hadmin⟩
  · grind [Confirms.adminClaims, admin_notMem_dataPlaneScopes]

lemma AuthResult.bind_eq_next {a : AuthResult} {f : Request → AuthResult} (h : a.bind f = .next r') :
    ∃ r, a = .next r ∧ f r = .next r' := by
  cases a with
  | next r => exact ⟨r, rfl, h⟩
  | reject status message authenticate => cases h

lemma middlewares_next (hm : r.method ≠ .options) (hg : requiredScope r.method r.path = some .admin)
    (hctx : r.context = empty) (hh : r.headers.get headerValidated ≠ ascii "true")
    (h : middlewares env svc clientNamespace db r = .next r') :
    (∃ claims, (bearerClaims (gatewayEnv env svc db) r.headers = some claims ∨
          queryClaims (gatewayEnv env svc db) r = some claims) ∧
          effectiveNamespace clientNamespace r'.context = actsOn clientNamespace claims.ns ∧
          AdminClaims svc db (actsOn clientNamespace claims.ns) claims) ∨ ∃ ns rawScopes,
          lookupAPIKeyEntry svc db (extractAPIKey (gatewayEnv env svc db) r) = some (ns, rawScopes) ∧
          effectiveNamespace clientNamespace r'.context = actsOn clientNamespace ns ∧
          Grant.admin.text ∈ scopesFromStored svc.toLower rawScopes := by
  obtain ⟨r₂, h₂, hscope⟩ := bind_eq_next h
  obtain ⟨r₁, h₁, hauthz⟩ := bind_eq_next h₂
  rw [authMiddleware_eq_credentialAuth _ hm hh] at h₁
  obtain ⟨hroute, hcred⟩ := credentialAuth_next (isPublicPath_of_requiredScope hg) h₁
  obtain ⟨confirmed, rfl, hconfirmed⟩ := authorizationMiddleware_next hauthz
  obtain ⟨rfl, hhas⟩ := scopeMiddleware_next (by simpa [hroute.method] using hm)
    (by simpa [hroute.method, hroute.path] using hg) hscope
  rw [has_admin_iff] at hhas
  rw [hctx] at hcred
  rcases hcred with ⟨claims, hclaims, hctx₁⟩ | ⟨ns, rawScopes, hlookup, hctx₁⟩
  · rw [hctx₁] at hhas hconfirmed
    have hwallet : confirmed → Confirms svc clientNamespace db (withClaims empty claims) :=
      fun h => (hconfirmed h).resolve_left Bool.false_ne_true
    refine .inl ⟨claims, hclaims, ?_, adminClaims_of_callerScopes hwallet hhas⟩
    rw [← effectiveNamespace_withClaims, ← hctx₁]
    rfl
  · rw [hctx₁] at hhas
    refine .inr ⟨ns, rawScopes, hlookup, ?_, hhas⟩
    rw [hctx₁]
    rfl

end Orama.Gateway
