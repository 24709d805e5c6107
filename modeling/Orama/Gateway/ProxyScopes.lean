import Mathlib.Logic.Equiv.List
import Orama.Gateway.NamespaceProxy

namespace Orama.Gateway
open Lib List ProxyAuth

def ProxyAuth.context (env : Env) : ProxyAuth → Context
  | .token claims => withClaims Context.empty claims
  | .key text ns rawScopes => withKey env Context.empty text ns rawScopes
  | .missing => Context.empty
  | .invalid _ => Context.empty

def ProxyAuth.Identified : ProxyAuth → Prop
  | .token claims => trimSpace claims.ns ≠ [] ∧ trimSpace claims.sub ≠ []
  | .key _ ns _ => ns ≠ []
  | .missing => False
  | .invalid _ => False

lemma ProxyAuth.Identified.ns_ne_nil {auth : ProxyAuth} (h : auth.Identified) : auth.ns ≠ [] := by
  cases auth with
  | missing => exact h.elim
  | invalid errMsg => exact h.elim
  | token claims => exact h.1
  | key key ns rawScopes => exact h

def ProxyAuth.sub (auth : ProxyAuth) : Bytes := (auth.claims.map fun c => trimSpace c.sub).getD []

def ProxyAuth.custom (marshal : Marshal) (auth : ProxyAuth) : Bytes :=
  match auth.claims with
  | some claims => if claims.custom ≠ [] then Base64.encode (marshal claims.custom) else []
  | none => []

open Headers
section
variable (env : Env) (marshal : Marshal) (h : Headers) {name : Bytes}

lemma get_stripInbound
    (hname : name ∈ [headerValidated, headerNamespace, headerJWTSub, headerJWTCustom, headerScopes]) :
    (stripInboundInternalAuthHeaders h).get name = [] := by
  simp only [mem_cons, not_mem_nil, or_false] at hname
  rw [stripInboundInternalAuthHeaders]
  rcases hname with rfl | rfl | rfl | rfl | rfl
  · rw [get_del_of_ne _ (by decide), get_del_of_ne _ (by decide),
      get_del_of_ne _ (by decide), get_del_of_ne _ (by decide), get_del]
  · rw [get_del_of_ne _ (by decide), get_del_of_ne _ (by decide), get_del_of_ne _ (by decide), get_del]
  · rw [get_del_of_ne _ (by decide), get_del_of_ne _ (by decide), get_del]
  · rw [get_del_of_ne _ (by decide), get_del]
  · rw [get_del]

lemma get_ite_set_of_ne {other : Bytes} (value : Bytes) (hne : canonical other ≠ canonical name)
    (c : Prop) [Decidable c] : get (if c then h.set other value else h) name = h.get name := by
  split
  · exact h.get_set_of_ne value hne
  · rfl

lemma get_ite_set (value : Bytes) (hnone : h.get name = []) (c : Prop) [Decidable c] :
    get (if c then h.set name value else h) name = if c then value else [] := by
  split
  · exact h.get_set name value
  · exact hnone

variable {h}

lemma get_setInternalAuthJWTHeaders (hsub : canonical headerJWTSub ≠ canonical name)
    (hcustom : canonical headerJWTCustom ≠ canonical name) (claims : Option JWTClaims) :
    (setInternalAuthJWTHeaders marshal h claims).get name = h.get name := by
  cases claims with
  | none => rfl
  | some claims => rw [setInternalAuthJWTHeaders, get_ite_set_of_ne _ _ hcustom, get_ite_set_of_ne _ _ hsub]

lemma get_sub_setInternalAuthJWTHeaders (hnone : h.get headerJWTSub = []) (auth : ProxyAuth) :
    (setInternalAuthJWTHeaders marshal h auth.claims).get headerJWTSub = auth.sub := by
  rw [sub]
  cases auth.claims with
  | none => exact hnone
  | some claims =>
    rw [setInternalAuthJWTHeaders, get_ite_set_of_ne _ _ (by decide), get_ite_set _ _ hnone]
    by_cases hsub : trimSpace claims.sub = [] <;> simp [hsub]

lemma get_custom_setInternalAuthJWTHeaders (hnone : h.get headerJWTCustom = []) (auth : ProxyAuth) :
    (setInternalAuthJWTHeaders marshal h auth.claims).get headerJWTCustom = auth.custom marshal := by
  rw [custom]
  cases auth.claims with
  | none => exact hnone
  | some claims =>
    rw [setInternalAuthJWTHeaders, get_ite_set]
    rwa [get_ite_set_of_ne _ _ (by decide)]

structure SentValues (env : Env) (marshal : Marshal) (auth : ProxyAuth) (h : Headers) : Prop where
  validated : h.get headerValidated = ascii "true"
  ns : h.get headerNamespace = auth.ns
  sub : h.get headerJWTSub = auth.sub
  custom : h.get headerJWTCustom = auth.custom marshal
  scopes : h.get headerScopes = auth.scopes env.toLower

lemma sentValues_internalAuthHeaders (h : Headers) {auth : ProxyAuth} (hns : auth.ns ≠ []) :
    SentValues env marshal auth (internalAuthHeaders env marshal h auth) := by
  have hstrip : ∀ name ∈ [headerValidated, headerNamespace, headerJWTSub, headerJWTCustom, headerScopes],
      (stripInboundInternalAuthHeaders h).get name = [] := fun _ => get_stripInbound h
  rw [internalAuthHeaders, if_neg hns]
  constructor
  · rw [get_ite_set_of_ne _ _ (by decide), get_setInternalAuthJWTHeaders _ (by decide) (by decide),
      get_set_of_ne _ _ (by decide), get_set]
  · rw [get_ite_set_of_ne _ _ (by decide), get_setInternalAuthJWTHeaders _ (by decide) (by decide), get_set]
  · rw [get_ite_set_of_ne _ _ (by decide), get_sub_setInternalAuthJWTHeaders]
    rw [get_set_of_ne _ _ (by decide), get_set_of_ne _ _ (by decide), hstrip _ (by simp)]
  · rw [get_ite_set_of_ne _ _ (by decide), get_custom_setInternalAuthJWTHeaders]
    rw [get_set_of_ne _ _ (by decide), get_set_of_ne _ _ (by decide), hstrip _ (by simp)]
  · rw [get_ite_set]
    · by_cases hscopes : auth.scopes env.toLower = [] <;> simp [hscopes]
    · rw [get_setInternalAuthJWTHeaders _ (by decide) (by decide), get_set_of_ne _ _ (by decide),
        get_set_of_ne _ _ (by decide), hstrip _ (by simp)]

end

lemma validateAuthForNamespaceProxy_forward {env : Env} {marshal : Marshal} {r : Request}
    {clientIP host name : Bytes} {unavailable : Option (Nat × Bytes)} {p : Forwarded}
    (h : handleNamespaceGatewayRequest env marshal r clientIP host name unavailable = .forward p)
    (hns : (validateAuthForNamespaceProxy env r).1.ns ≠ []) : (validateAuthForNamespaceProxy env r).1.ns = name ∧
      SentValues env marshal (validateAuthForNamespaceProxy env r).1 p.headers := by
  rw [handleNamespaceGatewayRequest] at h
  grind [sentValues_internalAuthHeaders]

section
variable {f : Bytes → Bytes} (hf : GoLower f)

lemma hasPrefix_map_spaceOut {p : Bytes} (hp : ∀ b ∈ p, b ≠ 10 ∧ b ≠ 13 ∧ b ≠ 32) (s : Bytes) :
    hasPrefix (s.map spaceOut) p = hasPrefix s p :=
  isPrefixOf_map (fun b hb c => spaceOut_eq_iff (hp b hb) c) s

include hf

lemma GoLower.isAPIKeySubject_carry (webSocket : Bool) (sub : Bytes) :
    isAPIKeySubject f (carry webSocket (trimSpace sub)) = isAPIKeySubject f sub := by
  rw [isAPIKeySubject, trimSpace_carry webSocket (trimSpace_trimSpace sub), isAPIKeySubject]
  cases webSocket with
  | false => rfl
  | true => rw [carry, if_pos rfl, hf.newline, hasPrefix_map_spaceOut (all_iff_forall_prop.1 (by decide))]

lemma GoLower.mem_parseScopes_carry (webSocket : Bool) {scopes : ScopeSet} (hclean : scopes.Clean f)
    (hne : scopes ≠ ∅) {grant : Bytes} (hgrant : ∀ b ∈ grant, b ≠ 10 ∧ b ≠ 13 ∧ b ≠ 32) :
    grant ∈ parseScopes f (carry webSocket scopes.canonical) ↔ grant ∈ scopes := by
  cases webSocket with
  | false =>
    change grant ∈ parseScopes f scopes.canonical ↔ _
    rw [hclean.parseScopes_canonical hne]
  | true =>
    change grant ∈ parseScopes f (scopes.canonical.map spaceOut) ↔ _
    have hsame : ∀ part : Bytes, part.map spaceOut = grant ↔ part = grant :=
      map_eq_iff fun b hb => spaceOut_eq_iff (hgrant b hb)
    have hparts : ∀ part ∈ scopes, f (trimSpace (part.map spaceOut)) = part.map spaceOut := by
      intro part hpart
      obtain ⟨_, _, htrim, hlower⟩ := hclean part hpart
      rw [trimSpace_map_spaceOut htrim, hf.newline, hlower]
    rw [mem_parseScopes, splitOn_map (spaceOut_eq_iff (by decide)), hclean.splitOn_canonical hne]
    constructor
    · rintro ⟨_, _, hmap, heq⟩
      obtain ⟨part, hpart, rfl⟩ := mem_map.1 hmap
      have hmem := (Finset.mem_sort _).1 hpart
      rw [hparts part hmem, hsame] at heq
      exact heq ▸ hmem
    · intro hmem
      refine ⟨(hclean grant hmem).1, _, mem_map_of_mem ((Finset.mem_sort _).2 hmem), ?_⟩
      rw [hparts grant hmem]
      exact (hsame grant).2 rfl

end

lemma carry_nil (webSocket : Bool) : carry webSocket [] = [] := by cases webSocket <;> rfl

variable {v : Bytes}

lemma carry_ne_nil (webSocket : Bool) (hv : v ≠ []) : carry webSocket v ≠ [] := by
  cases webSocket with
  | false => exact hv
  | true => simpa [carry] using hv

lemma carry_eq_self (webSocket : Bool) (hv : ∀ c ∈ v, 32 < c) : carry webSocket v = v := by
  cases webSocket with
  | false => rfl
  | true =>
    refine (map_congr_left fun c hc => ?_).trans (map_id v)
    have := hv c hc
    grind [spaceOut]

def Visible (v : Bytes) : Prop := ∀ c ∈ v, 32 < c ∧ c < 127

lemma Visible.trimSpace_eq (hv : Visible v) : trimSpace v = v := by
  apply trimSpace_eq_self_of_forall
  intro c hc w hw hmem
  have := hv c hc
  rcases whiteSpace_invisible w hw c hmem with h | h <;> grind

lemma Visible.carry_eq (hv : Visible v) (webSocket : Bool) : carry webSocket v = v :=
  carry_eq_self webSocket fun c hc => (hv c hc).1

open Option Base64

lemma visible_encode (bytes : Bytes) : Visible (encode bytes) := by
  intro c hc
  have halphabet : ∀ n < 64, 32 < alphabet n ∧ alphabet n < 127 := by decide
  rcases mem_encode hc with ⟨n, hn, rfl⟩ | rfl
  · exact halphabet n hn
  · decide

structure RoundTrips (env : Env) (marshal : Marshal) : Prop where
  ne_nil : ∀ custom, marshal custom ≠ []
  decode : ∀ custom, custom ≠ [] → env.decodeCustom (Base64.encode (marshal custom)) = some custom

section
variable {env env' : Env} {marshal : Marshal} {auth : ProxyAuth} {p : Forwarded} {h : Headers}
  (hvalues : SentValues env marshal auth p.headers) (hsent : p.deliver = some h)

include hvalues hsent

lemma get_validated : h.get headerValidated = ascii "true" := by
  rw [(p.get_deliver_of_trimmed hsent hvalues.validated (by decide)).1]
  cases p.webSocket <;> decide

lemma trimSpace_get_ns (hns : Visible auth.ns) : trimSpace (h.get headerNamespace) = auth.ns := by
  rw [(p.get_deliver_of_trimmed hsent hvalues.ns hns.trimSpace_eq).2, hns.carry_eq]

lemma trimSpace_get_sub : trimSpace (h.get headerJWTSub) = carry p.webSocket auth.sub := by
  apply (p.get_deliver_of_trimmed hsent hvalues.sub _).2
  rw [sub]
  cases auth.claims with
  | none => decide
  | some claims => exact trimSpace_trimSpace claims.sub

lemma trimSpace_get_custom : trimSpace (h.get headerJWTCustom) = auth.custom marshal := by
  have hvisible : Visible (auth.custom marshal) := by
    rw [custom]
    cases auth.claims with
    | none => exact nofun
    | some claims =>
      dsimp only
      split
      · exact visible_encode _
      · exact nofun
  rw [(p.get_deliver_of_trimmed hsent hvalues.custom hvisible.trimSpace_eq).2, hvisible.carry_eq]

lemma trimSpace_get_scopes (hf : GoLower env.toLower) :
    trimSpace (h.get headerScopes) = carry p.webSocket (auth.scopes env.toLower) := by
  apply (p.get_deliver_of_trimmed hsent hvalues.scopes _).2
  cases auth with
  | key key ns rawScopes => exact (hf.clean_scopesFromStored rawScopes).trimSpace_canonical
  | missing => rfl
  | invalid errMsg => rfl
  | token claims => rfl

lemma claimsFromInternalAuthHeaders_deliver (hround : RoundTrips env' marshal) (name : Bytes)
    {claims : JWTClaims} (hauth : auth = .token claims) (hsub : trimSpace claims.sub ≠ []) :
    claimsFromInternalAuthHeaders env' h name =
      some ⟨[], carry p.webSocket (trimSpace claims.sub), [], 0, 0, 0, name, claims.custom⟩ := by
  subst hauth
  have hget := trimSpace_get_sub hvalues hsent
  have hcustom := trimSpace_get_custom hvalues hsent
  simp only [ProxyAuth.sub, ProxyAuth.claims, map_some, getD_some] at hget
  simp only [ProxyAuth.custom, ProxyAuth.claims] at hcustom
  have hread : (if trimSpace (h.get headerJWTCustom) = [] then []
      else (env'.decodeCustom (trimSpace (h.get headerJWTCustom))).getD []) = claims.custom := by
    rw [hcustom]
    by_cases hempty : claims.custom = []
    · simp [hempty]
    · simp only [hempty, ne_eq, not_false_eq_true, if_true, hround.decode claims.custom hempty]
      have hne : encode (marshal claims.custom) ≠ [] := by
        intro hnil
        have hdecode := decode_encode (marshal claims.custom)
        rw [hnil] at hdecode
        exact hround.ne_nil claims.custom (some.inj hdecode).symm
      rw [if_neg hne, getD_some]
  grind [carry_ne_nil, claimsFromInternalAuthHeaders]

lemma claimsFromInternalAuthHeaders_deliver_key (name : Bytes) (hauth : auth.claims = none) :
    claimsFromInternalAuthHeaders env' h name = none := by
  have hget := trimSpace_get_sub hvalues hsent
  rw [sub, hauth, map_none, getD_none, carry_nil] at hget
  rw [claimsFromInternalAuthHeaders, hget, if_pos rfl]

lemma internalContext_deliver (hf : GoLower env.toLower) (hlower : env'.toLower = env.toLower)
    (hvisible : Visible auth.ns) (hns : auth.ns ≠ []) : internalContext env' h Context.empty = some
      { Context.empty with
        namespaceOverride := some auth.ns
        jwt := claimsFromInternalAuthHeaders env' h auth.ns
        scopes := if auth.scopes env.toLower = [] then none
          else some (parseScopes env.toLower (carry p.webSocket (auth.scopes env.toLower))) } := by
  have hscopes := trimSpace_get_scopes hvalues hsent hf
  have hraw : (if trimSpace (h.get headerScopes) = [] then none
      else some (parseScopes env'.toLower (trimSpace (h.get headerScopes)))) =
      if auth.scopes env.toLower = [] then none
      else some (parseScopes env.toLower (carry p.webSocket (auth.scopes env.toLower))) := by
    grind [carry_nil, carry_ne_nil]
  grind [get_validated, trimSpace_get_ns, internalContext, Context.empty]

end

lemma has_congr {A B : ScopeSet} (h : ∀ g : Grant, g.text ∈ A ↔ g.text ∈ B) (g : Option Grant) :
    A.has g = B.has g := by
  cases g with
  | none => rfl
  | some g => simp [ScopeSet.has, h]

lemma Grant.text_unbroken (g : Grant) : ∀ b ∈ g.text, b ≠ 10 ∧ b ≠ 13 ∧ b ≠ 32 := by
  cases g <;> exact all_iff_forall_prop.1 (by decide)

def unary : Marshal := fun custom =>
  List.replicate (Encodable.encode (custom.map fun e => (e.1.map UInt8.toNat, e.2.map UInt8.toNat)) + 1) 49

def oneKeyEnv : Env :=
  { bareEnv with
    decodeCustom := fun s => do
      let bytes ← Base64.decode s
      let custom ← Encodable.decode (α := List (List Nat × List Nat)) (bytes.length - 1)
      return custom.map fun e => (e.1.map UInt8.ofNat, e.2.map UInt8.ofNat)
    lookupAPIKeyEntry := fun key =>
      if key = ascii "ak_0:tenant" then some (ascii "tenant", ascii " Pubsub,") else none }

lemma roundTrips_unary : RoundTrips oneKeyEnv unary where
  ne_nil custom := by simp [unary, replicate_succ]
  decode custom _ := by simp [oneKeyEnv, unary, decode_encode, Function.comp_def]

def forgedWithKey : Request :=
  { forgedRequest with headers := (ascii "X-API-Key", ascii "ak_0:tenant") :: forgedRequest.headers }

def forwardedWithKey : Forwarded where
  webSocket := false
  headers := [(ascii "X-API-Key", ascii "ak_0:tenant"), (ascii "X-Forwarded-For", ascii "203.0.113.9"),
    (ascii "X-Forwarded-Proto", ascii "https"), (ascii "X-Forwarded-Host", ascii "tenant.orama"),
    (ascii "X-Original-Host", ascii "tenant.orama"), (headerValidated, ascii "true"),
    (headerNamespace, ascii "tenant"), (headerScopes, ascii "pubsub")]
  query := []

lemma handleNamespaceGatewayRequest_forgedWithKey :
    handleNamespaceGatewayRequest oneKeyEnv unary forgedWithKey (ascii "203.0.113.9") (ascii "tenant.orama")
      (ascii "tenant") none = .forward forwardedWithKey := by
  have hvalid : validateAuthForNamespaceProxy oneKeyEnv forgedWithKey =
      (.key (ascii "ak_0:tenant") (ascii "tenant") (ascii " Pubsub,"), []) := rfl
  have hset : scopesFromStored oneKeyEnv.toLower (ascii " Pubsub,") = {ascii "pubsub"} := by decide
  have hscopes : (key (ascii "ak_0:tenant") (ascii "tenant") (ascii " Pubsub,")).scopes
      oneKeyEnv.toLower = ascii "pubsub" := by
    simp [scopes, hset, ScopeSet.canonical, List.intercalate]
  simp only [handleNamespaceGatewayRequest, hvalid, internalAuthHeaders, hscopes]
  rfl

end Orama.Gateway
