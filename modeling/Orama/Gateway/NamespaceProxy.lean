import Orama.Gateway.Admin
import Orama.Gateway.Scopes

namespace Orama.Gateway
open Lib List

def Headers.del (h : Headers) (name : Bytes) : Headers := h.filter fun e => canonical e.1 ≠ canonical name

def Headers.set (h : Headers) (name value : Bytes) : Headers := h.del name ++ [(name, value)]

abbrev Marshal := List (Bytes × Bytes) → Bytes

def setInternalAuthJWTHeaders (marshal : Marshal) (h : Headers) : Option JWTClaims → Headers
  | none => h
  | some claims =>
    let sub := trimSpace claims.sub
    let h := if sub ≠ [] then h.set headerJWTSub sub else h
    if claims.custom ≠ [] then h.set headerJWTCustom (Base64.encode (marshal claims.custom)) else h

def stripInboundInternalAuthHeaders (h : Headers) : Headers :=
  ((((h.del headerValidated).del headerNamespace).del headerJWTSub).del headerJWTCustom).del headerScopes

inductive ProxyAuth
  | missing
  | invalid (errMsg : Bytes)
  | token (claims : JWTClaims)
  | key (key ns rawScopes : Bytes)

def ProxyAuth.ns : ProxyAuth → Bytes
  | missing => []
  | invalid _ => []
  | token claims => trimSpace claims.ns
  | key _ ns _ => ns

def ProxyAuth.claims : ProxyAuth → Option JWTClaims
  | token claims => some claims
  | _ => none

def ProxyAuth.scopes (toLower : Bytes → Bytes) : ProxyAuth → Bytes
  | key _ _ rawScopes => ScopeSet.canonical (scopesFromStored toLower rawScopes)
  | _ => []

def ProxyAuth.errMsg : ProxyAuth → Bytes
  | invalid errMsg => errMsg
  | _ => []

def named (claims : Option JWTClaims) : Option JWTClaims := claims.filter fun c => trimSpace c.ns ≠ []

def validateAuthForNamespaceProxy (env : Env) (r : Request) : ProxyAuth × List (Bytes × Bytes) :=
  match named (bearerClaims env r.headers) with
  | some claims => (.token claims, r.query)
  | none =>
    match named (queryClaims env r) with
    | some claims => (.token claims, stripJWTQueryParam r.query)
    | none =>
      let key := extractAPIKey env r
      if key = [] then (.missing, r.query)
      else
        match env.lookupAPIKeyEntry key with
        | none => (.invalid (ascii "invalid API key"), r.query)
        | some (ns, rawScopes) => (.key key ns rawScopes, r.query)

structure Forwarded where
  webSocket : Bool
  headers : Headers
  query : List (Bytes × Bytes)

inductive ProxyOutcome
  | reject (status : Nat) (message authenticate : Bytes)
  | forward (p : Forwarded)

def internalAuthHeaders (env : Env) (marshal : Marshal) (h : Headers) (auth : ProxyAuth) : Headers :=
  let h := stripInboundInternalAuthHeaders h
  if auth.ns = [] then h
  else
    let h := (h.set headerValidated (ascii "true")).set headerNamespace auth.ns
    let h := setInternalAuthJWTHeaders marshal h auth.claims
    if auth.scopes env.toLower ≠ [] then h.set headerScopes (auth.scopes env.toLower) else h

def forwardingHeaders (h : Headers) (clientIP host : Bytes) : Headers :=
  ((h.set (ascii "X-Forwarded-For") clientIP).set (ascii "X-Forwarded-Proto") (ascii "https")).set
    (ascii "X-Forwarded-Host") host

/-- The name of the namespace is taken from the host. Its gateway may not be
available, for a reason that is sent to the client. -/
def handleNamespaceGatewayRequest (env : Env) (marshal : Marshal) (r : Request)
    (clientIP host namespaceName : Bytes) (unavailable : Option (Nat × Bytes)) : ProxyOutcome :=
  let (auth, query) := validateAuthForNamespaceProxy env r
  let isPublic := isPublicPath r.path
  if auth.errMsg ≠ [] ∧ isPublic = false then
    .reject 401 auth.errMsg (ascii "Bearer error=\"invalid_token\"")
  else if auth.ns = [] ∧ isPublic = false then
    .reject 401 (ascii "authentication required for namespace endpoint (no api_key/token/jwt extracted)")
      (ascii "Bearer realm=\"gateway\"")
  else if auth.ns ≠ [] ∧ auth.ns ≠ namespaceName then
    .reject 403 (ascii "API key does not belong to this namespace") []
  else
    match unavailable with
    | some (status, message) => .reject status message []
    | none =>
      let h := forwardingHeaders r.headers clientIP host
      if isWebSocketUpgrade env r.headers then
        .forward ⟨true, internalAuthHeaders env marshal h auth, query⟩
      else
        .forward ⟨false, internalAuthHeaders env marshal (h.set (ascii "X-Original-Host") host) auth, query⟩

def isSpaceOrTab (c : UInt8) : Bool := c = 32 || c = 9

def trimField (v : Bytes) : Bytes := ((v.dropWhile isSpaceOrTab).reverse.dropWhile isSpaceOrTab).reverse

def validFieldValue (v : Bytes) : Bool := v.all fun c => c = 9 || (32 ≤ c && c ≠ 127)

def sendHeaders (h : Headers) : Option Headers :=
  if h.all fun e => validFieldValue e.2 then some (h.map fun e => (e.1, trimField e.2)) else none

def Forwarded.deliver (p : Forwarded) : Option Headers :=
  sendHeaders (if p.webSocket then p.headers.map fun e => (e.1, e.2.map spaceOut) else p.headers)

lemma Headers.find?_del (h : Headers) (name : Bytes) :
    (h.del name).find? (fun e => canonical e.1 = canonical name) = none := by
  grind [del]

@[simp]
lemma Headers.get_del (h : Headers) (name : Bytes) : (h.del name).get name = [] := by
  rw [get, find?_del]
  rfl

@[simp]
lemma Headers.get_set (h : Headers) (name value : Bytes) : (h.set name value).get name = value := by
  rw [get, set, find?_append, find?_del]
  simp

variable {other name : Bytes}

lemma Headers.get_del_of_ne (h : Headers) (hne : canonical other ≠ canonical name) :
    (h.del other).get name = h.get name := by
  grind [get, del]

lemma Headers.get_set_of_ne (h : Headers) (value : Bytes) (hne : canonical other ≠ canonical name) :
    (h.set other value).get name = h.get name := by
  rw [set, ← h.get_del_of_ne hne, get, find?_append]
  simp [hne, get]

open Headers

lemma Headers.get_map (h : Headers) {f : Bytes → Bytes} (hf : f [] = []) (name : Bytes) :
    get (h.map fun e => (e.1, f e.2)) name = f (h.get name) := by
  rw [get, find?_map, get]
  change (((h.find? fun e => canonical e.1 = canonical name).map _).map _).getD [] = _
  cases h.find? fun e => canonical e.1 = canonical name with
  | none => exact hf.symm
  | some e => rfl

def carry (webSocket : Bool) (v : Bytes) : Bytes := if webSocket then v.map spaceOut else v

variable {p : Forwarded} {h : Headers}

lemma Forwarded.get_deliver (hsent : p.deliver = some h) (name : Bytes) :
    h.get name = trimField (carry p.webSocket (p.headers.get name)) := by
  obtain ⟨webSocket, headers, query⟩ := p
  cases webSocket with
  | false =>
    simp only [deliver, sendHeaders, Bool.false_eq_true, if_false] at hsent
    split at hsent
    · cases hsent
      exact headers.get_map rfl name
    · cases hsent
  | true =>
    simp only [deliver, sendHeaders, if_true] at hsent
    split at hsent
    · cases hsent
      rw [get_map _ rfl, get_map _ rfl]
      rfl
    · cases hsent

lemma spaceOut_eq_iff {b : UInt8} (hb : b ≠ 10 ∧ b ≠ 13 ∧ b ≠ 32) (c : UInt8) : spaceOut c = b ↔ c = b := by
  grind [spaceOut]

lemma spaceOut_ne (c : UInt8) : spaceOut c ≠ 10 ∧ spaceOut c ≠ 13 := by grind [spaceOut]

structure HasBreaks (chars : List Bytes) : Prop where
  mem : ∀ c ∈ [10, 13, 32], [c] ∈ chars
  other : ∀ w ∈ chars, w ∈ [[10], [13], [32]] ∨ w ≠ [] ∧ ∀ b ∈ w, b ≠ 10 ∧ b ≠ 13 ∧ b ≠ 32

lemma hasBreaks_whiteSpace : HasBreaks whiteSpace ∧ HasBreaks (whiteSpace.map List.reverse) :=
  ⟨⟨by decide +kernel, by decide +kernel⟩, ⟨by decide +kernel, by decide +kernel⟩⟩

lemma HasBreaks.not_prefix_map {chars : List Bytes} (hchars : HasBreaks chars) {s : Bytes}
    (hs : ∀ w ∈ chars, ¬ w <+: s) : ∀ w ∈ chars, ¬ w <+: s.map spaceOut := by
  intro w hw hp
  rcases hchars.other w hw with hbreak | ⟨hne, hother⟩
  · cases s with
    | nil =>
      have hnil := prefix_nil.1 hp
      simp [hnil] at hbreak
    | cons c s =>
      have hc : c ∈ [10, 13, 32] := by
        have := spaceOut_ne c
        simp only [mem_cons, not_mem_nil, or_false] at hbreak ⊢
        rcases hbreak with rfl | rfl | rfl <;> simp only [map_cons, cons_prefix_cons] at hp
        · exact absurd hp.1.symm this.1
        · exact absurd hp.1.symm this.2
        · grind [spaceOut]
      exact hs [c] (hchars.mem c hc) ⟨s, rfl⟩
  · have hsame := isPrefixOf_map (fun b hb c => spaceOut_eq_iff (hother b hb) c) s
    exact hs w hw (List.isPrefixOf_iff_prefix.1 (hsame ▸ List.isPrefixOf_iff_prefix.2 hp))

variable {v : Bytes}

lemma trimSpace_map_spaceOut (hv : trimSpace v = v) : trimSpace (v.map spaceOut) = v.map spaceOut := by
  apply trimSpace_eq_self
  · exact hasBreaks_whiteSpace.1.not_prefix_map (hv ▸ not_prefix_trimSpace v)
  · intro w hw hp
    have hright : ∀ w ∈ whiteSpace.map List.reverse, ¬ w <+: v.reverse := by
      grind [not_suffix_trimSpace]
    refine hasBreaks_whiteSpace.2.not_prefix_map hright w.reverse (mem_map_of_mem hw) ?_
    rwa [map_reverse, List.reverse_prefix]

lemma trimSpace_carry (webSocket : Bool) (hv : trimSpace v = v) :
    trimSpace (carry webSocket v) = carry webSocket v := by
  cases webSocket with
  | false => exact hv
  | true => exact trimSpace_map_spaceOut hv

lemma trimField_eq_self (hv : trimSpace v = v) : trimField v = v := by
  have hdrop : ∀ s : Bytes, ¬ [32] <+: s → ¬ [9] <+: s → s.dropWhile isSpaceOrTab = s := by
    intro s h32 h9
    cases s with
    | nil => rfl
    | cons c s => grind [dropWhile_cons_of_neg, isSpaceOrTab]
  have hleft := not_prefix_trimSpace v
  have hright := not_suffix_trimSpace v
  rw [hv] at hleft hright
  rw [trimField, hdrop v (hleft _ (by decide)) (hleft _ (by decide)), hdrop, reverse_reverse]
  · exact fun h => hright [32] (by decide) (List.reverse_prefix.1 h)
  · exact fun h => hright [9] (by decide) (List.reverse_prefix.1 h)

lemma Forwarded.get_deliver_of_trimmed (hsent : p.deliver = some h) (hv : p.headers.get name = v)
    (htrim : trimSpace v = v) : h.get name = carry p.webSocket v ∧ trimSpace (h.get name) = carry p.webSocket v := by
  grind [trimSpace_carry, get_deliver, trimField_eq_self]

end Orama.Gateway
