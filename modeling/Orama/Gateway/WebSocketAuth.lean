import Orama.Gateway.WebSocket

namespace Orama.Gateway
open Lib List

def urlMarks : Bytes := [9, 35, 37, 38, 43, 59]

lemma trimSpace_sublist (s : Bytes) : (trimSpace s).Sublist s :=
  (trimSpace_prefix_strip s).sublist.trans (strip_suffix _ _ s).sublist

open Url
section
variable {cred : Bytes} (hkey : isKeyText cred = true)
include hkey

lemma exists_trimSpace_key : ∃ t, trimSpace cred = ascii "ak_" ++ t := by
  obtain ⟨t, rfl⟩ := exists_append_of_hasPrefix hkey
  exact exists_trimSpace_append (by decide) (all_iff_forall_prop.1 (by decide)) t

lemma not_prefix_key : ∀ w ∈ whiteSpace, ¬ w <+: cred := by
  obtain ⟨t, rfl⟩ := exists_append_of_hasPrefix hkey
  have hspace : ∀ w ∈ whiteSpace, w.head? ≠ some 97 ∧ w ≠ [] := by decide
  rintro w hw ⟨u, hu⟩
  obtain ⟨hhead, hne⟩ := hspace w hw
  obtain ⟨b, w, rfl⟩ := exists_cons_of_ne_nil hne
  exact hhead (congrArg some (List.cons.inj hu).1)

lemma encodedToken_key : encodedToken cred = cred ∧ paramName cred = ascii "api_key" := by
  grind [encodedToken, paramName]

lemma parseQuery_key (hvalid : validFieldValue cred) (hmarks : ∀ c ∈ trimSpace cred, c ∉ urlMarks) :
    ∃ v, parseQuery (ascii "api_key" ++ 61 :: tidy cred) = [(ascii "api_key", v)] ∧ trimSpace v = trimSpace cred := by
  have hcontrol : ∀ c ∈ trimSpace cred, 32 ≤ c := by
    intro c hc
    have h9 : c ≠ 9 := fun h => hmarks c hc (by simp [urlMarks, h])
    have := all_eq_true.1 hvalid c ((trimSpace_sublist cred).subset hc)
    grind
  have hlast : (trimSpace cred).rdropWhile (· ≤ 32) = trimSpace cred := by
    rw [rdropWhile_eq_self_iff]
    intro hne hle
    have h32 := hcontrol _ (getLast_mem hne)
    have heq : (trimSpace cred).getLast hne = 32 := by
      grind
    refine not_suffix_trimSpace cred [32] (by decide) ⟨(trimSpace cred).dropLast, ?_⟩
    rw [← heq, dropLast_append_getLast]
  have hplain : ∀ c ∈ trimSpace cred, c ∉ [9, 10, 13, 35] := by
    intro c hc hmem
    have h32 := hcontrol c hc
    simp only [mem_cons, not_mem_nil, or_false] at hmem
    rcases hmem with rfl | rfl | rfl | rfl
    · exact absurd h32 (by decide)
    · exact absurd h32 (by decide)
    · exact absurd h32 (by decide)
    · exact hmarks 35 hc (by decide)
  obtain ⟨words, hwords, hcred⟩ := exists_trimSpace_flatten (not_prefix_key hkey)
  obtain ⟨words', hwords', htidy⟩ := exists_tidy_append hwords hplain hlast
  rw [← hcred] at htidy
  have hclean : ∀ c ∈ [37, 38, 43, 59], c ∉ tidy cred := by
    intro c hc hmem
    rw [htidy] at hmem
    rcases mem_append.1 hmem with hmem | hmem
    · exact hmarks c hmem (by simp only [urlMarks]; grind)
    · obtain ⟨w, hw, hcw⟩ := mem_flatten.1 hmem
      rcases whiteSpace_invisible w (hwords' w hw) c hcw with h | h <;> grind
  refine ⟨tidy cred, ?_, ?_⟩
  · exact parseQuery_pair (all_iff_forall_prop.1 (by decide)) ⟨hclean 38 (by decide), hclean 59 (by decide)⟩
      (unescape_eq_self (hclean 37 (by decide)) (hclean 43 (by decide)))
  · rw [htidy]
    apply trimSpace_append_flatten hwords' _ (not_suffix_trimSpace cred)
    obtain ⟨t, ht⟩ := exists_trimSpace_key hkey
    apply not_prefix_key
    rw [ht, append_assoc]
    exact hasPrefix_append _ _

lemma marks_of_mem_parseQuery {e : Bytes × Bytes}
    (he : e ∈ parseQuery (ascii "api_key" ++ 61 :: tidy cred)) (heq : trimSpace e.2 = trimSpace cred) :
    ∀ c ∈ trimSpace cred, c ∉ urlMarks := by
  obtain ⟨words, hwords, hcred⟩ := exists_trimSpace_flatten (not_prefix_key hkey)
  have hcount : (tidy cred).countP visible ≤ e.2.countP visible := by
    grind [tidy_sublist, countP_visible_flatten, trimSpace_sublist]
  have hclean := eq_of_mem_parseQuery (by decide) he hcount
  have hnotMem : ∀ c ∈ [37, 38, 43, 59], c ∉ tidy cred := fun c hc h => hclean c h hc
  rw [parseQuery_pair (all_iff_forall_prop.1 (by decide)) ⟨hnotMem 38 (by decide), hnotMem 59 (by decide)⟩
    (unescape_eq_self (hnotMem 37 (by decide)) (hnotMem 43 (by decide))), mem_singleton] at he
  subst he
  intro c hc hmem
  have htidy : c ∈ tidy cred := (trimSpace_sublist _).subset (heq ▸ hc)
  have hplain := (mem_tidy htidy).2
  grind [urlMarks]

end

lemma parseQuery_token {cred : Bytes} (hkey : isKeyText cred = false) :
    parseQuery (paramName cred ++ 61 :: tidy (encodedToken cred)) = [(ascii "token", cred)] := by
  have hbytes : ∀ c ∈ encodeURIComponent cred, 32 < c ∧ c ∉ [35, 38, 59] := by
    intro c hc
    rcases mem_escape hc with h | h | h
    all_goals grind [componentByte_spec, componentByte]
  have htidy : tidy (encodeURIComponent cred) = encodeURIComponent cred :=
    tidy_eq_self fun c hc => ⟨(hbytes c hc).1, fun h => (hbytes c hc).2 (by simp [h])⟩
  rw [paramName, encodedToken, if_neg (by simp [hkey]), if_neg (by simp [hkey]), htidy]
  exact parseQuery_pair (all_iff_forall_prop.1 (by decide))
    ⟨fun h => (hbytes 38 h).2 (by decide), fun h => (hbytes 59 h).2 (by decide)⟩
    (unescape_escape (by decide) (by decide) cred)

lemma exists_visible_encodedToken {cred : Bytes} (hcred : cred ≠ []) : ∃ c ∈ encodedToken cred, 32 < c := by
  rw [encodedToken]
  split
  · next hkey =>
    obtain ⟨t, rfl⟩ := exists_append_of_hasPrefix hkey
    exact ⟨97, mem_append_left _ (by decide), by decide⟩
  · obtain ⟨b, s, rfl⟩ := exists_cons_of_ne_nil hcred
    by_cases hb : componentByte b
    · exact ⟨b, by simp [encodeURIComponent, escape, hb], (componentByte_spec b hb).1⟩
    · exact ⟨37, by simp [encodeURIComponent, escape, hb, percent], by decide⟩

section
variable {env : Env} {a : WSAddress} {cred : Bytes} {w : Request}

lemma Upgrade.query_eq (hw : Upgrade env (buildWSUrl a.wsURL cred) w) (hcred : cred ≠ []) :
    w.query = a.params ++ parseQuery (paramName cred ++ 61 :: tidy (encodedToken cred)) :=
  hw.query.trans (parseQuery_buildWSUrl a hcred (exists_visible_encodedToken hcred))

variable {query : List (Bytes × Bytes)}

lemma queryGet_eq_nil {name : Bytes} (h : ∀ e ∈ query, e.1 ≠ name) : queryGet query name = [] := by
  grind [find?_eq_none, queryGet]

lemma queryClaims_eq_none (h : queryGet w.query (ascii "jwt") = []) : queryClaims env w = none := by
  have hnil : trimSpace [] = [] := rfl
  rw [queryClaims, h, hnil]
  simp

lemma exists_of_queryKey_ne_nil (hquery : w.query = a.params ++ parseQuery
      (paramName cred ++ 61 :: tidy (encodedToken cred))) (hne : queryKey w.query ≠ []) :
    ∃ e ∈ parseQuery (paramName cred ++ 61 :: tidy (encodedToken cred)), trimSpace e.2 = queryKey w.query := by
  have hget : ∀ name ∈ [ascii "jwt", ascii "api_key", ascii "token"], queryGet w.query name = [] ∨
      ∃ e ∈ parseQuery (paramName cred ++ 61 :: tidy (encodedToken cred)), queryGet w.query name = e.2 := by
    intro name hname
    rw [hquery, queryGet_params hname, queryGet]
    cases hfind : (parseQuery (paramName cred ++ 61 :: tidy (encodedToken cred))).find?
        fun e => e.1 = name with
    | none => exact .inl rfl
    | some e => exact .inr ⟨e, mem_of_find?_eq_some hfind, rfl⟩
  have hnil : trimSpace [] = [] := rfl
  rw [queryKey] at hne ⊢
  split at hne
  · grind
  · grind

lemma queryKey_single {name v : Bytes}
    (hname : name ∈ [ascii "api_key", ascii "token"]) (hquery : query = a.params ++ [(name, v)]) :
    queryGet query (ascii "jwt") = [] ∧ queryKey query = trimSpace v := by
  have hnil : trimSpace [] = [] := rfl
  simp only [mem_cons, not_mem_nil, or_false] at hname
  rw [hquery, queryKey, queryGet_params (by simp), queryGet_params (by simp), queryGet_params (by simp)]
  rcases hname with rfl | rfl
  · refine ⟨rfl, ?_⟩
    have hkey : queryGet [(ascii "api_key", v)] (ascii "api_key") = v := rfl
    have htoken : queryGet [(ascii "api_key", v)] (ascii "token") = [] := rfl
    rw [hkey, htoken, hnil]
    by_cases hv : trimSpace v = []
    · simp [hv]
    · simp [hv]
  · refine ⟨rfl, ?_⟩
    have hkey : queryGet [(ascii "token", v)] (ascii "api_key") = [] := rfl
    have htoken : queryGet [(ascii "token", v)] (ascii "token") = v := rfl
    rw [hkey, htoken, hnil]
    simp

section
variable (hw : Upgrade env (buildWSUrl a.wsURL cred) w) (hcred : cred ≠ [])
include hw hcred

lemma Upgrade.key_eq (hvalid : validFieldValue cred)
    (hmarks : isKeyText cred → ∀ c ∈ trimSpace cred, c ∉ urlMarks) :
    queryClaims env w = none ∧ extractAPIKey env w = trimSpace cred := by
  have hquery := hw.query_eq hcred
  rw [hw.extractAPIKey_eq]
  cases hkey : isKeyText cred with
  | true =>
    obtain ⟨v, hparse, hv⟩ := parseQuery_key hkey hvalid (hmarks hkey)
    rw [(encodedToken_key hkey).1, (encodedToken_key hkey).2, hparse] at hquery
    obtain ⟨hjwt, hfound⟩ := queryKey_single (by simp) hquery
    exact ⟨queryClaims_eq_none hjwt, hfound.trans hv⟩
  | false =>
    rw [parseQuery_token hkey] at hquery
    obtain ⟨hjwt, hfound⟩ := queryKey_single (by simp) hquery
    exact ⟨queryClaims_eq_none hjwt, hfound⟩

lemma Upgrade.queryClaims_eq_none_of_token (hamp : 38 ∉ cred) : queryClaims env w = none := by
  apply queryClaims_eq_none
  rw [hw.query_eq hcred, queryGet_params (by simp)]
  cases hkey : isKeyText cred with
  | true =>
    rw [(encodedToken_key hkey).1, (encodedToken_key hkey).2]
    apply queryGet_eq_nil
    intro e he hjwt
    have hname := fst_of_mem_parseQuery (all_iff_forall_prop.1 (by decide)) (fun h => hamp (mem_tidy h).1) he
    exact absurd (hname.symm.trans hjwt) (by decide)
  | false =>
    rw [parseQuery_token hkey]
    rfl

end

lemma amp_notMem_of_verifyToken (h64 : ∀ s, 38 ∈ s → env.lib.rawURLDecode s = none) {claims : JWTClaims}
    (h : verifyToken env cred = some claims) : 38 ∉ cred := by
  rw [verifyToken] at h
  split at h
  · intro hamp
    obtain ⟨part, hpart, hmem⟩ := exists_mem_splitOn (show (38 : UInt8) ≠ 46 by decide) hamp
    cases hparse : parseAndVerifyJWT env.lib env.keys env.now cred with
    | error e =>
      rw [hparse] at h
      cases h
    | ok claims' => exact rawURLDecode_of_parseAndVerifyJWT hparse part hpart (h64 part hmem)
  · cases h

end

def clientRequest (query : List (Bytes × Bytes)) (headers : Headers) : Request :=
  ⟨.get, ascii "/v1/pubsub/ws", query, headers, .v4 203 0 113 9, Context.empty⟩

def headerRequest (name value : Bytes) : Request := clientRequest [] [(name, value)]

def upgradeRequest (url : Bytes) : Request :=
  clientRequest (Url.parseQuery (Url.rawQuery url))
    [(ascii "Connection", ascii "Upgrade"), (ascii "Upgrade", ascii "websocket")]

section
variable {env : Env} (hf : GoLower env.toLower)
include hf

lemma isWebSocketUpgrade_headerRequest {name : Bytes}
    (hname : name ∈ [ascii "Authorization", ascii "X-API-Key"]) (value : Bytes) :
    isWebSocketUpgrade env (headerRequest name value).headers = false := by
  have hget : (headerRequest name value).headers.get (ascii "Connection") = [] := by
    simp only [mem_cons, not_mem_nil, or_false] at hname
    rcases hname with rfl | rfl <;> rfl
  rw [isWebSocketUpgrade, hget, hf.nil]
  rfl

lemma inHeader_bearer (cred : Bytes) :
    InHeader env cred (headerRequest (ascii "Authorization") (ascii "Bearer " ++ cred)) where
  method := Method.noConfusion
  external := rfl
  context := rfl
  http := isWebSocketUpgrade_headerRequest hf (by simp) _
  header := .inl ⟨rfl, rfl⟩

lemma inHeader_apiKey (cred : Bytes) : InHeader env cred (headerRequest (ascii "X-API-Key") cred) where
  method := Method.noConfusion
  external := rfl
  context := rfl
  http := isWebSocketUpgrade_headerRequest hf (by simp) _
  header := .inr ⟨rfl, rfl⟩

lemma upgrade_upgradeRequest (url : Bytes) : Upgrade env url (upgradeRequest url) where
  method := Method.noConfusion
  external := rfl
  context := rfl
  upgrade := by
    have hconnection : env.toLower (ascii "Upgrade") = ascii "upgrade" := hf.of_ascii (all_iff_forall_prop.1 (by decide))
    have hupgrade : env.toLower (ascii "websocket") = ascii "websocket" := hf.of_ascii (all_iff_forall_prop.1 (by decide))
    change (contains (env.toLower (ascii "Upgrade")) (ascii "upgrade") &&
      env.toLower (ascii "websocket") = ascii "websocket")
    rw [hconnection, hupgrade]
    decide
  query := rfl
  authorization := rfl
  apiKey := rfl

lemma authMiddleware_bearer {cred : Bytes} {claims : JWTClaims}
    (h : verifyToken env (trimSpace cred) = some claims) :
    ∃ r', authMiddleware env (headerRequest (ascii "Authorization") (ascii "Bearer " ++ cred)) = .next r' ∧
      r'.context.jwt = some claims := by
  have hr := inHeader_bearer hf cred
  have hclaims : bearerClaims env (headerRequest (ascii "Authorization") (ascii "Bearer " ++ cred)).headers =
      some claims := by
    change (if ascii "Bearer " ++ cred = [] then none
      else if hasPrefix (env.toLower (ascii "Bearer " ++ cred)) (ascii "bearer ") then
        verifyToken env (trimSpace cred) else none) = _
    rw [if_neg (append_ne_nil_of_left_ne_nil (by decide) _), if_pos (hasPrefix_bearer hf cred), h]
  rw [hr.authMiddleware_eq, credentialAuth, hclaims]
  exact ⟨_, rfl, rfl⟩

lemma authMiddleware_apiKey {cred : Bytes} (hne : trimSpace cred ≠ []) {ns raw : Bytes}
    (hlookup : env.lookupAPIKeyEntry (trimSpace cred) = some (ns, raw)) :
    ∃ r', authMiddleware env (headerRequest (ascii "X-API-Key") cred) = .next r' ∧
      r'.context = withKey env Context.empty (trimSpace cred) ns raw := by
  have hr := inHeader_apiKey hf cred
  have hkey : extractAPIKey env (headerRequest (ascii "X-API-Key") cred) = trimSpace cred := if_pos hne
  rw [hr.authMiddleware_eq, credentialAuth, hr.queryClaims_eq]
  exact ⟨_, apiKeyAuth_of_lookup hkey hne hlookup, rfl⟩

end

section
variable {env : Env} (hf : GoLower env.toLower) {a : WSAddress} {cred : Bytes}
include hf

lemma understood_of_carried (hvalid : validFieldValue cred)
    (htoken : verifyToken env (trimSpace cred) = none)
    (hmarks : isKeyText cred → ∀ c ∈ trimSpace cred, c ∉ urlMarks) : Understood env a cred := by
  intro r r' hr hnext hne w hw
  rcases hr.accepted hf hnext hne with ⟨claims, hclaims⟩ | ⟨ns, raw, hcred, hlookup, hcontext⟩
  · exact absurd (hclaims.symm.trans htoken) (by simp)
  · have hcred' : cred ≠ [] := by
      rintro rfl
      exact hcred rfl
    obtain ⟨hclaims, hkey⟩ := hw.key_eq hcred' hvalid hmarks
    rw [hw.authMiddleware_eq, hclaims]
    refine ⟨_, apiKeyAuth_of_lookup hkey hcred hlookup, ?_⟩
    rw [hcontext, hw.context]
    exact ⟨rfl, rfl⟩

lemma not_understood_of_token (h64 : ∀ s, 38 ∈ s → env.lib.rawURLDecode s = none) {claims : JWTClaims}
    (hclaims : verifyToken env (trimSpace cred) = some claims) : ¬ Understood env a cred := by
  intro h
  obtain ⟨r', hnext, hjwt⟩ := authMiddleware_bearer hf hclaims
  have hw := upgrade_upgradeRequest hf (buildWSUrl a.wsURL cred)
  have hamp : 38 ∉ cred := fun hmem =>
    amp_notMem_of_verifyToken h64 hclaims (mem_trimSpace (by decide) hmem)
  have hcred : cred ≠ [] := by
    rintro rfl
    cases hclaims
  have hnone := hw.queryClaims_eq_none_of_token hcred hamp
  have hne : r'.context ≠ Context.empty := by
    intro hempty
    rw [hempty] at hjwt
    cases hjwt
  obtain ⟨w', hnext', -, hsame⟩ := h _ _ (inHeader_bearer hf cred) hnext hne _ hw
  rw [hw.authMiddleware_eq, hnone] at hnext'
  rw [hjwt] at hsame
  rcases apiKeyAuth_next hnext' with rfl | ⟨-, ns, raw, -, rfl⟩
  · cases hsame
  · cases hsame

lemma not_understood_of_marks (hkey : isKeyText cred) (hmarks : ¬ ∀ c ∈ trimSpace cred, c ∉ urlMarks)
    (hlookup : ∀ key, env.lookupAPIKeyEntry key = if key = trimSpace cred then some (ascii "tenant", []) else none) :
    ¬ Understood env a cred := by
  intro h
  have hcred : trimSpace cred ≠ [] := by grind
  have hcred' : cred ≠ [] := by
    rintro rfl
    exact hcred rfl
  obtain ⟨r', hnext, hcontext⟩ := authMiddleware_apiKey hf hcred ((hlookup _).trans (if_pos rfl))
  have hw := upgrade_upgradeRequest hf (buildWSUrl a.wsURL cred)
  have hne : r'.context ≠ Context.empty := by
    rw [hcontext]
    exact nofun
  obtain ⟨w', hnext', hns, hjwt⟩ := h _ _ (inHeader_apiKey hf cred) hnext hne _ hw
  rw [hcontext] at hns hjwt
  rw [hw.authMiddleware_eq] at hnext'
  split at hnext'
  · cases hnext'
    cases hjwt
  · rcases apiKeyAuth_next hnext' with rfl | ⟨hfound, ns, raw, hentry, -⟩
    · cases hns
    · rw [hw.extractAPIKey_eq] at hfound hentry
      obtain ⟨e, he, heq⟩ := exists_of_queryKey_ne_nil (hw.query_eq hcred') hfound
      grind [encodedToken_key, marks_of_mem_parseQuery]

end

def Env.withKeys (env : Env) (lookup : Bytes → Option (Bytes × Bytes)) : Env :=
  { env with lookupAPIKeyEntry := lookup }

/-- A credential is understood in a URL, whatever keys the gateway knows, exactly if
it is not a token, and a key among the credentials has no mark of URLs. -/
theorem understood_iff (env : Env) (hf : GoLower env.toLower)
    (h64 : ∀ s, 38 ∈ s → env.lib.rawURLDecode s = none) (a : WSAddress) (cred : Bytes)
    (hvalid : validFieldValue cred = true) :
    (∀ lookup, Understood (env.withKeys lookup) a cred) ↔ verifyToken env (trimSpace cred) = none ∧
      (isKeyText cred = true → ∀ c ∈ trimSpace cred, c ∉ urlMarks) := by
  constructor
  · intro h
    constructor
    · by_contra hsome
      obtain ⟨claims, hclaims⟩ := Option.ne_none_iff_exists'.1 hsome
      exact not_understood_of_token hf h64 hclaims (h env.lookupAPIKeyEntry)
    · intro hkey
      by_contra hmarks
      let lookup := fun key => if key = trimSpace cred then some (ascii "tenant", ([] : Bytes)) else none
      have hf' : GoLower (env.withKeys lookup).toLower := hf
      exact not_understood_of_marks hf' hkey hmarks (fun _ => rfl) (h lookup)
  · rintro ⟨htoken, hmarks⟩ lookup
    have hf' : GoLower (env.withKeys lookup).toLower := hf
    exact understood_of_carried hf' hvalid htoken hmarks

def topicAddress : WSAddress where
  base := ascii "wss://ns-tenant.orama.network/v1/pubsub/ws"
  params := [(ascii "topic", ascii "news & more")]
  plain := all_iff_forall_prop.1 (by decide)
  unauthenticated := by decide

def tokenEnv : Env :=
  { bareEnv with
    lib := ⟨fun s => if s.contains 38 then none else some s, fun _ => some ⟨ascii "RS256", []⟩,
      fun _ => some ⟨ascii "orama-gateway", ascii "0xabc", ascii "gateway", 0, 0, 0, ascii "tenant", []⟩,
      fun _ _ => false, fun _ _ => true⟩
    keys := ⟨[], false, [], true⟩
    lookupAPIKeyEntry := fun key =>
      if key = ascii "ak_0:a+b" then some (ascii "a+b", []) else none }

theorem understood_iff_plainKey :
    (∀ lookup, Understood (tokenEnv.withKeys lookup) topicAddress (ascii "ak_0:tenant ")) ↔
    verifyToken tokenEnv (trimSpace (ascii "ak_0:tenant ")) = none ∧ (isKeyText (ascii "ak_0:tenant ") = true →
    ∀ c ∈ trimSpace (ascii "ak_0:tenant "), c ∉ urlMarks) :=
  understood_iff tokenEnv goLower_lowerAscii (fun s hs => by simp [tokenEnv, hs]) topicAddress
    (ascii "ak_0:tenant ") (by decide)

/-- A token and a key are accepted in a header, and refused in the URL. -/
theorem credentials_refused_in_url :
    (∃ r', authMiddleware tokenEnv (headerRequest (ascii "Authorization") (ascii "Bearer h.p.s")) = .next r' ∧
    r'.context.namespaceOverride = some (ascii "tenant")) ∧
    authMiddleware tokenEnv (upgradeRequest (buildWSUrl topicAddress.wsURL (ascii "h.p.s"))) =
    .reject 401 (ascii "invalid API key") (ascii "Bearer error=\"invalid_token\"") ∧
    (∃ r', authMiddleware tokenEnv (headerRequest (ascii "X-API-Key") (ascii "ak_0:a+b")) = .next r' ∧
    r'.context.namespaceOverride = some (ascii "a+b")) ∧
    authMiddleware tokenEnv (upgradeRequest (buildWSUrl topicAddress.wsURL (ascii "ak_0:a+b"))) =
    .reject 401 (ascii "invalid API key") (ascii "Bearer error=\"invalid_token\"") := by
  refine ⟨⟨_, rfl, rfl⟩, ?_, ⟨_, rfl, rfl⟩, ?_⟩
  · decide +kernel
  · decide +kernel

end Orama.Gateway
