import Orama.Gateway.Containment
import Orama.Gateway.Nonces
import Orama.Gateway.Scopes

namespace Orama.Gateway
open Lib

structure Party where
  db : Database
  keys : List Bytes
  tokens : List JWTClaims
  refreshTokens : List Bytes

def AuthResponse.keys : AuthResponse → List Bytes
  | session _ _ _ key => [key]
  | apiKey key => [key]
  | _ => []

def AuthResponse.tokens : AuthResponse → List JWTClaims
  | session _ accessToken _ _ => [accessToken]
  | token accessToken => [accessToken]
  | refreshed accessToken _ => [accessToken]
  | _ => []

def AuthResponse.refreshTokens : AuthResponse → List Bytes
  | session _ _ refreshToken _ => [refreshToken]
  | refreshed _ refreshToken => [refreshToken]
  | _ => []

def Party.step (svc : AuthService) (p : Party) (e : Moment × AuthRequest) : Party where
  db := (handleAuth svc p.db e.1 e.2).2
  keys := (handleAuth svc p.db e.1 e.2).1.keys ++ p.keys
  tokens := (handleAuth svc p.db e.1 e.2).1.tokens ++ p.tokens
  refreshTokens := (handleAuth svc p.db e.1 e.2).1.refreshTokens ++ p.refreshTokens

def Party.run (svc : AuthService) (p : Party) (es : List (Moment × AuthRequest)) : Party :=
  es.foldl (Party.step svc) p

/-- What a party can send: signatures of its own wallets, and keys and refresh
tokens that it has, as the others cannot be guessed. -/
def Able (svc : AuthService) (Wallets : Bytes → Prop) (p : Party) : AuthRequest → Prop
  | .challenge _ => True
  | .verify c => ∀ req ∈ c.body, req.refused svc = none → Wallets req.wallet
  | .apiKey c => ∀ req ∈ c.body, req.refused svc = none → Wallets req.wallet
  | .simpleKey key _ => (lookupAPIKeyEntry svc.toKeyService p.db key).isSome → key ∈ p.keys
  | .token _ key => (lookupAPIKeyEntry svc.toKeyService p.db key).isSome → key ∈ p.keys
  | .refresh c => ∀ req ∈ c.body, (∃ t ∈ p.db.refreshTokens.rows, t.2.token = sha256Hex req.refreshToken) →
      req.refreshToken ∈ p.refreshTokens

def AuthRequest.keyNamespace (svc : AuthService) (db : Database) (m : Moment) (req : AuthRequest) : Option Bytes :=
  match req with
  | simpleKey key c =>
    if (lookupAPIKeyEntry svc.toKeyService db key).isSome then
      (c.body.filter fun req => c.method = .post ∧ m.clusterOf req.ns = .ready).map fun req =>
        namespaceName req.ns
    else none
  | _ => (req.signed svc m).map fun req => namespaceName req.ns

structure Party.Outside (svc : AuthService) (n : Nat) (name : Bytes) (Wallets : Bytes → Prop) (p : Party) : Prop where
  hosts : p.db.Hosts n name
  wallets : ∀ w, Wallets w → p.db.owns ⟨n, .wallet, trimSpace w⟩ = false
  keys : ∀ key ∈ p.keys, ∀ e ∈ lookupAPIKeyEntry svc.toKeyService p.db key,
    actsOn svc.clientNamespace e.1 = name → Grant.admin.text ∉ scopesFromStored svc.toLower e.2 ∧
    p.db.owns ⟨n, .wallet, trimSpace key⟩ = false
  tokens : p.tokens = []
  refreshTokens : p.refreshTokens = []

structure Presents (env : Env) (svc : AuthService) (p : Party) (r : Request) : Prop where
  method : r.method ≠ .options
  context : r.context = Context.empty
  direct : r.headers.get headerValidated ≠ ascii "true"
  bearer : ∀ claims ∈ bearerClaims (gatewayEnv env svc.toKeyService p.db) r.headers, claims ∈ p.tokens
  query : ∀ claims ∈ queryClaims (gatewayEnv env svc.toKeyService p.db) r, claims ∈ p.tokens
  key : (lookupAPIKeyEntry svc.toKeyService p.db
      (extractAPIKey (gatewayEnv env svc.toKeyService p.db) r)).isSome →
    extractAPIKey (gatewayEnv env svc.toKeyService p.db) r ∈ p.keys

def acceptedOn (env : Env) (svc : AuthService) (db : Database) (r : Request) : Option Bytes :=
  match middlewares env svc.toKeyService svc.clientNamespace db r with
  | .next r' => some (effectiveNamespace svc.clientNamespace r'.context)
  | .reject _ _ _ => none

section
variable (svc : AuthService) (n : Nat) (name : Bytes) (db₀ : Database)

def SafeSubject (subject : Bytes) (custom : List (Bytes × Bytes)) : Prop :=
  db₀.owns ⟨n, .wallet, trimSpace subject⟩ = false ∧ ∀ c ∈ custom, c.1 ≠ ascii "scopes"

def HarmlessKey (db : Database) (key : Bytes) : Prop :=
  ∀ e ∈ lookupAPIKeyEntry svc.toKeyService db key, actsOn svc.clientNamespace e.1 = name →
    Grant.admin.text ∉ scopesFromStored svc.toLower e.2 ∧ db₀.owns ⟨n, .wallet, trimSpace key⟩ = false

def HarmlessToken (claims : JWTClaims) : Prop :=
  actsOn svc.clientNamespace claims.ns = name →
    (∀ raw ∈ scopesClaim svc.toLower claims, Grant.admin.text ∉ parseScopes svc.toLower raw) ∧
    db₀.owns ⟨n, .wallet, trimSpace claims.sub⟩ = false

def HarmlessRefresh (db : Database) (refresh : Bytes) : Prop :=
  ∀ t ∈ db.refreshTokens.rows, t.2.token = sha256Hex refresh → SafeSubject n db₀ t.2.subject t.2.customClaims

structure Harmless (db : Database) (keys : List Bytes) (tokens : List JWTClaims)
    (refreshTokens : List Bytes) : Prop where
  keys : ∀ key ∈ keys, HarmlessKey svc n name db₀ db key
  tokens : ∀ claims ∈ tokens, HarmlessToken svc n name db₀ claims
  refreshTokens : ∀ refresh ∈ refreshTokens, HarmlessRefresh n db₀ db refresh

structure Party.Contained (p : Party) : Prop where
  hosts : p.db.Hosts n name
  owners : ∀ o, o.namespaceID = n → p.db.owns o = true → db₀.owns o = true
  harmless : Harmless svc n name db₀ p.db p.keys p.tokens p.refreshTokens

variable {svc n name db₀} {db db' : Database}

lemma Harmless.nil : Harmless svc n name db₀ db [] [] [] := ⟨by simp, by simp, by simp⟩

lemma Harmless.append {keys keys' : List Bytes} {tokens tokens' : List JWTClaims}
    {refreshTokens refreshTokens' : List Bytes} (h : Harmless svc n name db₀ db keys tokens refreshTokens)
    (h' : Harmless svc n name db₀ db keys' tokens' refreshTokens') :
    Harmless svc n name db₀ db (keys ++ keys') (tokens ++ tokens') (refreshTokens ++ refreshTokens') where
  keys := List.forall_mem_append.2 ⟨h.keys, h'.keys⟩
  tokens := List.forall_mem_append.2 ⟨h.tokens, h'.tokens⟩
  refreshTokens := List.forall_mem_append.2 ⟨h.refreshTokens, h'.refreshTokens⟩

variable (h : Spares svc n name (SafeSubject n db₀) db db')
include h

lemma HarmlessKey.spares {key : Bytes} (hkey : HarmlessKey svc n name db₀ db key) :
    HarmlessKey svc n name db₀ db' key :=
  fun e he hacts => hkey e (h.entries he hacts) hacts

lemma HarmlessRefresh.spares {refresh : Bytes} (hr : HarmlessRefresh n db₀ db refresh) :
    HarmlessRefresh n db₀ db' refresh := by
  intro t ht htoken
  rcases h.refresh t ht with hsafe | ⟨t₀, ht₀, htoken₀, hsubject, hclaims⟩
  · exact hsafe
  · rw [hsubject, hclaims]
    exact hr t₀ ht₀ (htoken₀.symm.trans htoken)

lemma Harmless.spares {keys : List Bytes} {tokens : List JWTClaims} {refreshTokens : List Bytes}
    (hh : Harmless svc n name db₀ db keys tokens refreshTokens) :
    Harmless svc n name db₀ db' keys tokens refreshTokens where
  keys key hkey := (hh.keys key hkey).spares h
  tokens := hh.tokens
  refreshTokens refresh hrefresh := (hh.refreshTokens refresh hrefresh).spares h

end

lemma mem_sanitizeLoop {count total : Nat} {claims : List (Bytes × Option Bytes)} {c : Bytes × Bytes}
    (h : c ∈ sanitizeLoop count total claims) : c.1 ∉ reservedClaimKeys := by
  induction claims generalizing count total with
  | nil => cases h
  | cons claim claims ih =>
    obtain ⟨key, value⟩ := claim
    simp only [sanitizeLoop] at h
    split at h
    · cases h
    split at h
    · exact ih h
    · grind

variable {now : Int} {token : JWTClaims}

lemma eq_of_generateJWT {svc : AuthService} {ns subject : Bytes} {custom : List (Bytes × Bytes)}
    (h : generateJWT svc now ns subject custom = .ok token) : accessClaims now ns subject custom = token := by
  grind [generateJWT]

variable {m : Moment}

lemma issueTokens_eq_ok {svc : AuthService} {db db' : Database} {wallet ns refresh : Bytes}
    (h : issueTokens svc db m wallet ns = (.ok (token, refresh), db')) :
    accessClaims m.now ns wallet (resolveCustomClaims m wallet ns) = token ∧
      ∃ db₁ nsID, storeRefreshToken db₁ m.now nsID wallet refresh (resolveCustomClaims m wallet ns) = some db' := by
  simp only [issueTokens] at h
  grind [eq_of_generateJWT]

lemma refreshToken_eq_ok {svc : AuthService} {db db' : Database} {text ns refresh : Bytes}
    (h : refreshToken svc db m text ns = (.ok (token, refresh), db')) : ∃ row nsID db₁ db₂,
      claimRefreshToken (db.ensureNamespace (namespaceName ns)) m.now nsID (sha256Hex text) = some (row, db₁) ∧
      accessClaims m.now ns row.subject row.customClaims = token ∧
      storeRefreshToken db₂ m.now nsID row.subject refresh row.customClaims = some db' := by
  obtain ⟨nsID, hres, _⟩ := resolveNamespaceID_eq db ns
  grind [eq_of_generateJWT, refreshToken]

lemma claimRefreshToken_mem {db db' : Database} {nsID : Nat} {hashed : Bytes} {row : RefreshToken}
    (h : claimRefreshToken db now nsID hashed = some (row, db')) :
    ∃ t ∈ db.refreshTokens.rows, t.2.token = hashed ∧ t.2 = row := by
  simp only [claimRefreshToken] at h
  split at h
  · grind [Table.mem_of_select]
  split at h
  · grind [Table.mem_of_select]
  · cases h

section
variable {svc : AuthService} {n : Nat} {name : Bytes} {db₀ db db' : Database}

lemma safeSubject_resolveCustomClaims {wallet : Bytes}
    (h : db₀.owns ⟨n, .wallet, trimSpace wallet⟩ = false) (m : Moment) (ns : Bytes) :
    SafeSubject n db₀ wallet (resolveCustomClaims m wallet ns) := by
  refine ⟨h, ?_⟩
  intro c hc hscopes
  rw [resolveCustomClaims] at hc
  split at hc
  · cases hc
  · exact mem_sanitizeLoop hc (hscopes ▸ by decide)

variable {subject : Bytes} {custom : List (Bytes × Bytes)}

lemma harmlessToken_accessClaims (h : SafeSubject n db₀ subject custom) (now : Int) (ns : Bytes) :
    HarmlessToken svc n name db₀ (accessClaims now ns subject custom) := by
  have hfind : (custom.find? fun e => e.1 = ascii "scopes") = none := by
    rw [List.find?_eq_none]
    simpa using h.2
  refine fun _ => ⟨?_, h.1⟩
  intro raw hraw
  simp [scopesClaim, accessClaims, hfind, nonBlank] at hraw

lemma harmlessToken_exchange (hlower : LowerCase svc.toLower) {key ns raw : Bytes}
    (hkey : HarmlessKey svc n name db₀ db key)
    (hl : lookupAPIKeyEntry svc.toKeyService db key = some (ns, raw)) (now : Int) :
    HarmlessToken svc n name db₀ (accessClaims now ns key
      [(ascii "scopes", ScopeSet.canonical (scopesFromStored svc.toLower raw))]) := by
  intro hacts
  obtain ⟨hadmin, howner⟩ := hkey (ns, raw) hl hacts
  refine ⟨?_, howner⟩
  intro scopes hscopes hmem
  rw [scopesClaim] at hscopes
  split at hscopes
  · obtain rfl := eq_trimSpace_of_nonBlank hscopes
    grind [LowerCase.mem_of_mem_canonical, scopesFromStored]
  · cases hscopes

lemma harmlessRefresh_storeRefreshToken {now : Int} {nsID : Nat} {refresh : Bytes}
    (hs : SafeSubject n db₀ subject custom) (h : storeRefreshToken db now nsID subject refresh custom = some db') :
    HarmlessRefresh n db₀ db' refresh := by
  obtain ⟨tokens, hins, rfl⟩ := Option.map_eq_some_iff.1 h
  intro t ht htoken
  obtain rfl := tokens.eq_of_key ht ((Table.mem_insert hins).2 (.inr rfl)) htoken
  exact hs

lemma harmlessKey_getOrCreateAPIKey (hv : db.Valid) (hsep : db'.Separated svc.toKeyService)
    {wallet ns key : Bytes} {buf : Random 18} (hns : namespaceName ns ≠ name)
    (h : getOrCreateAPIKey svc.toKeyService db wallet ns buf = (.ok key, db')) :
    HarmlessKey svc n name db₀ db' key := by
  rintro ⟨ns', raw⟩ he hacts
  obtain rfl := lookup_getOrCreateAPIKey hv hsep h he
  exact absurd ((actsOn_namespaceName _ ns).symm.trans hacts) hns

end

structure Answers (svc : AuthService) (n : Nat) (name : Bytes) (db₀ db : Database)
    (result : AuthResponse × Database) : Prop where
  spares : Spares svc n name (SafeSubject n db₀) db result.2
  harmless : Harmless svc n name db₀ result.2 result.1.keys result.1.tokens result.1.refreshTokens

lemma Answers.after {svc : AuthService} {n : Nat} {name : Bytes} {db₀ db db₁ : Database}
    {result : AuthResponse × Database} (h : Spares svc n name (SafeSubject n db₀) db db₁)
    (h' : Answers svc n name db₀ db₁ result) : Answers svc n name db₀ db result :=
  ⟨h.trans h'.spares, h'.harmless⟩

open AuthResponse
section
variable {svc : AuthService} {n : Nat} {name : Bytes} {db₀ db : Database} (hdb : db.Hosts n name)
include hdb

lemma Answers.error (status : Nat) (message : Bytes) :
    Answers svc n name db₀ db (.error status message, db) := ⟨.refl hdb, .nil⟩

lemma spares_mark (m : Moment) (req : SignedRequest) :
    Spares svc n name (SafeSubject n db₀) db (req.mark svc db m) := by
  obtain ⟨nsID, hres, _⟩ := resolveNamespaceID_eq db req.ns
  rw [SignedRequest.mark, hres]
  exact spares_of_grows hdb (.congr (grows_ensureNamespace db (namespaceName_ne_nil req.ns)) rfl) rfl rfl rfl
    rfl

lemma spares_createNonce (m : Moment) (wallet purpose ns : Bytes) :
    Spares svc n name (SafeSubject n db₀) db (createNonce svc db m wallet purpose ns).2 := by
  have hgrows := (grows_ensureNamespace db (challengeNamespace_ne_nil svc ns)).trans
    (grows_ensureNamespace _ (namespaceName_ne_nil (challengeNamespace svc ns)))
  obtain ⟨nsID, hres, _⟩ := resolveNamespaceID_eq
    (db.ensureNamespace (challengeNamespace svc ns)) (challengeNamespace svc ns)
  rw [createNonce]
  cases m.buf with
  | none => exact .refl hdb
  | some buf =>
    simp only [hres]
    split <;> exact spares_of_grows hdb (hgrows.congr rfl) rfl rfl rfl rfl

lemma answers_challengeHandler (m : Moment) (c : Call ChallengeRequest) :
    Answers svc n name db₀ db (challengeHandler svc db m c) := by
  rw [challengeHandler, Call.serve]
  split
  · exact .error hdb _ _
  split
  · exact .error hdb _ _
  split
  · exact .error hdb _ _
  · next req _ _ =>
    have h : Spares svc n name (SafeSubject n db₀) db _ :=
      spares_createNonce hdb m req.wallet req.purpose req.ns
    split <;> next heq =>
      rw [heq] at h
      exact ⟨h, .nil⟩

variable {m : Moment}

lemma answers_finishKey {wallet ns : Bytes} (hns : namespaceName ns ≠ name)
    (hsep : (finishKey svc db m wallet ns).2.Separated svc.toKeyService) :
    Answers svc n name db₀ db (finishKey svc db m wallet ns) := by
  refine ⟨(frame_spares svc n name _).finishKey db m wallet hns hdb, ?_⟩
  cases hkey : getOrCreateAPIKey svc.toKeyService db wallet ns m.keyBuf with
  | mk result db' =>
    cases result with
    | error e =>
      simp only [finishKey, issueAPIKey, hkey]
      exact .nil
    | ok key =>
      simp only [finishKey, issueAPIKey, hkey] at hsep ⊢
      refine ⟨?_, by simp [tokens], by simp [refreshTokens]⟩
      simpa [keys] using harmlessKey_getOrCreateAPIKey hdb.valid hsep hns hkey

lemma harmless_issueSession {wallet ns refresh key : Bytes} {token : JWTClaims} {db' : Database}
    (howner : db₀.owns ⟨n, .wallet, trimSpace wallet⟩ = false) (hns : namespaceName ns ≠ name)
    (hsep : db'.Separated svc.toKeyService) (h : issueSession svc db m wallet ns = (.ok (token, refresh, key), db')) :
    Harmless svc n name db₀ db' [key] [token] [refresh] := by
  have hR := frame_spares svc n name (SafeSubject n db₀)
  have hsafe := safeSubject_resolveCustomClaims howner m ns
  have htokens := hR.issueTokens db m hsafe hdb
  rw [issueSession] at h
  split at h
  · cases h
  next token refresh db₁ htok =>
  rw [htok] at htokens
  obtain ⟨rfl, db₂, nsID, hstore⟩ := issueTokens_eq_ok htok
  have hkey := hR.issueAPIKey db₁ m wallet hns (htokens.hosts hdb)
  rw [issueAPIKey] at h hkey
  cases hcreate : getOrCreateAPIKey svc.toKeyService db₁ wallet ns m.keyBuf with
  | mk result db₃ =>
    cases result with
    | error e =>
      simp only [hcreate] at h
      cases h
    | ok key =>
      simp only [hcreate] at h hkey
      cases h
      refine ⟨?_, ?_, ?_⟩
      · simpa using harmlessKey_getOrCreateAPIKey htokens.valid hsep hns hcreate
      all_goals grind [harmlessToken_accessClaims, HarmlessRefresh.spares, harmlessRefresh_storeRefreshToken]

variable {c : Call SignedRequest}

lemma answers_verifyHandler
    (howner : ∀ req ∈ c.body, req.refused svc = none → db₀.owns ⟨n, .wallet, trimSpace req.wallet⟩ = false)
    (hns : ∀ req, c.method = .post → c.body = some req → req.refused svc = none → namespaceName req.ns ≠ name)
    (hsep : (verifyHandler svc db m c).2.Separated svc.toKeyService) :
    Answers svc n name db₀ db (verifyHandler svc db m c) := by
  rcases verifyHandler_cases svc db m c with ⟨req, hm, hb, hok⟩ | ⟨status, message, herror⟩
  · have hmark : Spares svc n name (SafeSubject n db₀) db (req.mark svc db m) := spares_mark hdb m req
    have hns := hns req hm hb hok
    have howner := howner req hb hok
    have hsafe := safeSubject_resolveCustomClaims howner m req.ns
    refine ⟨hmark.trans ((frame_spares svc n name _).verifyHandler hm hb hok db m hns hsafe
      (hmark.hosts hdb)), ?_⟩
    simp only [verifyHandler, Call.serve, hm, hb, hok, ne_eq, not_true_eq_false, if_false] at hsep ⊢
    split
    · exact .nil
    · next hsession =>
      rw [hsession] at hsep
      dsimp only at hsep ⊢
      split at hsep
      · exact harmless_issueSession (hmark.hosts hdb) howner hns hsep hsession
      · exact .nil
      · exact harmless_issueSession (hmark.hosts hdb) howner hns hsep hsession
      · exact harmless_issueSession (hmark.hosts hdb) howner hns hsep hsession
  · rw [herror]
    exact .error hdb status message

lemma answers_issueAPIKeyHandler (hns : ∀ req, c.method = .post → c.body = some req → req.refused svc = none →
      m.clusterOf req.ns = .ready → namespaceName req.ns ≠ name)
    (hsep : (issueAPIKeyHandler svc db m c).2.Separated svc.toKeyService) :
    Answers svc n name db₀ db (issueAPIKeyHandler svc db m c) := by
  rcases issueAPIKeyHandler_cases svc db m c with ⟨req, hm, hb, hok⟩ | ⟨status, message, herror⟩
  · have hmark : Spares svc n name (SafeSubject n db₀) db (req.mark svc db m) := spares_mark hdb m req
    simp only [issueAPIKeyHandler, Call.serve, hm, hb, hok, ne_eq, not_true_eq_false, if_false] at hsep ⊢
    cases hready : m.clusterOf req.ns with
    | needsProvisioning started => cases started <;> exact ⟨hmark, .nil⟩
    | provisioning => exact ⟨hmark, .nil⟩
    | ready => grind [Answers.after, answers_finishKey, Spares.hosts]
  · rw [herror]
    exact .error hdb status message

lemma answers_simpleAPIKeyHandler {key : Bytes} {c : Call SimpleAPIKeyRequest}
    (hns : ∀ req, c.method = .post → c.body = some req → m.clusterOf req.ns = .ready → namespaceName req.ns ≠ name)
    (hsep : (simpleAPIKeyHandler svc db m key c).2.Separated svc.toKeyService) :
    Answers svc n name db₀ db (simpleAPIKeyHandler svc db m key c) := by
  simp only [simpleAPIKeyHandler, Call.serve] at hsep ⊢
  split
  · exact .error hdb _ _
  next hm =>
  simp only [if_neg hm] at hsep
  split
  · exact .error hdb _ _
  next hkey =>
  rw [if_neg hkey] at hsep
  cases hb : c.body with
  | none => exact .error hdb _ _
  | some req =>
    simp only [hb] at hsep ⊢
    split
    · exact .error hdb _ _
    next hwallet =>
    rw [if_neg hwallet] at hsep
    cases hready : m.clusterOf req.ns with
    | needsProvisioning started =>
      cases started <;> exact ⟨spares_ensureNamespace hdb (namespaceName_ne_nil req.ns), .nil⟩
    | provisioning => exact ⟨.refl hdb, .nil⟩
    | ready => grind [answers_finishKey]

lemma answers_apiKeyToJWTHandler (hlower : LowerCase svc.toLower) (m : Moment) (method : Method)
    {key : Bytes} (hkey : HarmlessKey svc n name db₀ db key) :
    Answers svc n name db₀ db (apiKeyToJWTHandler svc db m method key) := by
  rw [apiKeyToJWTHandler]
  split
  · exact .error hdb _ _
  split
  · exact .error hdb _ _
  split
  · exact .error hdb _ _
  next ns raw hl =>
  dsimp only
  split
  · exact ⟨.refl hdb, .nil⟩
  next htoken =>
  refine ⟨.refl hdb, by simp [keys], ?_, by simp [refreshTokens]⟩
  rw [← eq_of_generateJWT htoken]
  simpa [tokens] using harmlessToken_exchange hlower hkey hl m.now

lemma answers_refreshHandler (m : Moment) {c : Call RefreshRequest}
    (hr : ∀ req ∈ c.body, HarmlessRefresh n db₀ db req.refreshToken) :
    Answers svc n name db₀ db (refreshHandler svc db m c) := by
  have hsafe : ∀ req, c.body = some req → ∀ {nsID row db'},
      claimRefreshToken (db.ensureNamespace (namespaceName req.ns)) m.now nsID
        (sha256Hex req.refreshToken) = some (row, db') → SafeSubject n db₀ row.subject row.customClaims := by
    intro req hb nsID row db' hclaim
    obtain ⟨t, ht, htoken, rfl⟩ := claimRefreshToken_mem hclaim
    exact hr req hb t ht htoken
  refine ⟨(frame_spares svc n name _).refreshHandler db m c hsafe hdb, ?_⟩
  rw [refreshHandler, Call.serve]
  split
  · exact .nil
  split
  · exact .nil
  next req hb =>
  split
  · exact .nil
  split
  · split <;> exact .nil
  next token refresh db' hok =>
  obtain ⟨row, nsID, db₁, db₂, hclaim, rfl, hstore⟩ := refreshToken_eq_ok hok
  have hrow := hsafe req hb hclaim
  refine ⟨by simp [keys], ?_, ?_⟩
  all_goals grind [harmlessToken_accessClaims, harmlessRefresh_storeRefreshToken, tokens, refreshTokens]

end

variable {p : Party} {Wallets : Bytes → Prop}
open AuthRequest
section
variable {n : Nat} {name : Bytes} {svc : AuthService} {db₀ : Database} (hlower : LowerCase svc.toLower)
  (hp : p.Contained svc n name db₀) (hw : ∀ w, Wallets w → db₀.owns ⟨n, .wallet, trimSpace w⟩ = false)
include hlower hp hw

lemma answers_handleAuth {req : AuthRequest}
    (hable : Able svc Wallets p req) (hother : req.keyNamespace svc p.db m ≠ some name)
    (hsep : (handleAuth svc p.db m req).2.Separated svc.toKeyService) :
    Answers svc n name db₀ p.db (handleAuth svc p.db m req) := by
  have hdb := hp.hosts
  cases req with
  | challenge c => exact answers_challengeHandler hdb m c
  | verify c =>
    refine answers_verifyHandler hdb (fun b hb hok => hw _ (hable b hb hok)) ?_ hsep
    grind [keyNamespace, signed]
  | apiKey c =>
    refine answers_issueAPIKeyHandler hdb ?_ hsep
    rintro b hm hb hok hready rfl
    exact hother (by grind [keyNamespace, signed])
  | simpleKey key c =>
    rcases withAPIKey_cases svc p.db key (simpleAPIKeyHandler svc p.db m key c) with
      ⟨hfound, h⟩ | ⟨status, message, h⟩
    · rw [handleAuth, h] at hsep ⊢
      refine answers_simpleAPIKeyHandler hdb ?_ hsep
      rintro b hm hb hready rfl
      exact hother (by grind [keyNamespace])
    · rw [handleAuth, h]
      exact .error hdb status message
  | token method key =>
    rcases withAPIKey_cases svc p.db key (apiKeyToJWTHandler svc p.db m method key) with
      ⟨hfound, h⟩ | ⟨status, message, h⟩
    · rw [handleAuth, h]
      exact answers_apiKeyToJWTHandler hdb hlower m method (hp.harmless.keys key (hable hfound))
    · rw [handleAuth, h]
      exact .error hdb status message
  | refresh c =>
    refine answers_refreshHandler hdb m ?_
    intro b hb t ht htoken
    exact hp.harmless.refreshTokens _ (hable b hb ⟨t, ht, htoken⟩) t ht htoken

lemma Party.Contained.step {e : Moment × AuthRequest}
    (hable : Able svc Wallets p e.2) (hother : e.2.keyNamespace svc p.db e.1 ≠ some name)
    (hsep : (p.step svc e).db.Separated svc.toKeyService) : (p.step svc e).Contained svc n name db₀ := by
  have h := answers_handleAuth hlower hp hw hable hother hsep
  refine ⟨h.spares.hosts hp.hosts, ?_, h.harmless.append (hp.harmless.spares h.spares)⟩
  exact fun o ho howns => hp.owners o ho (h.spares.owners o ho howns)

end

lemma Party.Outside.contained {svc : AuthService} {n : Nat} {name : Bytes} (hp : p.Outside svc n name Wallets) :
    p.Contained svc n name p.db := by
  refine ⟨hp.hosts, fun _ _ h => h, hp.keys, ?_, ?_⟩
  · simp [hp.tokens]
  · simp [hp.refreshTokens]

variable {env : Env} {r : Request}

lemma Party.Contained.acceptedOn_ne {svc : AuthService} {n : Nat} {name : Bytes} {db₀ : Database}
    (hp : p.Contained svc n name db₀) (hr : Presents env svc p r) (hg : requiredScope r.method r.path = some .admin) :
    acceptedOn env svc p.db r ≠ some name := by
  intro haccepted
  rw [acceptedOn] at haccepted
  split at haccepted
  · next r' hnext =>
    obtain rfl := Option.some.inj haccepted
    rcases middlewares_next hr.method hg hr.context hr.direct hnext with
      ⟨claims, hclaims, hns, hadmin⟩ | ⟨ns, raw, hl, hns, hadmin⟩
    · have hmem : claims ∈ p.tokens := hclaims.elim (hr.bearer claims) (hr.query claims)
      obtain ⟨hscopes, howner⟩ := hp.harmless.tokens claims hmem hns.symm
      rcases hadmin with ⟨raw, hraw, hadmin⟩ | ⟨nsID, hid, howns⟩
      · exact hscopes raw hraw hadmin
      · rw [← hns, Database.namespaceID_eq_some_iff] at hid
        obtain rfl : nsID = n := congrArg Prod.fst (Table.eq_of_key _ hid
          ((grows_ensureNamespace p.db (hp.hosts.valid.named _ hp.hosts.mem)).mem _ hp.hosts.mem) rfl)
        rw [hp.owners _ rfl howns] at howner
        cases howner
    · have hkey := hr.key (by rw [hl]; rfl)
      exact (hp.harmless.keys _ hkey (ns, raw) hl hns.symm).1 hadmin
  · cases haccepted

/-- In a run in which the party asks no key of the namespace, it is given nothing
that is accepted where an administrator of the namespace is required. -/
theorem acceptedOn_run_ne {svc : AuthService} (hlower : LowerCase svc.toLower) {n : Nat} {name : Bytes}
    {Wallets : Bytes → Prop} {p : Party} (hp : p.Outside svc n name Wallets)
    (es : List (Moment × AuthRequest))
    (hable : ∀ i : Fin es.length, Able svc Wallets (p.run svc (es.take i)) (es.get i).2)
    (hsep : ∀ i : Fin es.length, ((p.run svc (es.take i)).step svc (es.get i)).db.Separated svc.toKeyService)
    (hother : ∀ i : Fin es.length, (es.get i).2.keyNamespace svc (p.run svc (es.take i)).db (es.get i).1 ≠ some name)
    {env : Env} {r : Request} (hr : Presents env svc (p.run svc es) r)
    (hg : requiredScope r.method r.path = some .admin) :
    acceptedOn env svc (p.run svc es).db r ≠ some name := by
  have hrun : (p.run svc es).Contained svc n name p.db :=
    foldl_take_induction (Party.step svc) p es (Party.Contained svc n name p.db) hp.contained
      fun i hi => hi.step hlower hp.wallets (hable i) (hother i) (hsep i)
  exact hrun.acceptedOn_ne hr hg

def stranger : Party where
  db := (KeyState.run echoService.toKeyService
    [.getOrCreateAPIKey (ascii "0xcd") (ascii "tenant") (some ⟨List.replicate 18 1, rfl⟩)]).db
  keys := []
  tokens := []
  refreshTokens := []

def keyRequest (ns : Bytes) : Request :=
  { plainRequest with
    path := ascii "/v1/namespace/keys"
    headers := [(ascii "X-API-Key", rawKey (List.replicate 18 0) ns)] }

lemma outside_stranger : stranger.Outside echoService 2 (ascii "tenant") (· = ascii "0xab") where
  hosts := ⟨(generated_run _ _).valid, by decide⟩
  wallets := by
    rintro w rfl
    decide
  keys := by simp [stranger]
  tokens := rfl
  refreshTokens := rfl

instance (svc : AuthService) (Wallets : Bytes → Prop) [DecidablePred Wallets] (p : Party) :
    DecidablePred (Able svc Wallets p)
  | .challenge _ => inferInstanceAs (Decidable True)
  | .verify c => inferInstanceAs (Decidable (∀ req ∈ c.body, _))
  | .apiKey c => inferInstanceAs (Decidable (∀ req ∈ c.body, _))
  | .simpleKey _ _ => inferInstanceAs (Decidable (_ → _))
  | .token _ _ => inferInstanceAs (Decidable (_ → _))
  | .refresh c => inferInstanceAs (Decidable (∀ req ∈ c.body, _))

def elsewhere : List (Moment × AuthRequest) :=
  [(momentAt 0, .verify (signedCall (ascii "hello") (ascii "other"))),
    (momentAt 1, .token .post (rawKey (List.replicate 18 0) (ascii "other")))]

lemma presents_elsewhere :
    Presents bareEnv echoService (stranger.run echoService elsewhere) (keyRequest (ascii "other")) :=
  ⟨by decide, rfl, by decide, by decide +kernel, by decide +kernel, by decide +kernel⟩

theorem acceptedOn_elsewhere_ne : acceptedOn bareEnv echoService
    (stranger.run echoService elsewhere).db (keyRequest (ascii "other")) ≠ some (ascii "tenant") :=
  acceptedOn_run_ne lowerCase_lowerAscii outside_stranger elsewhere (by decide +kernel)
    (by decide +kernel) (by decide +kernel) presents_elsewhere (by decide +kernel)

/-- One signature with a wallet of its own, for a namespace that has an owner,
gives the party a key of its administrators. -/
theorem stranger_promoted : stranger.db.owns ⟨2, .wallet, ascii "0xcd"⟩ = true ∧
    stranger.db.owns ⟨2, .wallet, ascii "0xab"⟩ = false ∧ (stranger.run echoService
        [(momentAt 0, .verify (signedCall (ascii "hello") (ascii "tenant")))]).keys =
          [rawKey (List.replicate 18 0) (ascii "tenant")] ∧
      requiredScope (keyRequest (ascii "tenant")).method (keyRequest (ascii "tenant")).path = some .admin ∧
      acceptedOn bareEnv echoService (stranger.run echoService
        [(momentAt 0, .verify (signedCall (ascii "hello") (ascii "tenant")))]).db
        (keyRequest (ascii "tenant")) = some (ascii "tenant") := by
  decide +kernel

end Orama.Gateway
