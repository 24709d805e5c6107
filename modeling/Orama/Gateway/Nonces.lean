import Orama.Gateway.Frames
import Orama.Lib.Steps

namespace Orama.Gateway
open Lib

inductive LoginEvent
  | issued (name wallet nonce : Bytes) (expiresAt : Int)
  | accepted (name wallet nonce : Bytes) (time : Int)
deriving DecidableEq

def ChallengeRequest.event (svc : AuthService) (m : Moment) (nonce : Bytes) (req : ChallengeRequest) : LoginEvent :=
  .issued (namespaceName (challengeNamespace svc req.ns)) (svc.toLower (trimSpace req.wallet)) nonce
    (m.now + 300)

def SignedRequest.event (svc : AuthService) (m : Moment) (req : SignedRequest) : LoginEvent :=
  .accepted (namespaceName req.ns) (svc.toLower req.wallet) req.nonce m.now

def loginEvents (svc : AuthService) (m : Moment) : AuthRequest → AuthResponse → List LoginEvent
  | .challenge c, .challenge _ _ nonce _ => (c.body.map fun req => req.event svc m nonce).toList
  | .verify c, .session _ _ _ _ => (c.body.map fun req => req.event svc m).toList
  | .apiKey c, .apiKey _ => (c.body.map fun req => req.event svc m).toList
  | _, _ => []

structure LoginState where
  db : Database
  log : List LoginEvent

def LoginState.step (svc : AuthService) (s : LoginState) (e : Moment × AuthRequest) : LoginState where
  db := (handleAuth svc s.db e.1 e.2).2
  log := loginEvents svc e.1 e.2 (handleAuth svc s.db e.1 e.2).1 ++ s.log

def LoginState.run (svc : AuthService) (es : List (Moment × AuthRequest)) : LoginState :=
  es.foldl (LoginState.step svc) ⟨Database.empty, []⟩

inductive Fresh : List LoginEvent → Prop
  | nil : Fresh []
  | issued {name wallet nonce : Bytes} {expiresAt : Int} {log : List LoginEvent} (h : Fresh log) :
      Fresh (.issued name wallet nonce expiresAt :: log)
  | accepted {name wallet nonce : Bytes} {time expiresAt : Int} {log : List LoginEvent}
      (hissued : LoginEvent.issued name wallet nonce expiresAt ∈ log) (htime : time < expiresAt)
      (hnew : ∀ time', LoginEvent.accepted name wallet nonce time' ∉ log) (h : Fresh log) :
      Fresh (.accepted name wallet nonce time :: log)

def AuthRequest.signed (svc : AuthService) (m : Moment) : AuthRequest → Option SignedRequest
  | verify c => c.body.filter fun req => c.method = .post ∧ req.refused svc = none
  | apiKey c =>
    c.body.filter fun req =>
      c.method = .post ∧ req.refused svc = none ∧ m.clusterOf req.ns = .ready
  | _ => none

def NonceReady (svc : AuthService) (db : Database) (now : Int) (req : SignedRequest) : Prop :=
  ∃ n ∈ db.nonces.rows, (n.2.namespaceID, namespaceName req.ns) ∈ db.namespaces.rows ∧
    n.2.wallet = svc.toLower req.wallet ∧ n.2.nonce = req.nonce ∧ n.2.usedAt = none ∧ now < n.2.expiresAt

instance (svc : AuthService) (db : Database) (now : Int) (req : SignedRequest) :
    Decidable (NonceReady svc db now req) := inferInstanceAs (Decidable (∃ n ∈ db.nonces.rows, _))

structure KeepsNonces (db db' : Database) : Prop where
  grows : Grows db db'
  nonces : db'.nonces = db.nonces

lemma frame_keepsNonces (svc : KeyService) : Frame svc (fun _ => True) (fun _ _ => True) KeepsNonces where
  refl db := ⟨.refl db, rfl⟩
  trans h h' := ⟨h.grows.trans h'.grows, h'.nonces.trans h.nonces⟩
  ensureNamespace db _ h := ⟨grows_ensureNamespace db h, rfl⟩
  storeRefreshToken _ h := by
    obtain ⟨tokens, _, rfl⟩ := Option.map_eq_some_iff.1 h
    exact ⟨.congr (.refl _) rfl, rfl⟩
  claimRefreshToken h := by
    simp only [claimRefreshToken] at h
    split at h
    · cases h
      exact ⟨.congr (.refl _) rfl, rfl⟩
    split at h
    · split at h
      · cases h
      · cases h
        exact ⟨.congr (.refl _) rfl, rfl⟩
    · cases h
  getOrCreateAPIKey db wallet ns buf _ := by
    obtain ⟨_, _, heffect⟩ := keyEffect_getOrCreateAPIKey svc db wallet ns buf
    refine ⟨heffect.grows, ?_⟩
    obtain ⟨_, _, ⟨_, h⟩ | ⟨_, h⟩ | ⟨_, _, _, _, _, h⟩⟩ :=
      getOrCreateAPIKey_cases svc db wallet ns buf rfl
    · rw [h]
      rfl
    · rw [h]
      rfl
    · rw [h, Database.recordKey, Database.linkWallet]
      split <;> rfl

inductive NonceEffect (svc : AuthService) (db : Database) (m : Moment) (req : AuthRequest) :
    List LoginEvent → Database → Prop
  | idle {db' : Database} (h : KeepsNonces db db') : NonceEffect svc db m req [] db'
  | issue {db' : Database} {row : Nonce} {name : Bytes} (hns : Grows db db')
      (hn : db.nonces.insert row = some db'.nonces)
      (hname : (row.namespaceID, name) ∈ db'.namespaces.rows) :
      NonceEffect svc db m req [.issued name row.wallet row.nonce row.expiresAt] db'
  | mark {db' : Database} {b : SignedRequest} {events : List LoginEvent} (nsID : Nat)
      (hns : Grows db db')
      (hn : db'.nonces = (markNonceUsed db m.now (some nsID) (svc.toLower b.wallet) b.nonce).nonces)
      (hname : (nsID, namespaceName b.ns) ∈ db'.namespaces.rows)
      (he : events = [] ∨ events = [b.event svc m] ∧ req.signed svc m = some b) :
      NonceEffect svc db m req events db'

lemma challengeNamespace_ne_nil (svc : AuthService) (ns : Bytes) : challengeNamespace svc ns ≠ [] := by
  rw [challengeNamespace]
  split_ifs
  · assumption
  · assumption
  · decide

lemma createNonce_cases (svc : AuthService) (db : Database) (m : Moment) (wallet purpose ns : Bytes) :
    (∃ e, (createNonce svc db m wallet purpose ns).1 = .error e ∧
    KeepsNonces db (createNonce svc db m wallet purpose ns).2) ∨
    ∃ nonce nsID db', createNonce svc db m wallet purpose ns = (.ok nonce, db') ∧ Grows db db' ∧
    db.nonces.insert ⟨nsID, svc.toLower (trimSpace wallet), nonce, purpose, m.now + 300, none⟩ = some db'.nonces ∧
    (nsID, namespaceName (challengeNamespace svc ns)) ∈ db'.namespaces.rows := by
  have hgrows := (grows_ensureNamespace db (challengeNamespace_ne_nil svc ns)).trans (grows_ensureNamespace
    (db.ensureNamespace (challengeNamespace svc ns)) (namespaceName_ne_nil (challengeNamespace svc ns)))
  rw [createNonce]
  cases m.buf with
  | none => exact .inl ⟨_, rfl, .refl db, rfl⟩
  | some buf =>
    obtain ⟨nsID, hres, hmem⟩ := resolveNamespaceID_eq
      (db.ensureNamespace (challengeNamespace svc ns)) (challengeNamespace svc ns)
    simp only [hres]
    split
    · exact .inl ⟨_, rfl, hgrows, rfl⟩
    · next nonces hins => exact .inr ⟨_, nsID, _, rfl, hgrows.congr rfl, hins, hmem⟩

open NonceEffect
section
variable (svc : AuthService) (db : Database) (m : Moment)

lemma nonceEffect_challenge (c : Call ChallengeRequest) :
    NonceEffect svc db m (.challenge c) (loginEvents svc m (.challenge c) (challengeHandler svc db m c).1)
      (challengeHandler svc db m c).2 := by
  have hrefl : KeepsNonces db db := (frame_keepsNonces svc.toKeyService).refl db
  rw [challengeHandler, Call.serve]
  split
  · exact .idle hrefl
  cases hb : c.body with
  | none => exact .idle hrefl
  | some req =>
    dsimp only
    split
    · exact .idle hrefl
    rcases createNonce_cases svc db m req.wallet req.purpose req.ns with
      ⟨e, he, hkeeps⟩ | ⟨nonce, nsID, db', heq, hns, hins, hname⟩
    · cases hcreate : createNonce svc db m req.wallet req.purpose req.ns with
      | mk result db' =>
        rw [hcreate] at he hkeeps
        obtain rfl : result = .error e := he
        exact .idle hkeeps
    · rw [heq]
      simp only [loginEvents, hb, Option.map_some, Option.toList_some, ChallengeRequest.event]
      exact .issue hns hins hname

lemma nonceEffect_mark {req : AuthRequest} {b : SignedRequest} {db' : Database}
    {events : List LoginEvent} (h : KeepsNonces (b.mark svc db m) db')
    (he : events = [] ∨ events = [b.event svc m] ∧ req.signed svc m = some b) :
    NonceEffect svc db m req events db' := by
  obtain ⟨nsID, hres, hmem⟩ := resolveNamespaceID_eq db b.ns
  have hmark : b.mark svc db m = markNonceUsed (db.ensureNamespace (namespaceName b.ns)) m.now (some nsID)
      (svc.toLower b.wallet) b.nonce := by
    rw [SignedRequest.mark, hres]
  have hgrows : Grows db (b.mark svc db m) := by
    rw [hmark]
    exact (grows_ensureNamespace db (namespaceName_ne_nil b.ns)).congr rfl
  refine .mark nsID (hgrows.trans h.grows) ?_ (h.grows.mem _ ?_) he
  · rw [h.nonces, hmark]
    rfl
  · rw [hmark]
    exact hmem

lemma nonceEffect_verify (c : Call SignedRequest) :
    NonceEffect svc db m (.verify c) (loginEvents svc m (.verify c) (verifyHandler svc db m c).1)
      (verifyHandler svc db m c).2 := by
  have hR := frame_keepsNonces svc.toKeyService
  rcases verifyHandler_cases svc db m c with ⟨b, hm, hb, hok⟩ | ⟨status, message, herror⟩
  · apply nonceEffect_mark svc db m (hR.verifyHandler hm hb hok db m trivial trivial)
    cases (verifyHandler svc db m c).1 with
    | session status token refresh key => grind [loginEvents, AuthRequest.signed]
    | _ => exact .inl rfl
  · rw [herror]
    exact .idle (hR.refl db)

lemma nonceEffect_apiKey (c : Call SignedRequest) :
    NonceEffect svc db m (.apiKey c) (loginEvents svc m (.apiKey c) (issueAPIKeyHandler svc db m c).1)
      (issueAPIKeyHandler svc db m c).2 := by
  have hR := frame_keepsNonces svc.toKeyService
  rcases issueAPIKeyHandler_cases svc db m c with ⟨b, hm, hb, hok⟩ | ⟨status, message, herror⟩
  · apply nonceEffect_mark svc db m (hR.issueAPIKeyHandler hm hb hok db m fun _ => trivial)
    by_cases hready : m.clusterOf b.ns = .ready
    · cases (issueAPIKeyHandler svc db m c).1 with
      | apiKey key => grind [loginEvents, AuthRequest.signed]
      | _ => exact .inl rfl
    · apply Or.inl
      simp only [issueAPIKeyHandler, Call.serve, hm, hb, hok, ne_eq, not_true_eq_false, if_false]
      split
      · rfl
      · rfl
      · rfl
      · next h => exact absurd h hready
  · rw [herror]
    exact .idle (hR.refl db)

lemma nonceEffect_handleAuth (req : AuthRequest) :
    NonceEffect svc db m req (loginEvents svc m req (handleAuth svc db m req).1) (handleAuth svc db m req).2 := by
  have hR := frame_keepsNonces svc.toKeyService
  cases req with
  | challenge c => exact nonceEffect_challenge svc db m c
  | verify c => exact nonceEffect_verify svc db m c
  | apiKey c => exact nonceEffect_apiKey svc db m c
  | simpleKey key c =>
    apply idle
    rcases withAPIKey_cases svc db key (simpleAPIKeyHandler svc db m key c) with
      ⟨_, h⟩ | ⟨status, message, h⟩
    · grind [Frame.simpleAPIKeyHandler, handleAuth]
    · rw [handleAuth, h]
      exact hR.refl db
  | token method key =>
    apply idle
    rcases withAPIKey_cases svc db key (apiKeyToJWTHandler svc db m method key) with
      ⟨_, h⟩ | ⟨status, message, h⟩
    · rw [handleAuth, h, apiKeyToJWTHandler_snd]
      exact hR.refl db
    · rw [handleAuth, h]
      exact hR.refl db
  | refresh c => exact .idle (hR.refreshHandler db m c fun _ _ _ _ _ _ => trivial)

end

structure IsNonce (db : Database) (n : Nat × Nonce) (name wallet nonce : Bytes) : Prop where
  mem : n ∈ db.nonces.rows
  name : (n.2.namespaceID, name) ∈ db.namespaces.rows
  wallet : n.2.wallet = wallet
  nonce : n.2.nonce = nonce

structure LoginState.Traced (s : LoginState) : Prop where
  issued : ∀ n ∈ s.db.nonces.rows, ∃ name, (n.2.namespaceID, name) ∈ s.db.namespaces.rows ∧
    LoginEvent.issued name n.2.wallet n.2.nonce n.2.expiresAt ∈ s.log
  accepted : ∀ {name wallet nonce time}, LoginEvent.accepted name wallet nonce time ∈ s.log →
    ∃ n, IsNonce s.db n name wallet nonce ∧ n.2.usedAt ≠ none

variable {n : Nat × Nonce} {nonce wallet name : Bytes}

lemma IsNonce.unique {db : Database} {n' : Nat × Nonce} (h : IsNonce db n name wallet nonce)
    (h' : IsNonce db n' name wallet nonce) : n = n' := by
  have hid : n.2.namespaceID = n'.2.namespaceID :=
    congrArg Prod.fst (db.namespaces.eq_of_key h.name h'.name rfl)
  apply db.nonces.eq_of_key h.mem h'.mem
  rw [Nonce.key, Nonce.key, hid, h.wallet, h'.wallet, h.nonce, h'.nonce]

lemma mem_markNonceUsed {db : Database} {now : Int} {nsID : Option Nat}
    (h : n ∈ (markNonceUsed db now nsID wallet nonce).nonces.rows) :
    ∃ n₀ ∈ db.nonces.rows, n.2.namespaceID = n₀.2.namespaceID ∧ n.2.wallet = n₀.2.wallet ∧
      n.2.nonce = n₀.2.nonce ∧ n.2.expiresAt = n₀.2.expiresAt := by
  obtain ⟨n₀, hn₀, rfl⟩ := List.mem_map.1 h
  refine ⟨n₀, hn₀, ?_⟩
  dsimp only
  split <;> exact ⟨rfl, rfl, rfl, rfl⟩

lemma exists_mem_markNonceUsed {db : Database} {n₀ : Nat × Nonce} (hn₀ : n₀ ∈ db.nonces.rows) (now : Int)
    (nsID : Option Nat) (wallet nonce : Bytes) :
    ∃ n ∈ (markNonceUsed db now nsID wallet nonce).nonces.rows, n.2.namespaceID = n₀.2.namespaceID ∧
      n.2.wallet = n₀.2.wallet ∧ n.2.nonce = n₀.2.nonce ∧ (n₀.2.usedAt ≠ none ∨
      some n₀.2.namespaceID = nsID ∧ n₀.2.wallet = wallet ∧ n₀.2.nonce = nonce → n.2.usedAt ≠ none) := by
  refine ⟨_, List.mem_map.2 ⟨n₀, hn₀, rfl⟩, ?_⟩
  dsimp only
  split
  · exact ⟨rfl, rfl, rfl, fun _ => Option.some_ne_none _⟩
  · grind
variable {events : List LoginEvent} {req : AuthRequest}

lemma NonceEffect.exists_isNonce {svc : AuthService} {db db' : Database} {m : Moment} (h : NonceEffect svc db m req events db')
    (hn : IsNonce db n name wallet nonce) :
    ∃ n', IsNonce db' n' name wallet nonce ∧ (n.2.usedAt ≠ none → n'.2.usedAt ≠ none) := by
  cases h with
  | idle hk => exact ⟨n, ⟨hk.nonces ▸ hn.mem, hk.grows.mem _ hn.name, hn.wallet, hn.nonce⟩, id⟩
  | issue hns hins hname =>
    exact ⟨n, ⟨(Table.mem_insert hins).2 (.inl hn.mem), hns.mem _ hn.name, hn.wallet, hn.nonce⟩, id⟩
  | @mark _ b _ nsID hns hmark hname he =>
    obtain ⟨n', hmem, hid, hw, hnonce, hused⟩ :=
      exists_mem_markNonceUsed hn.mem m.now (some nsID) (svc.toLower b.wallet) b.nonce
    refine ⟨n', ⟨hmark ▸ hmem, ?_, hw.trans hn.wallet, hnonce.trans hn.nonce⟩, fun h => hused (.inl h)⟩
    rw [hid]
    exact hns.mem _ hn.name

section
variable {svc : AuthService} {s : LoginState} {m : Moment} {req : AuthRequest}
  {events : List LoginEvent} {db' : Database} (h : NonceEffect svc s.db m req events db')

include h

lemma NonceEffect.exists_issued (hs : s.Traced) {n : Nat × Nonce} (hn : n ∈ db'.nonces.rows) :
    ∃ name, (n.2.namespaceID, name) ∈ db'.namespaces.rows ∧
    LoginEvent.issued name n.2.wallet n.2.nonce n.2.expiresAt ∈ events ++ s.log := by
  cases h with
  | idle hk =>
    rw [hk.nonces] at hn
    obtain ⟨name, hname, hlog⟩ := hs.issued n hn
    exact ⟨name, hk.grows.mem _ hname, hlog⟩
  | issue hns hins hname =>
    rcases (Table.mem_insert hins).1 hn with hmem | rfl
    · obtain ⟨name, hname, hlog⟩ := hs.issued n hmem
      exact ⟨name, hns.mem _ hname, List.mem_append_right _ hlog⟩
    · exact ⟨_, hname, by simp⟩
  | mark nsID hns hmark hname he =>
    rw [hmark] at hn
    obtain ⟨n₀, hn₀, hid, hw, hnonce, hexp⟩ := mem_markNonceUsed hn
    obtain ⟨name, hname, hlog⟩ := hs.issued n₀ hn₀
    rw [hid, hw, hnonce, hexp]
    exact ⟨name, hns.mem _ hname, List.mem_append_right _ hlog⟩

lemma NonceEffect.exists_marked (hready : ∀ b, req.signed svc m = some b → NonceReady svc s.db m.now b)
    {name wallet nonce : Bytes} {time : Int} (haccepted : LoginEvent.accepted name wallet nonce time ∈ events) :
    ∃ n, IsNonce db' n name wallet nonce ∧ n.2.usedAt ≠ none := by
  cases h with
  | idle hk => cases haccepted
  | issue hns hins hname => simp at haccepted
  | @mark _ b _ nsID hns hmark hname he =>
    rcases he with rfl | ⟨rfl, hsigned⟩
    · cases haccepted
    obtain ⟨n, hmem, hns', hw, hnonce, _, _⟩ := hready b hsigned
    obtain ⟨n', hmem', hid', hw', hnonce', hused⟩ :=
      exists_mem_markNonceUsed hmem m.now (some nsID) (svc.toLower b.wallet) b.nonce
    have hid : n.2.namespaceID = nsID :=
      congrArg Prod.fst (db'.namespaces.eq_of_key (hns.mem _ hns') hname rfl)
    cases List.mem_singleton.1 haccepted
    refine ⟨n', ⟨hmark ▸ hmem', ?_, hw'.trans hw, hnonce'.trans hnonce⟩, hused (.inr ?_)⟩
    · rw [hid', hid]
      exact hname
    · exact ⟨congrArg some hid, hw, hnonce⟩

lemma NonceEffect.traced (hs : s.Traced) (hready : ∀ b, req.signed svc m = some b → NonceReady svc s.db m.now b) :
    LoginState.Traced ⟨db', events ++ s.log⟩ where
  issued _ hn := h.exists_issued hs hn
  accepted hlog := by
    rcases List.mem_append.1 hlog with hnew | hold
    · exact h.exists_marked hready hnew
    · obtain ⟨n, hn, hused⟩ := hs.accepted hold
      obtain ⟨n', hn', hkeep⟩ := h.exists_isNonce hn
      exact ⟨n', hn', hkeep hused⟩

end

lemma NonceEffect.fresh {svc : AuthService} {s : LoginState} {m : Moment} {db' : Database} (h : NonceEffect svc s.db m req events db')
    (hs : s.Traced) (hfresh : Fresh s.log)
    (hready : ∀ b, req.signed svc m = some b → NonceReady svc s.db m.now b) : Fresh (events ++ s.log) := by
  cases h with
  | idle hk => exact hfresh
  | issue hns hins hname => exact .issued hfresh
  | @mark _ b _ nsID hns hmark hname he =>
    rcases he with rfl | ⟨rfl, hsigned⟩
    · exact hfresh
    obtain ⟨n, hmem, hname', hw, hnonce, hunused, hexp⟩ := hready b hsigned
    have hn : IsNonce s.db n (namespaceName b.ns) (svc.toLower b.wallet) b.nonce :=
      ⟨hmem, hname', hw, hnonce⟩
    refine .accepted ?_ hexp ?_ hfresh
    · obtain ⟨name, hissued, hlog⟩ := hs.issued n hmem
      have heq : name = namespaceName b.ns :=
        congrArg Prod.snd (s.db.namespaces.eq_of_id hissued hname' rfl)
      rwa [heq, hw, hnonce] at hlog
    · intro time hlog
      obtain ⟨n', hn', hused⟩ := hs.accepted hlog
      exact hused (hn'.unique hn ▸ hunused)

/-- In a run in which every request that is answered with a credential names a
nonce that is in the table, unused and not expired, the accepted nonces are
fresh. -/
theorem fresh_run (svc : AuthService) (es : List (Moment × AuthRequest))
    (hready : ∀ i : Fin es.length, ∀ b ∈ (es.get i).2.signed svc (es.get i).1,
      NonceReady svc (LoginState.run svc (es.take i)).db (es.get i).1.now b) :
    Fresh (LoginState.run svc es).log := by
  have hrun : (LoginState.run svc es).Traced ∧ Fresh (LoginState.run svc es).log := by
    apply foldl_take_induction (LoginState.step svc) _ es (fun s => s.Traced ∧ Fresh s.log)
    · have hnonces : Database.empty.nonces.rows = [] := rfl
      exact ⟨⟨by simp [hnonces], by simp⟩, .nil⟩
    · rintro i ⟨htraced, hfresh⟩
      have heffect := nonceEffect_handleAuth svc (LoginState.run svc (es.take i)).db (es.get i).1
        (es.get i).2
      exact ⟨heffect.traced htraced (hready i), heffect.fresh htraced hfresh (hready i)⟩
  exact hrun.2

def echoLib : WalletLib where
  toUpper := id
  stdDecode := fun _ => none
  recoverAddress := fun message sig =>
    if sig.take 64 = (List.replicate 64 0 ++ message).drop message.length then some (ascii "0xab") else none
  ed25519Verify := fun _ _ _ => false

def echoService : AuthService where
  apiKeyHMACSecret := []
  toLower := fun s => s.map lowerAscii
  lib := echoLib
  clientNamespace := []
  defaultNS := []
  hasSigningKey := true
  hasEdSigningKey := true
  hasRotation := true

def echoSign (nonce : Bytes) : Bytes :=
  let message := 25 :: ascii "Ethereum Signed Message:\n" ++ decimal nonce.length ++ nonce
  bytesToHex ((List.replicate 64 0 ++ message).drop message.length ++ [0])

def zeros (n : Nat) : Random n := some ⟨List.replicate n 0, List.length_replicate⟩

def momentAt (now : Int) : Moment := ⟨now, zeros 32, zeros 18, [], none⟩

def signedCall (nonce ns : Bytes) : Call SignedRequest :=
  ⟨.post, some ⟨ascii "0xab", nonce, echoSign nonce, ns, []⟩⟩

def sampleLogin : List (Moment × AuthRequest) :=
  [(momentAt 0, .challenge ⟨.post, some ⟨ascii "0xAB", ascii "login", []⟩⟩),
    (momentAt 60, .verify (signedCall (rawURLEncode (List.replicate 32 0)) []))]

theorem fresh_sampleLogin : Fresh (LoginState.run echoService sampleLogin).log :=
  fresh_run echoService sampleLogin (by decide +kernel)

/-- A signature of a text that was never issued is answered with credentials. -/
theorem unissuedNonce_accepted :
    (LoginState.run echoService [(momentAt 0, .verify (signedCall (ascii "hello") []))]).log =
    [.accepted (ascii "default") (ascii "0xab") (ascii "hello") 0] ∧
    ¬ Fresh [.accepted (ascii "default") (ascii "0xab") (ascii "hello") 0] := by
  refine ⟨by decide +kernel, fun h => ?_⟩
  cases h with
  | accepted hissued htime hnew h => cases hissued

end Orama.Gateway
