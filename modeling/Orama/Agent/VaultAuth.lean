import Orama.Agent.Luks
import Orama.Vault.Login

namespace Orama.Agent
open Lib Vault Vault.Server Vault.Login

structure AgentJson where
  string : Bytes → Bytes
  challengeOf : Bytes → Option (Bytes × Bytes)
  tokenOf : Bytes → Option Bytes
  string_hex : ∀ s, HexText s → string s = stringify s
  challengeOf_render : ∀ challenge, challengeOf (renderChallenge challenge) =
    some (bytesToHex challenge.nonce, bytesToHex challenge.tag)
  tokenOf_render : ∀ token, tokenOf (renderSession token) = some []

def expectOK (step : String) : Outcome → Except Bytes Bytes
  | .panic => .error (ascii step ++ ascii " request failed: EOF")
  | .respond r =>
    if r.status ≠ 200 then .error (ascii step ++ ascii " returned status " ++ decimal r.status) else .ok r.body

def vaultChallengeBody (go : AgentJson) (identity : Bytes) : Bytes :=
  ascii "\x7b\"identity\":" ++ go.string identity ++ ascii "\x7d"

def vaultSessionBody (go : AgentJson) (identity nonce tag : Bytes) : Bytes :=
  ascii "\x7b\"identity\":" ++ go.string identity ++ ascii ",\"nonce\":" ++ go.string nonce ++ ascii ",\"tag\":" ++
    go.string tag ++ ascii "\x7d"

def vaultAuth (go : AgentJson) (json : AuthJson) (ctx : RouteContext) (nonce : Bytes) (times : Times)
    (identity : Bytes) : Except Bytes Bytes := do
  let reply ← expectOK "challenge" (handleChallenge json ctx nonce times.challenge (vaultChallengeBody go identity))
  match go.challengeOf reply with
  | none => .error (ascii "failed to parse challenge response")
  | some (nonceHex, tagHex) =>
    let reply ← expectOK "session" (handleSession ctx times (vaultSessionBody go identity nonceHex tagHex))
    match go.tokenOf reply with
    | none => .error (ascii "failed to parse session response")
    | some token => .ok token

def SessionAgreed (go : AgentJson) (json : AuthJson) (ctx : RouteContext) (guardian : Guardian) (nonce : Bytes)
    (times : Times) (identity : Bytes) (now : Int) : Prop :=
  ∃ token, vaultAuth go json ctx nonce times identity = .ok token ∧
    Session.validateSessionToken (some token) guardian.serverSecret now = some identity ∧
    requireAuth ctx (some token) now = .ok identity

section
variable {go : AgentJson} {identity nonce tag : Bytes} (hi : HexText identity) (hn : HexText nonce) (ht : HexText tag)
include hi hn ht

lemma vaultSessionBody_eq : vaultSessionBody go identity nonce tag =
      ascii "\x7b" ++ (ascii "\"identity\":" ++ (34 :: (identity ++ (ascii "\"," ++
      (ascii "\"nonce\":" ++ (34 :: (nonce ++ (ascii "\"," ++
      (ascii "\"tag\":" ++ (34 :: (tag ++ ascii "\"\x7d"))))))))))) := by
  rw [vaultSessionBody, go.string_hex _ hi, go.string_hex _ hn, go.string_hex _ ht, hi.stringify, hn.stringify,
    ht.stringify]
  simp only [List.append_assoc, List.cons_append, List.nil_append]
  rfl

lemma vault_extract_identity :
    extractJsonString (vaultSessionBody go identity nonce tag) (ascii "identity") = some identity := by
  apply extractJsonString_of_after hi
  rw [vaultSessionBody_eq hi hn ht, after_clash (by decide)]
  exact after_of_prefix _ _

variable (hlen : 64 ≤ identity.length)
include hlen

lemma vault_extract_nonce :
    extractJsonString (vaultSessionBody go identity nonce tag) (ascii "nonce") = some nonce := by
  apply extractJsonString_of_after hn
  rw [vaultSessionBody_eq hi hn ht, after_clash (by decide), hi.after_field hlen (by decide)]
  exact after_of_prefix _ _

variable (hnlen : 64 ≤ nonce.length)
include hnlen

lemma vault_extract_tag : extractJsonString (vaultSessionBody go identity nonce tag) (ascii "tag") = some tag := by
  apply extractJsonString_of_after ht
  rw [vaultSessionBody_eq hi hn ht, after_clash (by decide), hi.after_field hlen (by decide),
    hn.after_field hnlen (by decide)]
  exact after_of_prefix (quoted (ascii "tag") "\":\"") _

lemma vault_extract_created (htlen : 64 ≤ tag.length) :
    extractJsonInt (vaultSessionBody go identity nonce tag) (ascii "created_ns") = none := by
  have ht64 : (ascii "created_ns" ++ ascii "\":").length ≤ tag.length := htlen.trans' (by decide)
  have hend : after (quoted (ascii "created_ns") "\":") (ascii "\"\x7d") = none := by decide
  rw [extractJsonInt, vaultSessionBody_eq hi hn ht, after_clash (by decide), hi.after_field hlen (by decide),
    hn.after_field hnlen (by decide), after_clash (by decide), ht.after_quoted (by decide) ht64, hend, Option.bind_none]

lemma readSession_vaultSessionBody (htlen : 64 ≤ tag.length) :
    readSession (vaultSessionBody go identity nonce tag) = .error (badRequest "missing created_ns field") := by
  rw [readSession, vault_extract_identity hi hn ht]
  dsimp only
  rw [vault_extract_nonce hi hn ht hlen]
  dsimp only
  rw [vault_extract_tag hi hn ht hlen hnlen]
  dsimp only
  rw [vault_extract_created hi hn ht hlen hnlen htlen]

end

lemma handleSession_vaultSessionBody (go : AgentJson) (dataDir : Bytes) (guardian : Guardian) (times : Times)
    {identity nonce tag : Bytes} (hi : HexText identity) (hlen : identity.length = identityHexLen)
    (hn : nonce.length = challengeSize) (ht : tag.length = Hmac.macSize) :
    handleSession ⟨dataDir, some guardian⟩ times (vaultSessionBody go identity (bytesToHex nonce) (bytesToHex tag)) =
      .respond (badRequest "missing created_ns field") := by
  have hnlen : 64 ≤ (bytesToHex nonce).length := by
    rw [length_bytesToHex, hn]
    decide
  have htlen : 64 ≤ (bytesToHex tag).length := by
    rw [length_bytesToHex, ht]
    decide
  have hbody : ¬ (vaultSessionBody go identity (bytesToHex nonce) (bytesToHex tag)).length = 0 := by
    grind [vaultSessionBody_eq, hexText_bytesToHex]
  rw [handleSession, if_neg hbody]
  dsimp only
  rw [readSession_vaultSessionBody hi (hexText_bytesToHex nonce) (hexText_bytesToHex tag) hlen.ge hnlen htlen]

section
variable (go : AgentJson) (json : AuthJson) (dataDir : Bytes) (guardian : Guardian) {identity nonce : Bytes}
  (times : Times)

lemma vaultAuth_eq (hi : HexText identity) (hlen : identity.length = identityHexLen)
    (hn : nonce.length = challengeSize) :
    vaultAuth go json ⟨dataDir, some guardian⟩ nonce times identity = .error (ascii "session returned status 400") := by
  have hchallenge : vaultChallengeBody go identity = challengeBody identity := by
    rw [vaultChallengeBody, go.string_hex identity hi, challengeBody]
  have hok (step : String) (body : Bytes) : expectOK step (.respond (jsonOk body)) = .ok body := rfl
  have hbad : expectOK "session" (.respond (badRequest "missing created_ns field")) =
      .error (ascii "session returned status 400") := by decide +kernel
  have hnonce : (generateChallenge identity guardian.serverSecret nonce times.challenge).nonce.length =
      challengeSize := hn
  have htag : (generateChallenge identity guardian.serverSecret nonce times.challenge).tag.length = Hmac.macSize :=
    Sha256.length_hmac _ _
  rw [vaultAuth, hchallenge, handleChallenge_challengeBody json dataDir guardian hi hlen hn, hok]
  change (match go.challengeOf (renderChallenge _) with | none => _ | some (nonceHex, tagHex) => _) = _
  rw [go.challengeOf_render]
  dsimp only
  rw [handleSession_vaultSessionBody go dataDir guardian times hi hlen hnonce htag, hbad]
  rfl

variable {body : Bytes} {r : Response}

lemma status_of_readSession (h : readSession body = .error r) : r.status ≠ 200 := by
  rw [readSession] at h
  repeat' split at h
  all_goals cases h
  all_goals decide

variable {ctx : RouteContext}

section
variable (h : handleSession ctx times body = .respond r) (hstatus : r.status = 200)
include h hstatus

lemma body_of_handleSession : ∃ token, r.body = renderSession token := by
  rw [handleSession] at h
  split at h
  · cases h
    exact absurd hstatus (by decide)
  · split at h
    · cases h
      exact absurd hstatus (by decide)
    · split at h
      · grind [status_of_readSession]
      · split at h
        · cases h
        · cases h
          exact absurd hstatus (by decide)
        · cases h
          exact absurd hstatus (by decide)
        · split at h
          · cases h
          · next token _ =>
            refine ⟨token, ?_⟩
            obtain rfl := Outcome.respond.inj h
            rw [jsonOkIn] at hstatus ⊢
            split at hstatus
            · exact absurd hstatus (by decide)
            · next hsize => rw [if_neg hsize]; rfl

lemma validateSessionToken_reply (now : Int) :
    Session.validateSessionToken (go.tokenOf r.body) guardian.serverSecret now = none := by
  obtain ⟨token, htoken⟩ := body_of_handleSession times h hstatus
  rw [htoken, go.tokenOf_render]
  rfl

end

/-- Whatever the identity, the secret and the times, the guardian refuses the
session request of the agent; and had it been accepted, the agent would have
read the empty token from the answer. -/
theorem session_never_agreed (hi : HexText identity) (hlen : identity.length = identityHexLen)
    (hn : nonce.length = challengeSize) :
    vaultAuth go json ⟨dataDir, some guardian⟩ nonce times identity = .error (ascii "session returned status 400") ∧
        (∀ now, ¬ SessionAgreed go json ⟨dataDir, some guardian⟩ guardian nonce times identity now) ∧
        ∀ body r, handleSession ⟨dataDir, some guardian⟩ times body = .respond r → r.status = 200 →
        ∀ now, Session.validateSessionToken (go.tokenOf r.body) guardian.serverSecret now = none := by
  have heq := vaultAuth_eq go json dataDir guardian times hi hlen hn
  refine ⟨heq, ?_, ?_⟩
  · rintro now ⟨token, htoken, _⟩
    rw [heq] at htoken
    cases htoken
  · grind [validateSessionToken_reply]

end

def plainJson : AgentJson where
  string := stringify
  challengeOf text := (AuthJson.strict.challengeOf text).map fun r => (r.nonce, r.tag)
  tokenOf _ := some []
  string_hex _ _ := rfl
  challengeOf_render challenge := by rw [AuthJson.strict.challengeOf_render, Option.map_some]
  tokenOf_render _ := rfl

lemma sampleIdentity_hex : HexText sampleIdentity := by
  intro c hc
  rw [List.eq_of_mem_replicate hc]
  decide

theorem session_never_agreed_sample :
    vaultAuth plainJson AuthJson.strict ⟨[], some sampleGuardian⟩ (List.replicate 32 1) sampleTimes sampleIdentity =
    .error (ascii "session returned status 400") ∧
    (∀ now, ¬ SessionAgreed plainJson AuthJson.strict ⟨[], some sampleGuardian⟩ sampleGuardian
        (List.replicate 32 1) sampleTimes sampleIdentity now) ∧
      ∀ body r, handleSession ⟨[], some sampleGuardian⟩ sampleTimes body = .respond r → r.status = 200 →
        ∀ now, Session.validateSessionToken (plainJson.tokenOf r.body) sampleGuardian.serverSecret now = none :=
  session_never_agreed plainJson AuthJson.strict [] sampleGuardian sampleTimes sampleIdentity_hex (by decide)
    (by decide)

/-- The agent does not send the time of the challenge. -/
theorem agent_session_refused :
    vaultAuth plainJson AuthJson.strict ⟨[], some sampleGuardian⟩ (List.replicate 32 1) sampleTimes sampleIdentity =
    .error (ascii "session returned status 400") := by
  decide +kernel

def vaultClient (go : AgentJson) (json : AuthJson) (ctx : Peer → RouteContext) (nonce : Peer → Bytes)
    (times : Peer → Times) (put : Peer → Bytes → Bytes → Bytes → Nat → Option Bytes)
    (get : Peer → Bytes → Bytes → Except Bytes Bytes) : VaultClient :=
  ⟨fun peer => vaultAuth go json (ctx peer) (nonce peer) (times peer), put, get⟩

end Orama.Agent
