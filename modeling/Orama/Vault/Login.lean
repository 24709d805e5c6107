import Orama.Lib.Search
import Orama.Vault.Handlers

namespace Orama.Vault.Login
open Lib Server List

abbrev Timestamp := { n : Int // -2 ^ 63 * 1000000000 ≤ n ∧ n < 2 ^ 63 * 1000000000 }

structure Challenge where
  nonce : Bytes
  createdNs : I128
  tag : Bytes
deriving DecidableEq

def challengeSize : Nat := 32
def challengeExpiryNs : Int := 60 * 1000000000

inductive AuthError
  | challengeExpired
  | invalidChallenge
deriving DecidableEq, Repr

def challengeTag (identity serverSecret nonce : Bytes) (createdNs : I128) : Bytes :=
  Sha256.hmac serverSecret (identity ++ nonce ++ Session.expiryBytes createdNs)

def Timestamp.toI128 (now : Timestamp) : I128 := ⟨now.val, by have h := now.property; omega⟩

lemma Timestamp.val_toI128 (now : Timestamp) : now.toI128.val = now.val := by
  obtain ⟨n, h⟩ := now
  exact Eq.refl n

def generateChallenge (identity serverSecret nonce : Bytes) (now : Timestamp) : Challenge where
  nonce := nonce
  createdNs := now.toI128
  tag := challengeTag identity serverSecret nonce now.toI128

def verifyChallenge (challenge : Challenge) (identity serverSecret : Bytes) (now : Timestamp) :
    Option (Except AuthError Unit) :=
  (JsonParser.toI128 (now.val - challenge.createdNs.val)).map fun age =>
    if age.val > challengeExpiryNs ∨ age.val < 0 then .error .challengeExpired
    else if Hmac.constantTimeEqual
        (challengeTag identity serverSecret challenge.nonce challenge.createdNs) challenge.tag then
      .ok ()
    else .error .invalidChallenge

def untilQuote : Option UInt8 → Bytes → Option Bytes
  | _, [] => none
  | prev, c :: cs =>
    if c = 34 ∧ prev ≠ some 92 then some [] else (untilQuote (some c) cs).map (c :: ·)

def quoted (key : Bytes) (rest : String) : Bytes := 34 :: (key ++ ascii rest)

def extractJsonString (json key : Bytes) : Option Bytes :=
  match after (quoted key "\":\"") json with
  | some value => untilQuote none value
  | none => (after (quoted key "\": \"") json).bind (untilQuote none)

def isDigit (c : UInt8) : Bool := 48 ≤ c && c ≤ 57
def negated (value : I128) : Option I128 := JsonParser.toI128 (-value.val)

def extractJsonInt (json key : Bytes) : Option I128 :=
  (after (quoted key "\":") json).bind fun rest =>
    match rest.dropWhile fun c => c = 32 ∨ c = 9 with
    | [] => none
    | c :: cs =>
      let digits := (if c = 45 then cs else c :: cs).takeWhile isDigit
      if digits = [] then none
      else
        ((parseInt digits).bind JsonParser.toI128).bind fun value =>
          if c = 45 then negated value else some value

def renderChallenge (challenge : Challenge) : Bytes :=
  ascii "\x7b\"nonce\":\"" ++ (bytesToHex challenge.nonce ++
    (ascii "\",\"created_ns\":" ++ (decimalInt challenge.createdNs.val ++
    (ascii ",\"tag\":\"" ++ (bytesToHex challenge.tag ++ ascii "\"\x7d")))))

def renderSession (token : Session.SessionToken) : Bytes :=
  ascii "\x7b\"identity\":\"" ++ (bytesToHex (token.identity.take token.identityLen) ++
    (ascii "\",\"expiry_ns\":" ++ (decimalInt token.expiryNs.val ++
    (ascii ",\"tag\":\"" ++ (bytesToHex token.tag ++ ascii "\"\x7d")))))

def identityHexLen : Nat := 64
def isHex (c : UInt8) : Bool := (hexValue c).isSome

structure ChallengeResponse where
  nonce : Bytes
  createdNs : Int
  tag : Bytes
deriving DecidableEq

structure SessionResponse where
  identity : Bytes
  expiryNs : Int
  tag : Bytes
deriving DecidableEq

def escape (c : UInt8) : Bytes :=
  if c = 34 ∨ c = 92 then [92, c]
  else if c = 8 then ascii "\\b"
  else if c = 9 then ascii "\\t"
  else if c = 10 then ascii "\\n"
  else if c = 12 then ascii "\\f"
  else if c = 13 then ascii "\\r"
  else if c < 32 then ascii "\\u00" ++ bytesToHex [c]
  else [c]

def stringify (s : Bytes) : Bytes := 34 :: (s.flatMap escape ++ [34])

def challengeBody (identity : Bytes) : Bytes :=
  ascii "\x7b\"identity\":" ++ stringify identity ++ ascii "\x7d"

def sessionBody (identity : Bytes) (challenge : ChallengeResponse) : Bytes :=
  ascii "\x7b\"identity\":" ++ stringify identity ++ ascii ",\"nonce\":" ++ stringify challenge.nonce ++
    ascii ",\"created_ns\":" ++ decimalInt challenge.createdNs ++ ascii ",\"tag\":" ++
    stringify challenge.tag ++ ascii "\x7d"

structure AuthJson where
  identityOf : Bytes → Option Bytes
  challengeOf : Bytes → Option ChallengeResponse
  sessionOf : Bytes → Option SessionResponse
  identityOf_body : ∀ identity, (∀ c ∈ identity, isHex c = true) → identityOf (challengeBody identity) = some identity
  challengeOf_render : ∀ challenge, challengeOf (renderChallenge challenge) =
    some ⟨bytesToHex challenge.nonce, challenge.createdNs.val, bytesToHex challenge.tag⟩
  sessionOf_render : ∀ token, sessionOf (renderSession token) =
    some ⟨bytesToHex (token.identity.take token.identityLen), token.expiryNs.val, bytesToHex token.tag⟩

def handleChallenge (json : AuthJson) (ctx : RouteContext) (nonce : Bytes) (now : Timestamp)
    (body : Bytes) : Outcome :=
  if body.length = 0 then .respond (badRequest "empty body")
  else
    match ctx.guardian with
    | none => .respond internalError
    | some guardian =>
      match json.identityOf body with
      | none => .respond (badRequest "invalid JSON")
      | some identity =>
        if identity.length ≠ identityHexLen then
          .respond (badRequest "identity must be exactly 64 hex characters")
        else if !identity.all isHex then .respond (badRequest "identity must be hex")
        else
          .respond (jsonOkIn 1024
            (renderChallenge (generateChallenge identity guardian.serverSecret nonce now)))

def readSession (body : Bytes) : Except Response (Bytes × Challenge) :=
  match extractJsonString body (ascii "identity") with
  | none => .error (badRequest "missing identity field")
  | some identity =>
    match extractJsonString body (ascii "nonce") with
    | none => .error (badRequest "missing nonce field")
    | some nonceHex =>
      match extractJsonString body (ascii "tag") with
      | none => .error (badRequest "missing tag field")
      | some tagHex =>
        match extractJsonInt body (ascii "created_ns") with
        | none => .error (badRequest "missing created_ns field")
        | some createdNs =>
          if identity.length ≠ identityHexLen then
            .error (badRequest "identity must be exactly 64 hex characters")
          else if nonceHex.length ≠ challengeSize * 2 then .error (badRequest "invalid nonce length")
          else
            match hexToBytes nonceHex with
            | none => .error (badRequest "invalid nonce hex")
            | some nonce =>
              if tagHex.length ≠ Hmac.macSize * 2 then .error (badRequest "invalid tag length")
              else
                match hexToBytes tagHex with
                | none => .error (badRequest "invalid tag hex")
                | some tag => .ok (identity, ⟨nonce, createdNs, tag⟩)

structure Times where
  challenge : Timestamp
  verify : Timestamp
  issue : Timestamp

def handleSession (ctx : RouteContext) (times : Times) (body : Bytes) : Outcome :=
  if body.length = 0 then .respond (badRequest "empty body")
  else
    match ctx.guardian with
    | none => .respond internalError
    | some guardian =>
      match readSession body with
      | .error r => .respond r
      | .ok (identity, challenge) =>
        match verifyChallenge challenge identity guardian.serverSecret times.verify with
        | none => .panic
        | some (.error .challengeExpired) => .respond (unauthorized "challenge expired")
        | some (.error .invalidChallenge) => .respond (unauthorized "invalid challenge")
        | some (.ok ()) =>
          match Session.issueToken identity guardian.serverSecret times.issue.val with
          | none => .panic
          | some token => .respond (jsonOkIn 1024 (renderSession token))

def received {α : Type} (parse : Bytes → Option α) : Outcome → Option α
  | .respond r => if 200 ≤ r.status ∧ r.status ≤ 299 then parse r.body else none
  | .panic => none

def authenticate (json : AuthJson) (ctx : RouteContext) (nonce : Bytes) (times : Times)
    (identityHex : Bytes) : Option Bytes :=
  (received json.challengeOf
    (handleChallenge json ctx nonce times.challenge (challengeBody identityHex))).bind fun challenge =>
  (received json.sessionOf (handleSession ctx times (sessionBody identityHex challenge))).map
    fun session => session.identity ++ 58 :: (decimalInt session.expiryNs ++ 58 :: session.tag)

open UInt8

lemma isHex_ofNat : ∀ n < 256, isHex (ofNat n) → escape (ofNat n) = [ofNat n] ∧
    ofNat n ≠ 34 ∧ ofNat n ≠ 58 ∧ ofNat n ≠ 92 := by
  decide +kernel

lemma isHex_hexDigit : ∀ d < 16, isHex (hexDigit d) := by decide

def HexText (s : Bytes) : Prop := ∀ c ∈ s, isHex c = true

variable {s : Bytes}

lemma HexText.spec (h : HexText s) {c : UInt8} (hc : c ∈ s) : escape c = [c] ∧ c ≠ 34 ∧ c ≠ 58 ∧ c ≠ 92 := by
  have hn := isHex_ofNat c.toNat c.toNat_lt
  rw [UInt8.ofNat_toNat] at hn
  exact hn (h c hc)

lemma hexText_bytesToHex (bytes : Bytes) : HexText (bytesToHex bytes) := by
  intro c hc
  obtain ⟨d, hd, rfl⟩ := exists_hexDigit_of_mem hc
  exact isHex_hexDigit d hd

lemma HexText.stringify (h : HexText s) : stringify s = 34 :: (s ++ [34]) := by
  have hs : s.flatMap escape = s := by
    induction s with
    | nil => rfl
    | cons c s ih =>
      rw [flatMap_cons, (h.spec mem_cons_self).1, ih fun a ha => h a (mem_cons_of_mem c ha)]
      rfl
  rw [Login.stringify, hs]

open Session JsonParser Option

lemma HexText.untilQuote (h : HexText s) {prev : Option UInt8} (hp : prev ≠ some 92)
    (rest : Bytes) : untilQuote prev (s ++ 34 :: rest) = some s := by
  induction s generalizing prev with
  | nil => exact if_pos ⟨rfl, hp⟩
  | cons c s ih =>
    obtain ⟨_, hq, _, hb⟩ := h.spec mem_cons_self
    have hc : ¬ (c = 34 ∧ prev ≠ some 92) := fun hc => hq hc.1
    rw [cons_append, Login.untilQuote, if_neg hc,
      ih (fun a ha => h a (mem_cons_of_mem c ha)) (by simpa using hb), map_some]

lemma HexText.after_quoted {key : Bytes} {text : String} (h : HexText s)
    (hc : 58 ∈ key ++ ascii text) (hlen : (key ++ ascii text).length ≤ s.length) (rest : Bytes) :
    after (quoted key text) (34 :: (s ++ rest)) = after (quoted key text) rest :=
  Lib.after_quoted (fun hm => (h.spec hm).2.1 rfl) hc (fun hm => (h.spec hm).2.2.1 rfl) hlen rest

/-- A key is not found in a field with another key and a text that is longer than it. -/
lemma HexText.after_field {key field : Bytes} {text : String} (h : HexText s) (hlen : 64 ≤ s.length)
    (hkey : Clash (quoted key text) field ∧ Clash (quoted key text) (ascii "\",") ∧ 58 ∈ key ++ ascii text ∧
      (key ++ ascii text).length ≤ 64) (rest : Bytes) :
    after (quoted key text) (field ++ (34 :: (s ++ (ascii "\"," ++ rest)))) = after (quoted key text) rest := by
  obtain ⟨hfield, hsep, hc, hshort⟩ := hkey
  rw [after_clash hfield, h.after_quoted hc (hshort.trans hlen), after_clash hsep]

lemma sessionBody_eq {identity : Bytes} {challenge : ChallengeResponse} (hi : HexText identity)
    (hn : HexText challenge.nonce) (ht : HexText challenge.tag) :
    sessionBody identity challenge = ascii "\x7b" ++ (ascii "\"identity\":" ++ (34 :: (identity ++ (ascii "\"," ++
        (ascii "\"nonce\":" ++ (34 :: (challenge.nonce ++ (ascii "\"," ++
        (ascii "\"created_ns\":" ++ (decimalInt challenge.createdNs ++ (ascii "," ++
        (ascii "\"tag\":" ++ (34 :: (challenge.tag ++ ascii "\"\x7d")))))))))))))) := by
  rw [sessionBody, hi.stringify, hn.stringify, ht.stringify]
  simp only [append_assoc, cons_append, nil_append]
  rfl

lemma extractJsonString_of_after {json key rest : Bytes} (hs : HexText s)
    (h : after (quoted key "\":\"") json = some (s ++ 34 :: rest)) : extractJsonString json key = some s := by
  grind [HexText.untilQuote, extractJsonString]

lemma decimalInt_natCast (n : Nat) : decimalInt n = decimal n := by
  rw [decimalInt, if_neg (by simp), Int.natAbs_natCast]

lemma isDigit_digit : ∀ d < 10, isDigit (digit d) ∧ digit d ≠ 45 ∧ ¬ (digit d = 32 ∨ digit d = 9) := by
  decide

lemma takeWhile_decimal (n : Nat) (rest : Bytes) : (decimal n ++ 44 :: rest).takeWhile isDigit = decimal n := by
  have hd : ∀ c ∈ decimal n, isDigit c := by grind [isDigit_of_mem_decimal, isDigit_digit]
  rw [takeWhile_append_of_pos hd, takeWhile_cons_of_neg (by decide), append_nil]

lemma toI128_of_parse {n : Nat} (h : (n : Int) < 2 ^ 127) :
    (parseInt (decimal n)).bind toI128 = some ⟨n, by omega, h⟩ := by
  rw [← decimalInt_natCast, parseInt_decimalInt, bind_some]
  exact toI128_val ⟨n, by omega, h⟩

lemma extractJsonInt_of_after {json key rest : Bytes} {n : I128} (hn : -2 ^ 127 < n.val)
    (h : after (quoted key "\":") json = some (decimalInt n.val ++ 44 :: rest)) :
    extractJsonInt json key = some n := by
  have hlt := n.property.2
  have habs : ((n.val.natAbs : Nat) : Int) < 2 ^ 127 := by omega
  rw [extractJsonInt, h, bind_some, decimalInt]
  by_cases hneg : n.val < 0
  · have hval : negated ⟨n.val.natAbs, by omega, habs⟩ = some n := by
      grind [toI128_val, negated]
    rw [if_pos hneg, cons_append, dropWhile_cons_of_neg (by decide)]
    simp only [if_true, takeWhile_decimal, if_neg (decimal_ne_nil _), toI128_of_parse habs, bind_some, hval]
  · have hval : (⟨n.val.natAbs, by omega, habs⟩ : I128) = n := by
      apply Subtype.ext
      dsimp only
      omega
    rw [if_neg hneg]
    have htake := takeWhile_decimal n.val.natAbs rest
    have hne := decimal_ne_nil n.val.natAbs
    have hparse := toI128_of_parse habs
    cases hd : decimal n.val.natAbs with
    | nil => exact absurd hd hne
    | cons c cs =>
      obtain ⟨d, hdlt, hc⟩ := isDigit_of_mem_decimal (hd ▸ mem_cons_self : c ∈ decimal n.val.natAbs)
      grind [isDigit_digit, dropWhile_cons_of_neg]

lemma quote_notMem_decimalInt (n : Int) : 34 ∉ decimalInt n := by
  have hd : ∀ d < 10, digit d ≠ 34 := by decide
  grind [isDigit_of_mem_decimal, decimalInt]

lemma after_decimalInt (key : Bytes) (text : String) (n : Int) (rest : Bytes) :
    after (quoted key text) (decimalInt n ++ rest) = after (quoted key text) rest :=
  after_notMem (quote_notMem_decimalInt n) _ rest

section
variable {identity : Bytes} {challenge : ChallengeResponse} (hi : HexText identity)
  (hn : HexText challenge.nonce) (ht : HexText challenge.tag)

include hi hn ht in
lemma extract_identity : extractJsonString (sessionBody identity challenge) (ascii "identity") = some identity := by
  apply extractJsonString_of_after hi
  · rw [sessionBody_eq hi hn ht, after_clash (by decide)]
    exact after_of_prefix _ _

include hi hn ht in
lemma extract_nonce (hlen : 64 ≤ identity.length) :
    extractJsonString (sessionBody identity challenge) (ascii "nonce") = some challenge.nonce := by
  apply extractJsonString_of_after hn
  · rw [sessionBody_eq hi hn ht, after_clash (by decide), hi.after_field hlen (by decide)]
    exact after_of_prefix _ _

include hi hn ht in
lemma extract_tag (hlen : 64 ≤ identity.length) (hnlen : 64 ≤ challenge.nonce.length) :
    extractJsonString (sessionBody identity challenge) (ascii "tag") = some challenge.tag := by
  apply extractJsonString_of_after ht
  · rw [sessionBody_eq hi hn ht, after_clash (by decide), hi.after_field hlen (by decide),
      hn.after_field hnlen (by decide), after_clash (by decide), after_decimalInt, after_clash (by decide)]
    exact after_of_prefix (quoted (ascii "tag") "\":\"") _

include hi hn ht in
lemma extract_created {createdNs : I128} (hc : challenge.createdNs = createdNs.val)
    (hmin : -2 ^ 127 < createdNs.val) (hlen : 64 ≤ identity.length) (hnlen : 64 ≤ challenge.nonce.length) :
    extractJsonInt (sessionBody identity challenge) (ascii "created_ns") = some createdNs := by
  apply extractJsonInt_of_after hmin
  · rw [sessionBody_eq hi hn ht, after_clash (by decide), hi.after_field hlen (by decide),
      hn.after_field hnlen (by decide), hc]
    exact after_of_prefix (quoted (ascii "created_ns") "\":") _

lemma readSession_sessionBody {nonce tag : Bytes} {createdNs : I128} (hi : HexText identity)
    (hlen : identity.length = identityHexLen) (hn : nonce.length = challengeSize)
    (ht : tag.length = Hmac.macSize) (hc : -2 ^ 127 < createdNs.val) :
    readSession (sessionBody identity ⟨bytesToHex nonce, createdNs.val, bytesToHex tag⟩) =
      .ok (identity, ⟨nonce, createdNs, tag⟩) := by
  let challenge : ChallengeResponse := ⟨bytesToHex nonce, createdNs.val, bytesToHex tag⟩
  have hnhex : HexText challenge.nonce := hexText_bytesToHex nonce
  have hthex : HexText challenge.tag := hexText_bytesToHex tag
  have hnlen : (bytesToHex nonce).length = challengeSize * 2 := by rw [length_bytesToHex, hn, Nat.mul_comm]
  have htlen : (bytesToHex tag).length = Hmac.macSize * 2 := by rw [length_bytesToHex, ht, Nat.mul_comm]
  have hcreated := extract_created hi hnhex hthex rfl hc hlen.ge hnlen.ge
  simp only [readSession, extract_identity hi hnhex hthex, extract_nonce hi hnhex hthex hlen.ge,
    extract_tag hi hnhex hthex hlen.ge hnlen.ge, hcreated, challenge]
  grind [hexToBytes_bytesToHex]

end

lemma jsonOkIn_of_le {size : Nat} {body : Bytes} (h : body.length ≤ size) :
    jsonOkIn size body = jsonOk body := if_neg (Nat.not_lt.mpr h)

lemma received_jsonOk {α : Type} (parse : Bytes → Option α) (body : Bytes) :
    received parse (.respond (jsonOk body)) = parse body := rfl

section
variable (json : AuthJson) (dataDir : Bytes) (guardian : Guardian) {identity nonce : Bytes} {times : Times}

lemma length_renderChallenge {now : Timestamp} (hn : nonce.length = challengeSize) :
    (renderChallenge (generateChallenge identity guardian.serverSecret nonce now)).length ≤ 1024 := by
  have h1 := length_bytesToHex nonce
  have h2 := length_decimal_i128 now.toI128
  have h3 := length_bytesToHex (challengeTag identity guardian.serverSecret nonce now.toI128)
  rw [hn] at h1
  rw [challengeTag, Sha256.length_hmac] at h3
  have hl : (ascii "\x7b\"nonce\":\"").length = 10 ∧ (ascii "\",\"created_ns\":").length = 15 ∧
      (ascii ",\"tag\":\"").length = 8 ∧ (ascii "\"\x7d").length = 2 := by decide
  grind [renderChallenge, generateChallenge, challengeTag, challengeSize]

lemma handleChallenge_challengeBody {now : Timestamp} (hi : HexText identity)
    (hlen : identity.length = identityHexLen) (hn : nonce.length = challengeSize) :
    handleChallenge json ⟨dataDir, some guardian⟩ nonce now (challengeBody identity) =
      .respond (jsonOk (renderChallenge (generateChallenge identity guardian.serverSecret nonce now))) := by
  have hbody : ¬ (challengeBody identity).length = 0 := by simp [challengeBody, stringify]
  have hall : ¬ (!identity.all isHex) := by simpa [HexText] using hi
  rw [handleChallenge, if_neg hbody]
  simp only [json.identityOf_body identity hi, if_neg (not_not.mpr hlen), if_neg hall,
    jsonOkIn_of_le (length_renderChallenge guardian hn)]

lemma toI128_eq_some {n : Int} (h : -2 ^ 127 ≤ n ∧ n < 2 ^ 127) : toI128 n = some ⟨n, h⟩ :=
  toI128_val ⟨n, h⟩

lemma verifyChallenge_of_tag {challenge : Challenge} {serverSecret : Bytes} {now : Timestamp}
    (htag : challengeTag identity serverSecret challenge.nonce challenge.createdNs = challenge.tag)
    (h1 : challenge.createdNs.val ≤ now.val) (h2 : now.val ≤ challenge.createdNs.val + challengeExpiryNs) :
    verifyChallenge challenge identity serverSecret now = some (.ok ()) := by
  have hwin : ¬ (now.val - challenge.createdNs.val > challengeExpiryNs ∨
      now.val - challenge.createdNs.val < 0) := by omega
  have hbound : -2 ^ 127 ≤ now.val - challenge.createdNs.val ∧ now.val - challenge.createdNs.val < 2 ^ 127 := by
    rw [challengeExpiryNs] at h2
    omega
  rw [verifyChallenge, toI128_eq_some hbound, map_some, if_neg hwin, if_pos (Hmac.constantTimeEqual_iff.mpr htag)]

def expiryOf (now : Timestamp) : I128 :=
  ⟨now.val + Session.sessionExpiryNs, by have h := now.property; simp only [Session.sessionExpiryNs]; omega⟩

lemma issueToken_timestamp (serverSecret : Bytes) (now : Timestamp) :
    issueToken identity serverSecret now.val = some (tokenOf identity serverSecret (expiryOf now)) := by
  have h := toI128_val (expiryOf now)
  rw [issueToken]
  change (toI128 (expiryOf now).val).map _ = _
  rw [h, map_some]

lemma take_identityBuffer (hlen : identity.length = identityHexLen) :
    (identityBuffer identity).take (min identity.length 64) = identity := by
  have hmin : min identity.length 64 = identity.length := by
    rw [hlen]
    rfl
  grind [identityBuffer]

lemma length_renderSession {expiry : I128} (hlen : identity.length = identityHexLen) :
    (renderSession (tokenOf identity guardian.serverSecret expiry)).length ≤ 1024 := by
  have h1 := length_bytesToHex identity
  have h2 := length_decimal_i128 expiry
  have h3 := length_bytesToHex
    (Sha256.hmac guardian.serverSecret (identityBuffer identity ++ expiryBytes expiry))
  rw [hlen] at h1
  rw [Sha256.length_hmac] at h3
  have hl : (ascii "\x7b\"identity\":\"").length = 13 ∧ (ascii "\",\"expiry_ns\":").length = 14 ∧
      (ascii ",\"tag\":\"").length = 8 ∧ (ascii "\"\x7d").length = 2 := by decide
  simp only [renderSession, tokenOf, take_identityBuffer hlen, length_append, hl, h1, h3, identityHexLen]
  omega

lemma handleSession_sessionBody (challenge : Challenge) (hi : HexText identity)
    (hlen : identity.length = identityHexLen) (hn : challenge.nonce.length = challengeSize)
    (htag : challengeTag identity guardian.serverSecret challenge.nonce challenge.createdNs =
      challenge.tag) (hmin : -2 ^ 127 < challenge.createdNs.val) (h1 : challenge.createdNs.val ≤ times.verify.val)
    (h2 : times.verify.val ≤ challenge.createdNs.val + challengeExpiryNs) :
    handleSession ⟨dataDir, some guardian⟩ times (sessionBody identity
        ⟨bytesToHex challenge.nonce, challenge.createdNs.val, bytesToHex challenge.tag⟩) =
      .respond (jsonOk (renderSession (tokenOf identity guardian.serverSecret (expiryOf times.issue)))) := by
  have hbody : ¬ (sessionBody identity ⟨bytesToHex challenge.nonce, challenge.createdNs.val,
      bytesToHex challenge.tag⟩).length = 0 := by
    simp [sessionBody, stringify]
  have htlen : challenge.tag.length = Hmac.macSize := by
    rw [← htag]
    exact Sha256.length_hmac _ _
  rw [handleSession, if_neg hbody]
  grind [issueToken_timestamp, readSession_sessionBody, verifyChallenge_of_tag, jsonOkIn_of_le, length_renderSession]

lemma authenticate_eq (hi : HexText identity) (hlen : identity.length = identityHexLen)
    (hn : nonce.length = challengeSize) (h1 : times.challenge.val ≤ times.verify.val)
    (h2 : times.verify.val ≤ times.challenge.val + challengeExpiryNs) :
    authenticate json ⟨dataDir, some guardian⟩ nonce times identity = some (headerValue (bytesToHex identity)
        (tokenOf identity guardian.serverSecret (expiryOf times.issue))) := by
  have hmin := times.challenge.property.1
  rw [← times.challenge.val_toI128] at h1 h2 hmin
  have hsession := handleSession_sessionBody dataDir guardian
    (generateChallenge identity guardian.serverSecret nonce times.challenge) hi hlen hn rfl
    (by simp only [generateChallenge]; omega) h1 h2
  rw [authenticate, handleChallenge_challengeBody json dataDir guardian hi hlen hn, received_jsonOk,
    json.challengeOf_render, bind_some, hsession, received_jsonOk, json.sessionOf_render, map_some, headerValue]
  rw [tokenOf, take_identityBuffer hlen]

/-- The guardian accepts no token that a client builds from its answer. -/
theorem validateSessionToken_authenticate (hi : HexText identity)
    (hlen : identity.length = identityHexLen) (hn : nonce.length = challengeSize)
    (h1 : times.challenge.val ≤ times.verify.val)
    (h2 : times.verify.val ≤ times.challenge.val + challengeExpiryNs) :
    ∃ token, authenticate json ⟨dataDir, some guardian⟩ nonce times identity = some token ∧
      ∀ now, Session.validateSessionToken (some token) guardian.serverSecret now = none := by
  refine ⟨_, authenticate_eq json dataDir guardian hi hlen hn h1 h2, fun now => ?_⟩
  have hlong : (bytesToHex identity).length = 0 ∨ (bytesToHex identity).length > 64 := by
    rw [length_bytesToHex, hlen]
    decide
  grind [splitOn_headerValue, colon_notMem_bytesToHex, validateSessionToken]

end

namespace AuthJson
open JsonParser

def hexField (lit text : Bytes) : Option (Bytes × Bytes) :=
  (expect lit text).map fun rest => (rest.takeWhile isHex, rest.dropWhile isHex)

lemma hexField_append {s rest : Bytes} (hs : HexText s) (hr : rest.head?.all fun c => !isHex c)
    (lit : Bytes) : hexField lit (lit ++ (s ++ rest)) = some (s, rest) := by
  have hrest : rest.takeWhile isHex = [] ∧ rest.dropWhile isHex = rest := by
    cases rest with
    | nil => exact ⟨rfl, rfl⟩
    | cons c rest =>
      have hc : isHex c = false := by simpa using hr
      simp [hc]
  rw [hexField, expect_append, map_some, takeWhile_append_of_pos hs,
    dropWhile_append_of_pos hs, hrest.1, hrest.2, append_nil]

lemma field_some {lit rest : Bytes} (n : Int) (hr : EndsNumber rest) :
    field some lit (lit ++ (decimalInt n ++ rest)) = some (n, rest) := by
  grind [expect_append, number_append, field]

def strictObject (first second text : Bytes) : Option (Bytes × Int × Bytes) :=
  (hexField first text).bind fun hex =>
  (field some second hex.2).bind fun number =>
  (hexField (ascii ",\"tag\":\"") number.2).bind fun tag =>
  if tag.2 = ascii "\"\x7d" then some (hex.1, number.1, tag.1) else none

lemma strictObject_append {hex tag : Bytes} (hhex : HexText hex) (htag : HexText tag) (n : Int)
    {first second : Bytes} (hs : ∀ rest, (second ++ rest).head?.all fun c => !isHex c) :
    strictObject first second (first ++ (hex ++ (second ++ (decimalInt n ++
      (ascii ",\"tag\":\"" ++ (tag ++ ascii "\"\x7d")))))) = some (hex, n, tag) := by
  have hend : EndsNumber (ascii ",\"tag\":\"") ∧ ascii ",\"tag\":\"" ≠ [] := by decide
  rw [strictObject, hexField_append hhex (hs _), bind_some, field_some n (hend.1.append hend.2 _),
    bind_some, hexField_append htag (by decide), bind_some, if_pos rfl]

def strict : AuthJson where
  identityOf text := (hexField (ascii "\x7b\"identity\":\"") text).bind fun identity =>
    if identity.2 = ascii "\"\x7d" then some identity.1 else none
  challengeOf text := (strictObject (ascii "\x7b\"nonce\":\"") (ascii "\",\"created_ns\":") text).map
    fun r => ⟨r.1, r.2.1, r.2.2⟩
  sessionOf text := (strictObject (ascii "\x7b\"identity\":\"") (ascii "\",\"expiry_ns\":") text).map
    fun r => ⟨r.1, r.2.1, r.2.2⟩
  identityOf_body identity h := by
    have hbody : challengeBody identity = ascii "\x7b\"identity\":\"" ++ (identity ++ ascii "\"\x7d") := by
      rw [challengeBody, HexText.stringify h]
      simp only [append_assoc, cons_append, nil_append]
      rfl
    rw [hbody, hexField_append h (by decide), Option.bind_some, if_pos rfl]
  challengeOf_render challenge := by
    rw [renderChallenge, strictObject_append (hexText_bytesToHex _) (hexText_bytesToHex _) _ fun _ => rfl,
      Option.map_some]
  sessionOf_render token := by
    rw [renderSession, strictObject_append (hexText_bytesToHex _) (hexText_bytesToHex _) _ fun _ => rfl,
      Option.map_some]

end AuthJson

def sampleGuardian : Guardian := ⟨List.replicate 32 7, by decide⟩
def sampleIdentity : Bytes := List.replicate 64 97
def sampleTimes : Times := ⟨⟨0, by decide⟩, ⟨0, by decide⟩, ⟨0, by decide⟩⟩

theorem validateSessionToken_sampleIdentity :
    ∃ token, authenticate AuthJson.strict ⟨[], some sampleGuardian⟩ (List.replicate 32 1) sampleTimes
        sampleIdentity = some token ∧
      ∀ now, Session.validateSessionToken (some token) sampleGuardian.serverSecret now = none :=
  validateSessionToken_authenticate AuthJson.strict [] sampleGuardian (by
    intro c hc
    rw [eq_of_mem_replicate hc]
    decide) (by decide) (by decide) (by decide) (by decide)

/-- The identity is written in hexadecimal once more, and a token with 128 characters before the colon is rejected. -/
theorem login_rejected_at_once :
    (authenticate AuthJson.strict ⟨[], some sampleGuardian⟩ (List.replicate 32 1) sampleTimes
        sampleIdentity).isSome = true ∧
      Session.validateSessionToken (authenticate AuthJson.strict ⟨[], some sampleGuardian⟩
        (List.replicate 32 1) sampleTimes sampleIdentity) sampleGuardian.serverSecret 0 = none := by
  decide +kernel

lemma toI128_isSome {n : Int} (h : -2 ^ 127 ≤ n ∧ n < 2 ^ 127) : (toI128 n).isSome := by
  rw [toI128, dif_pos h]
  rfl

lemma parseInt_digits {digits : Bytes} (hdigits : digits.all isDigit) {n : Int} (h : parseInt digits = some n) :
    0 ≤ n := by
  cases digits with
  | nil => cases h
  | cons c cs =>
    have hc : 48 ≤ c := by
      have hdigit := all_eq_true.1 hdigits c mem_cons_self
      simp only [isDigit, Bool.and_eq_true, decide_eq_true_eq] at hdigit
      exact hdigit.1
    have hplus : c ≠ 43 := by rintro rfl; exact absurd hc (by decide)
    have hminus : c ≠ 45 := by rintro rfl; exact absurd hc (by decide)
    rw [parseInt, if_neg hplus, if_neg hminus] at h
    obtain ⟨k, -, rfl⟩ := map_eq_some_iff.1 h
    exact Int.natCast_nonneg k

lemma extractJsonInt_of_readSession {body identity : Bytes} {challenge : Challenge}
    (h : readSession body = .ok (identity, challenge)) :
    extractJsonInt body (ascii "created_ns") = some challenge.createdNs := by
  rw [readSession] at h
  repeat' split at h
  all_goals cases h
  assumption

def farBody (createdNs : Int) : Bytes :=
  sessionBody sampleIdentity ⟨List.replicate 64 97, createdNs, List.replicate 64 97⟩

def lateTimes : Times := { sampleTimes with verify := ⟨1763000000000000000, by decide⟩ }

end Orama.Vault.Login
