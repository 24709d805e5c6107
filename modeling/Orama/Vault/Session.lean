import Orama.Vault.Hmac
import Orama.Vault.Meta

namespace Orama.Vault.Session
open Lib

def sessionExpiryNs : Int := 3600 * 1000000000

structure SessionToken where
  identity : Bytes
  identityLen : Nat
  expiryNs : I128
  tag : Bytes

def expiryBytes (expiry : I128) : Bytes :=
  (List.range 16).map fun i => UInt8.ofNat ((expiry.val % 2 ^ 128).toNat / 256 ^ i)

def identityBuffer (identity : Bytes) : Bytes :=
  identity.take 64 ++ List.replicate (64 - identity.length) 0

def tokenOf (identity serverSecret : Bytes) (expiry : I128) : SessionToken where
  identity := identityBuffer identity
  identityLen := min identity.length 64
  expiryNs := expiry
  tag := Sha256.hmac serverSecret (identityBuffer identity ++ expiryBytes expiry)

def issueToken (identity serverSecret : Bytes) (now : Int) : Option SessionToken :=
  (JsonParser.toI128 (now + sessionExpiryNs)).map (tokenOf identity serverSecret)

inductive SessionError
  | sessionExpired
  | invalidSession
deriving DecidableEq, Repr

def verifyToken (token : SessionToken) (serverSecret : Bytes) (now : Int) : Except SessionError Bytes :=
  if now > token.expiryNs.val then .error .sessionExpired
  else if Hmac.constantTimeEqual
      (Sha256.hmac serverSecret (token.identity ++ expiryBytes token.expiryNs)) token.tag then
    .ok (token.identity.take token.identityLen)
  else .error .invalidSession

def validateSessionToken (headerValue : Option Bytes) (serverSecret : Bytes) (now : Int) : Option Bytes :=
  match headerValue with
  | none => none
  | some token =>
    if token = [] then none
    else
      match token.splitOn 58 with
      | idHex :: expiryStr :: tagHex :: _ =>
        if idHex.length = 0 ∨ idHex.length > 64 then none
        else
          match (parseInt expiryStr).bind JsonParser.toI128 with
          | none => none
          | some expiry =>
            if tagHex.length ≠ Hmac.macSize * 2 then none
            else
              match hexToBytes tagHex with
              | none => none
              | some tag =>
                match verifyToken ⟨identityBuffer idHex, min idHex.length 64, expiry, tag⟩
                    serverSecret now with
                | .error _ => none
                | .ok _ => some idHex
      | _ => none

def headerValue (identity : Bytes) (token : SessionToken) : Bytes :=
  identity ++ 58 :: (decimalInt token.expiryNs.val ++ 58 :: bytesToHex token.tag)

lemma splitOn_headerValue {identity : Bytes} (hc : 58 ∉ identity) (token : SessionToken) :
    (headerValue identity token).splitOn 58 = [identity, decimalInt token.expiryNs.val, bytesToHex token.tag] := by
  have happend : ∀ a b : Bytes, (a ++ 58 :: b).splitOn 58 = a.splitOn 58 ++ b.splitOn 58 :=
    fun a b => List.splitOnP_append_cons a b rfl
  rw [headerValue, happend, happend, List.splitOn_eq_singleton hc,
    List.splitOn_eq_singleton (colon_notMem_decimalInt _), List.splitOn_eq_singleton (colon_notMem_bytesToHex _)]
  rfl

variable {expiry : I128} {now : Int}

lemma verifyToken_tokenOf (identity serverSecret : Bytes) (hnow : now ≤ expiry.val) :
    verifyToken (tokenOf identity serverSecret expiry) serverSecret now =
    .ok ((identityBuffer identity).take (min identity.length 64)) := by
  have hexp : ¬ now > (tokenOf identity serverSecret expiry).expiryNs.val := Int.not_lt.mpr hnow
  rw [verifyToken, if_neg hexp]
  exact if_pos (Hmac.constantTimeEqual_iff.mpr rfl)

lemma validateSessionToken_tokenOf {identity serverSecret : Bytes} (hne : identity.length ≠ 0)
    (hlen : identity.length ≤ 64) (hc : 58 ∉ identity) (hnow : now ≤ expiry.val) :
    validateSessionToken (some (headerValue identity (tokenOf identity serverSecret expiry)))
      serverSecret now = some identity := by
  have htext : headerValue identity (tokenOf identity serverSecret expiry) ≠ [] := by simp [headerValue]
  have htag : (bytesToHex (tokenOf identity serverSecret expiry).tag).length = Hmac.macSize * 2 := by
    rw [length_bytesToHex, tokenOf, Sha256.length_hmac]
    rfl
  have hexpiry : (parseInt (decimalInt (tokenOf identity serverSecret expiry).expiryNs.val)).bind
      JsonParser.toI128 = some expiry := by
    rw [parseInt_decimalInt, Option.bind_some]
    exact JsonParser.toI128_val expiry
  simp only [validateSessionToken, if_neg htext, splitOn_headerValue hc, hexpiry,
    if_neg (not_not.mpr htag), hexToBytes_bytesToHex]
  rw [if_neg (by omega)]
  have hverify := verifyToken_tokenOf identity serverSecret hnow
  rw [tokenOf] at hverify
  rw [tokenOf, hverify]

end Orama.Vault.Session
