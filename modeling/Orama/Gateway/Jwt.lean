import Orama.Lib.Strings

namespace Orama.Gateway
open Lib

structure JWTHeader where
  alg : Bytes
  kid : Bytes

structure JWTClaims where
  iss : Bytes
  sub : Bytes
  aud : Bytes
  iat : Int
  nbf : Int
  exp : Int
  ns : Bytes
  custom : List (Bytes × Bytes)
deriving DecidableEq

structure JWTLib where
  rawURLDecode : Bytes → Option Bytes
  unmarshalHeader : Bytes → Option JWTHeader
  unmarshalClaims : Bytes → Option JWTClaims
  edVerify : Bytes → Bytes → Bool
  rsaVerify : Bytes → Bytes → Bool

structure SigningKeys where
  edKeyID : Bytes
  hasEdKey : Bool
  keyID : Bytes
  hasKey : Bool

inductive JWTError
  | invalidFormat
  | invalidHeaderEncoding
  | invalidPayloadEncoding
  | invalidSignatureEncoding
  | invalidHeaderJson
  | unsupportedAlgorithm
  | algorithmMismatch
  | invalidSignature
  | legacyMustBeRS256
  | keyUnavailable
  | unknownKeyID
  | invalidClaimsJson
  | invalidIssuer
  | notYetValid
  | expired
  | invalidIat
  | invalidAudience
deriving DecidableEq, Repr

def verifySignature (lib : JWTLib) (keys : SigningKeys) (header : JWTHeader) (input signature : Bytes) :
    Except JWTError Unit :=
  if header.kid ≠ [] ∧ header.kid = keys.edKeyID ∧ keys.hasEdKey then
    if header.alg ≠ ascii "EdDSA" then .error .algorithmMismatch
    else if lib.edVerify input signature then .ok () else .error .invalidSignature
  else if header.kid ≠ [] ∧ header.kid = keys.keyID ∧ keys.hasKey then
    if header.alg ≠ ascii "RS256" then .error .algorithmMismatch
    else if lib.rsaVerify input signature then .ok () else .error .invalidSignature
  else if header.kid = [] then
    if header.alg ≠ ascii "RS256" then .error .legacyMustBeRS256
    else if !keys.hasKey then .error .keyUnavailable
    else if lib.rsaVerify input signature then .ok () else .error .invalidSignature
  else .error .unknownKeyID

def skew : Int := 60

def checkClaims (claims : JWTClaims) (now : Int) : Except JWTError JWTClaims :=
  if claims.iss ≠ ascii "orama-gateway" then .error .invalidIssuer
  else if claims.nbf ≠ 0 ∧ now + skew < claims.nbf then .error .notYetValid
  else if claims.exp ≠ 0 ∧ now - skew > claims.exp then .error .expired
  else if claims.iat ≠ 0 ∧ claims.iat - skew > now then .error .invalidIat
  else if claims.aud ≠ ascii "gateway" then .error .invalidAudience
  else .ok claims

def parseAndVerifyJWT (lib : JWTLib) (keys : SigningKeys) (now : Int) (token : Bytes) : Except JWTError JWTClaims :=
  match token.splitOn 46 with
  | [header64, payload64, signature64] =>
    match lib.rawURLDecode header64, lib.rawURLDecode payload64, lib.rawURLDecode signature64 with
    | none, _, _ => .error .invalidHeaderEncoding
    | some _, none, _ => .error .invalidPayloadEncoding
    | some _, some _, none => .error .invalidSignatureEncoding
    | some headerBytes, some payload, some signature =>
      match lib.unmarshalHeader headerBytes with
      | none => .error .invalidHeaderJson
      | some header =>
        if header.alg ≠ ascii "RS256" ∧ header.alg ≠ ascii "EdDSA" then .error .unsupportedAlgorithm
        else
          match verifySignature lib keys header (header64 ++ 46 :: payload64) signature with
          | .error e => .error e
          | .ok () =>
            match lib.unmarshalClaims payload with
            | none => .error .invalidClaimsJson
            | some claims => checkClaims claims now
  | _ => .error .invalidFormat

lemma rawURLDecode_of_parseAndVerifyJWT {lib : JWTLib} {keys : SigningKeys} {now : Int} {token : Bytes}
    {claims : JWTClaims} (h : parseAndVerifyJWT lib keys now token = .ok claims) :
    ∀ part ∈ token.splitOn 46, lib.rawURLDecode part ≠ none := by
  unfold parseAndVerifyJWT at h
  split at h
  · next hsplit =>
    split at h
    · cases h
    · cases h
    · cases h
    · next hheader hpayload hsignature => simp [hsplit, hheader, hpayload, hsignature]
  · cases h

end Orama.Gateway
