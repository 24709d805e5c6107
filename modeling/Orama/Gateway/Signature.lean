import Orama.Gateway.Keys

namespace Orama.Gateway
open Lib

/-- The functions of other libraries that the check of a wallet calls: the
address that the key recovered from a signature has, and Ed25519. -/
structure WalletLib where
  toUpper : Bytes → Bytes
  stdDecode : Bytes → Option Bytes
  recoverAddress : Bytes → Bytes → Option Bytes
  ed25519Verify : Bytes → Bytes → Bytes → Bool

def base58Alphabet : Bytes := ascii "123456789ABCDEFGHJKLMNPQRSTUVWXYZabcdefghijkmnopqrstuvwxyz"

def bigEndianBytes (n : Nat) : Bytes := ((Nat.digits 256 n).map UInt8.ofNat).reverse

def base58Decode (input : Bytes) : Option Bytes :=
  (input.mapM base58Alphabet.idxOf?).map fun digits =>
    (input.takeWhile (· = 49)).map (fun _ => 0) ++ bigEndianBytes (digits.foldl (fun answer d => answer * 58 + d) 0)

def trimHexPrefix (s : Bytes) : Bytes := trimPrefix (trimPrefix s (ascii "0x")) (ascii "0X")

def normalizeRecovery (sig : Bytes) : Bytes :=
  sig.take 64 ++ (sig.drop 64).map fun v => if 27 ≤ v then v - 27 else v

def verifyEthSignature (svc : KeyService) (lib : WalletLib) (wallet nonce signature : Bytes) : Bool :=
  let message := 25 :: ascii "Ethereum Signed Message:\n" ++ decimal nonce.length ++ nonce
  let sigHex := trimSpace signature
  let sigHex := if hasPrefix sigHex (ascii "0x") || hasPrefix sigHex (ascii "0X") then sigHex.drop 2
    else sigHex
  match hexToBytes sigHex with
  | none => false
  | some sig =>
    if sig.length ≠ 65 then false
    else
      match lib.recoverAddress message (normalizeRecovery sig) with
      | none => false
      | some addr => svc.toLower (trimHexPrefix addr) = svc.toLower (trimHexPrefix wallet)

def verifySolSignature (lib : WalletLib) (wallet nonce signature : Bytes) : Bool :=
  match lib.stdDecode signature with
  | none => false
  | some sig =>
    if sig.length ≠ 64 then false
    else
      match base58Decode wallet with
      | none => false
      | some pubKey => if pubKey.length ≠ 32 then false else lib.ed25519Verify pubKey nonce sig

def KeyService.verifySignature (svc : KeyService) (lib : WalletLib)
    (wallet nonce signature chainType : Bytes) : Bool :=
  let chainType := lib.toUpper (trimSpace chainType)
  if chainType = [] ∨ chainType = ascii "ETH" then verifyEthSignature svc lib wallet nonce signature
  else if chainType = ascii "SOL" then verifySolSignature lib wallet nonce signature
  else false

end Orama.Gateway
