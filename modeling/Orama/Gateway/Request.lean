import Orama.Gateway.Jwt
import Orama.Gateway.Policy

namespace Orama.Gateway
open Lib

abbrev ScopeSet := Finset Bytes

inductive IPAddr
  | v4 (a b c d : UInt8)
  | v6 (high low : UInt64)
deriving DecidableEq, Repr

def IPAddr.to4 : IPAddr → Option (UInt8 × UInt8 × UInt8 × UInt8)
  | v4 a b c d => some (a, b, c, d)
  | v6 high low =>
    if high = 0 ∧ low >>> 32 = 0xffff then
      some ((low >>> 24).toUInt8, (low >>> 16).toUInt8, (low >>> 8).toUInt8, low.toUInt8)
    else none

def IPAddr.isLoopback (ip : IPAddr) : Bool :=
  match ip.to4 with
  | some (a, _) => a = 127
  | none => ip = .v6 0 1

def isInternalIP (ip : IPAddr) : Bool :=
  if ip.isLoopback then true
  else
    match ip.to4 with
    | some (a, b, c, _) => a = 10 ∧ b = 0 ∧ c = 0
    | none => false

def lowerAscii (c : UInt8) : UInt8 := if 65 ≤ c ∧ c ≤ 90 then c + 32 else c
def canonical (name : Bytes) : Bytes := name.map lowerAscii
abbrev Headers := List (Bytes × Bytes)

def Headers.get (h : Headers) (name : Bytes) : Bytes :=
  ((h.find? fun e => canonical e.1 = canonical name).map Prod.snd).getD []

def queryGet (query : List (Bytes × Bytes)) (name : Bytes) : Bytes :=
  ((query.find? fun e => e.1 = name).map Prod.snd).getD []

structure Context where
  apiKey : Option Bytes
  jwt : Option JWTClaims
  namespaceOverride : Option Bytes
  scopes : Option ScopeSet
  ownerConfirmed : Bool
deriving DecidableEq

def Context.empty : Context := ⟨none, none, none, none, false⟩

structure Request where
  method : Method
  path : Bytes
  query : List (Bytes × Bytes)
  headers : Headers
  remoteAddr : IPAddr
  context : Context
deriving DecidableEq

structure Env where
  lib : JWTLib
  keys : SigningKeys
  now : Int
  toLower : Bytes → Bytes
  decodeCustom : Bytes → Option (List (Bytes × Bytes))
  lookupAPIKeyEntry : Bytes → Option (Bytes × Bytes)

def parseScopes (toLower : Bytes → Bytes) (raw : Bytes) : ScopeSet :=
  (((raw.splitOn 44).map fun part => toLower (trimSpace part)).filter (· ≠ [])).toFinset

def scopesFromStored (toLower : Bytes → Bytes) (raw : Bytes) : ScopeSet :=
  if trimSpace raw = [] then {Grant.admin.text} else parseScopes toLower raw

def ScopeSet.has (scopes : ScopeSet) : Option Grant → Bool
  | none => true
  | some grant => Grant.admin.text ∈ scopes || grant.text ∈ scopes

end Orama.Gateway
