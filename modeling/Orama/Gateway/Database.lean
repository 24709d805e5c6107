import Orama.Gateway.Request
import Orama.Lib.Base64
import Orama.Lib.Sha256
import Orama.Lib.Table

namespace Orama.Gateway
open Lib

structure APIKey where
  key : Bytes
  name : Bytes
  namespaceID : Nat
  scopes : Option Bytes
  revoked : Bool
deriving DecidableEq, Repr

structure WalletAPIKey where
  namespaceID : Nat
  wallet : Bytes
  apiKeyID : Nat
deriving DecidableEq, Repr

inductive OwnerType
  | wallet
  | apiKey
deriving DecidableEq, Repr

structure NamespaceOwner where
  namespaceID : Nat
  ownerType : OwnerType
  ownerID : Bytes
deriving DecidableEq, Repr

structure Nonce where
  namespaceID : Nat
  wallet : Bytes
  nonce : Bytes
  purpose : Bytes
  expiresAt : Int
  usedAt : Option Int
deriving DecidableEq, Repr

structure RefreshToken where
  namespaceID : Nat
  subject : Bytes
  token : Bytes
  audience : Bytes
  expiresAt : Int
  customClaims : List (Bytes × Bytes)
  revokedAt : Option Int
  graceUsedAt : Option Int
deriving DecidableEq, Repr

def WalletAPIKey.key (l : WalletAPIKey) : Nat × Bytes := (l.namespaceID, l.wallet)

def Nonce.key (n : Nonce) : Nat × Bytes × Bytes := (n.namespaceID, n.wallet, n.nonce)

structure Database where
  namespaces : Table Bytes id
  apiKeys : Table APIKey APIKey.key
  walletAPIKeys : Table WalletAPIKey WalletAPIKey.key
  ownership : Table NamespaceOwner id
  nonces : Table Nonce Nonce.key
  refreshTokens : Table RefreshToken RefreshToken.token

def Database.ensureNamespace (db : Database) (name : Bytes) : Database :=
  { db with namespaces := db.namespaces.insertOrIgnore name }

def Database.empty : Database :=
  (⟨.empty, .empty, .empty, .empty, .empty, .empty⟩ : Database).ensureNamespace (ascii "default")

def namespaceName (ns : Bytes) : Bytes := if trimSpace ns = [] then ascii "default" else trimSpace ns

def Database.namespaceID (db : Database) (name : Bytes) : Option Nat :=
  (db.namespaces.select fun n => n.2 = name).map Prod.fst

def resolveNamespaceID (db : Database) (ns : Bytes) : Option Nat × Database :=
  let db' := db.ensureNamespace (namespaceName ns)
  (db'.namespaceID (namespaceName ns), db')

lemma namespaceName_ne_nil (ns : Bytes) : namespaceName ns ≠ [] := by
  rw [namespaceName]
  split
  · decide
  · next h => exact h

lemma Database.namespaceID_eq_some_iff {db : Database} {name : Bytes} {i : Nat} :
    db.namespaceID name = some i ↔ (i, name) ∈ db.namespaces.rows := by
  have hp : ∀ n : Nat × Bytes, decide (n.2 = name) → id n.2 = name := by simp
  rw [namespaceID, Option.map_eq_some_iff]
  constructor
  · rintro ⟨n, hn, rfl⟩
    obtain ⟨hmem, hname⟩ := (db.namespaces.select_eq_some_iff name hp).1 hn
    rw [← of_decide_eq_true hname]
    exact hmem
  · exact fun h => ⟨_, (db.namespaces.select_eq_some_iff name hp).2 ⟨h, by simp⟩, rfl⟩

lemma Database.exists_namespaceID_ensureNamespace (db : Database) (name : Bytes) :
    ∃ i, (db.ensureNamespace name).namespaceID name = some i := by
  obtain ⟨⟨i, n⟩, hr, hname⟩ := db.namespaces.exists_mem_insertOrIgnore name
  obtain rfl : n = name := hname
  exact ⟨i, namespaceID_eq_some_iff.2 hr⟩

end Orama.Gateway
