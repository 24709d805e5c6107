import Orama.Lib.Text

namespace Orama.Dns
open Lib

inductive RecordType
  | a
  | aaaa
  | cname
  | txt
  | ns
  | soa
deriving DecidableEq

structure Row where
  fqdn : Bytes
  recordType : RecordType
  value : Bytes
  ttl : Int
  isActive : Bool

structure DNSRecord (ρ : Type) where
  recordType : RecordType
  ttl : Int
  parsedValue : ρ

structure RR (ρ : Type) where
  name : Bytes
  rrtype : RecordType
  ttl : Nat
  value : ρ
deriving DecidableEq

inductive Reply (ρ : Type)
  | success (answer : List (RR ρ))
  | nameError
deriving DecidableEq

structure Backend (ρ : Type) where
  rows : List Row
  parseValue : RecordType → Bytes → Option ρ

def fqdn (labels : List Bytes) : Bytes := if labels = [] then [46] else labels.flatMap (· ++ [46])

variable {ρ : Type} (b : Backend ρ) (labels : List Bytes) (qtype : RecordType)

def Backend.query (name : Bytes) : List (DNSRecord ρ) :=
  b.rows.filterMap fun row =>
    if row.fqdn = name ∧ row.recordType = qtype ∧ row.isActive = true then
      (b.parseValue row.recordType row.value).map fun parsed => ⟨row.recordType, row.ttl, parsed⟩
    else none

/-- The labels after the third are dropped. -/
def getWildcardName : List Bytes → Option Bytes
  | _ :: l1 :: l2 :: _ => some (fqdn [ascii "*", l1, l2])
  | _ => none

def buildRR (qname : Bytes) (record : DNSRecord ρ) : RR ρ :=
  ⟨qname, record.recordType, (record.ttl % 2 ^ 32).toNat, record.parsedValue⟩

def answer (records : List (DNSRecord ρ)) : Reply ρ := .success (records.map (buildRR (fqdn labels)))

def serveDNS : Reply ρ :=
  let records := b.query qtype (fqdn labels)
  let records :=
    if records.length = 0 then
      match getWildcardName labels with
      | some wildcardName => b.query qtype wildcardName
      | none => records
    else records
  if records.length = 0 then .nameError else answer labels records

/-- The name has no records at all. -/
def Backend.absent (name : Bytes) : Bool :=
  [.a, .aaaa, .cname, .txt, .ns, .soa].all fun t => (b.query t name).isEmpty

/-- What a name that has records answers: those of the type, its CNAME if it has only that, or nothing. -/
def Backend.own (name : Bytes) : List (DNSRecord ρ) :=
  if b.query qtype name ≠ [] then b.query qtype name
  else if [.a, .aaaa, .txt, .ns, .soa].all fun t => (b.query t name).isEmpty then b.query .cname name
  else []

/-- The enclosing wildcards, the closest one first. -/
def wildcards : List Bytes := labels.tails.tail.map fun rest => fqdn (ascii "*" :: rest)

def closest : Option Bytes := (wildcards labels).find? fun name => !b.absent name

/-- The rules of the lookup. -/
def resolve : Reply ρ :=
  if b.absent (fqdn labels) then
    match closest b labels with
    | some name => answer labels (b.own qtype name)
    | none => .nameError
  else answer labels (b.own qtype (fqdn labels))

/-- The name has records of the type, or none at all and its closest wildcard is the one that is asked for and has
records of the type, or there is no wildcard either. -/
inductive Plain : Prop
  | own (h : b.query qtype (fqdn labels) ≠ [])
  | wildcard (habsent : b.absent (fqdn labels) = true) (name : Bytes) (hclosest : closest b labels = some name)
      (hname : getWildcardName labels = some name) (h : b.query qtype name ≠ [])
  | nothing (habsent : b.absent (fqdn labels) = true) (hclosest : closest b labels = none)
      (h : ∀ name, getWildcardName labels = some name → b.query qtype name = [])

variable {b labels qtype} {name : Bytes}

lemma query_of_absent (h : b.absent name) (t : RecordType) : b.query t name = [] := by
  rw [Backend.absent, List.all_eq_true] at h
  exact List.isEmpty_iff.1 (h t (by cases t <;> decide))

lemma own_of_query (h : b.query qtype name ≠ []) : b.own qtype name = b.query qtype name := if_pos h

lemma serveDNS_of_wildcard (h : b.query qtype (fqdn labels) = []) (hname : getWildcardName labels = some name) :
    serveDNS b labels qtype =
      if (b.query qtype name).length = 0 then .nameError else answer labels (b.query qtype name) := by
  rw [serveDNS, h, hname]
  rfl

def zone (name : List String) (t : RecordType) : Backend Bytes :=
  ⟨[⟨fqdn (name.map ascii), t, ascii "10.0.0.1", 300, true⟩], fun _ value => some value⟩

def app : List Bytes := [ascii "app", ascii "orama", ascii "network"]

end Orama.Dns
