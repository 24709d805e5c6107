import Orama.Lib.Quad
import Orama.Vault.Handlers

namespace Orama.Vault.Framing
open Lib Base64 List

-- What the handlers write to the connection: the length of a body is announced before the body is sent.

def head : Bytes := ascii "HTTP/1.1 200 OK\r\nContent-Type: application/json\r\nContent-Length: "

def close : Bytes := ascii "\r\nConnection: close\r\n\r\n"

def write (bodyLen : Nat) (body : Bytes) : Bytes := head ++ (decimal bodyLen ++ (close ++ body))

def share : Bytes := ascii "\x7b\"share\":\""

def pull (shareData : Bytes) : Bytes :=
  write (11 + (encode shareData).length + 2) (share ++ encode shareData ++ ascii "\"\x7d")

/-- `none` is the response 500. -/
def writeGetResponse (shareData name : Bytes) (version : Nat) (createdNs updatedNs : Int) : Option Bytes :=
  let metaPart := ascii "\",\"name\":\"" ++ name ++ ascii "\",\"version\":" ++ decimal version ++
    ascii ",\"created_ns\":" ++ decimalInt createdNs ++ ascii ",\"updated_ns\":" ++ decimalInt updatedNs ++ ascii "\x7d"
  if metaPart.length > 512 then none
  else write (share.length + (encode shareData).length + metaPart.length) (share ++ encode shareData ++ metaPart)

def jsonOk (body : Bytes) : Bytes := write body.length body

/-- The announced length and the bytes after the blank line. -/
def receive (out : Bytes) : Option (Nat × Bytes) :=
  (scanDigits (out.drop head.length)).map fun (n, rest) => (n, rest.drop close.length)

lemma receive_write (n : Nat) (body : Bytes) : receive (write n body) = some (n, body) := by
  have hclose : ∀ c ∈ (close ++ body).head?, digitValue c = none := by
    intro c hc
    cases hc
    decide
  rw [receive, write, drop_left, scanDigits_decimal n hclose, Option.map_some]
  simp only [drop_left]

/-- A secret and a JSON body are announced with their length, a pulled share with one byte more. -/
theorem content_length (shareData name body : Bytes) (version : Nat) (createdNs updatedNs : Int) :
    (∀ out ∈ writeGetResponse shareData name version createdNs updatedNs,
      let sent := (Server.writeGetResponse shareData name version createdNs updatedNs).body
      receive out = some (sent.length, sent)) ∧
    receive (jsonOk body) = some (body.length, body) ∧
    ∃ sent : Bytes, receive (pull shareData) = some (sent.length + 1, sent) := by
  refine ⟨?_, receive_write _ _, share ++ encode shareData ++ ascii "\"\x7d", ?_⟩
  · intro out hout
    simp only [writeGetResponse] at hout
    split at hout
    · cases hout
    next hfits =>
      cases hout
      simp only [receive_write, Server.writeGetResponse, if_neg hfits, Server.jsonOk, share]
      simp only [length_append]
  · have hshare : share.length = 10 := by decide
    have hclose : (ascii "\"\x7d").length = 2 := by decide
    rw [pull, receive_write, length_append, length_append, hshare, hclose]
    congr 2
    omega

/-- The length that is announced is one more than what is written. -/
theorem pull_announces_more : ¬ ∃ sent : Bytes, receive (pull [1]) = some (sent.length, sent) := by
  rw [pull, receive_write]
  rintro ⟨sent, h⟩
  obtain ⟨hlen, rfl⟩ := Prod.mk.inj (Option.some.inj h)
  revert hlen
  decide

end Orama.Vault.Framing
