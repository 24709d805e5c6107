import Orama.Lib.Base64
import Orama.Lib.Json

namespace Orama.PubSub.Envelope
open Lib

structure RawEnvelope where
  type : Option Bytes
  memberID : Option Bytes
  timestamp : Option Int
  extra : Option Bytes
  data : Option Bytes
  topic : Option Bytes

def writeMessage (topic data : Bytes) (now : Int) : RawEnvelope :=
  ⟨none, none, some now, none, some (Base64.encode data), some (Json.roundTrip topic)⟩

def escape : Bytes → Bytes
  | 0xe2 :: 0x80 :: 0xa8 :: s => ascii "\\u2028" ++ escape s
  | 0xe2 :: 0x80 :: 0xa9 :: s => ascii "\\u2029" ++ escape s
  | c :: s =>
    (if c = 34 ∨ c = 92 then [92, c]
    else if c = 8 then ascii "\\b" else if c = 9 then ascii "\\t" else if c = 10 then ascii "\\n"
    else if c = 12 then ascii "\\f" else if c = 13 then ascii "\\r"
    else if c < 32 ∨ c = 38 ∨ c = 60 ∨ c = 62 then ascii "\\u00" ++ bytesToHex [c]
    else [c]) ++ escape s
  | [] => []

inductive PresenceKind
  | join
  | leave
deriving DecidableEq

def PresenceKind.text : PresenceKind → Bytes
  | .join => ascii "presence.join"
  | .leave => ascii "presence.leave"

structure Presence where
  kind : PresenceKind
  memberID : Bytes
  extra : Option Bytes
  timestamp : Int

def Presence.marshal (e : Presence) : Bytes :=
  ascii "\x7b\"member_id\":\"" ++ escape (Json.roundTrip e.memberID) ++ ascii "\"" ++
    (e.extra.elim [] fun extra => ascii ",\"meta\":" ++ extra) ++ ascii ",\"timestamp\":" ++ decimalInt e.timestamp ++
    ascii ",\"type\":\"" ++ e.kind.text ++ ascii "\"\x7d"

def broadcastPresenceEvent (topic : Bytes) (e : Presence) (now : Int) : RawEnvelope := writeMessage topic e.marshal now

inductive Callback
  | message (topic text : Bytes) (timestamp : Int)
  | presence (kind : PresenceKind) (memberID : Bytes) (joinedAt : Option Int) (extra : Option Bytes)
  | error (text : Bytes)
deriving DecidableEq

structure Options where
  buffer : Bool
  onJoin : Bool
  onLeave : Bool

def base64Decode (buffer : Bool) (b64 : Bytes) : Option Bytes :=
  (Base64.decode b64).map fun bytes => if buffer then bytes else
    if [0xef, 0xbb, 0xbf].isPrefixOf bytes then bytes.drop 3 else bytes

def present (field : Option Bytes) : Option Bytes := field.filter fun s => s ≠ []

def onPresence (kind : PresenceKind) (handled : Bool) (e : RawEnvelope) : List Callback :=
  match present e.memberID with
  | none => []
  | some memberID => if handled then [.presence kind memberID e.timestamp e.extra] else []

def wsMessageHandler (o : Options) (e : RawEnvelope) : List Callback :=
  if e.type = some PresenceKind.join.text then onPresence .join o.onJoin e
  else if e.type = some PresenceKind.leave.text then onPresence .leave o.onLeave e
  else
    match present e.data, present e.topic, e.timestamp with
    | none, _, _ => [.error (ascii "Invalid envelope: missing or invalid data field")]
    | _, none, _ => [.error (ascii "Invalid envelope: missing or invalid topic field")]
    | _, _, none => [.error (ascii "Invalid envelope: missing or invalid timestamp field")]
    | some data, some topic, some timestamp =>
      match base64Decode o.buffer data with
      | some text => [.message topic text timestamp]
      | none => [.error (ascii "Invalid character")]

variable {data : Bytes}
open Base64

lemma encode_ne_nil (h : data ≠ []) : encode data ≠ [] := by
  intro hnil
  have hdecode := decode_encode data
  rw [hnil] at hdecode
  have hempty : decode [] = some [] := by decide
  rw [hempty] at hdecode
  exact h (Option.some.inj hdecode).symm

def Kept (o : Options) (data : Bytes) : Prop := o.buffer = true ∨ ¬ [0xef, 0xbb, 0xbf] <+: data

lemma base64Decode_encode {o : Options} (h : Kept o data) : base64Decode o.buffer (encode data) = some data := by
  rw [base64Decode, decode_encode, Option.map_some]
  obtain h | h := h
  · rw [h, if_pos rfl]
  · have hmark : ([0xef, 0xbb, 0xbf] : Bytes).isPrefixOf data = false := by
      rw [Bool.eq_false_iff, Ne, List.isPrefixOf_iff_prefix]
      exact h
    simp [hmark]

end Orama.PubSub.Envelope
