import Orama.Vault.Handlers

namespace Orama.Vault.Router
open Lib Server

/-- A request as it is read, with the fields that the handlers do not use. -/
structure Parsed extends Request where
  contentLength : Nat
  authorization : Option Bytes

def crlf : Bytes := [13, 10]

def indexOf (pattern : Bytes) : Bytes → Option Nat
  | [] => none
  | c :: s => if pattern.isPrefixOf (c :: s) then some 0 else (indexOf pattern s).map (· + 1)

/-- A slice whose bounds are out of order stops the program. -/
def slice (buf : Bytes) (start stop : Nat) : Option Bytes :=
  if start ≤ stop ∧ stop ≤ buf.length then some ((buf.take stop).drop start) else none

def splitLines : Bytes → List Bytes
  | [] => [[]]
  | c :: s =>
    if crlf.isPrefixOf (c :: s) then [] :: (splitLines s).modifyHead List.tail
    else (splitLines s).modifyHead (c :: ·)

def fromString (s : Bytes) : Method :=
  if s = ascii "GET" then .get else if s = ascii "POST" then .post else if s = ascii "PUT" then .put
  else if s = ascii "DELETE" then .delete else if s = ascii "OPTIONS" then .options else .unknown

def lower (c : UInt8) : UInt8 := if 65 ≤ c ∧ c ≤ 90 then c + 32 else c

def startsWithIgnoreCase (line name : Bytes) : Bool :=
  decide (name.length ≤ line.length) && decide ((line.take name.length).map lower = name.map lower)

def value (line name : Bytes) : Option Bytes := (slice line name.length line.length).map (·.dropWhile (· = 32))

def parseLength (text : Bytes) : Nat :=
  match parseInt text with
  | some n => if 0 ≤ n ∧ n < 2 ^ 64 then n.toNat else 0
  | none => 0

def readHeader (req : Parsed) (line : Bytes) : Option Parsed :=
  if startsWithIgnoreCase line (ascii "content-length:") then
    (value line (ascii "content-length:")).map fun text => { req with contentLength := parseLength text }
  else if startsWithIgnoreCase line (ascii "authorization:") then
    (value line (ascii "authorization:")).map fun text => { req with authorization := some text }
  else if startsWithIgnoreCase line (ascii "x-session-token:") then
    (value line (ascii "x-session-token:")).map fun text => { req with sessionToken := some text }
  else some req

/-- The outer option is none where a slice is out of order, and the inner one where null is returned. -/
def parseRequest (buf : Bytes) : Option (Option Parsed) :=
  match indexOf crlf buf with
  | none => some none
  | some requestLineEnd =>
    (slice buf 0 requestLineEnd).bind fun requestLine =>
    match requestLine.splitOn 32 with
    | method :: path :: _ =>
      match indexOf (crlf ++ crlf) buf with
      | none => some none
      | some headersEnd =>
        (slice buf (requestLineEnd + 2) headersEnd).bind fun headersSection =>
        ((splitLines headersSection).foldlM readHeader ⟨⟨fromString method, path, [], none⟩, 0, none⟩).bind fun req =>
        (if headersEnd + 4 < buf.length then slice buf (headersEnd + 4) buf.length else some []).map fun body =>
        some { req with body := body }
    | _ => some none

lemma slice_isSome {buf : Bytes} {start stop : Nat} (h : start ≤ stop) (hstop : stop ≤ buf.length) :
    (slice buf start stop).isSome := by
  rw [slice, if_pos ⟨h, hstop⟩]
  rfl

open Option
open List

lemma indexOf_add_le {pattern buf : Bytes} {i : Nat} (h : indexOf pattern buf = some i) :
    i + pattern.length ≤ buf.length := by
  induction buf generalizing i with
  | nil => cases h
  | cons c s ih =>
    rw [indexOf] at h
    split at h
    · next hprefix =>
      cases h
      simpa using (List.isPrefixOf_iff_prefix.1 hprefix).length_le
    · obtain ⟨k, hk, rfl⟩ := map_eq_some_iff.1 h
      have hle := ih hk
      simp only [length_cons]
      omega

/-- The headers end where the request line does or at least two bytes later: a line feed is no carriage return. -/
lemma indexOf_crlf {buf : Bytes} {i j : Nat} (hi : indexOf crlf buf = some i)
    (hj : indexOf (crlf ++ crlf) buf = some j) : j = i ∨ i + 2 ≤ j := by
  induction buf generalizing i j with
  | nil => cases hi
  | cons c s ih =>
    rw [indexOf] at hi hj
    split at hi
    · next hprefix =>
      cases hi
      split at hj
      · cases hj
        exact .inl rfl
      · obtain ⟨k, hk, rfl⟩ := map_eq_some_iff.1 hj
        obtain ⟨rest, hrest⟩ := List.isPrefixOf_iff_prefix.1 hprefix
        obtain ⟨rfl, rfl⟩ := cons.inj hrest
        -- the search goes on behind a line feed
        cases k with
        | zero => simp [indexOf, crlf] at hk
        | succ k => exact .inr (by omega)
    · next hprefix =>
      rw [if_neg] at hj
      · obtain ⟨i', hi', rfl⟩ := map_eq_some_iff.1 hi
        obtain ⟨j', hj', rfl⟩ := map_eq_some_iff.1 hj
        have hle := ih hi' hj'
        omega
      · intro hlong
        exact hprefix (List.isPrefixOf_iff_prefix.2
          ((prefix_append crlf crlf).trans (List.isPrefixOf_iff_prefix.1 hlong)))

lemma value_isSome {line name : Bytes} (h : startsWithIgnoreCase line name) : (value line name).isSome := by
  rw [startsWithIgnoreCase, Bool.and_eq_true, decide_eq_true_eq] at h
  rw [value, isSome_map]
  exact slice_isSome h.1 le_rfl

lemma readHeader_isSome (req : Parsed) (line : Bytes) : (readHeader req line).isSome := by
  rw [readHeader]
  split
  · next h => rw [isSome_map, value_isSome h]
  split
  · next h => rw [isSome_map, value_isSome h]
  split
  · next h => rw [isSome_map, value_isSome h]
  · rfl

lemma foldlM_readHeader (lines : List Bytes) (req : Parsed) : (lines.foldlM readHeader req).isSome := by
  induction lines generalizing req with
  | nil => rfl
  | cons line lines ih =>
    obtain ⟨req', h⟩ := isSome_iff_exists.1 (readHeader_isSome req line)
    rw [foldlM_cons, h]
    exact ih req'

end Orama.Vault.Router
