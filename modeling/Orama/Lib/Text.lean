import Mathlib.Data.Nat.Digits.Lemmas
import Orama.Lib.FileTree

namespace Orama.Lib
open List

def ascii (s : String) : Bytes := s.toUTF8.data.toList
def digit (d : Nat) : UInt8 := UInt8.ofNat (48 + d)

def decimal (n : Nat) : Bytes := if n = 0 then [digit 0] else ((Nat.digits 10 n).map digit).reverse

def decimalInt (n : Int) : Bytes := if n < 0 then 45 :: decimal n.natAbs else decimal n.natAbs

def digitValue (c : UInt8) : Option Nat := if 48 ≤ c ∧ c ≤ 57 then some (c.toNat - 48) else none

def accumulate (cs : Bytes) : Option Nat :=
  cs.foldlM (fun acc c => (digitValue c).map fun d => 10 * acc + d) 0

def parseDigits (cs : Bytes) : Option Nat :=
  if cs = [] ∨ cs.head? = some 95 ∨ cs.getLast? = some 95 then none
  else accumulate (cs.filter fun c => c ≠ 95)

def parseInt : Bytes → Option Int
  | [] => none
  | c :: cs =>
    if c = 43 then (parseDigits cs).map Int.ofNat
    else if c = 45 then (parseDigits cs).map fun n => -Int.ofNat n
    else (parseDigits (c :: cs)).map Int.ofNat

def hexValue (c : UInt8) : Option Nat :=
  if 48 ≤ c ∧ c ≤ 57 then some (c.toNat - 48)
  else if 97 ≤ c ∧ c ≤ 102 then some (c.toNat - 87)
  else if 65 ≤ c ∧ c ≤ 70 then some (c.toNat - 55)
  else none

def hexToBytes : Bytes → Option Bytes
  | [] => some []
  | [_] => none
  | hi :: lo :: rest => do
    let h ← hexValue hi
    let l ← hexValue lo
    let bytes ← hexToBytes rest
    some (UInt8.ofNat (16 * h + l) :: bytes)

def hexDigit (d : Nat) : UInt8 := UInt8.ofNat (if d < 10 then 48 + d else 87 + d)

def bytesToHex (bytes : Bytes) : Bytes :=
  bytes.flatMap fun b => [hexDigit (b.toNat / 16), hexDigit (b.toNat % 16)]

lemma digitValue_digit : ∀ d < 10, digitValue (digit d) = some d := by decide

open Nat

lemma accumulate_digits (ds : List Nat) (h : ∀ d ∈ ds, d < 10) :
    accumulate (ds.map digit).reverse = some (ofDigits 10 ds) := by
  induction ds with
  | nil => rfl
  | cons d ds ih =>
    rw [forall_mem_cons] at h
    rw [map_cons, reverse_cons, accumulate, foldlM_append]
    change (accumulate _ >>= _) = _
    rw [ih h.2]
    simp [digitValue_digit d h.1, ofDigits_cons, Nat.add_comm]

lemma accumulate_decimal (n : Nat) : accumulate (decimal n) = some n := by
  unfold decimal
  split
  · next h =>
    subst h
    rfl
  · rw [accumulate_digits _ fun d hd => digits_lt_base (by decide) hd, ofDigits_digits]

variable {n : Nat} {c : UInt8}

lemma isDigit_of_mem_decimal (h : c ∈ decimal n) : ∃ d < 10, c = digit d := by
  unfold decimal at h
  split at h
  · exact ⟨0, by decide, mem_singleton.mp h⟩
  · obtain ⟨d, hd, rfl⟩ := mem_map.mp (mem_reverse.mp h)
    exact ⟨d, digits_lt_base (by decide) hd, rfl⟩

lemma decimal_ne_nil (n : Nat) : decimal n ≠ [] := by
  unfold decimal
  split
  · simp
  · next h => simpa [digits_ne_nil_iff_ne_zero] using h

lemma digit_ne : ∀ d < 10, digit d ≠ 58 ∧ digit d ≠ 43 ∧ digit d ≠ 45 ∧ digit d ≠ 95 := by decide

lemma parseDigits_decimal (n : Nat) : parseDigits (decimal n) = some n := by
  have hne : ∀ c ∈ decimal n, c ≠ 95 := by grind [isDigit_of_mem_decimal, digit_ne]
  rw [parseDigits, if_neg, filter_eq_self.mpr (by simpa using hne), accumulate_decimal]
  rintro (h | h | h)
  · exact decimal_ne_nil n h
  · exact hne 95 (mem_of_head? h) rfl
  · exact hne 95 (mem_of_getLast? h) rfl

lemma parseInt_decimalInt (n : Int) : parseInt (decimalInt n) = some n := by
  unfold decimalInt
  split
  · grind [parseDigits_decimal, parseInt]
  · next h =>
    have hp := parseDigits_decimal n.natAbs
    cases hd : decimal n.natAbs with
    | nil => exact absurd hd (decimal_ne_nil _)
    | cons c cs =>
      obtain ⟨d, hlt, hc⟩ := isDigit_of_mem_decimal (hd ▸ mem_cons_self : c ∈ decimal n.natAbs)
      have hne := digit_ne d hlt
      rw [hd] at hp
      rw [parseInt, if_neg (hc ▸ hne.2.1), if_neg (hc ▸ hne.2.2.1), hp, Option.map_some]
      congr 1
      change ((n.natAbs : Nat) : Int) = n
      omega

lemma hexValue_hexDigit : ∀ d < 16, hexValue (hexDigit d) = some d := by decide

lemma hexDigit_ne_colon : ∀ d < 16, hexDigit d ≠ 58 := by decide

lemma hexToBytes_bytesToHex (bytes : Bytes) : hexToBytes (bytesToHex bytes) = some bytes := by
  induction bytes with
  | nil => rfl
  | cons b bytes ih =>
    have hb := b.toNat_lt
    have hval : 16 * (b.toNat / 16) + b.toNat % 16 = b.toNat := div_add_mod _ _
    change hexToBytes (hexDigit (b.toNat / 16) :: hexDigit (b.toNat % 16) :: bytesToHex bytes) = _
    rw [hexToBytes, hexValue_hexDigit _ (by omega), hexValue_hexDigit _ (by omega), ih]
    change some (UInt8.ofNat (16 * (b.toNat / 16) + b.toNat % 16) :: bytes) = _
    rw [hval, UInt8.ofNat_toNat]

lemma exists_hexDigit_of_mem {bytes : Bytes} (h : c ∈ bytesToHex bytes) : ∃ d < 16, c = hexDigit d := by
  obtain ⟨b, _, hc⟩ := mem_flatMap.mp h
  have hb := b.toNat_lt
  rcases mem_pair.mp hc with hc | hc
  · exact ⟨b.toNat / 16, by omega, hc⟩
  · exact ⟨b.toNat % 16, by omega, hc⟩

lemma colon_notMem_bytesToHex (bytes : Bytes) : 58 ∉ bytesToHex bytes := by
  grind [exists_hexDigit_of_mem, hexDigit_ne_colon]

lemma length_bytesToHex (bytes : Bytes) : (bytesToHex bytes).length = 2 * bytes.length := by
  simp [bytesToHex, Nat.mul_comm]

lemma colon_notMem_decimalInt (n : Int) : 58 ∉ decimalInt n := by
  grind [isDigit_of_mem_decimal, digit_ne, decimalInt]

variable {k : Nat}

lemma length_decimal_le (hk : 0 < k) (h : n < 10 ^ k) : (decimal n).length ≤ k := by
  unfold decimal
  split
  · exact hk
  · simpa using (digits_length_le_iff (by decide) n).mpr h

lemma length_decimalInt_le {n : Int} (hk : 0 < k) (h : n.natAbs < 10 ^ k) : (decimalInt n).length ≤ k + 1 := by
  have hl := length_decimal_le hk h
  unfold decimalInt
  split
  · simpa using hl
  · exact hl.trans (le_succ k)

end Orama.Lib
