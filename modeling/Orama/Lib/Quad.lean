import Orama.Lib.Strings

namespace Orama.Lib
open List

def scanSign (s : Bytes) : Bool × Bytes :=
  if s.head? = some 43 then (false, s.tail)
  else if s.head? = some 45 then (true, s.tail)
  else (false, s)

def scanDigits (s : Bytes) : Option (Nat × Bytes) :=
  let digits := s.takeWhile fun c => (digitValue c).isSome
  if digits = [] then none else (accumulate digits).map fun n => (n, s.drop digits.length)

def scanInt (s : Bytes) : Option (Int × Bytes) :=
  let (negative, rest) := scanSign (strip (whiteSpace.filter fun w => w ≠ [10]) s.length s)
  (scanDigits rest).map fun (n, rest) => (if negative then -(n : Int) else n, rest)

def scanDot (s : Bytes) : Option Bytes := if s.head? = some 46 then some s.tail else none

structure Quad where
  a : Int
  b : Int
  c : Int
  d : Int
deriving DecidableEq

def scanQuad (s : Bytes) : Option Quad := do
  let (a, s) ← scanInt s
  let (b, s) ← scanInt (← scanDot s)
  let (c, s) ← scanInt (← scanDot s)
  let (d, _) ← scanInt (← scanDot s)
  some ⟨a, b, c, d⟩

def Quad.text (q : Quad) : Bytes :=
  decimalInt q.a ++ 46 :: (decimalInt q.b ++ 46 :: (decimalInt q.c ++ 46 :: decimalInt q.d))

variable {c : UInt8}

lemma digitValue_of_mem_decimal {n : Nat} (h : c ∈ decimal n) : (digitValue c).isSome := by
  grind [isDigit_of_mem_decimal, digitValue_digit]

variable {t : Bytes}

lemma scanDigits_decimal (n : Nat) (ht : ∀ c ∈ t.head?, digitValue c = none) :
    scanDigits (decimal n ++ t) = some (n, t) := by
  have htake : (decimal n ++ t).takeWhile (fun c => (digitValue c).isSome) = decimal n := by
    rw [takeWhile_append_of_pos fun c hc => digitValue_of_mem_decimal hc]
    cases t with
    | nil => simp
    | cons c t => simp [ht c rfl]
  rw [scanDigits, htake, if_neg (decimal_ne_nil n), accumulate_decimal, Option.map_some, drop_left]

lemma exists_cons_decimal (n : Nat) : ∃ d < 10, ∃ cs, decimal n = digit d :: cs := by
  obtain ⟨c, cs, hc⟩ := exists_cons_of_ne_nil (decimal_ne_nil n)
  obtain ⟨d, hd, rfl⟩ := isDigit_of_mem_decimal (hc ▸ mem_cons_self : c ∈ decimal n)
  exact ⟨d, hd, cs, hc⟩

lemma strip_of_head {chars : List Bytes} (h : ∀ w ∈ chars, w.head? ≠ some c ∧ w ≠ []) (fuel : Nat) (s : Bytes) :
    strip chars fuel (c :: s) = c :: s := by
  apply strip_of_not_prefix
  intro w hw hp
  obtain ⟨hhead, hne⟩ := h w hw
  obtain ⟨b, v, rfl⟩ := exists_cons_of_ne_nil hne
  exact hhead (by rw [(cons_prefix_cons.1 hp).1]; rfl)

lemma head_ne_digit : ∀ d < 10, ∀ w ∈ whiteSpace.filter fun w => w ≠ [10], w.head? ≠ some (digit d) ∧ w ≠ [] := by
  decide

lemma scanInt_decimalInt (n : Int) (ht : ∀ c ∈ t.head?, digitValue c = none) :
    scanInt (decimalInt n ++ t) = some (n, t) := by
  by_cases hn : n < 0
  · have htext : decimalInt n ++ t = 45 :: (decimal n.natAbs ++ t) := by rw [decimalInt, if_pos hn, cons_append]
    have hminus : ∀ w ∈ whiteSpace.filter fun w => w ≠ [10], w.head? ≠ some 45 ∧ w ≠ [] := by decide
    have hsign : scanSign (45 :: (decimal n.natAbs ++ t)) = (true, decimal n.natAbs ++ t) := rfl
    rw [scanInt, htext, strip_of_head hminus, hsign]
    dsimp only
    rw [scanDigits_decimal _ ht, Option.map_some, if_pos rfl]
    congr 2
    omega
  · have htext : decimalInt n ++ t = decimal n.natAbs ++ t := by rw [decimalInt, if_neg hn]
    obtain ⟨d, hd, cs, hcs⟩ := exists_cons_decimal n.natAbs
    have hsign : scanSign (decimal n.natAbs ++ t) = (false, decimal n.natAbs ++ t) := by
      grind [digit_ne, scanSign]
    have hstrip (fuel : Nat) :
        strip (whiteSpace.filter fun w => w ≠ [10]) fuel (decimal n.natAbs ++ t) = decimal n.natAbs ++ t := by
      rw [hcs, cons_append, strip_of_head (head_ne_digit d hd)]
    rw [scanInt, htext, hstrip, hsign]
    dsimp only
    rw [scanDigits_decimal _ ht, Option.map_some, if_neg (by decide)]
    congr 2
    omega

lemma scanQuad_text (q : Quad) : scanQuad q.text = some q := by
  have hdot (n : Int) (t : Bytes) : scanInt (decimalInt n ++ 46 :: t) = some (n, 46 :: t) :=
    scanInt_decimalInt n (by simp; decide)
  have hlast : scanInt (decimalInt q.d) = some (q.d, []) := by simpa using scanInt_decimalInt q.d (t := []) (by simp)
  simp [scanQuad, Quad.text, hdot, scanDot, hlast]

end Orama.Lib
