import Orama.Lib.Strings

namespace Orama.Lib.Net

def splitHostPort : Bytes → Option (Bytes × Bytes)
  | [] => none
  | c :: s =>
    if c = 91 then
      match cut 93 s with
      | (host, some (58 :: port)) =>
        if port.contains 58 || s.contains 91 || port.contains 93 then none else some (host, port)
      | _ => none
    else
      match cut 58 (c :: s) with
      | (host, some port) =>
        if port.contains 58 || s.contains 91 || (c :: s).contains 93 then none else some (host, port)
      | _ => none

def octet (s : Bytes) : Option UInt8 :=
  if s = [] || (1 < s.length && s.head? = some 48) then none
  else
    match accumulate s with
    | some n => if n ≤ 255 then some (UInt8.ofNat n) else none
    | none => none

def parseIPv4 (s : Bytes) : Option Bytes :=
  match s.splitOn 46 with
  | [a, b, c, d] => [a, b, c, d].mapM octet
  | _ => none

def isHex (c : UInt8) : Bool := (hexValue c).isSome

def group (digits : Bytes) : Bytes :=
  let n := digits.foldl (fun n c => 16 * n + (hexValue c).getD 0) 0
  [UInt8.ofNat (n / 256), UInt8.ofNat n]

def parseGroups : Nat → Bytes → Option Nat → Bytes → Option (Bytes × Option Nat × Bytes)
  | 0, ip, ellipsis, s => some (ip, ellipsis, s)
  | n + 1, ip, ellipsis, s =>
    let digits := s.takeWhile isHex
    let next := ip ++ group digits
    if digits = [] || 4 < digits.length then none
    else
      match s.drop digits.length with
      | [] => some (next, ellipsis, [])
      | c :: rest =>
        if c = 46 then
          -- An embedded address stands for the last two groups.
          if (ellipsis.isNone && ip.length ≠ 12) || 12 < ip.length then none
          else (parseIPv4 s).map fun v4 => (ip ++ v4, ellipsis, [])
        else if c ≠ 58 || rest = [] then none
        else if rest.head? = some 58 then
          if ellipsis.isSome then none
          else if rest.tail = [] then some (next, some next.length, [])
          else parseGroups n next (some next.length) rest.tail
        else parseGroups n next ellipsis rest

def expand (ip : Bytes) (ellipsis : Option Nat) : Option Bytes :=
  match ellipsis with
  | none => if ip.length = 16 then some ip else none
  | some i => if ip.length < 16 then some (ip.take i ++ List.replicate (16 - ip.length) 0 ++ ip.drop i) else none

def parseIPv6 (s : Bytes) : Option Bytes :=
  if s.contains 37 then none
  else if hasPrefix s [58, 58] then
    if s.length = 2 then some (List.replicate 16 0)
    else
      match parseGroups 8 [] (some 0) (s.drop 2) with
      | some (ip, ellipsis, []) => expand ip ellipsis
      | _ => none
  else
    match parseGroups 8 [] none s with
    | some (ip, ellipsis, []) => expand ip ellipsis
    | _ => none

def parseIP (s : Bytes) : Option Bytes :=
  match s.find? fun c => c = 46 || c = 58 || c = 37 with
  | some c =>
    if c = 46 then (parseIPv4 s).map fun v4 => List.replicate 10 0 ++ [255, 255] ++ v4
    else if c = 58 then parseIPv6 s
    else none
  | none => none

def less : Bytes → Bytes → Bool
  | [], [] => false
  | [], _ :: _ => true
  | _ :: _, [] => false
  | a :: s, b :: t => if a ≠ b then a < b else less s t

lemma less_irrefl (s : Bytes) : less s s = false := by
  induction s with
  | nil => rfl
  | cons a s ih => simp [less, ih]

lemma less_trans {s t u : Bytes} (hst : less s t) (htu : less t u) : less s u := by
  induction s generalizing t u with
  | nil =>
    cases t with
    | nil => cases hst
    | cons b t =>
      cases u with
      | nil => cases htu
      | cons c u => rfl
  | cons a s ih =>
    cases t with
    | nil => cases hst
    | cons b t =>
      cases u with
      | nil => cases htu
      | cons c u =>
        rw [less] at hst htu ⊢
        by_cases hab : a = b
        · subst hab
          by_cases hac : a = c
          · subst hac
            simp only [ne_eq, not_true_eq_false, if_false] at hst htu ⊢
            exact ih hst htu
          · simpa [hac] using htu
        · by_cases hbc : b = c
          · subst hbc
            simpa [hab] using hst
          · simp only [ne_eq, hab, hbc, not_false_eq_true, if_true, decide_eq_true_eq] at hst htu
            have hac : a < c := UInt8.lt_trans hst htu
            simp [hac, UInt8.ne_of_lt hac]

lemma less_total {s t : Bytes} (h : s ≠ t) : less s t ∨ less t s := by
  induction s generalizing t with
  | nil =>
    cases t with
    | nil => exact absurd rfl h
    | cons b t => exact .inl rfl
  | cons a s ih =>
    cases t with
    | nil => exact .inr rfl
    | cons b t =>
      rw [less, less]
      by_cases hab : a = b
      · subst hab
        simpa using ih fun hst => h (congrArg _ hst)
      · simpa [hab, Ne.symm hab] using UInt8.lt_or_lt_of_ne hab

end Orama.Lib.Net
