import Mathlib.Algebra.Group.Nat.Defs
import Orama.Lib.FileTree

namespace Orama.Lib.Base64

def padChar : UInt8 := 61

def alphabet (n : Nat) : UInt8 :=
  UInt8.ofNat (if n < 26 then 65 + n else if n < 52 then 71 + n else if n < 62 then n - 4
    else if n = 62 then 43 else 47)

def index (c : UInt8) : Option Nat :=
  if 65 ≤ c ∧ c ≤ 90 then some (c.toNat - 65)
  else if 97 ≤ c ∧ c ≤ 122 then some (c.toNat - 71)
  else if 48 ≤ c ∧ c ≤ 57 then some (c.toNat + 4)
  else if c = 43 then some 62
  else if c = 47 then some 63
  else none

def encode : Bytes → Bytes
  | [] => []
  | [a] => [alphabet (a.toNat / 4), alphabet (a.toNat % 4 * 16), padChar, padChar]
  | [a, b] => [alphabet (a.toNat / 4), alphabet (a.toNat % 4 * 16 + b.toNat / 16),
      alphabet (b.toNat % 16 * 4), padChar]
  | a :: b :: c :: rest =>
    alphabet (a.toNat / 4) :: alphabet (a.toNat % 4 * 16 + b.toNat / 16) ::
      alphabet (b.toNat % 16 * 4 + c.toNat / 64) :: alphabet (c.toNat % 64) :: encode rest

def calcSizeForSlice (source : Bytes) : Option Nat :=
  if source.length % 4 ≠ 0 then none
  else
    some (source.length / 4 * 3 -
      (if source.getLast? = some padChar then 1 else 0) -
      (if source.dropLast.getLast? = some padChar then 1 else 0))

/-- The state of the decoder: a window of twelve bits, the number of its bits
that are not yet written, the bytes written and what is left from the first
padding character on. -/
structure Decoded where
  acc : Nat
  accLen : Nat
  bytes : Bytes
  leftover : Bytes

def decodeLoop (acc accLen : Nat) : Bytes → Option Decoded
  | [] => some ⟨acc, accLen, [], []⟩
  | c :: cs =>
    match index c with
    | none => if c = padChar then some ⟨acc, accLen, [], c :: cs⟩ else none
    | some d =>
      let acc' := acc * 64 % 4096 + d
      if accLen + 6 ≥ 8 then
        (decodeLoop acc' (accLen + 6 - 8) cs).map fun r =>
          { r with bytes := UInt8.ofNat (acc' / 2 ^ (accLen + 6 - 8)) :: r.bytes }
      else decodeLoop acc' (accLen + 6) cs

def decode (source : Bytes) : Option Bytes :=
  if source.length % 4 ≠ 0 then none
  else
    match decodeLoop 0 0 source with
    | none => none
    | some r =>
      if r.accLen > 4 ∨ r.acc % 2 ^ r.accLen ≠ 0 then none
      else if r.leftover = [] then some r.bytes
      else if r.leftover.all (· = padChar) ∧ r.leftover.length = r.accLen / 2 then some r.bytes
      else none

lemma index_alphabet : ∀ n < 64, index (alphabet n) = some n := by decide

lemma index_padChar : index padChar = none := by decide

lemma length_encode_mod (bytes : Bytes) : (encode bytes).length % 4 = 0 := by
  induction bytes using encode.induct with
  | case1 => rfl
  | case2 a => simp [encode]
  | case3 a b => simp [encode]
  | case4 a b c rest ih =>
    simp only [encode, List.length_cons]
    omega

variable {acc n : Nat} {cs : Bytes}

lemma decodeLoop_hold (hn : n < 64) :
    decodeLoop acc 0 (alphabet n :: cs) = decodeLoop (acc * 64 % 4096 + n) 6 cs := by
  rw [decodeLoop, index_alphabet n hn]
  rfl

variable {l : Nat}

lemma decodeLoop_emit (hn : n < 64) :
    decodeLoop acc (l + 2) (alphabet n :: cs) = (decodeLoop (acc * 64 % 4096 + n) l cs).map fun r =>
      { r with bytes := UInt8.ofNat ((acc * 64 % 4096 + n) / 2 ^ l) :: r.bytes } := by
  rw [decodeLoop, index_alphabet n hn]
  simp

lemma decodeLoop_pad : decodeLoop acc l (padChar :: cs) = some ⟨acc, l, [], padChar :: cs⟩ := by
  rw [decodeLoop, index_padChar]
  simp

lemma ofNat_eq {a : UInt8} (h : n % 256 = a.toNat) : UInt8.ofNat n = a := by
  apply UInt8.toNat_inj.mp
  rw [UInt8.toNat_ofNat']
  exact h

def Decoded.Ends (r : Decoded) : Prop :=
  r.accLen ≤ 4 ∧ r.acc % 2 ^ r.accLen = 0 ∧
    (r.leftover = [] ∨ r.leftover.all (· = padChar) ∧ r.leftover.length = r.accLen / 2)

lemma decodeLoop_encode (bytes : Bytes) (acc : Nat) :
    ∃ r, decodeLoop acc 0 (encode bytes) = some r ∧ r.bytes = bytes ∧ r.Ends := by
  induction bytes using encode.induct generalizing acc with
  | case1 => exact ⟨⟨acc, 0, [], []⟩, rfl, rfl, Nat.zero_le 4, Nat.mod_one acc, .inl rfl⟩
  | case2 a =>
    have ha := a.toNat_lt
    rw [encode, decodeLoop_hold (by omega), decodeLoop_emit (l := 4) (by omega), decodeLoop_pad]
    refine ⟨_, rfl, ?_, Nat.le_refl 4, ?_, .inr ⟨rfl, by simp⟩⟩
    · rw [ofNat_eq]
      omega
    · dsimp only
      omega
  | case3 a b =>
    have ha := a.toNat_lt
    have hb := b.toNat_lt
    rw [encode, decodeLoop_hold (by omega), decodeLoop_emit (l := 4) (by omega),
      decodeLoop_emit (l := 2) (by omega), decodeLoop_pad]
    refine ⟨_, rfl, ?_, Nat.le_add_right 2 2, ?_, .inr ⟨rfl, by simp⟩⟩
    · rw [ofNat_eq, ofNat_eq] <;> omega
    · dsimp only
      omega
  | case4 a b c rest ih =>
    have ha := a.toNat_lt
    have hb := b.toNat_lt
    have hc := c.toNat_lt
    rw [encode, decodeLoop_hold (by omega), decodeLoop_emit (l := 4) (by omega),
      decodeLoop_emit (l := 2) (by omega), decodeLoop_emit (l := 0) (by omega)]
    obtain ⟨r, hr, hbytes, hends⟩ := ih ((((acc * 64 % 4096 + a.toNat / 4) * 64 % 4096 +
      (a.toNat % 4 * 16 + b.toNat / 16)) * 64 % 4096 + (b.toNat % 16 * 4 + c.toNat / 64)) * 64 % 4096 + c.toNat % 64)
    rw [hr]
    refine ⟨_, rfl, ?_, hends⟩
    dsimp only
    rw [hbytes, ofNat_eq, ofNat_eq, ofNat_eq] <;> omega

lemma decode_encode (bytes : Bytes) : decode (encode bytes) = some bytes := by
  obtain ⟨r, hr, hbytes, hlen, hacc, hleft⟩ := decodeLoop_encode bytes 0
  rw [decode, if_neg (not_not.mpr (length_encode_mod bytes)), hr]
  dsimp only
  rw [if_neg (not_or.mpr ⟨Nat.not_lt.mpr hlen, not_not.mpr hacc⟩)]
  rcases hleft with h | h
  · rw [if_pos h, hbytes]
  · split
    · rw [hbytes]
    · rw [hbytes]

lemma mem_encode {bytes : Bytes} {c : UInt8} (h : c ∈ encode bytes) : (∃ n < 64, c = alphabet n) ∨ c = padChar := by
  induction bytes using encode.induct with
  | case1 => cases h
  | case2 a =>
    have ha := a.toNat_lt
    simp only [encode, List.mem_cons, List.not_mem_nil, or_false] at h
    rcases h with h | h | h | h
    · exact .inl ⟨_, by omega, h⟩
    · exact .inl ⟨_, by omega, h⟩
    · exact .inr h
    · exact .inr h
  | case3 a b =>
    have ha := a.toNat_lt
    have hb := b.toNat_lt
    simp only [encode, List.mem_cons, List.not_mem_nil, or_false] at h
    rcases h with h | h | h | h
    · exact .inl ⟨_, by omega, h⟩
    · exact .inl ⟨_, by omega, h⟩
    · exact .inl ⟨_, by omega, h⟩
    · exact .inr h
  | case4 a b c rest ih =>
    have ha := a.toNat_lt
    have hb := b.toNat_lt
    have hc := c.toNat_lt
    simp only [encode, List.mem_cons] at h
    rcases h with h | h | h | h | h
    · exact .inl ⟨_, by omega, h⟩
    · exact .inl ⟨_, by omega, h⟩
    · exact .inl ⟨_, by omega, h⟩
    · exact .inl ⟨_, by omega, h⟩
    · exact ih h

lemma alphabet_ne_quote : ∀ n < 64, alphabet n ≠ 34 := by decide

lemma quote_notMem_encode (bytes : Bytes) : 34 ∉ encode bytes := by
  intro h
  rcases mem_encode h with ⟨n, hn, heq⟩ | heq
  · exact alphabet_ne_quote n hn heq.symm
  · exact absurd heq (by decide)

end Orama.Lib.Base64
