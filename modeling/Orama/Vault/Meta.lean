import Orama.Lib.Text

namespace Orama.Vault
open Lib

abbrev I128 := { n : Int // -2 ^ 127 ≤ n ∧ n < 2 ^ 127 }
def epoch : I128 := ⟨0, by decide⟩

structure SecretMeta where
  version : UInt64
  createdNs : I128
  updatedNs : I128
  size : UInt64
deriving DecidableEq

def renderMeta (m : SecretMeta) : Bytes :=
  ascii "\x7b\"version\":" ++ (decimal m.version.toNat ++ (ascii ",\"created_ns\":" ++ (decimalInt m.createdNs.val ++
    (ascii ",\"updated_ns\":" ++ (decimalInt m.updatedNs.val ++
    (ascii ",\"size\":" ++ (decimal m.size.toNat ++ ascii "\x7d")))))))

structure PutBody where
  share : Bytes
  version : UInt64
deriving DecidableEq

structure JsonParser where
  parsePut : Bytes → Option PutBody
  parseMeta : Bytes → Option SecretMeta
  parseMeta_render : ∀ m, parseMeta (renderMeta m) = some m

lemma length_decimal_u64 (n : UInt64) : (decimal n.toNat).length ≤ 20 :=
  length_decimal_le (by decide) (n.toNat_lt.trans (by decide))

lemma length_decimal_i128 (n : I128) : (decimalInt n.val).length ≤ 40 := by
  apply length_decimalInt_le (k := 39) (by decide)
  obtain ⟨n, h1, h2⟩ := n
  dsimp only
  norm_num at h1 h2 ⊢
  omega

lemma length_renderMeta (m : SecretMeta) : (renderMeta m).length ≤ 512 := by
  have h1 := length_decimal_u64 m.version
  have h2 := length_decimal_i128 m.createdNs
  have h3 := length_decimal_i128 m.updatedNs
  have h4 := length_decimal_u64 m.size
  have hv : (ascii "\x7b\"version\":").length = 11 := by decide
  have hc : (ascii ",\"created_ns\":").length = 14 := by decide
  have hu : (ascii ",\"updated_ns\":").length = 14 := by decide
  have hs : (ascii ",\"size\":").length = 8 := by decide
  have he : (ascii "\x7d").length = 1 := by decide
  simp only [renderMeta, List.length_append, hv, hc, hu, hs, he]
  omega

open Option
namespace JsonParser

def expect (lit text : Bytes) : Option Bytes :=
  if lit.isPrefixOf text then some (text.drop lit.length) else none

def isNumeric (c : UInt8) : Bool := c = 45 || (digitValue c).isSome

def number (text : Bytes) : Option (Int × Bytes) :=
  (parseInt (text.takeWhile isNumeric)).map fun n => (n, text.dropWhile isNumeric)

def toU64 (n : Int) : Option UInt64 :=
  if 0 ≤ n ∧ n < 2 ^ 64 then some (UInt64.ofNat n.toNat) else none

def toI128 (n : Int) : Option I128 :=
  if h : -2 ^ 127 ≤ n ∧ n < 2 ^ 127 then some ⟨n, h⟩ else none

def field {α : Type} (convert : Int → Option α) (lit text : Bytes) : Option (α × Bytes) :=
  (expect lit text).bind fun rest => (number rest).bind fun n => (convert n.1).map fun a => (a, n.2)

def strictMeta (text : Bytes) : Option SecretMeta :=
  (field toU64 (ascii "\x7b\"version\":") text).bind fun version =>
  (field toI128 (ascii ",\"created_ns\":") version.2).bind fun created =>
  (field toI128 (ascii ",\"updated_ns\":") created.2).bind fun updated =>
  (field toU64 (ascii ",\"size\":") updated.2).bind fun size =>
  if size.2 = ascii "\x7d" then some ⟨version.1, created.1, updated.1, size.1⟩ else none

def strictPut (text : Bytes) : Option PutBody :=
  (expect (ascii "\x7b\"share\":\"") text).bind fun rest =>
  (field toU64 (ascii "\",\"version\":") (rest.dropWhile fun c => c ≠ 34 ∧ c ≠ 92)).bind fun version =>
  if version.2 = ascii "\x7d" then some ⟨rest.takeWhile fun c => c ≠ 34 ∧ c ≠ 92, version.1⟩ else none

lemma expect_append (lit text : Bytes) : expect lit (lit ++ text) = some text := by simp [expect]

lemma isNumeric_digit : ∀ d < 10, isNumeric (digit d) := by decide

variable {n : Int}

lemma isNumeric_of_mem {c : UInt8} (h : c ∈ decimalInt n) : isNumeric c := by
  have hdigit : c ∈ decimal n.natAbs → isNumeric c := by grind [isDigit_of_mem_decimal, isNumeric_digit]
  unfold decimalInt at h
  split at h
  · rcases List.mem_cons.mp h with rfl | hc
    · rfl
    · exact hdigit hc
  · exact hdigit h

def EndsNumber (l : Bytes) : Prop := l.head?.all fun c => !isNumeric c

instance (l : Bytes) : Decidable (EndsNumber l) := inferInstanceAs (Decidable (_ = true))

variable {l : Bytes}

lemma number_append (hl : EndsNumber l) : number (decimalInt n ++ l) = some (n, l) := by
  have hn : ∀ a ∈ decimalInt n, isNumeric a := fun a => isNumeric_of_mem
  have htake : l.takeWhile isNumeric = [] ∧ l.dropWhile isNumeric = l := by
    cases l with
    | nil => exact ⟨rfl, rfl⟩
    | cons c l =>
      have hc : isNumeric c = false := by simpa [EndsNumber] using hl
      simp [hc]
  rw [number, List.takeWhile_append_of_pos hn, List.dropWhile_append_of_pos hn, htake.1, htake.2,
    List.append_nil, parseInt_decimalInt, map_some]

lemma number_append_nat {n : Nat} (hl : EndsNumber l) : number (decimal n ++ l) = some ((n : Int), l) := by
  have h := number_append (n := n) hl
  rwa [decimalInt, if_neg (by simp), Int.natAbs_natCast] at h

lemma EndsNumber.append (hl : EndsNumber l) (hne : l ≠ []) (rest : Bytes) : EndsNumber (l ++ rest) := by
  cases l with
  | nil => exact absurd rfl hne
  | cons c l => exact hl

lemma toU64_toNat (n : UInt64) : toU64 n.toNat = some n := by
  have hn : (n.toNat : Int) < 2 ^ 64 := by grind [UInt64.toNat_lt]
  rw [toU64, if_pos ⟨Int.natCast_nonneg _, hn⟩, Int.toNat_natCast, UInt64.ofNat_toNat]

lemma toI128_val (n : I128) : toI128 n.val = some n := dif_pos n.property

variable {lit rest : Bytes}

lemma field_u64 (n : UInt64) (hr : EndsNumber rest) :
    field toU64 lit (lit ++ (decimal n.toNat ++ rest)) = some (n, rest) := by
  rw [field, expect_append, bind_some, number_append_nat hr, bind_some, toU64_toNat, map_some]

lemma field_i128 (n : I128) (hr : EndsNumber rest) :
    field toI128 lit (lit ++ (decimalInt n.val ++ rest)) = some (n, rest) := by
  rw [field, expect_append, bind_some, number_append hr, bind_some, toI128_val, map_some]

lemma strictMeta_renderMeta (m : SecretMeta) : strictMeta (renderMeta m) = some m := by
  have hc : EndsNumber (ascii ",\"created_ns\":") ∧ ascii ",\"created_ns\":" ≠ [] := by decide
  have hu : EndsNumber (ascii ",\"updated_ns\":") ∧ ascii ",\"updated_ns\":" ≠ [] := by decide
  have hs : EndsNumber (ascii ",\"size\":") ∧ ascii ",\"size\":" ≠ [] := by decide
  have he : EndsNumber (ascii "\x7d") := by decide
  rw [strictMeta, renderMeta, field_u64 _ (hc.1.append hc.2 _), bind_some,
    field_i128 _ (hu.1.append hu.2 _), bind_some, field_i128 _ (hs.1.append hs.2 _),
    bind_some, field_u64 _ he, bind_some, if_pos rfl]

def strict : JsonParser where
  parsePut := strictPut
  parseMeta := strictMeta
  parseMeta_render := strictMeta_renderMeta

end JsonParser
end Orama.Vault
