import Mathlib.NumberTheory.Divisors
import Orama.Lib.SingerCycle

namespace Orama.Shamir
open Lib Nat

/-- One step of the table loops: multiply by the generator 3 and reduce by
the polynomial 0x11B. The machine word keeps the carry in bit 8. -/
def mulGenerator (x : UInt16) : UInt16 :=
  let x2 := x <<< 1
  let x3 := x2 ^^^ x
  if x3 &&& 0x100 ≠ 0 then x3 ^^^ 0x11B else x3

lemma land_carry_eq_zero_iff (z : UInt16) : z &&& 0x100 = 0 ↔ z.toBitVec.getLsbD 8 = false := by
  rw [← UInt16.toBitVec_inj, UInt16.toBitVec_and]
  change z.toBitVec &&& BitVec.twoPow 16 8 = 0#16 ↔ _
  rw [BitVec.and_twoPow]
  cases z.toBitVec.getLsbD 8 <;> decide

lemma mulGenerator_xor (x y : UInt16) : mulGenerator (x ^^^ y) = mulGenerator x ^^^ mulGenerator y := by
  have hs : (x ^^^ y) <<< 1 = x <<< 1 ^^^ y <<< 1 := UInt16.shiftLeft_xor
  have hx : (x ^^^ y) <<< 1 ^^^ (x ^^^ y) = (x <<< 1 ^^^ x) ^^^ (y <<< 1 ^^^ y) := by
    rw [hs]
    grind
  simp only [mulGenerator, hx, ne_eq, land_carry_eq_zero_iff]
  generalize x <<< 1 ^^^ x = a
  generalize y <<< 1 ^^^ y = b
  have hc : a ^^^ 0x11B ^^^ (b ^^^ 0x11B) = a ^^^ b ^^^ (0x11B ^^^ 0x11B) := by grind
  rw [UInt16.xor_self, UInt16.xor_zero] at hc
  rw [UInt16.toBitVec_xor, BitVec.getLsbD_xor]
  cases a.toBitVec.getLsbD 8 <;> cases b.toBitVec.getLsbD 8 <;>
    simp only [Bool.xor_false, Bool.xor_true, Bool.not_true, Bool.not_false,
      not_true_eq_false, not_false_eq_true, if_true, if_false, Bool.true_eq_false, hc]
  · exact UInt16.xor_assoc a b _
  · rw [UInt16.xor_assoc, UInt16.xor_assoc, UInt16.xor_comm b]

/-- A byte read as an element of the field with 256 elements. -/
@[ext] structure GF256 where
  byte : UInt8
deriving DecidableEq

namespace GF256

def equivFin : GF256 ≃ Fin 256 where
  toFun a := a.byte.toFin
  invFun i := ⟨UInt8.ofFin i⟩
  left_inv _ := rfl
  right_inv _ := rfl

instance : Fintype GF256 := Fintype.ofEquiv (Fin 256) equivFin.symm

lemma card_eq : Fintype.card GF256 = 256 := by rw [Fintype.card_congr equivFin, Fintype.card_fin]

instance : Add GF256 := ⟨fun a b => ⟨a.byte ^^^ b.byte⟩⟩

instance : Zero GF256 := ⟨⟨0⟩⟩

instance : Neg GF256 := ⟨fun a => a⟩

instance : AddCommGroup GF256 where
  add_assoc a b c := GF256.ext (UInt8.xor_assoc a.byte b.byte c.byte)
  zero_add _ := GF256.ext UInt8.zero_xor
  add_zero _ := GF256.ext UInt8.xor_zero
  add_comm a b := GF256.ext (UInt8.xor_comm a.byte b.byte)
  neg_add_cancel _ := GF256.ext UInt8.xor_self
  nsmul := nsmulRec
  zsmul := zsmulRec

lemma mk_add (a b : UInt8) : (⟨a⟩ + ⟨b⟩ : GF256) = ⟨a ^^^ b⟩ := rfl

lemma byte_add (a b : GF256) : (a + b).byte = a.byte ^^^ b.byte := rfl

lemma byte_zero : (0 : GF256).byte = 0 := rfl

lemma mk_eq_zero_iff (a : UInt8) : (⟨a⟩ : GF256) = 0 ↔ a = 0 :=
  GF256.mk.injEq a 0 ▸ Iff.rfl

lemma sub_eq_add (a b : GF256) : a - b = a + b := sub_eq_add_neg a b

def mulGen : GF256 →+ GF256 where
  toFun a := ⟨(mulGenerator a.byte.toUInt16).toUInt8⟩
  map_zero' := rfl
  map_add' a b := by
    apply GF256.ext
    rw [byte_add]
    simp only [UInt8.toUInt16_xor, mulGenerator_xor, UInt16.toUInt8_xor, byte_add]

lemma minimalPeriod_mulGen : Function.minimalPeriod mulGen ⟨1⟩ = 255 := by
  have h : Function.IsPeriodicPt mulGen 255 ⟨1⟩ := by
    unfold Function.IsPeriodicPt Function.IsFixedPt
    decide +kernel
  have hd : Function.minimalPeriod mulGen ⟨1⟩ ∈ divisors 255 :=
    mem_divisors.mpr ⟨h.minimalPeriod_dvd, by decide⟩
  have hc : ∀ m ∈ [85, 51, 15], mulGen^[m] ⟨1⟩ ≠ ⟨1⟩ := by decide +kernel
  have hn : ∀ m ∈ [85, 51, 15], ¬ Function.minimalPeriod mulGen ⟨1⟩ ∣ m := fun m hm hdvd =>
    hc m hm (Function.isPeriodicPt_iff_minimalPeriod_dvd.mpr hdvd)
  have hl : ∀ d ∈ divisors 255, d = 255 ∨ d ∣ 85 ∨ d ∣ 51 ∨ d ∣ 15 := by decide +kernel
  rcases hl _ hd with h255 | h85 | h51 | h15
  · exact h255
  · exact absurd h85 (hn 85 (by simp))
  · exact absurd h51 (hn 51 (by simp))
  · exact absurd h15 (hn 15 (by simp))

def cycle : SingerCycle GF256 where
  gen := mulGen
  one := ⟨1⟩
  one_ne_zero := by decide
  order := 255
  order_pos := by decide
  iterate_order := by
    rw [← minimalPeriod_mulGen]
    exact Function.iterate_minimalPeriod
  transitive a ha := by
    have h := SingerCycle.transitive_of_minimalPeriod mulGen ⟨1⟩ (by decide)
      (by rw [minimalPeriod_mulGen, card_eq]) a ha
    rwa [card_eq] at h

instance : Field GF256 := cycle.field

lemma mk_one : (⟨1⟩ : GF256) = 1 := rfl

lemma byte_one : (1 : GF256).byte = 1 := rfl

end GF256

def gpow (i : Nat) : UInt8 := (GF256.cycle.power i).byte

lemma gpow_ne_zero (i : Nat) : gpow i ≠ 0 := fun h =>
  GF256.cycle.power_ne_zero i ((GF256.mk_eq_zero_iff _).mpr h)

lemma gpow_add_order (i : Nat) : gpow (i + 255) = gpow i := by
  have h := GF256.cycle.iterate_power i 255
  have ho : GF256.cycle.power 255 = GF256.cycle.power 0 := GF256.cycle.iterate_order
  rw [ho, GF256.cycle.iterate_power] at h
  exact congrArg GF256.byte h.symm

lemma gpow_mod_order (i : Nat) : gpow (i % 255) = gpow i := by
  have h : ∀ q, gpow (i % 255 + 255 * q) = gpow (i % 255) := by
    intro q
    induction q with
    | zero => rfl
    | succ q ih => rw [mul_succ, ← add_assoc, gpow_add_order, ih]
  rw [← h (i / 255), mod_add_div]

lemma exists_gpow (a : UInt8) (ha : a ≠ 0) : ∃ i < 255, gpow i = a := by
  have hne : (⟨a⟩ : GF256) ≠ 0 := fun h => ha ((GF256.mk_eq_zero_iff a).mp h)
  obtain ⟨i, _, hi⟩ := GF256.cycle.transitive ⟨a⟩ hne
  refine ⟨i % 255, mod_lt i (by decide), ?_⟩
  rw [gpow_mod_order]
  exact congrArg GF256.byte hi

lemma toUInt16_mulGenerator (a : UInt8) : (mulGenerator a.toUInt16).toUInt8.toUInt16 = mulGenerator a.toUInt16 := by
  have h : ∀ n < 256, (mulGenerator (UInt8.ofNat n).toUInt16).toUInt8.toUInt16 =
      mulGenerator (UInt8.ofNat n).toUInt16 := by decide +kernel
  simpa using h a.toNat a.toNat_lt

lemma mulGenerator_gpow (i : Nat) : mulGenerator (gpow i).toUInt16 = (gpow (i + 1)).toUInt16 := by
  have h := GF256.cycle.iterate_power 1 i
  rw [add_comm i 1, gpow, gpow, ← h]
  exact (toUInt16_mulGenerator _).symm

lemma gpow_add (i j : Nat) : gpow (i + j) = ((⟨gpow i⟩ : GF256) * ⟨gpow j⟩).byte := by
  have h := GF256.cycle.power_mul i (GF256.cycle.power j)
  rw [GF256.cycle.iterate_power] at h
  exact (congrArg GF256.byte h).symm

variable {a b : UInt8} {i j : Nat}

lemma gpow_mul_eq (hi : gpow i = a) (hj : gpow j = b) : gpow (i + j) = ((⟨a⟩ : GF256) * ⟨b⟩).byte := by
  rw [gpow_add, hi, hj]

lemma gpow_div_eq (hi : gpow i = a) (hj : gpow j = b) (hle : j ≤ 255) :
    gpow (i + 255 - j) = ((⟨a⟩ : GF256) / ⟨b⟩).byte := by
  have hb : (⟨b⟩ : GF256) ≠ 0 := fun h => gpow_ne_zero j (hj.trans ((GF256.mk_eq_zero_iff b).mp h))
  have hs : i + 255 - j + j = i + 255 := by omega
  have hm := gpow_add (i + 255 - j) j
  rw [hs, gpow_add_order, hi, hj] at hm
  have he : (⟨a⟩ : GF256) = ⟨gpow (i + 255 - j)⟩ * ⟨b⟩ := GF256.ext hm
  rw [he, mul_div_cancel_right₀ _ hb]

end Orama.Shamir
