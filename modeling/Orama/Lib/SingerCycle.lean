import Mathlib.Algebra.Field.Basic
import Mathlib.Data.Fintype.Card
import Mathlib.Dynamics.PeriodicPts.Defs

namespace Orama.Lib

/-- An additive endomorphism whose powers carry one fixed element to every
nonzero element. It is multiplication by a generator of a finite field. -/
structure SingerCycle (V : Type) [AddCommGroup V] where
  gen : V →+ V
  one : V
  one_ne_zero : one ≠ 0
  order : Nat
  order_pos : 0 < order
  iterate_order : gen^[order] one = one
  transitive : ∀ a, a ≠ 0 → ∃ i ≤ order, gen^[i] one = a

open Finset
open Function Fintype Nat
namespace SingerCycle

lemma transitive_of_minimalPeriod {V : Type} [AddCommGroup V] [Fintype V] [DecidableEq V]
    (gen : V →+ V) (one : V) (hone : one ≠ 0) (hper : minimalPeriod gen one = card V - 1) (a : V) (ha : a ≠ 0) :
    ∃ i ≤ card V - 1, gen^[i] one = a := by
  have hne : ∀ i ≤ card V - 1, gen^[i] one ≠ 0 := by
    intro i hi h0
    have h := iterate_add_apply gen (card V - 1 - i) i one
    rw [Nat.sub_add_cancel hi, h0, iterate_map_zero, ← hper, iterate_minimalPeriod] at h
    exact hone h
  let orbit := (range (card V - 1)).image (fun i => gen^[i] one)
  have hcard : orbit.card = card V - 1 := by
    rw [Finset.card_image_of_injOn, card_range]
    intro i hi j hj h
    rw [coe_range, ← hper] at hi hj
    exact iterate_injOn_Iio_minimalPeriod hi hj h
  have hsub : orbit ⊆ univ.erase 0 := by grind
  have heq : orbit = univ.erase 0 := by grind [eq_of_subset_of_card_le]
  have hmem : a ∈ orbit := heq ▸ mem_erase.mpr ⟨ha, mem_univ a⟩
  obtain ⟨i, hi, h⟩ := mem_image.mp hmem
  exact ⟨i, (mem_range.mp hi).le, h⟩

variable {V : Type} [AddCommGroup V] (S : SingerCycle V)

def power (n : Nat) : V := S.gen^[n] S.one

lemma iterate_zero_eq (n : Nat) : S.gen^[n] 0 = 0 := iterate_map_zero S.gen n

lemma iterate_add_eq (n : Nat) (a b : V) :
    S.gen^[n] (a + b) = S.gen^[n] a + S.gen^[n] b := iterate_map_add S.gen n a b

lemma iterate_power (m n : Nat) : S.gen^[m] (S.power n) = S.power (m + n) := by simp only [power, iterate_add_apply]

lemma power_order_mul (n : Nat) : S.power (S.order * n) = S.one := by
  induction n with
  | zero => rfl
  | succ n ih =>
    have h := S.iterate_power (S.order * n) S.order
    rw [power, S.iterate_order] at h
    rw [mul_succ, ← h]
    exact ih

lemma power_ne_zero (n : Nat) : S.power n ≠ 0 := by
  intro h
  have hle : n ≤ S.order * n := Nat.le_mul_of_pos_left n S.order_pos
  have hp := S.iterate_power (S.order * n - n) n
  rw [h, iterate_zero_eq, Nat.sub_add_cancel hle, power_order_mul] at hp
  exact S.one_ne_zero hp.symm

lemma iterate_eq_of_power_eq {m n : Nat} (h : S.power m = S.power n) (v : V) : S.gen^[m] v = S.gen^[n] v := by
  by_cases hv : v = 0
  · subst hv
    rw [iterate_zero_eq, iterate_zero_eq]
  · obtain ⟨i, _, rfl⟩ := S.transitive v hv
    change S.gen^[m] (S.power i) = S.gen^[n] (S.power i)
    rw [iterate_power, iterate_power, Nat.add_comm m, Nat.add_comm n, ← iterate_power, ← iterate_power, h]

variable [DecidableEq V]

def log (a : V) : Nat :=
  if h : a = 0 then 0 else Nat.find (S.transitive a h)

lemma log_le (a : V) : S.log a ≤ S.order := by grind [log]

lemma power_log {a : V} (ha : a ≠ 0) : S.power (S.log a) = a := by
  unfold log
  rw [dif_neg ha]
  exact (Nat.find_spec (S.transitive a ha)).2

def mul (a b : V) : V := if a = 0 then 0 else S.gen^[S.log a] b
def inv (a : V) : V := if a = 0 then 0 else S.power (S.order - S.log a)

lemma power_mul (n : Nat) (b : V) : S.mul (S.power n) b = S.gen^[n] b := by
  grind [power_ne_zero, iterate_eq_of_power_eq, power_log, mul]

lemma zero_mul (b : V) : S.mul 0 b = 0 := by simp [mul]

lemma mul_zero (a : V) : S.mul a 0 = 0 := by
  unfold mul
  split
  · rfl
  · exact S.iterate_zero_eq _

lemma mul_comm (a b : V) : S.mul a b = S.mul b a := by
  by_cases ha : a = 0
  · rw [ha, zero_mul, mul_zero]
  by_cases hb : b = 0
  · rw [hb, zero_mul, mul_zero]
  rw [← S.power_log ha, ← S.power_log hb, power_mul, power_mul, iterate_power, iterate_power, Nat.add_comm]

lemma mul_assoc (a b c : V) : S.mul (S.mul a b) c = S.mul a (S.mul b c) := by
  by_cases ha : a = 0
  · rw [ha, zero_mul, zero_mul, zero_mul]
  by_cases hb : b = 0
  · rw [hb, mul_zero, zero_mul, mul_zero]
  rw [← S.power_log ha, ← S.power_log hb, power_mul, iterate_power, power_mul, power_mul, power_mul, iterate_add_apply]

lemma left_distrib (a b c : V) : S.mul a (b + c) = S.mul a b + S.mul a c := by
  unfold mul
  split
  · simp
  · exact S.iterate_add_eq _ b c

lemma one_mul (a : V) : S.mul S.one a = a := S.power_mul 0 a

lemma mul_inv_cancel {a : V} (ha : a ≠ 0) : S.mul a (S.inv a) = S.one := by
  rw [inv, if_neg ha]
  conv_lhs => rw [← S.power_log ha]
  rw [power_mul, iterate_power, S.power_log ha, Nat.add_sub_cancel' (S.log_le a)]
  exact S.iterate_order

/-- The field whose addition is the given one and whose nonzero elements are
the powers of the generator. -/
@[reducible] def field : Field V where
  mul := S.mul
  one := S.one
  inv := S.inv
  mul_assoc := S.mul_assoc
  mul_comm := S.mul_comm
  one_mul := S.one_mul
  mul_one a := by
    change S.mul a S.one = a
    rw [mul_comm, one_mul]
  zero_mul := S.zero_mul
  mul_zero := S.mul_zero
  left_distrib := S.left_distrib
  right_distrib a b c := by
    change S.mul (a + b) c = S.mul a c + S.mul b c
    rw [mul_comm, left_distrib, S.mul_comm c a, S.mul_comm c b]
  exists_pair_ne := ⟨S.one, 0, S.one_ne_zero⟩
  mul_inv_cancel a ha := S.mul_inv_cancel ha
  inv_zero := by
    change S.inv 0 = 0
    simp [inv]
  nnqsmul := _
  nnqsmul_def _ _ := rfl
  qsmul := _
  qsmul_def _ _ := rfl

end SingerCycle
end Orama.Lib
