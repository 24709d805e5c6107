import Orama.Shamir.Loops

namespace Orama.Shamir

def tableMul (exp log : List UInt8) (a b : UInt8) : UInt8 :=
  if a = 0 ∨ b = 0 then 0
  else
    let logSum := (log.getD a.toNat 0).toNat + (log.getD b.toNat 0).toNat
    exp.getD logSum 0

def tableInv (exp log : List UInt8) (a : UInt8) : Option UInt8 :=
  if a = 0 then none else some (exp.getD (255 - (log.getD a.toNat 0).toNat) 0)

def tableDiv (exp log : List UInt8) (a b : UInt8) : Option UInt8 :=
  if b = 0 then none
  else if a = 0 then some 0
  else
    let logDiff := (log.getD a.toNat 0).toNat + 255 - (log.getD b.toNat 0).toNat
    some (exp.getD logDiff 0)

def ExpUpTo (exp : List UInt8) (n : Nat) : Prop := ∀ j < n, exp.getD j 0 = gpow j

def LogAt (log : List UInt8) (a : UInt8) : Prop := gpow (log.getD a.toNat 0).toNat = a

structure LogExp (exp log : List UInt8) : Prop where
  exp_eq : ExpUpTo exp 512
  log_eq : ∀ a, a ≠ 0 → LogAt log a

lemma getD_set_self (l : List UInt8) (i : Nat) (v : UInt8) (h : i < l.length) : (l.set i v).getD i 0 = v := by
  simp [List.getD_eq_getElem?_getD, h]

lemma getD_set_ne (l : List UInt8) (i j : Nat) (v : UInt8) (h : i ≠ j) : (l.set i v).getD j 0 = l.getD j 0 := by
  simp [List.getD_eq_getElem?_getD, h]

lemma expUpTo_set {exp : List UInt8} {n : Nat} (hn : n < exp.length) (h : ExpUpTo exp n) :
    ExpUpTo (exp.set n (gpow n)) (n + 1) := by
  intro j hj
  by_cases he : n = j
  · subst he
    exact getD_set_self exp n _ hn
  · rw [getD_set_ne exp n j _ he]
    exact h j (by omega)

lemma logAt_set_self {log : List UInt8} (hl : log.length = 256) {i : Nat} (hi : i < 256) :
    LogAt (log.set (gpow i).toNat (UInt8.ofNat i)) (gpow i) := by
  have hb : (gpow i).toNat < log.length := hl ▸ (gpow i).toNat_lt
  rw [LogAt, getD_set_self log _ _ hb, UInt8.toNat_ofNat', Nat.mod_eq_of_lt hi]

lemma logAt_set {log : List UInt8} (hl : log.length = 256) {i : Nat} (hi : i < 256) {a : UInt8}
    (h : LogAt log a) : LogAt (log.set (gpow i).toNat (UInt8.ofNat i)) a := by
  by_cases ha : gpow i = a
  · subst ha
    exact logAt_set_self hl hi
  · have hne : (gpow i).toNat ≠ a.toNat := fun he => ha (UInt8.toNat_inj.mp he)
    rw [LogAt, getD_set_ne log _ _ _ hne]
    exact h

namespace LogExp
variable {exp log : List UInt8}

lemma of_powers (hexp : ExpUpTo exp 512) (hlog : ∀ i < 255, LogAt log (gpow i)) : LogExp exp log where
  exp_eq := hexp
  log_eq a ha := by
    obtain ⟨i, hi, rfl⟩ := exists_gpow a ha
    exact hlog i hi

lemma tableMul_eq (h : LogExp exp log) (a b : UInt8) : tableMul exp log a b = ((⟨a⟩ : GF256) * ⟨b⟩).byte := by
  unfold tableMul
  split
  · next h0 =>
    rcases h0 with ha | hb
    · rw [(GF256.mk_eq_zero_iff a).mpr ha, zero_mul]
      rfl
    · rw [(GF256.mk_eq_zero_iff b).mpr hb, mul_zero]
      rfl
  · next h0 =>
    have ha := h.log_eq a (fun he => h0 (Or.inl he))
    have hb := h.log_eq b (fun he => h0 (Or.inr he))
    have hla := (log.getD a.toNat 0).toNat_lt
    have hlb := (log.getD b.toNat 0).toNat_lt
    rw [h.exp_eq _ (by omega), gpow_mul_eq ha hb]

lemma tableDiv_eq (h : LogExp exp log) (a b : UInt8) (hb : b ≠ 0) :
    tableDiv exp log a b = some ((⟨a⟩ : GF256) / ⟨b⟩).byte := by
  unfold tableDiv
  rw [if_neg hb]
  split
  · next ha =>
    rw [(GF256.mk_eq_zero_iff a).mpr ha, zero_div]
    rfl
  · next ha =>
    have hla := (log.getD a.toNat 0).toNat_lt
    have hlb := (log.getD b.toNat 0).toNat_lt
    dsimp only
    rw [h.exp_eq _ (by omega), gpow_div_eq (h.log_eq a ha) (h.log_eq b hb) (by omega)]

lemma implements {ε : Type} {div : UInt8 → UInt8 → Except ε UInt8} (h : LogExp exp log)
    (hdiv : ∀ a b, b ≠ 0 → div a b = .ok ((⟨a⟩ : GF256) / ⟨b⟩).byte) :
    Implements (fun a => id a.byte) (· ^^^ ·) (· ^^^ ·) (tableMul exp log) div where
  add_eq _ _ := rfl
  sub_eq a b := by
    rw [GF256.sub_eq_add]
    rfl
  mul_eq a b := h.tableMul_eq a.byte b.byte
  div_eq a b hb := hdiv a.byte b.byte fun h => hb ((GF256.mk_eq_zero_iff b.byte).mpr h)

end LogExp
end Orama.Shamir
