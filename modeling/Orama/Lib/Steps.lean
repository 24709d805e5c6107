import Mathlib.Data.List.Basic

namespace Orama.Lib
variable {α σ ε : Type}

/-- How far a list of fallible steps came: the number of steps that took
place, the state they left and the error that stopped the next one. -/
structure Progress (σ ε : Type) where
  done : Nat
  state : σ
  error : Option ε

def advance (run : α → σ → Except ε σ) : List α → σ → Progress σ ε
  | [], s => ⟨0, s, none⟩
  | a :: as, s =>
    match run a s with
    | .error e => ⟨0, s, some e⟩
    | .ok s' => { advance run as s' with done := (advance run as s').done + 1 }

variable {run : α → σ → Except ε σ}
variable {a : α} {s : σ} {as : List α}

lemma advance_cons_ok {s' : σ} (h : run a s = .ok s') :
    advance run (a :: as) s = { advance run as s' with done := (advance run as s').done + 1 } := by
  rw [advance, h]

lemma advance_cons_error {e : ε} (h : run a s = .error e) : advance run (a :: as) s = ⟨0, s, some e⟩ := by
  rw [advance, h]

lemma done_advance_le (run : α → σ → Except ε σ) (as : List α) (s : σ) : (advance run as s).done ≤ as.length := by
  induction as generalizing s with
  | nil => exact Nat.le_refl 0
  | cons a as ih =>
    cases h : run a s with
    | error e => simp [advance_cons_error h]
    | ok s' =>
      rw [advance_cons_ok h]
      exact Nat.succ_le_succ (ih s')

lemma error_advance_eq_none : (advance run as s).error = none ↔ (advance run as s).done = as.length := by
  induction as generalizing s with
  | nil => simp [advance]
  | cons a as ih =>
    cases h : run a s with
    | error e => simp [advance_cons_error h]
    | ok s' =>
      rw [advance_cons_ok h]
      simpa using ih

lemma advance_rule (Q : Nat → σ → Prop) (h0 : Q 0 s)
    (hstep : ∀ i a s s', as[i]? = some a → Q i s → run a s = .ok s' → Q (i + 1) s') :
    Q (advance run as s).done (advance run as s).state := by
  induction as generalizing Q s with
  | nil => exact h0
  | cons a as ih =>
    cases h : run a s with
    | error e =>
      rw [advance_cons_error h]
      exact h0
    | ok s' =>
      rw [advance_cons_ok h]
      apply ih (fun i => Q (i + 1)) (hstep 0 a s s' rfl h0 h)
      intro i b u u' hb
      exact hstep (i + 1) b u u' (by simpa using hb)

def Matches (r : σ → σ → Prop) : Except ε σ → Except ε σ → Prop
  | .ok a, .ok b => r a b
  | .error e, .error e' => e = e'
  | _, _ => False

lemma advance_matches (run : α → σ → Except ε σ) (r : σ → σ → Prop) (as : List α) {u : σ} (hr : r s u)
    (hstep : ∀ a ∈ as, ∀ s u, r s u → Matches r (run a s) (run a u)) :
    (advance run as s).error = (advance run as u).error ∧ r (advance run as s).state (advance run as u).state := by
  induction as generalizing s u with
  | nil => exact ⟨rfl, hr⟩
  | cons a as ih =>
    have h := hstep a (by simp) s u hr
    cases hs : run a s with
    | error e =>
      cases hu : run a u with
      | error e' =>
        rw [hs, hu] at h
        rw [advance_cons_error hs, advance_cons_error hu]
        exact ⟨congrArg some h, hr⟩
      | ok u' =>
        rw [hs, hu] at h
        exact h.elim
    | ok s' =>
      cases hu : run a u with
      | error e =>
        rw [hs, hu] at h
        exact h.elim
      | ok u' =>
        rw [hs, hu] at h
        rw [advance_cons_ok hs, advance_cons_ok hu]
        exact ih h fun b hb => hstep b (List.mem_cons_of_mem _ hb)

lemma foldl_take_induction (f : σ → α → σ) (init : σ) (as : List α) (P : σ → Prop) (h0 : P init)
    (hstep : ∀ i : Fin as.length, P ((as.take i).foldl f init) →
      P (f ((as.take i).foldl f init) (as.get i))) : P (as.foldl f init) := by
  have hrun : ∀ k ≤ as.length, P ((as.take k).foldl f init) := by
    intro k
    induction k with
    | zero => exact fun _ => h0
    | succ k ih =>
      intro hk
      rw [List.take_succ_eq_append_getElem hk, List.foldl_append]
      exact hstep ⟨k, hk⟩ (ih (Nat.le_of_succ_le hk))
  simpa using hrun as.length (Nat.le_refl _)

end Orama.Lib
