import Mathlib.Logic.Function.Basic

namespace Orama.Lib
open List

structure Config (σ ι φ : Type) where
  shared : σ
  phase : ι → φ

structure Interleaving (σ ι φ ε : Type) where
  process : ε → ι
  act : ε → σ → φ → σ × φ

lemma exists_cut_concat {ε : Type} {events : List ε} {e : ε} {Q : List ε → ε → Prop} :
    (∃ before d after, events ++ [e] = before ++ d :: after ∧ Q before d) ↔
    (∃ before d after, events = before ++ d :: after ∧ Q before d) ∨ Q events e := by
  constructor
  · rintro ⟨before, d, after, heq, hQ⟩
    rcases eq_nil_or_concat after with rfl | ⟨after, x, rfl⟩
    · obtain ⟨rfl, hd⟩ := append_inj' heq rfl
      cases hd
      exact .inr hQ
    · have hsplit : events ++ [e] = (before ++ d :: after) ++ [x] := by
        rw [heq, concat_eq_append, append_assoc, cons_append]
      exact .inl ⟨before, d, after, (append_inj' hsplit rfl).1, hQ⟩
  · rintro (⟨before, d, after, rfl, hQ⟩ | hQ)
    · exact ⟨before, d, after ++ [e], by simp, hQ⟩
    · exact ⟨events, e, [], rfl, hQ⟩

namespace Interleaving
variable {σ ι φ ε : Type} [DecidableEq ι] (sys : Interleaving σ ι φ ε)

def step (c : Config σ ι φ) (e : ε) : Config σ ι φ :=
  let next := sys.act e c.shared (c.phase (sys.process e))
  ⟨next.1, Function.update c.phase (sys.process e) next.2⟩

def run (c : Config σ ι φ) (events : List ε) : Config σ ι φ := events.foldl sys.step c

def guarded (guard : Config σ ι φ → ε → Bool) : Config σ ι φ → List ε → Bool
  | _, [] => true
  | c, e :: events => guard c e && guarded guard (sys.step c e) events

def Respects (condition : Config σ ι φ → ε → Prop) : Config σ ι φ → List ε → Prop
  | _, [] => True
  | c, e :: events => condition c e ∧ Respects condition (sys.step c e) events

instance (condition : Config σ ι φ → ε → Prop) [∀ c e, Decidable (condition c e)] :
    ∀ (c : Config σ ι φ) (events : List ε), Decidable (sys.Respects condition c events)
  | _, [] => .isTrue trivial
  | c, e :: events =>
    have := instDecidableRespects condition (sys.step c e) events
    inferInstanceAs (Decidable (condition c e ∧ sys.Respects condition (sys.step c e) events))

variable {sys} {c : Config σ ι φ} {e : ε}

lemma phase_step_self (sys : Interleaving σ ι φ ε) (c : Config σ ι φ) (e : ε) :
    (sys.step c e).phase (sys.process e) = (sys.act e c.shared (c.phase (sys.process e))).2 :=
  Function.update_self ..

variable {i : ι}

lemma phase_step_of_ne (hi : i ≠ sys.process e) : (sys.step c e).phase i = c.phase i :=
  Function.update_of_ne hi ..

lemma phase_step_cases (sys : Interleaving σ ι φ ε) (c : Config σ ι φ) (e : ε) (i : ι) :
    (i = sys.process e ∧ (sys.step c e).phase i = (sys.act e c.shared (c.phase i)).2) ∨
    (i ≠ sys.process e ∧ (sys.step c e).phase i = c.phase i) := by
  by_cases hi : i = sys.process e
  · subst hi
    exact .inl ⟨rfl, phase_step_self ..⟩
  · exact .inr ⟨hi, phase_step_of_ne hi⟩

lemma run_append (c : Config σ ι φ) (before after : List ε) :
    sys.run c (before ++ after) = sys.run (sys.run c before) after := foldl_append

lemma run_concat (c : Config σ ι φ) (before : List ε) (e : ε) :
    sys.run c (before ++ [e]) = sys.step (sys.run c before) e := by
  rw [run_append]
  rfl

variable {events : List ε}

lemma phase_run_of_forall_ne (h : ∀ e ∈ events, sys.process e ≠ i) : (sys.run c events).phase i = c.phase i := by
  induction events generalizing c with
  | nil => rfl
  | cons e events ih =>
    have hrest := ih (c := sys.step c e) fun d hd => h d (mem_cons_of_mem _ hd)
    rw [phase_step_of_ne (h e mem_cons_self).symm] at hrest
    exact hrest

lemma exists_turn (P : φ → Prop) (hbefore : ¬ P (c.phase i)) (hafter : P ((sys.run c events).phase i)) :
    ∃ before e after, events = before ++ e :: after ∧ sys.process e = i ∧
    ¬ P ((sys.run c before).phase i) ∧ P ((sys.step (sys.run c before) e).phase i) := by
  induction events generalizing c with
  | nil => exact absurd hafter hbefore
  | cons e events ih =>
    by_cases hstep : P ((sys.step c e).phase i)
    · refine ⟨[], e, events, rfl, ?_, hbefore, hstep⟩
      by_contra hi
      rw [phase_step_of_ne (Ne.symm hi)] at hstep
      exact hbefore hstep
    · obtain ⟨before, d, after, rfl, hd⟩ := ih hstep hafter
      exact ⟨e :: before, d, after, rfl, hd⟩

variable {P : Config σ ι φ → Prop}

lemma run_induction {guard : Config σ ι φ → ε → Bool} (hstep : ∀ c e, P c → guard c e → P (sys.step c e))
    (hc : P c) (hguard : sys.guarded guard c events) : P (sys.run c events) := by
  induction events generalizing c with
  | nil => exact hc
  | cons e events ih =>
    rw [guarded, Bool.and_eq_true] at hguard
    exact ih (hstep c e hc hguard.1) hguard.2

variable {condition : Config σ ι φ → ε → Prop}

lemma Respects.induction (h : sys.Respects condition c events)
    (hstep : ∀ c e, P c → condition c e → P (sys.step c e)) (hc : P c) : P (sys.run c events) := by
  induction events generalizing c with
  | nil => exact hc
  | cons e events ih => exact ih h.2 (hstep c e hc h.1)

lemma Respects.cut {before after : List ε} (h : sys.Respects condition c (before ++ e :: after)) :
    condition (sys.run c before) e ∧ sys.Respects condition (sys.step (sys.run c before) e) after := by
  induction before generalizing c with
  | nil => exact h
  | cons d before ih => exact ih h.2

lemma Respects.of_append {before after : List ε} (h : sys.Respects condition c (before ++ after)) :
    sys.Respects condition c before := by
  induction before generalizing c with
  | nil => trivial
  | cons e before ih => exact ⟨h.1, ih h.2⟩

lemma run_invariant (hstep : ∀ c e, P c → P (sys.step c e)) (events : List ε) (hc : P c) : P (sys.run c events) := by
  induction events generalizing c with
  | nil => exact hc
  | cons e events ih => exact ih (hstep c e hc)

def LeadsTo (sys : Interleaving σ ι φ ε) (e : ε) (c : Config σ ι φ) (Q : Config σ ι φ → Prop) : Prop :=
  ∃ k, Q (sys.run c (List.replicate k e))

variable {Q : Config σ ι φ → Prop}

lemma LeadsTo.here (h : Q c) : sys.LeadsTo e c Q := ⟨0, h⟩

lemma LeadsTo.step (h : sys.LeadsTo e (sys.step c e) Q) : sys.LeadsTo e c Q := by
  obtain ⟨k, hk⟩ := h
  exact ⟨k + 1, hk⟩

end Interleaving
end Orama.Lib
