import Mathlib.Algebra.Order.Group.Multiset

namespace Orama.Lib

structure Tasks (σ τ : Type) where
  shared : σ
  tasks : List τ

structure Scheduler (σ τ κ ε : Type) where
  entry : κ → τ
  perform : ε → σ → τ → σ × List τ

inductive Move (κ ε : Type)
  | call (k : κ)
  | go (i : Nat) (e : ε)

/-- What holds of every task is kept when one of them gives way to others of which it holds. -/
lemma forall_mem_move {τ : Type} {Q : τ → Prop} {t : τ} {ts : Multiset τ} {new : List τ}
    (h : ∀ t' ∈ t ::ₘ ts, Q t') (hnew : Q t → ∀ t' ∈ new, Q t') : ∀ t' ∈ ts + (new : Multiset τ), Q t' := by
  obtain ⟨ht, hts⟩ := Multiset.forall_mem_cons.1 h
  intro t' ht'
  obtain ht' | ht' := Multiset.mem_add.1 ht'
  · exact hts t' ht'
  · exact hnew ht t' ht'

namespace Scheduler
variable {σ τ κ ε : Type} (sys : Scheduler σ τ κ ε)

def step (c : Tasks σ τ) : Move κ ε → Tasks σ τ
  | .call k => { c with tasks := c.tasks ++ [sys.entry k] }
  | .go i e =>
    match c.tasks[i]? with
    | none => c
    | some t => ⟨(sys.perform e c.shared t).1, c.tasks.eraseIdx i ++ (sys.perform e c.shared t).2⟩

def run (c : Tasks σ τ) (moves : List (Move κ ε)) : Tasks σ τ := moves.foldl sys.step c

def Respects (condition : σ → Multiset τ → τ → Prop) : Tasks σ τ → List (Move κ ε) → Prop
  | _, [] => True
  | c, .call k :: moves => Respects condition (sys.step c (.call k)) moves
  | c, .go i e :: moves =>
    (∀ t, c.tasks[i]? = some t → condition c.shared c.tasks t) ∧ Respects condition (sys.step c (.go i e)) moves

instance decidableRespects (condition : σ → Multiset τ → τ → Prop) [∀ s ts t, Decidable (condition s ts t)] :
    (c : Tasks σ τ) → (moves : List (Move κ ε)) → Decidable (sys.Respects condition c moves)
  | _, [] => .isTrue trivial
  | c, .call k :: moves => decidableRespects condition (sys.step c (.call k)) moves
  | c, .go i e :: moves =>
    have : Decidable (sys.Respects condition (sys.step c (.go i e)) moves) := decidableRespects condition _ moves
    inferInstanceAs (Decidable ((∀ t ∈ c.tasks[i]?, condition c.shared c.tasks t) ∧ sys.Respects condition _ moves))

structure Keeps (condition : σ → Multiset τ → τ → Prop) (P : σ → Multiset τ → Prop) : Prop where
  call : ∀ s ts k, P s ts → P s (sys.entry k ::ₘ ts)
  go : ∀ s ts t e, condition s (t ::ₘ ts) t → P s (t ::ₘ ts) → P (sys.perform e s t).1 (ts + ↑(sys.perform e s t).2)

variable {sys} {condition : σ → Multiset τ → τ → Prop} {P : σ → Multiset τ → Prop} {c : Tasks σ τ}
  {moves : List (Move κ ε)}

variable {i : Nat}

lemma coe_eraseIdx {l : List τ} {t : τ} (h : l[i]? = some t) : (l : Multiset τ) = t ::ₘ ↑(l.eraseIdx i) := by
  obtain ⟨hi, rfl⟩ := List.getElem?_eq_some_iff.1 h
  rw [Multiset.cons_coe, Multiset.coe_eq_coe]
  exact (List.getElem_cons_eraseIdx_perm hi).symm

section
variable (h : sys.Keeps condition P) (hc : P c.shared c.tasks)
include h hc

lemma Keeps.step_call (k : κ) : P (sys.step c (.call k)).shared (sys.step c (.call k)).tasks := by
  have hcall := h.call c.shared c.tasks k hc
  rw [← Multiset.singleton_add, add_comm] at hcall
  exact hcall

lemma Keeps.step_go (hi : ∀ t, c.tasks[i]? = some t → condition c.shared c.tasks t) (e : ε) :
    P (sys.step c (.go i e)).shared (sys.step c (.go i e)).tasks := by
  rw [step]
  cases ht : c.tasks[i]? with
  | none => exact hc
  | some t =>
    have hcondition := hi t ht
    rw [coe_eraseIdx ht] at hc hcondition
    exact h.go c.shared _ t e hcondition hc

lemma Keeps.run_of_respects
    (hrun : sys.Respects condition c moves) : P (sys.run c moves).shared (sys.run c moves).tasks := by
  induction moves generalizing c with
  | nil => exact hc
  | cons m moves ih =>
    cases m with
    | call k => exact ih (h.step_call hc k) hrun
    | go i e => exact ih (h.step_go hc hrun.1 e) hrun.2

end

lemma Respects.append {before after : List (Move κ ε)} (h : sys.Respects condition c (before ++ after)) :
    sys.Respects condition c before ∧ sys.Respects condition (sys.run c before) after := by
  induction before generalizing c with
  | nil => exact ⟨trivial, h⟩
  | cons m before ih =>
    cases m with
    | call k => exact ih h
    | go i e => exact ⟨⟨h.1, (ih h.2).1⟩, (ih h.2).2⟩

lemma run_append (sys : Scheduler σ τ κ ε) (c : Tasks σ τ) (before after : List (Move κ ε)) :
    sys.run c (before ++ after) = sys.run (sys.run c before) after := List.foldl_append

lemma respects_true (sys : Scheduler σ τ κ ε) (c : Tasks σ τ) (moves : List (Move κ ε)) :
    sys.Respects (fun _ _ _ => True) c moves := by
  induction moves generalizing c with
  | nil => trivial
  | cons m moves ih =>
    cases m with
    | call k => exact ih _
    | go i e => exact ⟨fun _ _ => trivial, ih _⟩

lemma Keeps.run (h : sys.Keeps (fun _ _ _ => True) P) (hc : P c.shared c.tasks) (moves : List (Move κ ε)) :
    P (sys.run c moves).shared (sys.run c moves).tasks := h.run_of_respects hc (respects_true sys c moves)

end Scheduler
end Orama.Lib
