import Orama.Lib.Tasks
import Orama.Lib.Text

namespace Orama.Push.ConfigCache
open Lib List

structure Entry (α : Type) where
  ns : Bytes
  value : α
  builtAt : Int

structure LRU (α : Type) where
  insert : Entry α → List (Entry α) → List (Entry α)
  mem : ∀ {x e l}, e ∈ insert x l → e = x ∨ e ∈ l

def pushLRU (α : Type) (cacheCap : Nat) : LRU α where
  insert x l := x :: if cacheCap ≤ l.length then l.dropLast else l
  mem := by
    intro x e l h
    obtain rfl | h := mem_cons.1 h
    · exact .inl rfl
    · split at h
      · exact .inr (mem_of_mem_dropLast h)
      · exact .inr h

def limitLRU (α : Type) (cacheCap : Nat) : LRU α where
  insert x l := (x :: l).take cacheCap
  mem h := mem_cons.1 (mem_of_mem_take h)

/-- What a manager works with. A value is built from the configuration that the store has, or without it when the
store cannot be read, and building may fail. -/
structure Setup (γ α : Type) where
  lru : LRU α
  ttl : Int
  build : Bytes → Option γ → Option α

structure Manager (γ α : Type) where
  stored : Bytes → γ
  cache : List (Entry α)
  used : List (Nat × Bytes × α)

inductive Task (γ α : Type)
  | lookup (call : Nat) (ns : Bytes)
  | load (call : Nat) (ns : Bytes)
  | insert (call : Nat) (ns : Bytes) (value : α)
  | write (ns : Bytes) (config : γ)
  | invalidate (ns : Bytes)
deriving DecidableEq

inductive Call (γ : Type)
  | use (call : Nat) (ns : Bytes)
  | configure (ns : Bytes) (config : γ)

structure Moment where
  now : Int
  readable : Bool

open Manager
section
variable {γ α : Type}

def Call.task : Call γ → Task γ α
  | .use call ns => .lookup call ns
  | .configure ns config => .write ns config

namespace Manager
variable (m : Manager γ α)

def fresh (ttl now : Int) (ns : Bytes) : Option (Entry α) := m.cache.find? fun e => e.ns = ns ∧ now - e.builtAt < ttl

def others (ns : Bytes) : List (Entry α) := m.cache.filter fun e => e.ns ≠ ns

def hit (call : Nat) (e : Entry α) : Manager γ α :=
  { m with cache := e :: m.others e.ns, used := (call, e.ns, e.value) :: m.used }

def perform (u : Setup γ α) (x : Moment) (m : Manager γ α) : Task γ α → Manager γ α × List (Task γ α)
  | .lookup call ns =>
    match m.fresh u.ttl x.now ns with
    | some e => (m.hit call e, [])
    | none => ({ m with cache := m.others ns }, [.load call ns])
  | .load call ns =>
    match u.build ns (if x.readable then some (m.stored ns) else none) with
    | some value => (m, [.insert call ns value])
    | none => (m, [])
  | .insert call ns value =>
    match m.fresh u.ttl x.now ns with
    | some e => (m.hit call e, [])
    | none =>
      ({ m with cache := u.lru.insert ⟨ns, value, x.now⟩ (m.others ns), used := (call, ns, value) :: m.used }, [])
  | .write ns config => ({ m with stored := Function.update m.stored ns config }, [.invalidate ns])
  | .invalidate ns => ({ m with cache := m.others ns }, [])

end Manager

def manager (u : Setup γ α) : Scheduler (Manager γ α) (Task γ α) (Call γ) Moment := ⟨Call.task, Manager.perform u⟩

def Current (u : Setup γ α) (m : Manager γ α) (_ : Multiset (Task γ α)) : Task γ α → Prop
  | .insert _ ns value => u.build ns (some (m.stored ns)) = some value
  | _ => True

def Task.writes (ns : Bytes) : Task γ α → Prop
  | .write ns' _ => ns' = ns
  | _ => False

def Manager.Built (u : Setup γ α) (m : Manager γ α) (ns : Bytes) : Prop :=
  ∀ e ∈ m.cache, e.ns = ns → u.build ns (some (m.stored ns)) = some e.value

variable {u : Setup γ α} {m : Manager γ α} {ts : Multiset (Task γ α)} {t : Task γ α} {ns : Bytes} {x : Moment}

lemma fresh_eq_some {ttl now : Int} {e : Entry α} (h : m.fresh ttl now ns = some e) : e ∈ m.cache ∧ e.ns = ns := by
  have hp := find?_some h
  simp only [decide_eq_true_eq] at hp
  exact ⟨mem_of_find?_eq_some h, hp.1⟩

attribute [local grind] perform hit Manager.Built others

lemma built_perform (h : m.Built u ns) (ht : Current u m ts t) (hns : ¬ t.writes ns) :
    (m.perform u x t).1.Built u ns := by
  cases t with
  | lookup call ns' =>
    cases hf : m.fresh u.ttl x.now ns' with
    | none => grind
    | some e =>
      obtain ⟨he, hens⟩ := fresh_eq_some hf
      grind
  | load call ns' => grind
  | insert call ns' value =>
    cases hf : m.fresh u.ttl x.now ns' with
    | none =>
      rw [perform, hf]
      intro e he hens
      obtain rfl | he := u.lru.mem he
      · exact hens ▸ ht
      · exact h e (mem_of_mem_filter he) hens
    | some e =>
      obtain ⟨he, hens⟩ := fresh_eq_some hf
      grind
  | write ns' config =>
    have hne : ns ≠ ns' := fun heq => hns heq.symm
    intro e he hens
    have hstored : (m.perform u x (.write ns' config)).1.stored ns = m.stored ns := Function.update_of_ne hne ..
    rw [hstored]
    exact h e he hens
  | invalidate ns' => exact fun e he hens => h e (mem_of_mem_filter he) hens

def Settled (u : Setup γ α) (m : Manager γ α) (ts : Multiset (Task γ α)) : Prop :=
  ∀ ns, .invalidate ns ∈ ts ∨ m.Built u ns

lemma settled_keeps (u : Setup γ α) : (manager u).Keeps (Current u) (Settled u) where
  call _ _ _ h ns := (h ns).imp_left Multiset.mem_cons_of_mem
  go := by
    intro m ts t x ht h ns
    by_cases hwrites : t.writes ns
    · cases t with
      | write ns' config =>
        cases hwrites
        exact .inl (Multiset.mem_add.2 (.inr (by simp [manager, perform])))
      | _ => exact hwrites.elim
    · by_cases hinvalidates : t = .invalidate ns
      · subst hinvalidates
        refine .inr fun e he hens => ?_
        exact absurd hens (by simpa [manager, perform, others] using (mem_filter.1 he).2)
      · obtain hin | hbuilt := h ns
        · obtain heq | hin := Multiset.mem_cons.1 hin
          · exact absurd heq.symm hinvalidates
          · exact .inl (Multiset.mem_add.2 (.inl hin))
        · exact .inr (built_perform hbuilt ht hwrites)

structure Uses (u : Setup γ α) (call : Nat) (ns : Bytes) (m : Manager γ α) : Prop where
  built : m.Built u ns
  used : ∀ value, (call, ns, value) ∈ m.used → u.build ns (some (m.stored ns)) = some value

lemma uses_perform {call : Nat} (h : Uses u call ns m) (ht : Current u m ts t) (hns : ¬ t.writes ns) :
    Uses u call ns (m.perform u x t).1 := by
  refine ⟨built_perform h.built ht hns, ?_⟩
  obtain ⟨hbuilt, hused⟩ := h
  intro value hvalue
  cases t with
  | lookup call' ns' =>
    cases hf : m.fresh u.ttl x.now ns' with
    | none => grind
    | some e =>
      obtain ⟨he, hens⟩ := fresh_eq_some hf
      have hcurrent := hbuilt e he
      grind
  | load call' ns' => grind
  | insert call' ns' value' =>
    cases hf : m.fresh u.ttl x.now ns' with
    | none => grind [Current]
    | some e =>
      obtain ⟨he, hens⟩ := fresh_eq_some hf
      have hcurrent := hbuilt e he
      grind
  | write ns' config =>
    have hne : ns ≠ ns' := fun heq => hns heq.symm
    have hstored : (m.perform u x (.write ns' config)).1.stored ns = m.stored ns := Function.update_of_ne hne ..
    rw [hstored]
    exact hused value hvalue
  | invalidate ns' => exact hused value hvalue

/-- Once a configuration is written and invalidated, and until it is written again, a call uses what is built from it:
whenever what is put into the cache was built from the configuration that the store has then. -/
theorem uses_of_current (u : Setup γ α) (stored : Bytes → γ) (before after : List (Move (Call γ) Moment)) (ns : Bytes)
    (hbefore : (manager u).Respects (Current u) ⟨⟨stored, [], []⟩, []⟩ before)
    (hinvalidated : .invalidate ns ∉ ((manager u).run ⟨⟨stored, [], []⟩, []⟩ before).tasks)
    (hafter : (manager u).Respects (fun m ts t => Current u m ts t ∧ ¬ t.writes ns)
      ((manager u).run ⟨⟨stored, [], []⟩, []⟩ before) after) (call : Nat)
    (hstarts : ∀ value, (call, ns, value) ∉ ((manager u).run ⟨⟨stored, [], []⟩, []⟩ before).shared.used) (value : α)
    (hused : (call, ns, value) ∈ ((manager u).run ⟨⟨stored, [], []⟩, []⟩ (before ++ after)).shared.used) :
    u.build ns (some (((manager u).run ⟨⟨stored, [], []⟩, []⟩ (before ++ after)).shared.stored ns)) = some value := by
  have hsettled := (settled_keeps u).run_of_respects (fun ns => .inr fun e he => absurd he not_mem_nil) hbefore ns
  have hbuilt := hsettled.resolve_left hinvalidated
  have hkeeps : (manager u).Keeps (fun m ts t => Current u m ts t ∧ ¬ t.writes ns) fun m _ => Uses u call ns m :=
    ⟨fun _ _ _ h => h, fun _ _ _ _ ht h => uses_perform h ht.1 ht.2⟩
  rw [Scheduler.run_append] at hused ⊢
  exact (hkeeps.run_of_respects ⟨hbuilt, fun value h => absurd h (hstarts value)⟩ hafter).used value hused

end

def plain (lru : LRU Nat) : Setup Nat Nat := ⟨lru, 30, fun _ config => config⟩

instance (u : Setup Nat Nat) : ∀ m ts t, Decidable (Current u m ts t)
  | m, _, .insert _ ns value => inferInstanceAs (Decidable (u.build ns (some (m.stored ns)) = some value))
  | _, _, .lookup _ _ | _, _, .load _ _ | _, _, .write _ _ | _, _, .invalidate _ => .isTrue trivial

instance (ns : Bytes) : ∀ t : Task Nat Nat, Decidable (t.writes ns)
  | .write ns' _ => inferInstanceAs (Decidable (ns' = ns))
  | .insert _ _ _ | .lookup _ _ | .load _ _ | .invalidate _ => .isFalse id

def change : List (Move (Call Nat) Moment) :=
  [.call (.use 0 [1]), .go 0 ⟨0, true⟩, .go 0 ⟨0, true⟩, .go 0 ⟨0, true⟩, .call (.configure [1] 2), .go 0 ⟨1, true⟩,
    .go 0 ⟨1, true⟩]

def useAgain : List (Move (Call Nat) Moment) :=
  [.call (.use 1 [1]), .go 0 ⟨2, true⟩, .go 0 ⟨2, true⟩, .go 0 ⟨2, true⟩]

theorem uses_of_change :
    some (((manager (plain (pushLRU Nat 256))).run ⟨⟨fun _ => 1, [], []⟩, []⟩ (change ++ useAgain)).shared.stored [1]) =
    some 2 := by
  refine uses_of_current (plain (pushLRU Nat 256)) (fun _ => 1) change useAgain [1] (by decide) (by decide) (by decide)
    1 (fun value h => ?_) 2 (by decide)
  have hused : (1, [1], value) ∈ [((0 : Nat), ([1] : Bytes), (1 : Nat))] := h
  simp at hused

/-- A call has read the configuration before it is written, and puts what it has built into the cache after it is
invalidated. -/
def overtaken : List (Move (Call Nat) Moment) :=
  [.call (.use 0 [1]), .go 0 ⟨0, true⟩, .go 0 ⟨0, true⟩, .call (.configure [1] 2), .go 1 ⟨1, true⟩, .go 1 ⟨1, true⟩,
    .go 0 ⟨1, true⟩, .call (.use 1 [1]), .go 0 ⟨2, true⟩]

def outcome (lru : LRU Nat) : Manager Nat Nat := ((manager (plain lru)).run ⟨⟨fun _ => 1, [], []⟩, []⟩ overtaken).shared

/-- What was read before the invalidation is inserted after it and used. -/
theorem stale_config : (outcome (pushLRU Nat 256)).stored [1] = 2 ∧ (1, [1], 1) ∈ (outcome (pushLRU Nat 256)).used ∧
    (outcome (limitLRU Nat 1024)).stored [1] = 2 ∧ (1, [1], 1) ∈ (outcome (limitLRU Nat 1024)).used := by
  decide

end Orama.Push.ConfigCache
