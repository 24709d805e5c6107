import Orama.Lib.Keyed
import Orama.Lib.Maps
import Orama.Lib.Tasks
import Orama.Lib.Text

namespace Orama.Serverless.Modules
open Lib Multiset

structure CacheEntry where
  wasmCID : Bytes
  module : Nat
  lastAccessed : Int
deriving DecidableEq

/-- The cache, with a record of the modules that were compiled and closed, of those that Set did not store, and of the
instantiations with whether the module was open. -/
structure ModuleCache where
  modules : Keyed CacheEntry CacheEntry.wasmCID
  capacity : Int
  compiled : Nat
  closed : List Nat
  dropped : List Nat
  instantiated : List (Nat × Bool)

inductive Task
  | lookup (wasmCID : Bytes)
  | compute (wasmCID : Bytes)
  | store (wasmCID : Bytes) (module : Nat)
  | instantiate (module : Nat)
  | precompile (wasmCID wasmBytes : Bytes)
  | compile (wasmCID : Bytes)
  | set (wasmCID : Bytes) (module : Nat)
  | delete (wasmCID : Bytes)
  | clear
deriving DecidableEq

inductive Call
  | getOrCompute (wasmCID : Bytes)
  | precompile (wasmCID wasmBytes : Bytes)
  | invalidate (wasmCID : Bytes)
  | close

def Call.task : Call → Task
  | .getOrCompute cid => .lookup cid
  | .precompile cid wasmBytes => .precompile cid wasmBytes
  | .invalidate cid => .delete cid
  | .close => .clear

inductive Compilation
  | failed
  | overLimit
  | compiled

structure Outcome where
  now : Int
  order : Iteration CacheEntry
  compilation : Compilation

namespace ModuleCache

def new (capacity : Int) : ModuleCache := ⟨.empty, capacity, 0, [], [], []⟩

variable (c : ModuleCache)

def touch (cid : Bytes) (now : Int) : ModuleCache :=
  { c with
    modules := c.modules.update (fun e => e.wasmCID = cid) (fun e => { e with lastAccessed := now }) fun _ => rfl }

def remove (e : CacheEntry) : ModuleCache :=
  { c with modules := c.modules.delete (fun e' => e'.wasmCID = e.wasmCID), closed := c.closed ++ [e.module] }

def older (oldest : Bytes × Int) (e : CacheEntry) : Bytes × Int :=
  if oldest.1 = [] || e.lastAccessed < oldest.2 then (e.wasmCID, e.lastAccessed) else oldest

def evictOldest (order : Iteration CacheEntry) : ModuleCache :=
  let oldestCID := ((order.list c.modules.rows).foldl older ([], 0)).1
  if oldestCID = [] then c
  else
    match c.modules.get oldestCID with
    | none => c
    | some e => c.remove e

def insert (o : Outcome) (cid : Bytes) (module : Nat) : ModuleCache :=
  let c' := if c.capacity ≤ c.modules.rows.length then c.evictOldest o.order else c
  { c' with modules := c'.modules.put ⟨cid, module, o.now⟩ }

def compileModule (o : Outcome) (next : Nat → Task) : ModuleCache × List Task :=
  match o.compilation with
  | .failed => (c, [])
  | .overLimit => ({ c with compiled := c.compiled + 1, closed := c.closed ++ [c.compiled] }, [])
  | .compiled => ({ c with compiled := c.compiled + 1 }, [next c.compiled])

def clear : ModuleCache := { c with modules := .empty, closed := c.closed ++ c.modules.rows.map CacheEntry.module }

def perform (o : Outcome) (c : ModuleCache) : Task → ModuleCache × List Task
  | .lookup cid =>
    match c.modules.get cid with
    | some e => (c.touch cid o.now, [.instantiate e.module])
    | none => (c, [.compute cid])
  | .compute cid =>
    -- An empty CID is refused before anything is fetched.
    if cid = [] then (c, []) else c.compileModule o (.store cid)
  | .store cid module =>
    match c.modules.get cid with
    | some e => ({ c with closed := c.closed ++ [module] }.touch cid o.now, [.instantiate e.module])
    | none => (c.insert o cid module, [.instantiate module])
  | .instantiate module => ({ c with instantiated := c.instantiated ++ [(module, !c.closed.contains module)] }, [])
  | .precompile cid wasmBytes =>
    if cid = [] || wasmBytes = [] || (c.modules.get cid).isSome then (c, []) else (c, [.compile cid])
  | .compile cid => c.compileModule o (.set cid)
  | .set cid module =>
    match c.modules.get cid with
    | some _ => ({ c with dropped := c.dropped ++ [module] }, [])
    | none => (c.insert o cid module, [])
  | .delete cid =>
    match c.modules.get cid with
    | some e => (c.remove e, [])
    | none => (c, [])
  | .clear => (c.clear, [])

end ModuleCache

def moduleCache : Scheduler ModuleCache Task Call Outcome where
  entry := Call.task
  perform := ModuleCache.perform

def ModuleCache.Oldest (c : ModuleCache) (e : CacheEntry) : Prop :=
  e ∈ c.modules.rows ∧ ∀ e' ∈ c.modules.rows, e.lastAccessed ≤ e'.lastAccessed

namespace Task

def holds : Task → Multiset Nat
  | .store _ module | .set _ module => {module}
  | _ => 0

def stores : Task → Option Bytes
  | .store cid _ | .compile cid | .set cid _ => some cid
  | _ => none

end Task

def ModuleCache.cached (c : ModuleCache) : Multiset Nat := c.modules.rows.map CacheEntry.module

def ModuleCache.settled (c : ModuleCache) : Multiset Nat := c.cached + c.closed + c.dropped

/-- Each module that was compiled is in one place: the cache, a task that is to store it, those that are closed, or
those that Set dropped. The cache is within its capacity. -/
structure Valid (c : ModuleCache) (ts : Multiset Task) : Prop where
  capacity : 1 ≤ c.capacity
  size : c.modules.rows.length ≤ c.capacity
  named : ∀ e ∈ c.modules.rows, e.wasmCID ≠ []
  stores : ∀ t ∈ ts, ∀ cid, t.stores = some cid → cid ≠ []
  placed : c.settled + (ts.map Task.holds).sum = Multiset.range c.compiled

variable {c c' : ModuleCache} {e : CacheEntry} {o : Outcome} {cid : Bytes} {m : Nat} {t : Task} {ts : Multiset Task}

lemma foldl_older (l : List CacheEntry) (hnamed : ∀ e ∈ l, e.wasmCID ≠ []) (oldest : CacheEntry)
    (holdest : oldest.wasmCID ≠ []) : ∃ e, (e = oldest ∨ e ∈ l) ∧
      l.foldl ModuleCache.older (oldest.wasmCID, oldest.lastAccessed) = (e.wasmCID, e.lastAccessed) ∧
      e.lastAccessed ≤ oldest.lastAccessed ∧ ∀ e' ∈ l, e.lastAccessed ≤ e'.lastAccessed := by
  induction l generalizing oldest with
  | nil => exact ⟨oldest, .inl rfl, rfl, le_rfl, fun e' he' => by cases he'⟩
  | cons e₀ l ih =>
    have hnamed' : ∀ e ∈ l, e.wasmCID ≠ [] := fun e he => hnamed e (List.mem_cons_of_mem _ he)
    rw [List.foldl_cons, ModuleCache.older]
    by_cases hlt : e₀.lastAccessed < oldest.lastAccessed
    · obtain ⟨e, hmem, hfold, hle, hrest⟩ := ih hnamed' e₀ (hnamed e₀ List.mem_cons_self)
      refine ⟨e, .inr (List.mem_cons.2 hmem), ?_, hle.trans hlt.le, List.forall_mem_cons.2 ⟨hle, hrest⟩⟩
      rw [if_pos (by simp [hlt])]
      exact hfold
    · obtain ⟨e, hmem, hfold, hle, hrest⟩ := ih hnamed' oldest holdest
      refine ⟨e, hmem.imp_right (List.mem_cons_of_mem _), ?_, hle, List.forall_mem_cons.2 ⟨by omega, hrest⟩⟩
      rw [if_neg (by simp [hlt, holdest])]
      exact hfold

open Keyed Multiset ModuleCache

lemma evictOldest_eq (order : Iteration CacheEntry) (hnamed : ∀ e ∈ c.modules.rows, e.wasmCID ≠ [])
    (hne : c.modules.rows ≠ []) : ∃ e, c.Oldest e ∧ c.evictOldest order = c.remove e := by
  have hmem : ∀ e, e ∈ order.list c.modules.rows ↔ e ∈ c.modules.rows := fun e => order.mem_list
  cases hlist : order.list c.modules.rows with
  | nil =>
    have hnil := (order.perm c.modules.rows).symm
    rw [hlist] at hnil
    exact absurd hnil.eq_nil hne
  | cons e₀ l =>
    have hnamed' : ∀ e ∈ e₀ :: l, e.wasmCID ≠ [] := by
      intro e he
      rw [← hlist, hmem] at he
      exact hnamed e he
    obtain ⟨e, he, hfold, hle, hrest⟩ :=
      foldl_older l (fun e he => hnamed' e (List.mem_cons_of_mem _ he)) e₀ (hnamed' e₀ List.mem_cons_self)
    have he' : e ∈ c.modules.rows := by
      rw [← hmem, hlist, List.mem_cons]
      exact he
    refine ⟨e, ⟨he', fun e' hin => ?_⟩, ?_⟩
    · grind
    · have hfirst : older ([], 0) e₀ = (e₀.wasmCID, e₀.lastAccessed) := if_pos rfl
      rw [evictOldest, hlist, List.foldl_cons, hfirst, hfold]
      dsimp only
      rw [if_neg (hnamed e he'), get_eq_some.2 ⟨he', rfl⟩]

open CacheEntry

lemma cached_touch (c : ModuleCache) (cid : Bytes) (now : Int) : (c.touch cid now).cached = c.cached := by
  have hmap : (c.touch cid now).modules.rows.map module = c.modules.rows.map module := by
    refine (List.map_map ..).trans (List.map_congr_left fun e _ => ?_)
    dsimp only [Function.comp]
    split <;> rfl
  rw [cached, hmap]
  rfl

lemma settled_touch (c : ModuleCache) (cid : Bytes) (now : Int) : (c.touch cid now).settled = c.settled := by
  rw [settled, cached_touch]
  rfl

lemma cached_remove (h : c.modules.get e.wasmCID = some e) : c.cached = e.module ::ₘ (c.remove e).cached :=
  coe_eq_coe.2 ((perm_delete h).map module)

lemma settled_remove (h : c.modules.get e.wasmCID = some e) : (c.remove e).settled = c.settled := by
  have hclosed : ((c.remove e).closed : Multiset Nat) = c.closed + {e.module} := rfl
  rw [settled, settled, cached_remove h, hclosed, ← singleton_add]
  change _ + _ + (c.dropped : Multiset Nat) = _
  ac_rfl

lemma settled_clear (c : ModuleCache) : c.clear.settled = c.settled := by
  change (0 : Multiset Nat) + ↑(c.closed ++ c.modules.rows.map module) + ↑c.dropped = c.settled
  rw [← coe_add, zero_add, settled, cached, add_comm (c.closed : Multiset Nat)]

lemma settled_close (c : ModuleCache) (m : Nat) : { c with closed := c.closed ++ [m] }.settled = c.settled + {m} := by
  change c.cached + ↑(c.closed ++ [m]) + ↑c.dropped = c.cached + ↑c.closed + ↑c.dropped + {m}
  rw [← coe_add]
  change _ + (_ + {m}) + _ = _
  ac_rfl

lemma settled_drop (c : ModuleCache) (m : Nat) :
    { c with dropped := c.dropped ++ [m] }.settled = c.settled + {m} := by
  change c.cached + ↑c.closed + ↑(c.dropped ++ [m]) = c.cached + ↑c.closed + ↑c.dropped + {m}
  rw [← coe_add, ← add_assoc]
  rfl

inductive MakesRoom (c : ModuleCache) : ModuleCache → Prop
  | room (h : (c.modules.rows.length : Int) < c.capacity) : MakesRoom c c
  | evicted {e : CacheEntry} (h : c.capacity ≤ c.modules.rows.length) (he : c.Oldest e) : MakesRoom c (c.remove e)

lemma insert_eq (hcapacity : 1 ≤ c.capacity) (hnamed : ∀ e ∈ c.modules.rows, e.wasmCID ≠ []) :
    ∃ c', MakesRoom c c' ∧ c.insert o cid m = { c' with modules := c'.modules.put ⟨cid, m, o.now⟩ } := by
  rw [ModuleCache.insert]
  by_cases hfull : c.capacity ≤ c.modules.rows.length
  · have hne : c.modules.rows ≠ [] := by
      grind
    obtain ⟨e, he, heq⟩ := evictOldest_eq o.order hnamed hne
    exact ⟨_, .evicted hfull he, by rw [if_pos hfull, heq]⟩
  · exact ⟨_, .room (not_le.1 hfull), by rw [if_neg hfull]⟩

section
variable (h : MakesRoom c c')
include h

lemma MakesRoom.mem (he : e ∈ c'.modules.rows) : e ∈ c.modules.rows := by
  cases h with
  | room => exact he
  | evicted => exact List.mem_of_mem_filter he

lemma MakesRoom.get_eq_none (hcid : c.modules.get cid = none) : c'.modules.get cid = none := by
  grind [get_eq_none, mem]

lemma MakesRoom.length_lt (hsize : c.modules.rows.length ≤ c.capacity) :
    (c'.modules.rows.length : Int) < c.capacity := by
  cases h with
  | room h => exact h
  | @evicted e _ he =>
    have hlength := (perm_delete (get_eq_some.2 ⟨he.1, rfl⟩)).length_eq
    rw [List.length_cons] at hlength
    change ((c.modules.delete fun e' => e'.wasmCID = e.wasmCID).rows.length : Int) < _
    omega

lemma MakesRoom.settled_eq : c'.settled = c.settled := by
  cases h with
  | room => rfl
  | evicted _ he => exact settled_remove (get_eq_some.2 ⟨he.1, rfl⟩)

end

lemma cached_put (hcid : c.modules.get cid = none) (now : Int) :
    { c with modules := c.modules.put ⟨cid, m, now⟩ }.cached = c.cached + {m} := by
  change (((c.modules.put ⟨cid, m, now⟩).rows.map module : List Nat) : Multiset Nat) = _
  rw [rows_put_of_none hcid, List.map_append]
  rfl

lemma settled_put (hcid : c.modules.get cid = none) (now : Int) :
    { c with modules := c.modules.put ⟨cid, m, now⟩ }.settled = c.settled + {m} := by
  rw [settled, cached_put hcid, settled]
  ac_rfl

variable {new : List Task}

lemma Valid.replace (h : Valid c (t ::ₘ ts)) (hcapacity : c'.capacity = c.capacity)
    (hsize : c'.modules.rows.length ≤ c.capacity) (hnamed : ∀ e ∈ c'.modules.rows, e.wasmCID ≠ [])
    (hstores : ∀ t' ∈ new, ∀ cid, t'.stores = some cid → cid ≠ [])
    (hplaced : c'.settled + (new.map Task.holds).sum + range c.compiled =
      c.settled + t.holds + range c'.compiled) : Valid c' (ts + ↑new) where
  capacity := by
    rw [hcapacity]
    exact h.capacity
  size := by
    rw [hcapacity]
    exact hsize
  named := hnamed
  stores := forall_mem_move h.stores fun _ => hstores
  placed := by
    have hbefore := h.placed
    rw [map_cons, sum_cons] at hbefore
    rw [← hbefore] at hplaced
    have hsum : ((ts + ↑new).map Task.holds).sum = (ts.map Task.holds).sum + (new.map Task.holds).sum := by
      rw [Multiset.map_add, sum_add]
      rfl
    rw [hsum]
    refine add_left_cancel (a := c.settled + t.holds) ?_
    rw [← hplaced]
    ac_rfl

lemma named_touch (hnamed : ∀ e ∈ c.modules.rows, e.wasmCID ≠ []) (now : Int) :
    ∀ e ∈ (c.touch cid now).modules.rows, e.wasmCID ≠ [] := by
  intro e he
  obtain ⟨e', he', rfl⟩ := List.mem_map.1 he
  split
  · exact hnamed e' he'
  · exact hnamed e' he'

lemma length_touch (c : ModuleCache) (cid : Bytes) (now : Int) :
    (c.touch cid now).modules.rows.length = c.modules.rows.length := List.length_map ..

lemma Valid.idle (h : Valid c (t ::ₘ ts)) (hholds : t.holds = 0) (hnew : ∀ t' ∈ new, t'.holds = 0)
    (hstores : ∀ t' ∈ new, ∀ cid, t'.stores = some cid → cid ≠ []) : Valid c (ts + ↑new) := by
  refine h.replace rfl h.size h.named hstores ?_
  grind [List.sum_eq_zero]

inductive Effect (o : Outcome) (c : ModuleCache) : Task → ModuleCache → List Task → Prop
  | idle {t : Task} {new : List Task} (hholds : t.holds = 0)
      (hnew : ∀ t' ∈ new, t'.holds = 0 ∧ (∀ cid, t'.stores = some cid → cid ≠ []) ∧ ∀ m, t' ≠ .instantiate m) :
      Effect o c t c new
  | found {cid : Bytes} {e : CacheEntry} (he : e ∈ c.modules.rows) :
      Effect o c (.lookup cid) (c.touch cid o.now) [.instantiate e.module]
  | overLimit {t : Task} (hholds : t.holds = 0) :
      Effect o c t { c with compiled := c.compiled + 1, closed := c.closed ++ [c.compiled] } []
  | compiled {t t' : Task} {cid : Bytes} (hholds : t.holds = 0) (hholds' : t'.holds = {c.compiled})
      (hstores : t'.stores = some cid) (hcid : cid ≠ []) : Effect o c t { c with compiled := c.compiled + 1 } [t']
  | lost {cid : Bytes} {e : CacheEntry} (m : Nat) (he : e ∈ c.modules.rows) :
      Effect o c (.store cid m) ({ c with closed := c.closed ++ [m] }.touch cid o.now) [.instantiate e.module]
  | stored {cid : Bytes} {m : Nat} {c' : ModuleCache} (hcid : c.modules.get cid = none) (hroom : MakesRoom c c') :
      Effect o c (.store cid m) { c' with modules := c'.modules.put ⟨cid, m, o.now⟩ } [.instantiate m]
  | set {cid : Bytes} {m : Nat} {c' : ModuleCache} (hcid : c.modules.get cid = none) (hroom : MakesRoom c c') :
      Effect o c (.set cid m) { c' with modules := c'.modules.put ⟨cid, m, o.now⟩ } []
  | dropped {cid : Bytes} {m : Nat} {e : CacheEntry} (hcid : c.modules.get cid = some e) :
      Effect o c (.set cid m) { c with dropped := c.dropped ++ [m] } []
  | instantiated (m : Nat) :
      Effect o c (.instantiate m) { c with instantiated := c.instantiated ++ [(m, !c.closed.contains m)] } []
  | removed {cid : Bytes} {e : CacheEntry} (hcid : c.modules.get cid = some e) :
      Effect o c (.delete cid) (c.remove e) []
  | cleared : Effect o c .clear c.clear []

lemma compile_effect {next : Nat → Task} (hholds : t.holds = 0) (hnext : ∀ m, (next m).holds = {m})
    (hstores : ∀ m, (next m).stores = some cid) (hcid : cid ≠ []) :
    Effect o c t (c.compileModule o next).1 (c.compileModule o next).2 := by
  rw [compileModule]
  split
  · exact .idle hholds fun t' ht' => by cases ht'
  · exact .overLimit hholds
  · exact .compiled hholds (hnext _) (hstores _) hcid

attribute [local simp] Task.stores Task.holds

lemma perform_effect (h : Valid c (t ::ₘ ts)) (o : Outcome) : Effect o c t (c.perform o t).1 (c.perform o t).2 := by
  cases t with
  | lookup cid =>
    rw [perform]
    split
    · next e he => exact .found (get_eq_some.1 he).1
    · exact .idle rfl (by simp)
  | compute cid =>
    rw [perform]
    split
    · exact .idle rfl fun t' ht' => by cases ht'
    · next hcid => exact compile_effect rfl (fun _ => rfl) (fun _ => rfl) hcid
  | store cid m =>
    rw [perform]
    split
    · next e he => exact .lost m (get_eq_some.1 he).1
    · next hcid =>
      obtain ⟨c', hroom, heq⟩ := insert_eq h.capacity h.named
      rw [heq]
      exact .stored hcid hroom
  | instantiate m => exact .instantiated m
  | precompile cid wasmBytes =>
    rw [perform]
    split
    · exact .idle rfl fun t' ht' => by cases ht'
    · next hcid =>
      simp only [Bool.or_eq_true, decide_eq_true_eq, not_or] at hcid
      refine .idle rfl ?_
      simpa using hcid.1.1
  | compile cid => exact compile_effect rfl (fun _ => rfl) (fun _ => rfl) (h.stores _ (mem_cons_self ..) cid rfl)
  | set cid m =>
    rw [perform]
    split
    · next e he => exact .dropped he
    · next hcid =>
      obtain ⟨c', hroom, heq⟩ := insert_eq h.capacity h.named
      rw [heq]
      exact .set hcid hroom
  | delete cid =>
    rw [perform]
    split
    · next e he => exact .removed he
    · exact .idle rfl fun t' ht' => by cases ht'
  | clear => exact .cleared

lemma Valid.put (h : Valid c (t ::ₘ ts)) (hholds : t.holds = {m}) (hstores : t.stores = some cid)
    (hcid : c.modules.get cid = none) (hroom : MakesRoom c c') (now : Int)
    (hnew : ∀ t' ∈ new, t'.holds = 0 ∧ t'.stores = none) :
    Valid { c' with modules := c'.modules.put ⟨cid, m, now⟩ } (ts + ↑new) := by
  have hcid' := hroom.get_eq_none hcid
  have hlength := hroom.length_lt h.size
  have hsum : (new.map Task.holds).sum = 0 := List.sum_eq_zero fun x hx => by grind
  have hsame : c'.capacity = c.capacity ∧ c'.compiled = c.compiled := by
    cases hroom <;> exact ⟨rfl, rfl⟩
  refine h.replace hsame.1 ?_ ?_ ?_ ?_
  · grind [rows_put_of_none]
  · intro e he
    obtain rfl | ⟨he, -⟩ := mem_put.1 he
    · exact h.stores t (mem_cons_self ..) cid hstores
    · exact h.named e (hroom.mem he)
  · grind
  · grind [settled_put, MakesRoom.settled_eq]

lemma Valid.effect (h : Valid c (t ::ₘ ts)) (heffect : Effect o c t c' new) : Valid c' (ts + ↑new) := by
  cases heffect with
  | idle hholds hnew => grind [idle]
  | found he =>
    refine h.replace rfl (by rw [length_touch]; exact h.size) (named_touch h.named _) (by simp) ?_
    rw [settled_touch]
    rfl
  | overLimit hholds =>
    refine h.replace rfl h.size h.named (fun t' ht' => by cases ht') ?_
    change { c with closed := c.closed ++ [c.compiled] }.settled + 0 + _ = _ + _ + range (c.compiled + 1)
    rw [hholds, settled_close, range_succ, ← singleton_add]
    ac_rfl
  | @compiled _ t' cid hholds hholds' hstores hcid =>
    refine h.replace rfl h.size h.named ?_ ?_
    · grind
    · rw [hholds, List.map_singleton, List.sum_singleton, hholds']
      change c.settled + _ + _ = _ + _ + range (c.compiled + 1)
      rw [range_succ, ← singleton_add]
      ac_rfl
  | lost m he =>
    refine h.replace rfl (by rw [length_touch]; exact h.size) (named_touch h.named _) (by simp) ?_
    rw [settled_touch, settled_close]
    change c.settled + {m} + 0 + range c.compiled = c.settled + {m} + range c.compiled
    rw [add_zero]
  | stored hcid hroom => exact h.put rfl rfl hcid hroom _ (by simp)
  | set hcid hroom => exact h.put rfl rfl hcid hroom _ fun t' ht' => by cases ht'
  | @dropped cid m e hcid =>
    refine h.replace rfl h.size h.named (fun t' ht' => by cases ht') ?_
    rw [settled_drop]
    change c.settled + {m} + 0 + range c.compiled = c.settled + {m} + range c.compiled
    rw [add_zero]
  | instantiated m => exact h.replace rfl h.size h.named (fun t' ht' => by cases ht') rfl
  | @removed cid e hcid =>
    obtain ⟨he, -⟩ := get_eq_some.1 hcid
    refine h.replace rfl ?_ (fun e' he' => h.named e' (List.mem_of_mem_filter he')) (fun t' ht' => by cases ht') ?_
    · refine le_trans ?_ h.size
      exact_mod_cast List.length_filter_le ..
    · rw [settled_remove (get_eq_some.2 ⟨he, rfl⟩)]
      rfl
  | cleared =>
    refine h.replace rfl (zero_le_one.trans h.capacity) nofun (fun t' ht' => by cases ht') ?_
    rw [settled_clear]
    rfl

lemma entry_idle (k : Call) : k.task.holds = 0 ∧ k.task.stores = none ∧ ∀ m, k.task ≠ .instantiate m := by
  cases k <;> exact ⟨rfl, rfl, nofun⟩

lemma Valid.call (h : Valid c ts) (k : Call) : Valid c (k.task ::ₘ ts) where
  capacity := h.capacity
  size := h.size
  named := h.named
  stores := by
    intro t ht cid hcid
    obtain rfl | ht := mem_cons.1 ht
    · rw [(entry_idle k).2.1] at hcid
      cases hcid
    · exact h.stores t ht cid hcid
  placed := by
    rw [map_cons, sum_cons, (entry_idle k).1, zero_add]
    exact h.placed

lemma Effect.capacity_eq (h : Effect o c t c' new) : c'.capacity = c.capacity := by
  cases h with
  | stored hcid hroom => cases hroom <;> rfl
  | set hcid hroom => cases hroom <;> rfl
  | _ => rfl

lemma keeps_valid (capacity : Int) :
    moduleCache.Keeps (fun _ _ _ => True) fun c ts => Valid c ts ∧ c.capacity = capacity where
  call _ _ k h := ⟨h.1.call k, h.2⟩
  go _ _ _ o _ h := ⟨h.1.effect (perform_effect h.1 o), (perform_effect h.1 o).capacity_eq.trans h.2⟩

def Unused (c : ModuleCache) (ts : Multiset Task) : Task → Prop
  | .store cid _ => c.modules.get cid = none → c.capacity ≤ c.modules.rows.length →
      ∀ e, c.Oldest e → .instantiate e.module ∉ ts
  | .set cid _ => c.modules.get cid = none ∧
      (c.capacity ≤ c.modules.rows.length → ∀ e, c.Oldest e → .instantiate e.module ∉ ts)
  | .delete cid => ∀ e, c.modules.get cid = some e → .instantiate e.module ∉ ts
  | .clear => ∀ e ∈ c.modules.rows, .instantiate e.module ∉ ts
  | _ => True

structure Guarded (c : ModuleCache) (ts : Multiset Task) : Prop where
  valid : Valid c ts
  waiting : ∀ m, .instantiate m ∈ ts → m ∈ c.cached
  opened : ∀ x ∈ c.instantiated, x.2 = true
  dropped : c.dropped = []

lemma mem_cached : m ∈ c.cached ↔ ∃ e ∈ c.modules.rows, e.module = m := List.mem_map

lemma Valid.not_mem_closed (h : Valid c ts) (hm : m ∈ c.cached) : m ∉ c.closed := by
  have hnodup := nodup_range c.compiled
  rw [← h.placed, settled, add_assoc, add_assoc, nodup_add] at hnodup
  grind [disjoint_left, mem_coe]

lemma mem_cached_remove (he : e ∈ c.modules.rows) (hm : m ∈ c.cached) (hne : m ≠ e.module) :
    m ∈ (c.remove e).cached := by
  obtain ⟨e', he', rfl⟩ := mem_cached.1 hm
  refine mem_cached.2 ⟨e', List.mem_filter.2 ⟨he', ?_⟩, rfl⟩
  grind [eq_of_key]

lemma MakesRoom.mem_cached (h : MakesRoom c c') (hm : m ∈ c.cached)
    (hunused : c.capacity ≤ c.modules.rows.length → ∀ e, c.Oldest e → m ≠ e.module) : m ∈ c'.cached := by
  cases h with
  | room => exact hm
  | evicted hfull he => exact mem_cached_remove he.1 hm (hunused hfull _ he)

lemma Guarded.replace (h : Guarded c (t ::ₘ ts)) (hvalid : Valid c' (ts + ↑new))
    (hcached : ∀ m, .instantiate m ∈ ts → m ∈ c.cached → m ∈ c'.cached)
    (hnew : ∀ m, .instantiate m ∈ new → m ∈ c'.cached) (hopened : ∀ x ∈ c'.instantiated, x.2)
    (hdropped : c'.dropped = []) : Guarded c' (ts + ↑new) where
  valid := hvalid
  waiting := by
    intro m hm
    obtain hm | hm := mem_add.1 hm
    · exact hcached m hm (h.waiting m (mem_cons_of_mem hm))
    · exact hnew m hm
  opened := hopened
  dropped := hdropped

lemma Guarded.put (h : Guarded c (t ::ₘ ts))
    (hvalid : Valid { c' with modules := c'.modules.put ⟨cid, m, o.now⟩ } (ts + ↑new))
    (hcid : c.modules.get cid = none) (hroom : MakesRoom c c')
    (hunused : c.capacity ≤ c.modules.rows.length → ∀ e, c.Oldest e → .instantiate e.module ∉ t ::ₘ ts)
    (hnew : ∀ m', .instantiate m' ∈ new → m' = m) :
    Guarded { c' with modules := c'.modules.put ⟨cid, m, o.now⟩ } (ts + ↑new) := by
  have hsame : c'.instantiated = c.instantiated ∧ c'.dropped = c.dropped := by
    cases hroom <;> exact ⟨rfl, rfl⟩
  have hcached := cached_put (m := m) (hroom.get_eq_none hcid) o.now
  refine h.replace hvalid (fun m' hm' hin => ?_) (fun m' hm' => ?_) ?_ ?_
  · grind [MakesRoom.mem_cached]
  · grind [mem_singleton_self]
  · exact hsame.1 ▸ h.opened
  · exact hsame.2.trans h.dropped

lemma Guarded.effect (h : Guarded c (t ::ₘ ts)) (hunused : Unused c (t ::ₘ ts) t) (heffect : Effect o c t c' new) :
    Guarded c' (ts + ↑new) := by
  have hvalid := h.valid.effect heffect
  cases heffect with
  | idle hholds hnew =>
    exact h.replace hvalid (fun _ _ => id) (fun m hm => absurd rfl ((hnew _ hm).2.2 m)) h.opened h.dropped
  | found he =>
    refine h.replace hvalid (fun m _ hm => ?_) (fun m hm => ?_) h.opened h.dropped
    · rw [cached_touch]
      exact hm
    · grind [cached_touch, mem_cached]
  | overLimit => exact h.replace hvalid (fun _ _ => id) nofun h.opened h.dropped
  | compiled hholds hholds' hstores =>
    refine h.replace hvalid (fun _ _ => id) (fun m hm => ?_) h.opened h.dropped
    rw [← List.mem_singleton.1 hm] at hstores
    cases hstores
  | lost m he =>
    refine h.replace hvalid (fun m _ hm => ?_) (fun m hm => ?_) h.opened h.dropped
    · rw [cached_touch]
      exact hm
    · grind [cached_touch, mem_cached]
  | stored hcid hroom =>
    refine h.put hvalid hcid hroom (hunused hcid) fun m' hm' => ?_
    cases List.mem_singleton.1 hm'
    rfl
  | set hcid hroom => exact h.put hvalid hcid hroom hunused.2 fun m' hm' => by cases hm'
  | dropped hcid =>
    have hnone := hunused.1
    rw [hcid] at hnone
    cases hnone
  | instantiated m =>
    refine h.replace hvalid (fun _ _ => id) nofun (fun x hx => ?_) h.dropped
    obtain hx | hx := List.mem_append.1 hx
    · exact h.opened x hx
    · have hopen := h.valid.not_mem_closed (h.waiting m (mem_cons_self ..))
      rw [List.mem_singleton.1 hx]
      simpa using hopen
  | @removed cid e hcid =>
    refine h.replace hvalid (fun m hm hin => ?_) nofun h.opened h.dropped
    refine mem_cached_remove (get_eq_some.1 hcid).1 hin fun heq => ?_
    rw [heq] at hm
    exact hunused e hcid (mem_cons_of_mem hm)
  | cleared =>
    refine h.replace hvalid (fun m hm hin => ?_) nofun h.opened h.dropped
    obtain ⟨e, he, rfl⟩ := mem_cached.1 hin
    exact absurd (mem_cons_of_mem hm) (hunused e he)

lemma keeps_guarded : moduleCache.Keeps Unused Guarded where
  call _ _ k h :=
    { valid := h.valid.call k
      waiting := fun m hm => by
        obtain heq | hm := mem_cons.1 hm
        · exact absurd heq.symm ((entry_idle k).2.2 m)
        · exact h.waiting m hm
      opened := h.opened
      dropped := h.dropped }
  go _ _ _ o hunused h := h.effect hunused (perform_effect h.valid o)

def start (capacity : Int) : Tasks ModuleCache Task := ⟨.new capacity, []⟩

variable {capacity : Int}

lemma valid_start (hcapacity : 1 ≤ capacity) : Valid (start capacity).shared (start capacity).tasks where
  capacity := hcapacity
  size := zero_le_one.trans hcapacity
  named e he := by cases he
  stores t ht := by cases ht
  placed := rfl

lemma guarded_start (hcapacity : 1 ≤ capacity) : Guarded (start capacity).shared (start capacity).tasks where
  valid := valid_start hcapacity
  waiting m hm := by cases hm
  opened x hx := by cases hx
  dropped := rfl

/-- In every run the cache is within its capacity, and a module that was compiled is in one place: it is cached, to be
stored, closed once, or dropped by Set. When modules leave the cache unused and Set is for modules that are not cached,
every module is open when it is instantiated and none is dropped. -/
theorem open_of_unused {capacity : Int} (hcapacity : 1 ≤ capacity) (moves : List (Move Call Outcome)) :
    let c := moduleCache.run (start capacity) moves
    c.shared.modules.rows.length ≤ capacity ∧
      (∀ m < c.shared.compiled, c.shared.cached.count m + (c.tasks.map Task.holds).sum.count m +
      c.shared.closed.count m + c.shared.dropped.count m = 1) ∧ (moduleCache.Respects Unused (start capacity) moves →
      (∀ x ∈ c.shared.instantiated, x.2 = true) ∧ c.shared.dropped = []) := by
  intro c
  obtain ⟨hvalid, heq⟩ : Valid c.shared c.tasks ∧ c.shared.capacity = capacity :=
    (keeps_valid capacity).run ⟨valid_start hcapacity, rfl⟩ moves
  refine ⟨?_, fun m hm => ?_, fun hrespects => ?_⟩
  · rw [← heq]
    exact hvalid.size
  · have hcount := congrArg (count m) hvalid.placed
    rw [settled, count_eq_one_of_mem (nodup_range _) (mem_range.2 hm)] at hcount
    simp only [count_add, coe_count, map_coe, sum_coe] at hcount
    omega
  · have hguarded := keeps_guarded.run_of_respects (guarded_start hcapacity) hrespects
    exact ⟨hguarded.opened, hguarded.dropped⟩

def turn (i : Nat) : Move Call Outcome := .go i ⟨0, .inOrder, .compiled⟩

def oneUse : List (Move Call Outcome) := [.call (.getOrCompute (ascii "bafya")), turn 0, turn 0, turn 0, turn 0]

theorem open_of_oneUse : ((moduleCache.run (start 1) oneUse).shared.instantiated.all Prod.snd) = true := by
  have hrespects : moduleCache.Respects Unused (start 1) oneUse := by
    refine ⟨?_, ?_, ?_, ?_, trivial⟩
    · rintro _ ⟨⟩
      trivial
    · rintro _ ⟨⟩
      trivial
    · rintro _ ⟨⟩
      exact fun _ hfull => absurd hfull (by decide)
    · rintro _ ⟨⟩
      trivial
  exact List.all_eq_true.2 ((open_of_unused (by decide) oneUse).2.2 hrespects).1

def evicted : Tasks ModuleCache Task :=
  moduleCache.run (start 1) [.call (.getOrCompute (ascii "bafya")), turn 0, turn 0, turn 0,
    .call (.getOrCompute (ascii "bafyb")), turn 1, turn 1, turn 1, turn 0]

def compiledTwice : Tasks ModuleCache Task :=
  moduleCache.run (start 1) [.call (.precompile (ascii "bafya") [0]), .call (.precompile (ascii "bafya") [0]), turn 0,
    turn 0, turn 0, turn 0, turn 0, turn 0]

/-- A module is closed between its lookup and its instantiation. Of two that are compiled for one CID, one is neither
cached nor closed. -/
theorem evicted_before_instantiated : evicted.shared.instantiated = [(0, false)] ∧
    (compiledTwice.tasks = [] ∧ compiledTwice.shared.compiled = 2 ∧ compiledTwice.shared.cached = {0} ∧
    compiledTwice.shared.closed = []) := by
  decide +kernel

end Orama.Serverless.Modules
