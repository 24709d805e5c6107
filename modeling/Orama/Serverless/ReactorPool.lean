import Orama.Lib.Keyed
import Orama.Lib.Maps
import Orama.Lib.Tasks
import Orama.Lib.Text

namespace Orama.Serverless.Reactor
open Lib Multiset Nat

def shortCID (cid : Bytes) : Bytes := if 12 < cid.length then cid.take 12 else cid

structure Label where
  wasmCID : Bytes
  pool : Nat
  cold : Bool
  seq : UInt64
deriving DecidableEq

def Label.name (l : Label) : Bytes :=
  ascii "reactor-" ++ shortCID l.wasmCID ++ ascii (if l.cold then "-cold-" else "-") ++ decimal l.seq.toNat

structure Instance where
  serial : Nat
  label : Label
deriving DecidableEq

structure ModulePool where
  ready : List Instance
  inflight : Int
  nameSeq : UInt64
  lastUse : UInt64

structure PoolRef where
  wasmCID : Bytes
  address : Nat
deriving DecidableEq

structure ReactorPool where
  target : Nat
  maxModules : Nat
  pools : Keyed PoolRef PoolRef.wasmCID
  useSeq : UInt64
  heap : Nat → ModulePool
  allocated : Nat
  warmed : List Instance
  returned : List Instance
  closed : List Instance

inductive Task
  | acquire (wasmCID : Bytes)
  | receive (wasmCID : Bytes) (address : Nat)
  | refill (wasmCID : Bytes) (address : Nat) (inst : Option Instance)
  | instantiateSync (wasmCID : Bytes)
  | cold (label : Label)
  | use (label : Label)
  | warmOne (label : Label)
  | discard (inst : Instance)
  | invalidate (wasmCID : Bytes)
  | close
  | drain (pools : List Nat) (closing : Option Instance)
deriving DecidableEq

inductive Call
  | acquire (wasmCID : Bytes)
  | instantiateSync (wasmCID : Bytes)
  | invalidate (wasmCID : Bytes)
  | close

def Call.task : Call → Task
  | .acquire cid => .acquire cid
  | .instantiateSync cid => .instantiateSync cid
  | .invalidate cid => .invalidate cid
  | .close => .close

structure Outcome where
  warm : Bool
  order : Iteration PoolRef

namespace ReactorPool

def new (target maxModules : Int) : ReactorPool where
  target := (if target < 1 then 1 else target).toNat
  maxModules := (if maxModules < 1 then 1 else maxModules).toNat
  pools := .empty
  useSeq := 0
  heap := fun _ => ⟨[], 0, 0, 0⟩
  allocated := 0
  warmed := []
  returned := []
  closed := []

variable (p : ReactorPool)

def modify (a : Nat) (f : ModulePool → ModulePool) : ReactorPool :=
  { p with heap := Function.update p.heap a (f (p.heap a)) }

def older (found : Option PoolRef) (r : PoolRef) : Option PoolRef :=
  match found with
  | none => some r
  | some o => if (p.heap r.address).lastUse < (p.heap o.address).lastUse then some r else some o

def oldest (refs : List PoolRef) : Option PoolRef := refs.foldl p.older none

def evictLRULocked (order : Iteration PoolRef) : Nat → ReactorPool → ReactorPool × List Nat
  | 0, p => (p, [])
  | excess + 1, p =>
    match p.oldest (order.list p.pools.rows) with
    | none => (p, [])
    | some victim =>
      let rest := evictLRULocked order excess { p with pools := p.pools.delete fun r => r.wasmCID = victim.wasmCID }
      (rest.1, victim.address :: rest.2)

def create (cid : Bytes) : ReactorPool :=
  { p with
    pools := p.pools.put ⟨cid, p.allocated⟩
    heap := Function.update p.heap p.allocated ⟨[], 0, 0, 0⟩
    allocated := p.allocated + 1 }

def lookup (cid : Bytes) : ReactorPool × Nat :=
  match p.pools.get cid with
  | some r => (p, r.address)
  | none => (p.create cid, p.allocated)

def touch (a : Nat) : ReactorPool :=
  { p with useSeq := p.useSeq + 1 }.modify a fun mp => { mp with lastUse := p.useSeq + 1 }

def getOrCreatePoolLocked (order : Iteration PoolRef) (cid : Bytes) : ReactorPool × Nat × List Nat :=
  let found := p.lookup cid
  let p' := found.1.touch found.2
  let evicted := evictLRULocked order (p'.pools.rows.length - p'.maxModules) p'
  (evicted.1, found.2, evicted.2)

def need (a : Nat) : Int := p.target - ((p.heap a).ready.length + (p.heap a).inflight)

def names (cid : Bytes) (a : Nat) : List Label :=
  (List.range (p.need a).toNat).map fun i => ⟨cid, a, false, (p.heap a).nameSeq + UInt64.ofNat (i + 1)⟩

def refill (cid : Bytes) (a : Nat) : ReactorPool × List Task :=
  if p.need a < 1 then (p, [])
  else
    (p.modify a fun mp => { mp with
        nameSeq := mp.nameSeq + UInt64.ofNat (p.need a).toNat, inflight := mp.inflight + (p.need a).toNat },
      (p.names cid a).map .warmOne)

def warmOne (label : Label) (ok : Bool) : ReactorPool × List Task :=
  let p' := p.modify label.pool fun mp => { mp with inflight := mp.inflight - 1 }
  if ok then
    let inst : Instance := ⟨p.warmed.length, label⟩
    let p'' := { p' with warmed := p.warmed ++ [inst] }
    if p.pools.get label.wasmCID = some ⟨label.wasmCID, label.pool⟩ && (p.heap label.pool).ready.length < p.target then
      (p''.modify label.pool fun mp => { mp with ready := mp.ready ++ [inst] }, [])
    else (p'', [.discard inst])
  else (p', [])

def drains (victims : List Nat) : List Task := victims.map fun a => .drain [a] none

def perform (o : Outcome) (p : ReactorPool) : Task → ReactorPool × List Task
  | .acquire cid =>
    let pool := p.getOrCreatePoolLocked o.order cid
    (pool.1, .receive cid pool.2.1 :: drains pool.2.2)
  | .receive cid a =>
    match (p.heap a).ready with
    | [] => (p, [.refill cid a none])
    | inst :: rest => (p.modify a fun mp => { mp with ready := rest }, [.refill cid a (some inst)])
  | .refill cid a inst =>
    let refilled := p.refill cid a
    ({ refilled.1 with returned := refilled.1.returned ++ inst.toList },
      inst.toList.map (fun inst => .use inst.label) ++ refilled.2)
  | .instantiateSync cid =>
    let pool := p.getOrCreatePoolLocked o.order cid
    let a := pool.2.1
    (pool.1.modify a fun mp => { mp with nameSeq := mp.nameSeq + 1 },
      .cold ⟨cid, a, true, (pool.1.heap a).nameSeq + 1⟩ :: drains pool.2.2)
  | .cold label => (p, if o.warm then [.use label] else [])
  | .use _ => (p, [])
  | .warmOne label => p.warmOne label o.warm
  | .discard inst => ({ p with closed := p.closed ++ [inst] }, [])
  | .invalidate cid =>
    match p.pools.get cid with
    | none => (p, [])
    | some r => ({ p with pools := p.pools.delete fun r => r.wasmCID = cid }, [.drain [r.address] none])
  | .close => ({ p with pools := .empty }, [.drain ((o.order.list p.pools.rows).map PoolRef.address) none])
  | .drain [] none => (p, [])
  | .drain (a :: rest) none =>
    match (p.heap a).ready with
    | [] => (p, [.drain rest none])
    | inst :: ready => (p.modify a fun mp => { mp with ready }, [.drain (a :: rest) (some inst)])
  | .drain pools (some inst) => ({ p with closed := p.closed ++ [inst] }, [.drain pools none])

end ReactorPool

def reactorPool : Scheduler ReactorPool Task Call Outcome where
  entry := Call.task
  perform := ReactorPool.perform

namespace Task

def uses : Task → List Nat
  | .receive _ a | .refill _ a _ => [a]
  | .warmOne label => [label.pool]
  | .drain pools _ => pools
  | _ => []

def holds : Task → Multiset Instance
  | .refill _ _ inst => inst.toList
  | .discard inst => {inst}
  | .drain _ closing => closing.toList
  | _ => 0

def warms (a : Nat) : Task → Bool
  | .warmOne label => label.pool = a
  | _ => false

def drains (a : Nat) : Task → Prop
  | .drain pools _ => a ∈ pools
  | _ => False

end Task

def ReactorPool.stock (p : ReactorPool) : Multiset Instance := ∑ a ∈ Finset.range p.allocated, ↑(p.heap a).ready

def ReactorPool.Live (p : ReactorPool) (a : Nat) : Prop := ∃ r ∈ p.pools.rows, r.address = a

structure Valid (p : ReactorPool) (ts : Multiset Task) : Prop where
  live : ∀ a, p.Live a → a < p.allocated
  uses : ∀ t ∈ ts, ∀ a ∈ t.uses, a < p.allocated
  inflight : ∀ a < p.allocated, (p.heap a).inflight = ts.countP fun t => t.warms a
  room : ∀ a < p.allocated, (p.heap a).ready.length + (p.heap a).inflight ≤ p.target
  drained : ∀ a < p.allocated, (p.heap a).ready ≠ [] → p.Live a ∨ ∃ t ∈ ts, t.drains a
  serial : p.warmed.map Instance.serial = List.range p.warmed.length
  placed : p.returned + p.closed + (ts.map Task.holds).sum + p.stock = (p.warmed : Multiset Instance)

variable {p p' : ReactorPool} {t : Task} {ts : Multiset Task} {new : List Task} {a b : Nat}

attribute [grind =] Task.uses Task.warms Task.drains

variable {f : ModulePool → ModulePool}

@[grind =]
lemma allocated_modify : (p.modify a f).allocated = p.allocated := rfl

@[grind =]
lemma target_modify : (p.modify a f).target = p.target := rfl

@[grind =]
lemma live_modify : (p.modify a f).Live b ↔ p.Live b := Iff.rfl

open Function Keyed ReactorPool

@[grind =]
lemma heap_modify (p : ReactorPool) (a b : Nat) (f : ModulePool → ModulePool) :
    (p.modify a f).heap b = if b = a then f (p.heap a) else p.heap b := update_apply ..

lemma stock_modify (p : ReactorPool) (f : ModulePool → ModulePool) (ha : a < p.allocated) :
    (p.modify a f).stock + ↑(p.heap a).ready = p.stock + ↑(f (p.heap a)).ready := by
  have hupdate : (fun b => ((update p.heap a (f (p.heap a)) b).ready : Multiset Instance)) =
      update (fun b => ↑(p.heap b).ready) a ↑(f (p.heap a)).ready :=
    comp_update (fun mp : ModulePool => (mp.ready : Multiset Instance)) p.heap a (f (p.heap a))
  have ha' := Finset.mem_range.2 ha
  have hnew : (p.modify a f).stock =
      ↑(f (p.heap a)).ready + ∑ b ∈ Finset.range p.allocated \ {a}, ↑(p.heap b).ready := by
    rw [← Finset.sum_update_of_mem ha', ← hupdate]
    rfl
  rw [hnew, stock, ← Finset.add_sum_erase _ _ ha', Finset.sdiff_singleton_eq_erase]
  ac_rfl

variable {inst : Instance} {rest : List Instance}

lemma stock_take (ha : a < p.allocated) (hready : (p.heap a).ready = inst :: rest) :
    (p.modify a fun mp => { mp with ready := rest }).stock + {inst} = p.stock := by
  have hstock := stock_modify p (fun mp => { mp with ready := rest }) ha
  rw [hready, ← cons_coe, ← singleton_add, ← add_assoc] at hstock
  exact add_right_cancel hstock

lemma stock_store (inst : Instance) (ha : a < p.allocated) :
    (p.modify a fun mp => { mp with ready := mp.ready ++ [inst] }).stock = p.stock + {inst} := by
  have hstock := stock_modify p (fun mp => { mp with ready := mp.ready ++ [inst] }) ha
  rw [← coe_add, ← add_assoc, add_right_comm] at hstock
  exact add_right_cancel hstock

lemma stock_congr (hallocated : p'.allocated = p.allocated) (hready : ∀ b, (p'.heap b).ready = (p.heap b).ready) :
    p'.stock = p.stock := by
  simp only [stock, hallocated, hready]

lemma stock_modify_of_ready (p : ReactorPool) (a : Nat) (hready : ∀ mp, (f mp).ready = mp.ready) :
    (p.modify a f).stock = p.stock :=
  stock_congr rfl fun b => by grind

lemma Valid.replace (h : Valid p (t ::ₘ ts)) (htarget : p'.target = p.target) (hpools : p'.pools = p.pools)
    (hallocated : p'.allocated = p.allocated) (hwarmed : p'.warmed = p.warmed)
    (hinflight : ∀ b, (p'.heap b).inflight = (p.heap b).inflight)
    (hready : ∀ b, (p'.heap b).ready.length ≤ (p.heap b).ready.length)
    (hwarms : ∀ b, t.warms b = false) (hnew : ∀ t' ∈ new, ∀ b, t'.warms b = false)
    (huses : ∀ t' ∈ new, ∀ b ∈ t'.uses, b ∈ t.uses)
    (hdrains : ∀ b, t.drains b → (p'.heap b).ready = [] ∨ ∃ t' ∈ new, t'.drains b)
    (hplaced : (p'.returned : Multiset Instance) + p'.closed + (new.map Task.holds).sum + p'.stock =
      p.returned + p.closed + t.holds + p.stock) : Valid p' (ts + ↑new) := by
  have hcount : ∀ b, (ts + (new : Multiset Task)).countP (fun t' => t'.warms b) =
      (t ::ₘ ts).countP (fun t' => t'.warms b) := by
    intro b
    have hzero : Multiset.countP (fun t' => t'.warms b) (new : Multiset Task) = 0 :=
      countP_eq_zero.2 fun t' ht' => by simp [hnew t' ht' b]
    grind [countP_cons_of_neg, countP_add]
  obtain ⟨hlive, huse, hflight, hroom, hdrained, hserial, hplace⟩ := h
  constructor
  case live => simpa only [ReactorPool.Live, hpools, hallocated] using hlive
  case uses => grind [mem_coe]
  case inflight =>
    intro b hb
    rw [hinflight, hcount, hflight b (hallocated ▸ hb)]
  case room => grind
  case drained =>
    intro b hb hne
    have hne' : (p.heap b).ready ≠ [] := by grind [List.length_eq_zero_iff]
    grind [ReactorPool.Live, mem_coe]
  case serial => grind
  case placed => grind [map_cons, sum_cons, Multiset.map_add, map_coe, sum_coe]

lemma Valid.congr (h : Valid p ts) (htarget : p'.target = p.target) (hpools : p'.pools = p.pools)
    (hallocated : p'.allocated = p.allocated) (hwarmed : p'.warmed = p.warmed) (hreturned : p'.returned = p.returned)
    (hclosed : p'.closed = p.closed) (hready : ∀ b, (p'.heap b).ready = (p.heap b).ready)
    (hinflight : ∀ b, (p'.heap b).inflight = (p.heap b).inflight) : Valid p' ts where
  live := by simpa only [ReactorPool.Live, hpools, hallocated] using h.live
  uses := by simpa only [hallocated] using h.uses
  inflight := by simpa only [hallocated, hinflight] using h.inflight
  room := by simpa only [hallocated, hready, hinflight, htarget] using h.room
  drained := by simpa only [hallocated, hready, ReactorPool.Live, hpools] using h.drained
  serial := by simpa only [hwarmed] using h.serial
  placed := by simpa only [hwarmed, hreturned, hclosed, stock_congr hallocated hready] using h.placed

lemma Valid.add (h : Valid p ts) (huses : ∀ b ∈ t.uses, b < p.allocated) (hwarms : ∀ b, t.warms b = false)
    (hholds : t.holds = 0) : Valid p (t ::ₘ ts) := by
  obtain ⟨hlive, huse, hflight, hroom, hdrained, hserial, hplace⟩ := h
  refine ⟨hlive, by grind, fun b hb => ?_, hroom, by grind, hserial, ?_⟩
  all_goals grind [countP_cons_of_neg, map_cons, sum_cons]

lemma Valid.drop (h : Valid p (t ::ₘ ts)) (hwarms : ∀ b, t.warms b = false) (hdrains : ∀ b, ¬ t.drains b)
    (hholds : t.holds = 0) : Valid p ts := by
  have hreplace : Valid p (ts + ↑([] : List Task)) := by
    refine h.replace rfl rfl rfl rfl (fun _ => rfl) (fun _ => le_refl _) hwarms (by simp) (by simp) ?_ ?_
    all_goals grind
  rwa [coe_nil, add_zero] at hreplace

attribute [local simp] Task.uses Task.warms

lemma Valid.refill (h : Valid p ts) (cid : Bytes) (ha : a < p.allocated) :
    Valid (p.refill cid a).1 (ts + ↑(p.refill cid a).2) := by
  rw [ReactorPool.refill]
  split
  · rw [coe_nil, add_zero]
    exact h
  · next hneed =>
    have hcount : ∀ b, Multiset.countP (fun t => t.warms b) ((p.names cid a).map Task.warmOne : Multiset Task) =
        if b = a then (p.need a).toNat else 0 := by
      intro b
      rw [coe_countP, ReactorPool.names, List.map_map, List.countP_map]
      by_cases hb : b = a
      · subst hb
        simp [comp_def]
      · simp [comp_def, hb, Ne.symm hb]
    obtain ⟨hlive, huse, hflight, hroom, hdrained, hserial, hplace⟩ := h
    refine ⟨hlive, ?_, fun b hb => ?_, ?_, by grind, hserial, ?_⟩
    · simp only [mem_add, mem_coe, List.mem_map]
      grind [ReactorPool.names]
    · have hflight' := hflight b hb
      rw [countP_add, hcount]
      grind
    · have hneed' : p.need a = p.target - ((p.heap a).ready.length + (p.heap a).inflight) := rfl
      grind
    · have hstock := stock_modify_of_ready p a fun mp => (rfl : { mp with
        nameSeq := mp.nameSeq + UInt64.ofNat (p.need a).toNat,
        inflight := mp.inflight + (p.need a).toNat }.ready = mp.ready)
      have hholds : (((p.names cid a).map Task.warmOne).map Task.holds).sum = 0 :=
        List.sum_eq_zero (by simp [Task.holds])
      rw [Multiset.map_add, sum_add, map_coe, sum_coe, hholds, add_zero, hstock]
      exact hplace

variable {label : Label}

lemma Valid.endWarm (h : Valid p (.warmOne label ::ₘ ts)) :
    Valid (p.modify label.pool fun mp => { mp with inflight := mp.inflight - 1 }) ts := by
  have hcount : ∀ b, (.warmOne label ::ₘ ts).countP (fun t => t.warms b) =
      ts.countP (fun t => t.warms b) + if b = label.pool then 1 else 0 := by
    grind [countP_cons]
  obtain ⟨hlive, huse, hflight, hroom, hdrained, hserial, hplace⟩ := h
  refine ⟨hlive, by grind, fun b hb => ?_, by grind, by grind, hserial, ?_⟩
  · have hflight' := hflight b hb
    rw [hcount] at hflight'
    grind
  have hholds : (Task.warmOne label).holds = 0 := rfl
  rw [map_cons, sum_cons, hholds, zero_add] at hplace
  have hstock := stock_modify_of_ready p label.pool fun mp =>
    (rfl : { mp with inflight := mp.inflight - 1 }.ready = mp.ready)
  rw [hstock]
  exact hplace

lemma Valid.produce (h : Valid p ts) (label : Label) :
    Valid { p with warmed := p.warmed ++ [⟨p.warmed.length, label⟩] } (.discard ⟨p.warmed.length, label⟩ ::ₘ ts) := by
  obtain ⟨hlive, huse, hflight, hroom, hdrained, hserial, hplace⟩ := h
  refine ⟨hlive, by grind, fun b hb => ?_, hroom, ?_, ?_, ?_⟩
  · grind [countP_cons_of_neg]
  · intro b hb hne
    refine (hdrained b hb hne).imp_right ?_
    grind
  · rw [List.map_append, hserial, List.length_append, List.length_singleton, List.range_succ, List.map_singleton]
  · rw [map_cons, sum_cons, Task.holds, ← coe_add, ← hplace, coe_singleton]
    simp only [stock]
    ac_rfl

lemma Valid.store (h : Valid p (.discard inst ::ₘ ts)) (hpool : p.Live a)
    (hlt : (p.heap a).ready.length + (p.heap a).inflight < p.target) :
    Valid (p.modify a fun mp => { mp with ready := mp.ready ++ [inst] }) ts := by
  obtain ⟨hlive, huse, hflight, hroom, hdrained, hserial, hplace⟩ := h
  refine ⟨hlive, by grind, fun b hb => ?_, by grind, by grind, hserial, ?_⟩
  · grind [countP_cons_of_neg]
  · rw [map_cons, sum_cons, Task.holds] at hplace
    rw [stock_store inst (hlive a hpool)]
    exact Eq.trans (by ac_rfl) hplace

lemma Valid.warmOne (h : Valid p (.warmOne label ::ₘ ts)) (ok : Bool) :
    Valid (p.warmOne label ok).1 (ts + ↑(p.warmOne label ok).2) := by
  have hpool : label.pool < p.allocated := h.uses _ (mem_cons_self _ ts) _ (List.mem_singleton.2 rfl)
  have hroom := h.room label.pool hpool
  have hend := h.endWarm
  rw [ReactorPool.warmOne]
  cases ok with
  | false => simpa using hend
  | true =>
    have hproduced := hend.produce label
    rw [if_pos rfl]
    dsimp only
    split
    · next hstored =>
      rw [Bool.and_eq_true, decide_eq_true_eq, decide_eq_true_eq] at hstored
      rw [coe_nil, add_zero]
      refine hproduced.store ⟨_, (get_eq_some.1 hstored.1).1, rfl⟩ ?_
      simp only [ReactorPool.modify, update_self]
      omega
    · rw [coe_singleton, add_comm, singleton_add]
      exact hproduced

lemma Valid.detach (h : Valid p ts) {pools : Keyed PoolRef PoolRef.wasmCID} {addresses : List Nat}
    (hsub : ∀ r ∈ pools.rows, r ∈ p.pools.rows) (hgone : ∀ r ∈ p.pools.rows, r ∉ pools.rows → r.address ∈ addresses)
    (haddresses : ∀ b ∈ addresses, b < p.allocated) : Valid { p with pools } (.drain addresses none ::ₘ ts) := by
  obtain ⟨hlive, huse, hflight, hroom, hdrained, hserial, hplace⟩ := h
  have hholds : (Task.drain addresses none).holds = 0 := rfl
  constructor
  case live =>
    rintro b ⟨r, hr, rfl⟩
    exact hlive _ ⟨r, hsub r hr, rfl⟩
  case uses => grind
  case inflight => grind [countP_cons_of_neg]
  case room => exact hroom
  case drained =>
    intro b hb hne
    obtain ⟨r, hr, rfl⟩ | ⟨t, ht, hdrain⟩ := hdrained b hb hne
    · by_cases hr' : r ∈ pools.rows
      · exact .inl ⟨r, hr', rfl⟩
      · exact .inr ⟨_, mem_cons_self _ ts, hgone r hr hr'⟩
    · exact .inr ⟨t, mem_cons_of_mem ht, hdrain⟩
  case serial => exact hserial
  case placed =>
    rw [map_cons, sum_cons, hholds, zero_add]
    exact hplace

lemma Valid.detach_one {r : PoolRef} (h : Valid p ts) (hr : r ∈ p.pools.rows) :
    Valid { p with pools := p.pools.delete fun r' => r'.wasmCID = r.wasmCID } (.drain [r.address] none ::ₘ ts) := by
  refine h.detach (fun r' hr' => List.mem_of_mem_filter hr') ?_ ?_
  · grind [eq_of_key, delete]
  · intro b hb
    rw [List.mem_singleton.1 hb]
    exact h.live _ ⟨r, hr, rfl⟩

lemma exists_foldl_older (refs : List PoolRef) (o : PoolRef) :
    ∃ r ∈ o :: refs, refs.foldl p.older (some o) = some r := by
  induction refs generalizing o with
  | nil => exact ⟨o, List.mem_cons_self, rfl⟩
  | cons x refs ih =>
    have holder : p.older (some o) x = some x ∨ p.older (some o) x = some o := ite_eq_or_eq ..
    have hx := ih x
    have ho := ih o
    grind

lemma oldest_cases (p : ReactorPool) (order : Iteration PoolRef) :
    (p.pools.rows = [] ∧ p.oldest (order.list p.pools.rows) = none) ∨
    ∃ r ∈ p.pools.rows, p.oldest (order.list p.pools.rows) = some r := by
  cases hrefs : order.list p.pools.rows with
  | nil =>
    have hperm := order.perm p.pools.rows
    rw [hrefs] at hperm
    exact .inl ⟨List.nil_perm.1 hperm, rfl⟩
  | cons x refs =>
    obtain ⟨r, hr, hfold⟩ := exists_foldl_older (p := p) refs x
    rw [← hrefs, Iteration.mem_list] at hr
    exact .inr ⟨r, hr, hfold⟩

lemma evictLRULocked_eq (order : Iteration PoolRef) (excess : Nat) (p : ReactorPool) :
    (ReactorPool.evictLRULocked order excess p).1 =
    { p with pools := (ReactorPool.evictLRULocked order excess p).1.pools } := by
  induction excess generalizing p with
  | zero => rfl
  | succ excess ih =>
    rw [evictLRULocked]
    split
    · rfl
    · dsimp only
      rw [ih]

lemma Valid.evictLRULocked (h : Valid p ts) (order : Iteration PoolRef) (excess : Nat) :
    Valid (ReactorPool.evictLRULocked order excess p).1
      (ts + ↑(ReactorPool.drains (ReactorPool.evictLRULocked order excess p).2)) := by
  induction excess generalizing p ts with
  | zero => simpa [evictLRULocked, drains] using h
  | succ excess ih =>
    rw [evictLRULocked]
    obtain ⟨-, hnone⟩ | ⟨victim, hmem, hsome⟩ := oldest_cases p order
    · rw [hnone]
      simpa [drains] using h
    · rw [hsome]
      have hrest := ih (h.detach_one hmem)
      rw [cons_add, ← add_cons, cons_coe] at hrest
      exact hrest

lemma length_evictLRULocked (order : Iteration PoolRef) (excess : Nat) (p : ReactorPool) :
    (ReactorPool.evictLRULocked order excess p).1.pools.rows.length ≤ p.pools.rows.length - excess := by
  induction excess generalizing p with
  | zero => exact le_refl _
  | succ excess ih =>
    rw [evictLRULocked]
    obtain ⟨hempty, hnone⟩ | ⟨victim, hmem, hsome⟩ := oldest_cases p order
    · rw [hnone, hempty]
      exact zero_le _
    · rw [hsome]
      have hlt : (p.pools.delete fun r => r.wasmCID = victim.wasmCID).rows.length < p.pools.rows.length :=
        List.length_filter_lt_length_iff_exists.2 ⟨victim, hmem, by simp⟩
      have hrest := ih { p with pools := p.pools.delete fun r => r.wasmCID = victim.wasmCID }
      dsimp only at hrest ⊢
      omega

lemma countP_warms_eq_zero (h : Valid p ts) (ha : p.allocated ≤ a) : ts.countP (fun t => t.warms a) = 0 := by
  refine countP_eq_zero.2 fun t ht hwarms => ?_
  cases t with
  | warmOne label =>
    have hpool := h.uses _ ht label.pool (List.mem_singleton.2 rfl)
    rw [Task.warms, decide_eq_true_eq] at hwarms
    omega
  | _ => cases hwarms

lemma heap_create (p : ReactorPool) (cid : Bytes) (b : Nat) :
    (p.create cid).heap b = if b = p.allocated then ⟨[], 0, 0, 0⟩ else p.heap b := update_apply ..

lemma stock_create (p : ReactorPool) (cid : Bytes) : (p.create cid).stock = p.stock := by
  have hallocated : (p.create cid).allocated = p.allocated + 1 := rfl
  rw [stock, hallocated, Finset.sum_range_succ, heap_create, if_pos rfl, coe_nil, add_zero, stock]
  grind [Finset.sum_congr, heap_create]

section
variable (h : Valid p ts)
include h

lemma Valid.create {cid : Bytes} (hget : p.pools.get cid = none) : Valid (p.create cid) ts := by
  have hzero := countP_warms_eq_zero h (le_refl _)
  have hallocated : (p.create cid).allocated = p.allocated + 1 := rfl
  have htarget : (p.create cid).target = p.target := rfl
  obtain ⟨hlive, huse, hflight, hroom, hdrained, hserial, hplace⟩ := h
  have hlive' : ∀ b, (p.create cid).Live b ↔ b = p.allocated ∨ p.Live b := by
    intro b
    have hkey := get_eq_none.1 hget
    simp only [ReactorPool.Live, ReactorPool.create, mem_put]
    grind
  refine ⟨by grind, by grind, fun b hb => ?_, by grind [heap_create], by grind [heap_create], hserial, ?_⟩
  · rw [heap_create]
    split
    · next hb => rw [hb, hzero]; rfl
    · exact hflight b (by omega)
  · rw [stock_create]
    exact hplace

lemma Valid.lookup (cid : Bytes) : Valid (p.lookup cid).1 ts ∧ (p.lookup cid).2 < (p.lookup cid).1.allocated := by
  rw [ReactorPool.lookup]
  cases hget : p.pools.get cid with
  | some r => exact ⟨h, h.live _ ⟨r, (get_eq_some.1 hget).1, rfl⟩⟩
  | none => exact ⟨h.create hget, lt_succ_self _⟩

lemma Valid.modify (a : Nat) (hready : ∀ mp, (f mp).ready = mp.ready)
    (hinflight : ∀ mp, (f mp).inflight = mp.inflight) : Valid (p.modify a f) ts :=
  h.congr rfl rfl rfl rfl rfl rfl (by grind) (by grind)

lemma Valid.touch (a : Nat) : Valid (p.touch a) ts := by
  have hseq : Valid { p with useSeq := p.useSeq + 1 } ts :=
    h.congr rfl rfl rfl rfl rfl rfl (fun _ => rfl) fun _ => rfl
  exact hseq.modify a (fun _ => rfl) fun _ => rfl

lemma Valid.getOrCreatePoolLocked (order : Iteration PoolRef) (cid : Bytes) :
    Valid (p.getOrCreatePoolLocked order cid).1 (ts + ↑(ReactorPool.drains (p.getOrCreatePoolLocked order cid).2.2)) ∧
    (p.getOrCreatePoolLocked order cid).2.1 < (p.getOrCreatePoolLocked order cid).1.allocated := by
  obtain ⟨hlookup, haddress⟩ := h.lookup cid
  rw [ReactorPool.getOrCreatePoolLocked]
  refine ⟨(hlookup.touch _).evictLRULocked order _, ?_⟩
  dsimp only
  rw [evictLRULocked_eq]
  exact haddress

end

lemma Valid.take {t' : Task} (h : Valid p (t ::ₘ ts)) (ha : a ∈ t.uses) (hready : (p.heap a).ready = inst :: rest)
    (hholds : t.holds = 0) (hholds' : t'.holds = {inst}) (hwarms : ∀ b, t.warms b = false)
    (hwarms' : ∀ b, t'.warms b = false) (huses : ∀ b ∈ t'.uses, b ∈ t.uses) (hdrains : ∀ b, t.drains b → t'.drains b) :
    Valid (p.modify a fun mp => { mp with ready := rest }) (ts + ↑[t']) := by
  have hstock := stock_take (h.uses t (mem_cons_self t ts) a ha) hready
  grind [replace, ReactorPool.modify]

lemma Valid.close (h : Valid p (t ::ₘ ts)) (hholds : t.holds = {inst}) (hnew : (new.map Task.holds).sum = 0)
    (hwarms : ∀ b, t.warms b = false) (hwarms' : ∀ t' ∈ new, ∀ b, t'.warms b = false)
    (huses : ∀ t' ∈ new, ∀ b ∈ t'.uses, b ∈ t.uses) (hdrains : ∀ b, t.drains b → ∃ t' ∈ new, t'.drains b) :
    Valid { p with closed := p.closed ++ [inst] } (ts + ↑new) := by
  refine h.replace rfl rfl rfl rfl (fun _ => rfl) (fun _ => le_refl _) hwarms hwarms' huses ?_ ?_
  · exact fun b hb => .inr (hdrains b hb)
  · rw [hnew, hholds, ← coe_add, coe_singleton, add_zero, ← add_assoc]
    rfl

lemma Valid.idle (h : Valid p ts) : Valid p (ts + ↑([] : List Task)) := by rwa [coe_nil, add_zero]

lemma Valid.queued (h : Valid p (t ::ₘ ts)) : Valid p (ts + ↑[t]) := by rwa [coe_singleton, add_comm, singleton_add]

lemma Valid.drain {pools : List Nat} {closing : Option Instance} (h : Valid p (.drain pools closing ::ₘ ts))
    (o : Outcome) : Valid (ReactorPool.perform o p (.drain pools closing)).1
      (ts + ↑(ReactorPool.perform o p (.drain pools closing)).2) := by
  cases closing with
  | some inst =>
    have hclose : Valid { p with closed := p.closed ++ [inst] } (ts + ↑[Task.drain pools none]) :=
      h.close rfl rfl (fun _ => rfl) (by simp) (by simp) (by simp [Task.drains])
    cases pools <;> exact hclose
  | none =>
    cases pools with
    | nil =>
      have hts : Valid p ts := h.drop (fun _ => rfl) (by simp [Task.drains]) rfl
      exact hts.idle
    | cons a rest =>
      rw [perform]
      cases hready : (p.heap a).ready with
      | nil =>
        refine h.replace rfl rfl rfl rfl (fun _ => rfl) (fun _ => le_refl _) (fun _ => rfl) (by simp)
          (by simp +contextual [Task.uses]) ?_ rfl
        intro b hb
        obtain rfl | hb := List.mem_cons.1 hb
        · exact .inl hready
        · exact .inr ⟨_, List.mem_singleton.2 rfl, hb⟩
      | cons inst ready =>
        exact h.take List.mem_cons_self hready rfl rfl (fun _ => rfl) (fun _ => rfl) (fun _ => id) fun _ => id

lemma refill_returned (p : ReactorPool) (returned : List Instance) (cid : Bytes) (a : Nat) :
    { p with returned }.refill cid a = ({ (p.refill cid a).1 with returned }, (p.refill cid a).2) := by
  have hneed : { p with returned }.need a = p.need a := rfl
  rw [refill, refill, hneed]
  split <;> rfl

lemma returned_refill (p : ReactorPool) (cid : Bytes) (a : Nat) : (p.refill cid a).1.returned = p.returned := by
  rw [refill]
  split <;> rfl

lemma Valid.perform (h : Valid p (t ::ₘ ts)) (o : Outcome) :
    Valid (ReactorPool.perform o p t).1 (ts + ↑(ReactorPool.perform o p t).2) := by
  cases t with
  | acquire cid =>
    have hts : Valid p ts := h.drop (fun _ => rfl) (fun _ => id) rfl
    obtain ⟨hpool, haddress⟩ := hts.getOrCreatePoolLocked o.order cid
    have hadd := hpool.add (t := .receive cid (p.getOrCreatePoolLocked o.order cid).2.1)
      (by simpa using haddress) (fun _ => rfl) rfl
    rw [← add_cons, cons_coe] at hadd
    exact hadd
  | receive cid a =>
    rw [perform]
    cases hready : (p.heap a).ready with
    | nil =>
      exact h.replace rfl rfl rfl rfl (fun _ => rfl) (fun _ => le_refl _) (fun _ => rfl) (by simp)
        (by simp) (fun _ hb => hb.elim) rfl
    | cons inst rest =>
      exact h.take (List.mem_singleton.2 rfl) hready rfl rfl (fun _ => rfl) (fun _ => rfl) (fun _ => id) fun _ => id
  | refill cid a inst =>
    have ha : a < p.allocated := h.uses _ (mem_cons_self _ ts) a (List.mem_singleton.2 rfl)
    have hreturn : Valid { p with returned := p.returned ++ inst.toList }
        (ts + ↑(inst.toList.map fun inst => Task.use inst.label)) := by
      refine h.replace rfl rfl rfl rfl (fun _ => rfl) (fun _ => le_refl _) (fun _ => rfl) (by simp)
        (by simp) (fun _ hb => hb.elim) ?_
      have huse : ((inst.toList.map fun inst => Task.use inst.label).map Task.holds).sum = 0 := by
        cases inst <;> rfl
      rw [huse, ← coe_add, add_zero]
      exact congrArg (· + p.stock) (add_right_comm ..)
    have hrefill := hreturn.refill cid (a := a) ha
    grind [coe_add, refill_returned, returned_refill, perform]
  | instantiateSync cid =>
    have hts : Valid p ts := h.drop (fun _ => rfl) (fun _ => id) rfl
    obtain ⟨hpool, -⟩ := hts.getOrCreatePoolLocked o.order cid
    have hmodify := hpool.modify (p.getOrCreatePoolLocked o.order cid).2.1
      (f := fun mp => { mp with nameSeq := mp.nameSeq + 1 }) (fun _ => rfl) fun _ => rfl
    have hadd := hmodify.add (t := .cold ⟨cid, (p.getOrCreatePoolLocked o.order cid).2.1, true,
      ((p.getOrCreatePoolLocked o.order cid).1.heap (p.getOrCreatePoolLocked o.order cid).2.1).nameSeq + 1⟩)
      (by simp) (fun _ => rfl) rfl
    rw [← add_cons, cons_coe] at hadd
    exact hadd
  | cold label =>
    have hts : Valid p ts := h.drop (fun _ => rfl) (fun _ => id) rfl
    rw [perform]
    split
    · exact (hts.add (by simp) (fun _ => rfl) rfl).queued
    · exact hts.idle
  | use label =>
    have hts : Valid p ts := h.drop (fun _ => rfl) (fun _ => id) rfl
    exact hts.idle
  | warmOne label => exact h.warmOne o.warm
  | discard inst =>
    have hclose : Valid { p with closed := p.closed ++ [inst] } (ts + ↑([] : List Task)) :=
      h.close rfl rfl (fun _ => rfl) (by simp) (by simp) fun _ hb => hb.elim
    exact hclose
  | invalidate cid =>
    have hts : Valid p ts := h.drop (fun _ => rfl) (fun _ => id) rfl
    rw [perform]
    cases hget : p.pools.get cid with
    | none => exact hts.idle
    | some r =>
      obtain ⟨hr, rfl⟩ := get_eq_some.1 hget
      exact (hts.detach_one hr).queued
  | close =>
    have hts : Valid p ts := h.drop (fun _ => rfl) (fun _ => id) rfl
    have hdetach : Valid { p with pools := .empty }
        (.drain ((o.order.list p.pools.rows).map PoolRef.address) none ::ₘ ts) := by
      refine hts.detach nofun ?_ ?_
      · grind [Iteration.mem_list]
      · intro b hb
        obtain ⟨r, hr, rfl⟩ := List.mem_map.1 hb
        exact h.live _ ⟨r, (Iteration.mem_list o.order).1 hr, rfl⟩
    exact hdetach.queued
  | drain pools closing => exact h.drain o

lemma valid_keeps : reactorPool.Keeps (fun _ _ _ => True) Valid where
  call := by
    intro p ts call h
    cases call <;> exact h.add (by simp [reactorPool, Call.task]) (fun _ => rfl) rfl
  go p ts t o _ h := h.perform o

structure Capped (q p : ReactorPool) : Prop where
  target : p.target = q.target
  maxModules : p.maxModules = q.maxModules
  length_le : p.pools.rows.length ≤ q.maxModules

variable {q : ReactorPool}

lemma Capped.of_pools (h : Capped q p) (htarget : p'.target = p.target) (hmax : p'.maxModules = p.maxModules)
    (hpools : p'.pools.rows.length ≤ p.pools.rows.length) : Capped q p' :=
  ⟨htarget.trans h.target, hmax.trans h.maxModules, hpools.trans h.length_le⟩

lemma Capped.getOrCreatePoolLocked (h : Capped q p) (order : Iteration PoolRef) (cid : Bytes) :
    Capped q (p.getOrCreatePoolLocked order cid).1 := by
  have hlookup : (p.lookup cid).1.target = p.target ∧ (p.lookup cid).1.maxModules = p.maxModules := by
    rw [ReactorPool.lookup]
    split <;> exact ⟨rfl, rfl⟩
  have hlength := length_evictLRULocked order
    (((p.lookup cid).1.touch (p.lookup cid).2).pools.rows.length - ((p.lookup cid).1.touch (p.lookup cid).2).maxModules)
    ((p.lookup cid).1.touch (p.lookup cid).2)
  have hmax : ((p.lookup cid).1.touch (p.lookup cid).2).maxModules = q.maxModules := hlookup.2.trans h.maxModules
  rw [ReactorPool.getOrCreatePoolLocked]
  refine ⟨?_, ?_, ?_⟩ <;> dsimp only
  · rw [evictLRULocked_eq]
    exact hlookup.1.trans h.target
  · rw [evictLRULocked_eq]
    exact hmax
  · omega

lemma Capped.perform (h : Capped q p) (o : Outcome) (t : Task) : Capped q (ReactorPool.perform o p t).1 := by
  cases t with
  | acquire cid => exact h.getOrCreatePoolLocked o.order cid
  | instantiateSync cid => exact (h.getOrCreatePoolLocked o.order cid).of_pools rfl rfl (le_refl _)
  | invalidate cid =>
    rw [ReactorPool.perform]
    split
    · exact h
    · exact h.of_pools rfl rfl (List.length_filter_le ..)
  | close => exact h.of_pools rfl rfl (zero_le _)
  | refill cid a inst =>
    rw [ReactorPool.perform, ReactorPool.refill]
    split <;> exact h.of_pools rfl rfl (le_refl _)
  | warmOne label =>
    simp only [ReactorPool.perform, ReactorPool.warmOne]
    split_ifs <;> exact h.of_pools rfl rfl (le_refl _)
  | receive cid a =>
    rw [ReactorPool.perform]
    split <;> exact h.of_pools rfl rfl (le_refl _)
  | drain pools closing =>
    rw [ReactorPool.perform.eq_def]
    dsimp only
    split <;> (try split) <;> first | exact h.of_pools rfl rfl (le_refl _) | simp_all
  | cold | use | discard => exact h.of_pools rfl rfl (le_refl _)

lemma capped_keeps (q : ReactorPool) : reactorPool.Keeps (fun _ _ _ => True) fun p _ => Capped q p where
  call _ _ _ h := h
  go _ _ t o _ h := h.perform o t

lemma valid_new (target maxModules : Int) : Valid (.new target maxModules) 0 where
  live := by
    rintro b ⟨r, hr, -⟩
    cases hr
  uses := by
    intro t ht
    cases ht
  inflight := fun b hb => absurd hb (not_lt_zero b)
  room := fun b hb => absurd hb (not_lt_zero b)
  drained := fun b hb => absurd hb (not_lt_zero b)
  serial := rfl
  placed := rfl

def start (target maxModules : Int) : Tasks ReactorPool Task := ⟨.new target maxModules, []⟩

variable {x : Instance}

lemma mem_stock : x ∈ p.stock ↔ ∃ a < p.allocated, x ∈ (p.heap a).ready := by simp [stock, mem_sum]

lemma mem_sum_map_holds : x ∈ (ts.map Task.holds).sum ↔ ∃ t ∈ ts, x ∈ t.holds :=
  mem_bind

/-- Each instance that is warmed is returned or closed once, unless it is ready in a live pool or in the hands of a
goroutine, and no pool and no map of pools gets larger than it may. -/
theorem oneShot_of_run (target maxModules : Int) (moves : List (Move Call Outcome)) :
    let c := reactorPool.run (start target maxModules) moves
    (c.shared.returned ++ c.shared.closed).Nodup ∧ (∀ x ∈ c.shared.returned ++ c.shared.closed, x ∈ c.shared.warmed) ∧
      (∀ x ∈ c.shared.warmed, x ∈ c.shared.returned ∨ x ∈ c.shared.closed ∨
      (∃ r ∈ c.shared.pools.rows, x ∈ (c.shared.heap r.address).ready) ∨
      ∃ t ∈ c.tasks, x ∈ t.holds ∨ ∃ a, t.drains a ∧ x ∈ (c.shared.heap a).ready) ∧
      (∀ r ∈ c.shared.pools.rows, (c.shared.heap r.address).ready.length + (c.shared.heap r.address).inflight ≤
      (ReactorPool.new target maxModules).target) ∧
      c.shared.pools.rows.length ≤ (ReactorPool.new target maxModules).maxModules := by
  intro c
  have hvalid : Valid c.shared c.tasks := valid_keeps.run (valid_new target maxModules) moves
  have hcapped : Capped (.new target maxModules) c.shared :=
    (capped_keeps _).run (c := start target maxModules) ⟨rfl, rfl, zero_le _⟩ moves
  have hplaced := hvalid.placed
  rw [add_assoc, coe_add] at hplaced
  have hnodup : c.shared.warmed.Nodup := by
    refine List.Nodup.of_map Instance.serial ?_
    rw [hvalid.serial]
    exact List.nodup_range
  have hle : ((c.shared.returned ++ c.shared.closed : List Instance) : Multiset Instance) ≤ c.shared.warmed :=
    hplaced ▸ Multiset.le_add_right ..
  refine ⟨coe_nodup.1 (nodup_of_le hle (coe_nodup.2 hnodup)), fun x hx => mem_of_le hle hx, ?_, ?_, hcapped.length_le⟩
  · intro x hx
    have hmem : x ∈ (c.shared.warmed : Multiset Instance) := hx
    rw [← hvalid.placed] at hmem
    simp only [mem_add, mem_coe, or_assoc] at hmem
    obtain hx | hx | hx | hx := hmem
    · exact .inl hx
    · exact .inr (.inl hx)
    · obtain ⟨t, ht, hxt⟩ := mem_sum_map_holds.1 hx
      exact .inr (.inr (.inr ⟨t, ht, .inl hxt⟩))
    · obtain ⟨a, ha, hxa⟩ := mem_stock.1 hx
      obtain hlive | ⟨t, ht, hdrain⟩ := hvalid.drained a ha (List.ne_nil_of_mem hxa)
      · obtain ⟨r, hr, rfl⟩ := hlive
        exact .inr (.inr (.inl ⟨r, hr, hxa⟩))
      · exact .inr (.inr (.inr ⟨t, ht, .inr ⟨a, hdrain, hxa⟩⟩))
  · intro r hr
    rw [← hcapped.target]
    exact hvalid.room _ (hvalid.live _ ⟨r, hr, rfl⟩)

def acquireTwice : List (Move Call Outcome) :=
  .call (.acquire (ascii "bafybei")) :: List.replicate 4 (.go 0 ⟨true, .inOrder⟩) ++
    .call (.acquire (ascii "bafybei")) :: List.replicate 3 (.go 0 ⟨true, .inOrder⟩)

def firstWarmed : Instance := ⟨0, ⟨ascii "bafybei", 0, false, 1⟩⟩

theorem oneShot_of_acquireTwice :
    let c := reactorPool.run (start 1 1) acquireTwice
    (c.shared.returned ++ c.shared.closed).Nodup ∧ c.shared.returned = [firstWarmed] ∧
      (firstWarmed ∈ c.shared.returned ∨ firstWarmed ∈ c.shared.closed ∨
      (∃ r ∈ c.shared.pools.rows, firstWarmed ∈ (c.shared.heap r.address).ready) ∨
      ∃ t ∈ c.tasks, firstWarmed ∈ t.holds ∨ ∃ a, t.drains a ∧ firstWarmed ∈ (c.shared.heap a).ready) := by
  have hwarmed : firstWarmed ∈ (reactorPool.run (start 1 1) acquireTwice).shared.warmed := by decide +kernel
  obtain ⟨hnodup, -, hplaces, -⟩ := oneShot_of_run 1 1 acquireTwice
  exact ⟨hnodup, by decide +kernel, hplaces firstWarmed hwarmed⟩

end Orama.Serverless.Reactor
