import Orama.Lib.Strings
import Orama.Serverless.ReactorPool

namespace Orama.Serverless.Reactor
open Lib Multiset

def Task.labels : Task → Multiset Label
  | .refill _ _ inst => inst.toList.map Instance.label
  | .cold label | .use label | .warmOne label => {label}
  | .discard inst => {inst.label}
  | .drain _ closing => closing.toList.map Instance.label
  | _ => 0

def alive (p : ReactorPool) (ts : Multiset Task) : Multiset Label :=
  (ts.map Task.labels).sum + p.stock.map Instance.label

def aliveNames (c : Tasks ReactorPool Task) : Multiset Bytes := (alive c.shared c.tasks).map Label.name

/-- A pool may name instances of a module when no other pool has named an instance that is alive after the same part
of a module's CID, when that part has no dash, and when the counter does not overflow. -/
structure MayName (p : ReactorPool) (ts : Multiset Task) (cid : Bytes) (a n : Nat) (seq : UInt64) : Prop where
  plain : 45 ∉ shortCID cid
  same : ∀ l ∈ alive p ts, shortCID l.wasmCID = shortCID cid → l.pool = a
  seq_lt : seq.toNat + n < 2 ^ 64

def Fresh (p : ReactorPool) (ts : Multiset Task) : Task → Prop
  | .refill cid a _ => MayName p ts cid a p.target (p.heap a).nameSeq
  | .instantiateSync cid =>
    MayName p ts cid (p.lookup cid).2 1 ((p.lookup cid).1.heap (p.lookup cid).2).nameSeq
  | _ => True

variable {p p' : ReactorPool} {t : Task} {ts : Multiset Task} {a b : Nat} {A B : Multiset Label} {l l' : Label}

lemma ascii_dash : ascii "-" = [45] := by decide +kernel

lemma ascii_cold : ascii "-cold-" = 45 :: ascii "cold-" := by decide +kernel

def Label.suffix (l : Label) : Bytes := (if l.cold then ascii "cold-" else []) ++ decimal l.seq.toNat

open Label UInt64 ReactorPool

lemma name_eq (l : Label) : l.name = ascii "reactor-" ++ (shortCID l.wasmCID ++ 45 :: l.suffix) := by
  rw [name, suffix]
  cases l.cold
  · simp [ascii_dash]
  · simp [ascii_cold]

lemma decimal_injective : Function.Injective decimal := by
  intro m n h
  grind [accumulate_decimal]

lemma decimal_ne_cold (m n : Nat) : decimal m ≠ ascii "cold-" ++ decimal n := by
  intro h
  have hmem : 99 ∈ decimal m := by
    rw [h, List.mem_append]
    exact .inl (by decide +kernel)
  obtain ⟨d, hd, heq⟩ := isDigit_of_mem_decimal hmem
  revert heq
  revert d
  decide

lemma suffix_inj (h : l.suffix = l'.suffix) : l.seq = l'.seq := by
  rw [suffix, suffix] at h
  apply UInt64.toNat_inj.1
  revert h
  cases l.cold <;> cases l'.cold <;> intro h
  · exact decimal_injective (by simpa using h)
  · grind [decimal_ne_cold]
  · grind [decimal_ne_cold]
  · exact decimal_injective (by simpa using h)

lemma name_inj (hl : 45 ∉ shortCID l.wasmCID) (hl' : 45 ∉ shortCID l'.wasmCID) (h : l.name = l'.name) :
    shortCID l.wasmCID = shortCID l'.wasmCID ∧ l.seq = l'.seq := by
  grind [name_eq, List.append_cancel_left, cut_append, suffix_inj]

/-- The names that are alive are those of known pools, no later than the counters, and those of one part of a CID are
of one pool. -/
structure Named (p : ReactorPool) (A : Multiset Label) : Prop where
  pool_lt : ∀ l ∈ A, l.pool < p.allocated
  seq_le : ∀ l ∈ A, l.seq.toNat ≤ (p.heap l.pool).nameSeq.toNat
  plain : ∀ l ∈ A, 45 ∉ shortCID l.wasmCID
  same : ∀ l ∈ A, ∀ l' ∈ A, shortCID l.wasmCID = shortCID l'.wasmCID → l.pool = l'.pool
  nodup : (A.map fun l => (l.pool, l.seq)).Nodup

lemma Named.nodup_names (h : Named p A) : (A.map name).Nodup := by
  refine Multiset.Nodup.map_on ?_ (Multiset.Nodup.of_map _ h.nodup)
  intro l hl l' hl' hname
  obtain ⟨hshort, hseq⟩ := name_inj (h.plain l hl) (h.plain l' hl') hname
  exact inj_on_of_nodup_map h.nodup l hl l' hl' (Prod.ext (h.same l hl l' hl' hshort) hseq)

lemma Named.mono (h : Named p A) (hle : B ≤ A) (hallocated : p.allocated ≤ p'.allocated)
    (hseq : ∀ b < p.allocated, (p'.heap b).nameSeq = (p.heap b).nameSeq) : Named p' B where
  pool_lt l hl := (h.pool_lt l (mem_of_le hle hl)).trans_le hallocated
  seq_le := by
    intro l hl
    have hl' := mem_of_le hle hl
    rw [hseq _ (h.pool_lt l hl')]
    exact h.seq_le l hl'
  plain l hl := h.plain l (mem_of_le hle hl)
  same l hl l' hl' := h.same l (mem_of_le hle hl) l' (mem_of_le hle hl')
  nodup := nodup_of_le (map_le_map hle) h.nodup

variable {cid : Bytes}

lemma Named.add (h : Named p A) (ha : a < p.allocated) (hplain : 45 ∉ shortCID cid)
    (hsame : ∀ l ∈ A, shortCID l.wasmCID = shortCID cid → l.pool = a)
    (hnew : ∀ l ∈ B, l.wasmCID = cid ∧ l.pool = a ∧ (p.heap a).nameSeq.toNat < l.seq.toNat ∧
      l.seq.toNat ≤ (p'.heap a).nameSeq.toNat) (hnodup : (B.map seq).Nodup) (hallocated : p'.allocated = p.allocated)
    (hle : (p.heap a).nameSeq.toNat ≤ (p'.heap a).nameSeq.toNat)
    (hother : ∀ b, b ≠ a → (p'.heap b).nameSeq = (p.heap b).nameSeq) : Named p' (A + B) where
  pool_lt := by
    intro l hl
    rw [hallocated]
    obtain hl | hl := mem_add.1 hl
    · exact h.pool_lt l hl
    · rw [(hnew l hl).2.1]
      exact ha
  seq_le := by
    intro l hl
    obtain hl | hl := mem_add.1 hl
    · by_cases hpool : l.pool = a
      · have hold := h.seq_le l hl
        rw [hpool] at hold ⊢
        exact hold.trans hle
      · rw [hother _ hpool]
        exact h.seq_le l hl
    · grind
  plain := by
    intro l hl
    obtain hl | hl := mem_add.1 hl
    · exact h.plain l hl
    · rw [(hnew l hl).1]
      exact hplain
  same := by
    intro l hl l' hl' hshort
    obtain hl | hl := mem_add.1 hl <;> obtain hl' | hl' := mem_add.1 hl'
    · exact h.same l hl l' hl' hshort
    · grind
    · grind
    · rw [(hnew l hl).2.1, (hnew l' hl').2.1]
  nodup := by
    rw [Multiset.map_add, nodup_add]
    refine ⟨h.nodup, ?_, ?_⟩
    · have hpair : B.map (fun l => (l.pool, l.seq)) = (B.map seq).map (Prod.mk a) := by
        grind [map_map, Multiset.map_congr]
      rw [hpair]
      exact hnodup.map (Prod.mk_right_injective a)
    · rw [disjoint_map_map]
      intro l hl l' hl' heq
      obtain ⟨-, hpool, hlt, -⟩ := hnew l' hl'
      rw [Prod.mk.injEq, hpool] at heq
      have hold := h.seq_le l hl
      rw [heq.1, heq.2] at hold
      omega

lemma alive_cons (p : ReactorPool) (t : Task) (ts : Multiset Task) : alive p (t ::ₘ ts) = t.labels + alive p ts := by
  rw [alive, alive, map_cons, sum_cons, add_assoc]

lemma labels_drains (victims : List Nat) : ((ReactorPool.drains victims).map Task.labels).sum = 0 := by
  rw [drains, List.map_map]
  exact List.sum_eq_zero (by simp [Task.labels])

lemma stock_getOrCreatePoolLocked (p : ReactorPool) (order : Iteration PoolRef) (cid : Bytes) :
    (p.getOrCreatePoolLocked order cid).1.stock = p.stock := by
  have hlookup : (p.lookup cid).1.stock = p.stock := by grind [stock_create, lookup]
  have htouch : ((p.lookup cid).1.touch (p.lookup cid).2).stock = (p.lookup cid).1.stock :=
    stock_modify_of_ready _ _ fun _ => rfl
  rw [getOrCreatePoolLocked, ← hlookup, ← htouch]
  dsimp only
  rw [evictLRULocked_eq]
  rfl

variable {inst : Instance} {rest : List Instance}

lemma map_stock_take (ha : a < p.allocated) (hready : (p.heap a).ready = inst :: rest) :
    {inst.label} + (p.modify a fun mp => { mp with ready := rest }).stock.map Instance.label =
    p.stock.map Instance.label := by
  rw [← stock_take ha hready, Multiset.map_add, map_singleton, add_comm]

def left (p : ReactorPool) (new : List Task) : Multiset Label := (new.map Task.labels).sum + p.stock.map Instance.label

lemma left_le {new : List Task} (hnew : (new.map Task.labels).sum = 0) (hstock : p'.stock = p.stock) :
    left p' new ≤ t.labels + p.stock.map Instance.label := by
  rw [left, hnew, hstock, zero_add]
  exact Multiset.le_add_left ..

lemma left_take {t' : Task} (ha : a < p.allocated) (hready : (p.heap a).ready = inst :: rest)
    (ht' : t'.labels = {inst.label}) :
    left (p.modify a fun mp => { mp with ready := rest }) [t'] ≤ t.labels + p.stock.map Instance.label := by
  grind [map_stock_take, Multiset.le_add_left, left]

lemma left_warmOne (p : ReactorPool) {label : Label} (hpool : label.pool < p.allocated) (ok : Bool) :
    left (p.warmOne label ok).1 (p.warmOne label ok).2 ≤ {label} + p.stock.map Instance.label := by
  have hend : (p.modify label.pool fun mp => { mp with inflight := mp.inflight - 1 }).stock = p.stock :=
    stock_modify_of_ready _ _ fun _ => rfl
  rw [warmOne]
  cases ok with
  | false => exact left_le (t := .warmOne label) rfl hend
  | true =>
    rw [if_pos rfl]
    dsimp only
    split
    · have hstore := stock_store (p := { p.modify label.pool fun mp => { mp with inflight := mp.inflight - 1 } with
        warmed := p.warmed ++ [⟨p.warmed.length, label⟩] }) ⟨p.warmed.length, label⟩ hpool
      rw [left, hstore, Multiset.map_add, map_singleton, List.map_nil, List.sum_nil, zero_add, add_comm]
      exact le_of_eq (congrArg _ (congrArg _ hend))
    · rw [left, List.map_singleton, List.sum_singleton]
      exact le_of_eq (congrArg _ (congrArg _ hend))

lemma left_drain {pools : List Nat} {closing : Option Instance}
    (huses : ∀ a ∈ pools, a < p.allocated) (o : Outcome) :
    left (ReactorPool.perform o p (.drain pools closing)).1 (ReactorPool.perform o p (.drain pools closing)).2 ≤
      (Task.drain pools closing).labels + p.stock.map Instance.label := by
  cases closing with
  | some inst => cases pools <;> exact left_le rfl rfl
  | none =>
    cases pools with
    | nil => exact left_le rfl rfl
    | cons a rest =>
      rw [perform]
      cases hready : (p.heap a).ready with
      | nil => exact left_le rfl rfl
      | cons inst ready => exact left_take (huses a List.mem_cons_self) hready rfl

def Task.names : Task → Bool
  | .refill _ _ _ | .instantiateSync _ => true
  | _ => false

lemma left_perform (huses : ∀ a ∈ t.uses, a < p.allocated) (hnames : t.names = false) (o : Outcome) :
    left (ReactorPool.perform o p t).1 (ReactorPool.perform o p t).2 ≤ t.labels + p.stock.map Instance.label := by
  cases t with
  | acquire cid =>
    refine left_le ?_ (stock_getOrCreatePoolLocked p o.order cid)
    rw [perform, List.map_cons, List.sum_cons, labels_drains]
    rfl
  | receive cid a =>
    rw [perform]
    cases hready : (p.heap a).ready with
    | nil => exact left_le rfl rfl
    | cons inst rest => exact left_take (huses a (List.mem_singleton.2 rfl)) hready rfl
  | refill cid a inst => cases hnames
  | instantiateSync cid => cases hnames
  | cold label =>
    rw [perform]
    cases o.warm with
    | false => exact left_le rfl rfl
    | true => exact le_of_eq (congrArg (· + _) (List.sum_singleton ..))
  | use label => exact left_le rfl rfl
  | warmOne label => exact left_warmOne p (huses label.pool (List.mem_singleton.2 rfl)) o.warm
  | discard inst => exact left_le rfl rfl
  | invalidate cid =>
    rw [perform]
    split <;> exact left_le rfl rfl
  | close => exact left_le rfl rfl
  | drain pools closing => exact left_drain huses o

lemma alive_add_eq (p : ReactorPool) (ts : Multiset Task) (new : List Task) :
    alive p (ts + ↑new) = left p new + (ts.map Task.labels).sum := by
  rw [alive, left, Multiset.map_add, sum_add, map_coe, sum_coe]
  ac_rfl

lemma alive_perform (h : Valid p (t ::ₘ ts)) (hnames : t.names = false) (o : Outcome) :
    alive (ReactorPool.perform o p t).1 (ts + ↑(ReactorPool.perform o p t).2) ≤ alive p (t ::ₘ ts) := by
  rw [alive_add_eq, alive_cons, alive]
  calc _ ≤ t.labels + p.stock.map Instance.label + (ts.map Task.labels).sum :=
        add_le_add_left (left_perform (h.uses t (mem_cons_self t ts)) hnames o) _
    _ = _ := by ac_rfl

def SameSeq (p p' : ReactorPool) : Prop :=
  p.allocated ≤ p'.allocated ∧ ∀ b < p.allocated, (p'.heap b).nameSeq = (p.heap b).nameSeq

lemma SameSeq.refl (p : ReactorPool) : SameSeq p p := ⟨Nat.le_refl _, fun _ _ => rfl⟩

lemma sameSeq_modify (p : ReactorPool) (a : Nat) {f : ModulePool → ModulePool}
    (hf : ∀ mp, (f mp).nameSeq = mp.nameSeq) : SameSeq p (p.modify a f) := by
  refine ⟨Nat.le_refl _, fun b _ => ?_⟩
  rw [heap_modify]
  split
  · next hb => rw [hf, hb]
  · rfl

lemma SameSeq.trans {q : ReactorPool} (h : SameSeq p p') (h' : SameSeq p' q) : SameSeq p q :=
  ⟨h.1.trans h'.1, fun b hb => (h'.2 b (hb.trans_le h.1)).trans (h.2 b hb)⟩

lemma sameSeq_lookup (p : ReactorPool) (cid : Bytes) : SameSeq p (p.lookup cid).1 := by
  rw [lookup]
  split
  · exact .refl p
  · refine ⟨Nat.le_succ _, fun b hb => ?_⟩
    rw [heap_create, if_neg (Nat.ne_of_lt hb)]

lemma heap_getOrCreatePoolLocked (p : ReactorPool) (order : Iteration PoolRef) (cid : Bytes) :
    (p.getOrCreatePoolLocked order cid).1.allocated = (p.lookup cid).1.allocated ∧
    ∀ b, ((p.getOrCreatePoolLocked order cid).1.heap b).nameSeq = ((p.lookup cid).1.heap b).nameSeq := by
  rw [getOrCreatePoolLocked]
  dsimp only
  rw [evictLRULocked_eq]
  grind [touch]

lemma sameSeq_getOrCreatePoolLocked (p : ReactorPool) (order : Iteration PoolRef) (cid : Bytes) :
    SameSeq p (p.getOrCreatePoolLocked order cid).1 := by
  obtain ⟨hallocated, hseq⟩ := heap_getOrCreatePoolLocked p order cid
  exact (sameSeq_lookup p cid).trans ⟨hallocated.ge, fun b _ => hseq b⟩

lemma sameSeq_perform (hnames : t.names = false) (o : Outcome) : SameSeq p (ReactorPool.perform o p t).1 := by
  cases t with
  | acquire cid => exact sameSeq_getOrCreatePoolLocked p o.order cid
  | receive cid a => grind [SameSeq.refl, sameSeq_modify, perform]
  | refill cid a inst => cases hnames
  | instantiateSync cid => cases hnames
  | warmOne label =>
    have hend := sameSeq_modify p label.pool fun mp =>
      (rfl : { mp with inflight := mp.inflight - 1 }.nameSeq = mp.nameSeq)
    rw [perform, warmOne]
    cases o.warm with
    | false => exact hend
    | true =>
      rw [if_pos rfl]
      dsimp only
      split
      · have hstore := sameSeq_modify (p.modify label.pool fun mp => { mp with inflight := mp.inflight - 1 }) label.pool
          (f := fun mp => { mp with ready := mp.ready ++ [⟨p.warmed.length, label⟩] }) fun _ => rfl
        exact hend.trans hstore
      · exact hend
  | invalidate cid =>
    rw [perform]
    split <;> exact .refl p
  | drain pools closing =>
    cases closing with
    | some inst => cases pools <;> exact .refl p
    | none =>
      cases pools with
      | nil => exact .refl p
      | cons a rest =>
        rw [perform]
        split
        · exact .refl p
        · exact sameSeq_modify p a fun _ => rfl
  | cold label | use label | discard inst | close => exact .refl p

lemma toNat_add_ofNat {x : UInt64} {n : Nat} (h : x.toNat + n < 2 ^ 64) : (x + ofNat n).toNat = x.toNat + n := by
  grind [toNat_ofNat', UInt64.toNat_add]

lemma labels_warmOne (labels : List Label) :
    ((labels.map Task.warmOne).map Task.labels).sum = (labels : Multiset Label) := by
  induction labels with
  | nil => rfl
  | cons label labels ih =>
    rw [List.map_cons, List.map_cons, List.sum_cons, ih, ← cons_coe]
    exact singleton_add ..

lemma Named.refill (h : Named p A) (ha : a < p.allocated) (hplain : 45 ∉ shortCID cid)
    (hsame : ∀ l ∈ A, shortCID l.wasmCID = shortCID cid → l.pool = a)
    (hseq : (p.heap a).nameSeq.toNat + (p.need a).toNat < 2 ^ 64) :
    Named (p.refill cid a).1 (A + ((p.refill cid a).2.map Task.labels).sum) := by
  have htoNat : ∀ i < (p.need a).toNat,
      ((p.heap a).nameSeq + ofNat (i + 1)).toNat = (p.heap a).nameSeq.toNat + (i + 1) :=
    fun i hi => toNat_add_ofNat (by omega)
  rw [ReactorPool.refill]
  split
  · simpa using h
  · have hnew : ((p.modify a fun mp => { mp with
        nameSeq := mp.nameSeq + ofNat (p.need a).toNat, inflight := mp.inflight + (p.need a).toNat }).heap
          a).nameSeq.toNat = (p.heap a).nameSeq.toNat + (p.need a).toNat := by
      rw [heap_modify, if_pos rfl]
      exact toNat_add_ofNat hseq
    rw [labels_warmOne]
    refine h.add ha hplain hsame ?_ ?_ rfl ?_ ?_
    · intro l hl
      obtain ⟨i, hi, rfl⟩ := List.mem_map.1 hl
      grind
    · rw [map_coe, ReactorPool.names, List.map_map, coe_nodup]
      grind [List.Nodup.map_on]
    all_goals grind

lemma left_refill (p : ReactorPool) (cid : Bytes) (a : Nat) (inst : Option Instance) (o : Outcome) :
    left (ReactorPool.perform o p (.refill cid a inst)).1 (ReactorPool.perform o p (.refill cid a inst)).2 =
    (Task.refill cid a inst).labels + p.stock.map Instance.label + ((p.refill cid a).2.map Task.labels).sum := by
  have hstock : (p.refill cid a).1.stock = p.stock := by grind [stock_modify_of_ready, refill]
  have huse : ((inst.toList.map fun inst => Task.use inst.label).map Task.labels).sum =
      (Task.refill cid a inst).labels := by
    cases inst <;> simp [Task.labels]
  rw [perform, left]
  dsimp only
  rw [List.map_append, List.sum_append, huse, add_right_comm, ← hstock]
  rfl

lemma left_instantiateSync (p : ReactorPool) (cid : Bytes) (o : Outcome) :
    left (ReactorPool.perform o p (.instantiateSync cid)).1 (ReactorPool.perform o p (.instantiateSync cid)).2 =
    p.stock.map Instance.label +
    {⟨cid, (p.lookup cid).2, true, ((p.lookup cid).1.heap (p.lookup cid).2).nameSeq + 1⟩} := by
  have hstock := stock_modify_of_ready (p.getOrCreatePoolLocked o.order cid).1 (p.getOrCreatePoolLocked o.order cid).2.1
    (f := fun mp => { mp with nameSeq := mp.nameSeq + 1 }) fun _ => rfl
  rw [stock_getOrCreatePoolLocked] at hstock
  have haddress : (p.getOrCreatePoolLocked o.order cid).2.1 = (p.lookup cid).2 := rfl
  rw [perform, left]
  dsimp only
  rw [List.map_cons, List.sum_cons, labels_drains, add_zero, hstock, haddress,
    (heap_getOrCreatePoolLocked p o.order cid).2, add_comm]
  rfl

lemma Named.instantiateSync (h : Named p A) (hvalid : Valid p ts) (o : Outcome) (hplain : 45 ∉ shortCID cid)
    (hsame : ∀ l ∈ A, shortCID l.wasmCID = shortCID cid → l.pool = (p.lookup cid).2)
    (hseq : ((p.lookup cid).1.heap (p.lookup cid).2).nameSeq.toNat + 1 < 2 ^ 64) :
    Named (ReactorPool.perform o p (.instantiateSync cid)).1
      (A + {⟨cid, (p.lookup cid).2, true, ((p.lookup cid).1.heap (p.lookup cid).2).nameSeq + 1⟩}) := by
  obtain ⟨hallocated, hheap⟩ := heap_getOrCreatePoolLocked p o.order cid
  obtain ⟨hle, hsameSeq⟩ := sameSeq_getOrCreatePoolLocked p o.order cid
  have hpool : Named (p.getOrCreatePoolLocked o.order cid).1 A := h.mono le_rfl hle hsameSeq
  have haddress : (p.lookup cid).2 < (p.getOrCreatePoolLocked o.order cid).1.allocated :=
    hallocated ▸ (hvalid.lookup cid).2
  have hnext : (((p.lookup cid).1.heap (p.lookup cid).2).nameSeq + 1).toNat =
      ((p.lookup cid).1.heap (p.lookup cid).2).nameSeq.toNat + 1 := toNat_add_ofNat hseq
  have hmodify := heap_modify (p.getOrCreatePoolLocked o.order cid).1 (p.lookup cid).2
    (f := fun mp => { mp with nameSeq := mp.nameSeq + 1 })
  have hnew : ((perform o p (.instantiateSync cid)).1.heap (p.lookup cid).2).nameSeq =
      ((p.lookup cid).1.heap (p.lookup cid).2).nameSeq + 1 := by
    rw [← hheap]
    exact congrArg ModulePool.nameSeq ((hmodify _).trans (if_pos rfl))
  refine hpool.add haddress hplain hsame ?_ ?_ rfl ?_ ?_
  · grind [mem_singleton]
  · exact nodup_singleton _
  · rw [hheap, hnew, hnext]
    exact Nat.le_succ _
  · intro b hb
    exact congrArg ModulePool.nameSeq ((hmodify b).trans (if_neg hb))

lemma need_le (h : Valid p ts) (ha : a < p.allocated) : (p.need a).toNat ≤ p.target := by
  have hinflight := h.inflight a ha
  have hneed : p.need a = p.target - ((p.heap a).ready.length + (p.heap a).inflight) := rfl
  omega

lemma named_perform (hvalid : Valid p (t ::ₘ ts)) (h : Named p (alive p (t ::ₘ ts))) (hfresh : Fresh p (t ::ₘ ts) t)
    (o : Outcome) : Named (ReactorPool.perform o p t).1
      (alive (ReactorPool.perform o p t).1 (ts + ↑(ReactorPool.perform o p t).2)) := by
  cases hnames : t.names with
  | false =>
    obtain ⟨hle, hseq⟩ := sameSeq_perform (p := p) hnames o
    exact h.mono (alive_perform hvalid hnames o) hle hseq
  | true =>
    cases t with
    | refill cid a inst =>
      obtain ⟨hplain, hsame, hseq⟩ := hfresh
      have ha : a < p.allocated := hvalid.uses _ (mem_cons_self _ ts) a (List.mem_singleton.2 rfl)
      have hneed := need_le hvalid ha
      have hnamed := h.refill ha hplain hsame (by omega)
      rw [alive_add_eq, left_refill]
      refine hnamed.mono (le_of_eq ?_) (Nat.le_refl _) fun _ _ => rfl
      rw [alive_cons, alive]
      ac_rfl
    | instantiateSync cid =>
      obtain ⟨hplain, hsame, hseq⟩ := hfresh
      have hnamed := h.instantiateSync hvalid o hplain hsame hseq
      rw [alive_add_eq, left_instantiateSync]
      refine hnamed.mono (le_of_eq ?_) (Nat.le_refl _) fun _ _ => rfl
      have hlabels : (Task.instantiateSync cid).labels = 0 := rfl
      rw [alive_cons, alive, hlabels, zero_add]
      ac_rfl
    | _ => cases hnames

lemma named_keeps : reactorPool.Keeps Fresh fun p ts => Valid p ts ∧ Named p (alive p ts) where
  call := by
    rintro p ts call ⟨hvalid, hnamed⟩
    refine ⟨valid_keeps.call p ts call hvalid, ?_⟩
    rw [alive_cons]
    cases call <;> exact (zero_add (alive p ts)).symm ▸ hnamed
  go := by
    rintro p ts t o hfresh ⟨hvalid, hnamed⟩
    exact ⟨hvalid.perform o, named_perform hvalid hnamed hfresh o⟩

/-- When a pool names an instance only as long as no other pool has named one alive after the same part of a CID, no
two instances that are alive have the same name. -/
theorem nodup_names_of_fresh (target maxModules : Int) (moves : List (Move Call Outcome))
    (h : reactorPool.Respects Fresh (start target maxModules) moves) :
    (aliveNames (reactorPool.run (start target maxModules) moves)).Nodup := by
  have hstart : Named (.new target maxModules) (alive (.new target maxModules) 0) := by
    have halive : alive (.new target maxModules) 0 = 0 := rfl
    rw [halive]
    exact ⟨by simp, by simp, by simp, by simp, by simp⟩
  have hrun := named_keeps.run_of_respects (c := start target maxModules) ⟨valid_new target maxModules, hstart⟩ h
  exact hrun.2.nodup_names

def turn (i : Nat) : Move Call Outcome := .go i ⟨true, .inOrder⟩

/-- Two instances of a module are warmed. -/
theorem nodup_names_of_acquire : (aliveNames (reactorPool.run (start 2 1)
    [.call (.acquire (ascii "bafybei")), turn 0, turn 0, turn 0])).Nodup := by
  refine nodup_names_of_fresh 2 1 _ ⟨?_, ?_, ?_, trivial⟩
  · rintro _ ⟨⟩
    trivial
  · rintro _ ⟨⟩
    trivial
  · rintro _ ⟨⟩
    refine ⟨by decide +kernel, ?_, by decide +kernel⟩
    intro l hl
    revert l
    decide +kernel

def remade : Tasks ReactorPool Task :=
  reactorPool.run (start 1 1) [.call (.acquire (ascii "bafybei")), turn 0, turn 0, turn 0,
    .call (.invalidate (ascii "bafybei")), turn 1, .call (.acquire (ascii "bafybei")), turn 2, turn 2, turn 2]

def alike : Tasks ReactorPool Task :=
  reactorPool.run (start 1 2) [.call (.acquire (ascii "bafybeigdyrzta")), turn 0, turn 0, turn 0,
    .call (.acquire (ascii "bafybeigdyrztb")), turn 1, turn 1, turn 1]

/-- A pool that is made anew counts from the start. Two modules agree in the characters that a name has of their CID. -/
theorem not_nodup_names : ¬ (aliveNames remade).Nodup ∧ ¬ (aliveNames alike).Nodup := by decide +kernel

end Orama.Serverless.Reactor
