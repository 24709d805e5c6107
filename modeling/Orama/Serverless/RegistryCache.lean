import Orama.Serverless.Registry

namespace Orama.Serverless.Registry
open Lib List

structure FunctionKey.Plain (key : FunctionKey) : Prop where
  ns : 0 ∉ key.ns
  name : 0 ∉ key.name

lemma decimalInt_injective : Function.Injective decimalInt := by
  intro m n h
  grind [parseInt_decimalInt]

variable {key' : FunctionKey}
open FunctionKey
variable {version : Int}

lemma fnCacheKey_inj {key : FunctionKey} {version' : Int} (h : key.Plain) (h' : key'.Plain)
    (heq : fnCacheKey key version = fnCacheKey key' version') : key = key' ∧ version = version' := by
  rw [fnCacheKey, fnCacheKey] at heq
  have hns := congrArg (cut 0) heq
  rw [cut_append h.ns, cut_append h'.ns, Prod.mk.injEq, Option.some.injEq] at hns
  have hname := congrArg (cut 0) hns.2
  rw [cut_append h.name, cut_append h'.name, Prod.mk.injEq, Option.some.injEq] at hname
  refine ⟨?_, decimalInt_injective hname.2⟩
  cases key
  cases key'
  simp only [mk.injEq]
  exact ⟨hns.1, hname.1⟩

lemma hasPrefix_fnCacheKey (key : FunctionKey) (version : Int) :
    hasPrefix (fnCacheKey key version) (key.ns ++ 0 :: (key.name ++ [0])) := by
  have heq : fnCacheKey key version = (key.ns ++ 0 :: (key.name ++ [0])) ++ decimalInt version := by simp [fnCacheKey]
  rw [heq]
  exact hasPrefix_append ..

variable {ι : Type}

def lastWrite (log : List (Write ι)) (key : FunctionKey) : Option (Write ι) := log.find? fun w => w.key = key

def Shows (s : Shared ι) (key : FunctionKey) : Change → Prop
  | .deployed row => s.getByNameInternal key = some row
  | .enabled => True
  | .disabled => ∀ r ∈ s.functions.rows, r.key = key → r.status ≠ .active

variable {calls : ι → Call} {key : FunctionKey} {s s' : Shared ι} {c : Config (Shared ι) ι Phase} {e : Event ι}
  {i j : ι} {row fn : FunctionRow} {w : Write ι} {log : List (Write ι)} {reply : Reply} {change : Change}

lemma shows_congr (hrows : ∀ r, r.key = key → (r ∈ s'.functions.rows ↔ r ∈ s.functions.rows)) :
    Shows s' key change ↔ Shows s key change := by
  cases change with
  | enabled => exact Iff.rfl
  | deployed row => grind [getByNameInternal_eq_some, Shows]
  | disabled => exact forall_congr' fun r => ⟨fun h hr hkey => h ((hrows r hkey).2 hr) hkey,
      fun h hr hkey => h ((hrows r hkey).1 hr) hkey⟩

lemma lastWrite_cons : lastWrite (w :: log) key = if w.key = key then some w else lastWrite log key := by
  grind [lastWrite]

lemma shows_insertOrReplace (hid : ∀ r ∈ s.functions.rows, r.id = row.id → r.key = row.key)
    (h : ∀ w, lastWrite s.log key = some w → Shows s key w.change) :
    ∀ w, lastWrite (s.insertOrReplace i row).log key = some w → Shows (s.insertOrReplace i row) key w.change := by
  intro w hw
  rw [Shared.insertOrReplace, lastWrite_cons] at hw
  split at hw
  · next hkey =>
    cases hw
    exact getByNameInternal_eq_some.2 ⟨mem_insertOrReplace.2 (.inl rfl), hkey⟩
  · grind [shows_congr, mem_insertOrReplace]

variable {status : FunctionStatus} {now : Int}

lemma mem_updateStatus {r : FunctionRow} : r ∈ (s.updateStatus i key' version status now).functions.rows ↔
      ∃ r' ∈ s.functions.rows, (if r'.selected key' version then r'.setStatus status now else r') = r := mem_map

lemma key_setStatus (p : Bool) (status : FunctionStatus) (now : Int) (r : FunctionRow) :
    (if p then r.setStatus status now else r).key = r.key := by
  split <;> rfl

lemma shows_updateStatus_of_ne
    (hnone : ∀ r ∈ s.functions.rows, r.key = key → r.selected key' version = false) (h : Shows s key change) :
    Shows (s.updateStatus i key' version status now) key change := by
  refine (shows_congr fun r hr => ?_).2 h
  rw [mem_updateStatus]
  constructor
  · rintro ⟨r', hr', rfl⟩
    rw [key_setStatus] at hr
    rw [hnone r' hr' hr]
    exact hr'
  · intro hmem
    exact ⟨r, hmem, by rw [hnone r hmem hr]; rfl⟩

open FunctionRow

lemma shows_updateStatus (h : ∀ w, lastWrite s.log key = some w → Shows s key w.change) :
    ∀ w, lastWrite (s.updateStatus i key' version status now).log key = some w →
    Shows (s.updateStatus i key' version status now) key w.change := by
  intro w hw
  rw [Shared.updateStatus] at hw
  dsimp only at hw
  split at hw
  · next hany =>
    rw [lastWrite_cons] at hw
    by_cases hkey : key' = key
    · rw [if_pos hkey] at hw
      cases hw
      dsimp only
      split
      · trivial
      · next hstatus =>
        -- The row that was selected is the only one of the function.
        intro r hr hrkey
        obtain ⟨r', hr', rfl⟩ := mem_updateStatus.1 hr
        rw [key_setStatus] at hrkey
        obtain ⟨r₀, hr₀, hselected⟩ := any_eq_true.1 hany
        have hr₀key : r₀.key = key' := by grind [selected]
        rw [eq_of_key hr' hr₀ (hrkey.trans (hkey.symm.trans hr₀key.symm)), hselected]
        exact hstatus
    grind [shows_updateStatus_of_ne, selected]
  · grind [shows_updateStatus_of_ne]

variable {version : Int} {phase phase' : Phase}

lemma get_invalidateFn (s : Shared ι) (key : FunctionKey) (version : Int) :
    (s.invalidateFn key).fnCache.get (fnCacheKey key version) = none := by
  rw [Shared.invalidateFn, Keyed.get_delete_key s.fnCache fun k => hasPrefix k (key.ns ++ 0 :: (key.name ++ [0])),
    if_pos (hasPrefix_fnCacheKey key version)]

lemma get_of_get_invalidateFn {k : Bytes} {entry : FnCacheEntry}
    (h : (s.invalidateFn key').fnCache.get k = some entry) : s.fnCache.get k = some entry := by
  rw [Shared.invalidateFn, Keyed.get_delete, Option.filter_eq_some_iff] at h
  exact h.1

lemma act_done (call : Call) (e : Event ι) (s : Shared ι) (result : Except RegistryError Reply) :
    act call e s (.done result) = (s, .done result) := by
  cases call with
  | register fn wasmBytes => cases fn <;> rfl
  | setEnabled ns name enabled =>
    rw [act, setEnabled]
    split <;> rfl
  | _ => rfl

lemma Effect.exists_log {call : Call} (h : Effect call e s phase s' phase') :
    ∃ l : List (Write ι), s'.log = l ++ s.log ∧ ∀ w ∈ l, w.process = e.process := by
  cases h with
  | same hfunctions hcache hlog => exact ⟨[], hlog, fun w hw => by cases hw⟩
  | deploy hcall => exact ⟨[_], rfl, fun w hw => by rw [mem_singleton.1 hw]⟩
  | @status version =>
    by_cases hany : s.functions.rows.any (selected call.key version)
    · exact ⟨[_], if_pos hany, fun w hw => by rw [mem_singleton.1 hw]⟩
    · exact ⟨[], if_neg hany, fun w hw => by cases hw⟩
  | _ => exact ⟨[], rfl, fun w hw => by cases hw⟩

def Within (n : Nat) : Phase → Prop
  | .start => 3 ≤ n
  | .query => 2 ≤ n
  | .store _ => 1 ≤ n
  | .done _ => True
  | _ => False

lemma exists_done_of_within (h : Within 0 phase) : ∃ result, phase = .done result := by
  cases phase with
  | done result => exact ⟨result, rfl⟩
  | _ => cases h

variable {n : Nat}

lemma within_get (h : Within (n + 1) phase) : Within n (get key version e s phase).2 := by
  cases phase with
  | start =>
    rw [get]
    split
    · trivial
    · exact Nat.le_of_succ_le_succ h
  | query =>
    rw [get, ask]
    split
    · split
      · exact Nat.le_of_succ_le_succ h
      · trivial
    · trivial
  | store fn => trivial
  | done result => trivial
  | _ => cases h

def Failing : Phase → Prop
  | .query | .done (.error _) => True
  | _ => False

def Finding (row : FunctionRow) (phase : Phase) : Prop :=
  phase = .query ∨ phase = .store row ∨ phase = .done (.ok (.found row))

lemma failing_get (hselect : phase = .query → s.select key version = none)
    (h : Failing phase) : Failing (get key version e s phase).2 := by
  cases phase with
  | query =>
    rw [get, ask, hselect rfl]
    split <;> trivial
  | done result => exact h
  | _ => cases h

lemma finding_get (hselect : s.select key version = some row) (hfault : e.fault = none)
    (h : Finding row phase) : Finding row (get key version e s phase).2 := by
  obtain rfl | rfl | rfl := h
  · rw [get, ask, hfault, hselect]
    exact .inr (.inl rfl)
  · exact .inr (.inr rfl)
  · exact .inr (.inr rfl)

lemma select_zero (h : s.getByNameInternal key = some row) (hactive : row.status = .active) :
    s.select key 0 = some row := by
  cases hselect : s.select key 0 with
  | none =>
    obtain ⟨hmem, hkey⟩ := getByNameInternal_eq_some.1 h
    have hne := find?_eq_none.1 hselect row hmem
    simp [hkey, hactive] at hne
  | some fn => grind [mem_of_select, getByNameInternal_eq_some]

lemma failing_start (h : s.fnCache.get (fnCacheKey key version) = none) : Failing (get key version e s .start).2 := by
  rw [get, Shared.cachedFn, h]
  trivial

lemma finding_start (h : ∀ entry, s.fnCache.get (fnCacheKey key version) = some entry → entry.fn = row) :
    Finding row (get key version e s .start).2 := by
  rw [get, Shared.cachedFn]
  cases hentry : s.fnCache.get (fnCacheKey key version) with
  | none => exact .inl rfl
  | some entry =>
    dsimp only
    split
    · next fn hfn =>
      split at hfn
      · cases hfn
      · cases hfn
        rw [h entry hentry]
        exact .inr (.inr rfl)
    · exact .inl rfl

variable [DecidableEq ι]

def later (log : List (Write ι)) (j : ι) : List (Write ι) := log.takeWhile fun w => w.process ≠ j

def Quiet (log : List (Write ι)) (j : ι) (key : FunctionKey) : Prop :=
  ∀ w ∈ later log j, w.key = key → w.change = .disabled

/-- A Get stores only what the database still has, and reads no version that is not active. The id of a row is not
that of another function, and a name that is looked up has no separator in it. -/
def Careful (calls : ι → Call) (c : Config (Shared ι) ι Phase) (e : Event ι) : Prop :=
  match calls e.process with
  | .register (some fn) _ => ∀ old wasmCID, c.phase e.process = .insert old wasmCID →
      ∀ r ∈ c.shared.functions.rows, r.id = old.elim e.newID FunctionRow.id → r.key = fn.key.trim
  | .get ns name version =>
    (FunctionKey.trim ⟨ns, name⟩).Plain ∧
      (c.phase e.process = .query → version ≠ 0 → ∀ r ∈ c.shared.functions.rows, r.key = FunctionKey.trim ⟨ns, name⟩ →
      r.version = version → r.status = .active) ∧
      ∀ fn, c.phase e.process = .store fn → c.shared.select (FunctionKey.trim ⟨ns, name⟩) version = some fn
  | _ => True

lemma later_cons : later (w :: log) j = if w.process = j then [] else w :: later log j := by
  grind [takeWhile_cons, later]

lemma Quiet.of_append {l : List (Write ι)} (h : Quiet (l ++ log) j key) (hl : ∀ w ∈ l, w.process ≠ j) :
    Quiet log j key := by
  induction l with
  | nil => exact h
  | cons w l ih => grind [later_cons, Quiet]

lemma exists_lastWrite_disabled (hmem : ∃ w ∈ log, w.process = j)
    (hwrites : ∀ w ∈ log, w.process = j → w.key = key ∧ w.change = .disabled) (hquiet : Quiet log j key) :
    ∃ w, lastWrite log key = some w ∧ w.change = .disabled := by
  induction log with
  | nil =>
    obtain ⟨w, hw, -⟩ := hmem
    cases hw
  | cons w log ih =>
    rw [lastWrite_cons]
    by_cases hj : w.process = j
    · grind
    · by_cases hkey : w.key = key
      · grind [later_cons, Quiet]
      · rw [if_neg hkey]
        refine ih ?_ (fun w' hw' => hwrites w' (mem_cons_of_mem _ hw'))
          (Quiet.of_append (l := [w]) hquiet (by simpa using hj))
        grind

structure Coherent (calls : ι → Call) (key : FunctionKey) (c : Config (Shared ι) ι Phase) : Prop where
  recorded : ∀ w ∈ c.shared.log, w.key = (calls w.process).key ∧ (calls w.process).changes = true ∧
    ((calls w.process).disables = true → w.change = .disabled) ∧ ∀ row, w.change = .deployed row → row.status = .active
  shows : ∀ w, lastWrite c.shared.log key = some w → Shows c.shared key w.change
  written : ∀ j, (calls j).changes = true → (c.phase j).written = true → ∃ w ∈ c.shared.log, w.process = j
  active : ∀ i fn, c.phase i = .store fn → fn.status = .active
  unused : ∀ j reply, c.phase j = .done (.ok reply) → (calls j).disables = true → (calls j).key = key →
    Quiet c.shared.log j key → ∀ version, c.shared.fnCache.get (fnCacheKey key version) = none
  deployed : ∀ j reply row, c.phase j = .done (.ok reply) → lastWrite c.shared.log key = some ⟨j, key, .deployed row⟩ →
    ∀ entry, c.shared.fnCache.get (fnCacheKey key 0) = some entry → entry.fn = row

omit [DecidableEq ι] in
lemma mem_of_lastWrite (h : lastWrite log key = some w) : w ∈ log := mem_of_find?_eq_some h

lemma changes_of_disables {call : Call} (h : call.disables) : call.changes := by
  cases call with
  | get ns name version => cases h
  | _ => rfl

section
variable (h : Coherent calls key c)
include h

lemma Coherent.disabled (hwritten : (c.phase j).written)
    (hdisables : (calls j).disables) (hkey : (calls j).key = key) (hquiet : Quiet c.shared.log j key) :
    ∀ r ∈ c.shared.functions.rows, r.key = key → r.status ≠ .active := by
  have hwrites : ∀ w ∈ c.shared.log, w.process = j → w.key = key ∧ w.change = .disabled := by
    rintro w hw rfl
    obtain ⟨hkey', -, hchange, -⟩ := h.recorded w hw
    exact ⟨hkey'.trans hkey, hchange hdisables⟩
  obtain ⟨w, hlast, hchange⟩ :=
    exists_lastWrite_disabled (h.written j (changes_of_disables hdisables) hwritten) hwrites hquiet
  have hshows := h.shows w hlast
  rw [hchange] at hshows
  exact hshows

lemma Coherent.same (hfunctions : s'.functions = c.shared.functions)
    (hcache : s'.fnCache = c.shared.fnCache) (hlog : s'.log = c.shared.log)
    (hwritten : (calls i).changes → phase'.written → (c.phase i).written)
    (hdone : (calls i).changes → ∀ reply, phase' = .done (.ok reply) → c.phase i = .done (.ok reply))
    (hstore : ∀ fn, phase' = .store fn → c.phase i = .store fn) :
    Coherent calls key ⟨s', Function.update c.phase i phase'⟩ := by
  obtain ⟨hrecorded, hshows, hwrote, hactive, hunused, hdeployed⟩ := h
  constructor <;> simp only [hlog, hcache, Function.update_apply]
  case recorded => exact hrecorded
  case shows => grind [shows_congr]
  case written => grind
  case active => grind
  case unused => grind [changes_of_disables]
  case deployed =>
    intro j reply row hphase hlast
    have hchanges := (hrecorded _ (mem_of_lastWrite hlast)).2.1
    grind

lemma Coherent.write (new : List (Write ι)) (hlog : s'.log = new ++ c.shared.log)
    (hnew : ∀ w ∈ new, w.process = i ∧ w.key = (calls i).key ∧ (calls i).changes ∧
      ((calls i).disables → w.change = .disabled) ∧ ∀ row, w.change = .deployed row → row.status = .active)
    (hshows : ∀ w, lastWrite s'.log key = some w → Shows s' key w.change) (hcache : s'.fnCache = c.shared.fnCache)
    (hwritten : phase'.written → new ≠ []) (hdone : ∀ reply, phase' ≠ .done (.ok reply))
    (hstore : ∀ fn, phase' ≠ .store fn) : Coherent calls key ⟨s', Function.update c.phase i phase'⟩ := by
  obtain ⟨hrecorded, -, hwrote, hactive, hunused, hdeployed⟩ := h
  constructor <;> simp only [hlog, hcache, Function.update_apply]
  case recorded => grind
  case shows => exact hlog ▸ hshows
  case written =>
    have hexists := exists_mem_of_ne_nil new
    grind
  case active => grind
  case unused => grind [Quiet.of_append]
  case deployed =>
    simp only [lastWrite, find?_append, Option.or_eq_some_iff] at hdeployed ⊢
    grind [mem_of_find?_eq_some]

lemma Coherent.invalidate (hphase : c.phase i = .invalidate reply) :
    Coherent calls key ⟨c.shared.invalidateFn (calls i).key, Function.update c.phase i (.done (.ok reply))⟩ := by
  obtain ⟨hrecorded, hshows, hwrote, hactive, hunused, hdeployed⟩ := h
  have hlog : (c.shared.invalidateFn (calls i).key).log = c.shared.log := rfl
  refine ⟨hrecorded, hshows, ?_, ?_, ?_, ?_⟩ <;> simp only [hlog, Function.update_apply]
  · grind [Phase.written]
  · grind
  · grind [get_invalidateFn, Keyed.get_delete, Shared.invalidateFn]
  · intro j reply' row hdone hlast entry hentry
    have hkey := (hrecorded _ (mem_of_lastWrite hlast)).1
    grind [get_invalidateFn, get_of_get_invalidateFn]

lemma Coherent.store {ns name : Bytes} {version : Int} (hkey : key.Plain)
    (hcall : calls i = .get ns name version) (hphase : c.phase i = .store fn) (hplain : (calls i).key.Plain)
    (hselect : c.shared.select (calls i).key version = some fn) :
    Coherent calls key ⟨c.shared.storeFn (fnCacheKey (calls i).key version) fn now,
      Function.update c.phase i (.done (.ok (.found fn)))⟩ := by
  have hdisabled := fun j => h.disabled (j := j)
  have hchanges : (calls i).changes = false := by rw [hcall]; rfl
  obtain ⟨hmem, hfnkey, -⟩ := mem_of_select hselect
  obtain ⟨hrecorded, hshows, hwrote, hactive, hunused, hdeployed⟩ := h
  refine ⟨hrecorded, hshows, ?_, ?_, ?_, ?_⟩ <;> simp only [Shared.storeFn, Keyed.get_put, Function.update_apply]
  · grind
  · grind
  · grind [fnCacheKey_inj, changes_of_disables, Phase.written]
  · intro j reply' row hdone hlast entry hentry
    have hrow := getByNameInternal_eq_some.1 (hshows _ hlast)
    have heq := eq_of_key hmem hrow.1
    have hwriter := (hrecorded _ (mem_of_lastWrite hlast)).2.1
    grind [fnCacheKey_inj]

lemma Coherent.read (hfn : fn.status = .active) :
    Coherent calls key ⟨c.shared, Function.update c.phase i (.store fn)⟩ := by
  obtain ⟨hrecorded, hshows, hwrote, hactive, hunused, hdeployed⟩ := h
  refine ⟨hrecorded, hshows, ?_, ?_, ?_, ?_⟩ <;> simp only [Function.update_apply] <;> grind [Phase.written]

lemma Coherent.effect (hkey : key.Plain) (hcareful : Careful calls c e)
    (heffect : Effect (calls e.process) e c.shared (c.phase e.process) s' phase') :
    Coherent calls key ⟨s', Function.update c.phase e.process phase'⟩ := by
  generalize hphase : c.phase e.process = phase at heffect
  cases heffect with
  | same hfunctions hcache hlog hwritten hdone hstore =>
    rw [← hphase] at hwritten hdone hstore
    exact h.same hfunctions hcache hlog hwritten hdone hstore
  | @read version fn ns name hcall hselect =>
    refine h.read ?_
    obtain ⟨hmem, hfnkey, hversion⟩ := mem_of_select hselect
    rw [Careful, hcall] at hcareful
    rw [hcall] at hfnkey
    by_cases hzero : version = 0
    · rw [if_pos hzero] at hversion
      exact hversion
    · rw [if_neg hzero] at hversion
      exact hcareful.2.1 hphase hzero fn hmem hfnkey hversion
  | @deploy fn wasmBytes wasmCID old _ hcall hdone hstore =>
    rw [Careful, hcall] at hcareful
    refine h.write [_] rfl ?_ (shows_insertOrReplace (hcareful old wasmCID hphase) h.shows) rfl (fun _ => by simp)
      hdone hstore
    intro w hw
    rw [mem_singleton] at hw
    subst hw
    rw [hcall]
    refine ⟨rfl, rfl, rfl, (fun hdisables => by cases hdisables), fun row hrow => ?_⟩
    cases hrow
    rfl
  | @status version status _ hchanges hdisables hwritten hdone hstore =>
    by_cases hany : c.shared.functions.rows.any (selected (calls e.process).key version)
    · refine h.write [_] (if_pos hany) ?_ (shows_updateStatus h.shows) rfl (fun _ => by simp) hdone hstore
      grind
    · refine h.write [] (if_neg hany) (fun w hw => by cases hw) (shows_updateStatus h.shows) rfl
        (fun hphase' => absurd (hwritten hphase') hany) hdone hstore
  | invalidate hchanges => exact h.invalidate hphase
  | @store version fn ns name hcall =>
    rw [Careful, hcall] at hcareful
    have hkeyOf : (calls e.process).key = trim ⟨ns, name⟩ := by rw [hcall]; rfl
    grind [store]

lemma Coherent.step (hkey : key.Plain) (hcareful : Careful calls c e) :
    Coherent calls key ((registry calls).step c e) := h.effect hkey hcareful (act_effect ..)

end

lemma coherent_opened (functions : Unique FunctionRow conflicts)
    (envVars : Unique EnvVarRow EnvVarRow.conflicts) : Coherent calls key (opened functions envVars) where
  recorded w hw := by cases hw
  shows w hw := by cases hw
  written j hchanges hwritten := by cases hwritten
  active i fn hphase := by cases hphase
  unused j reply hphase := by cases hphase
  deployed j reply row hphase := by cases hphase

variable {result : Except RegistryError Reply}

lemma phase_step_of_done (h : c.phase j = .done result) : ((registry calls).step c e).phase j = .done result := by
  obtain ⟨rfl, hphase⟩ | ⟨-, hphase⟩ := (registry calls).phase_step_cases c e j
  · rw [hphase, h]
    exact congrArg Prod.snd (act_done ..)
  · rw [hphase, h]

lemma exists_log_run (hdone : c.phase j = .done result) (events : List (Event ι)) :
    ∃ l : List (Write ι), ((registry calls).run c events).shared.log = l ++ c.shared.log ∧ ∀ w ∈ l, w.process ≠ j := by
  induction events generalizing c with
  | nil => exact ⟨[], rfl, fun w hw => by cases hw⟩
  | cons e events ih =>
    obtain ⟨l, hl, hprocess⟩ := ih (c := (registry calls).step c e) (phase_step_of_done hdone)
    by_cases hj : e.process = j
    · refine ⟨l, ?_, hprocess⟩
      have hact : act (calls e.process) e c.shared (c.phase e.process) = (c.shared, .done result) := by
        rw [hj, hdone]
        exact act_done ..
      have hlog : ((registry calls).step c e).shared.log = c.shared.log := by
        change (act (calls e.process) e c.shared (c.phase e.process)).1.log = _
        rw [hact]
      rw [← hlog]
      exact hl
    · obtain ⟨l', hl', hprocess'⟩ := (act_effect (calls e.process) e c.shared (c.phase e.process)).exists_log
      refine ⟨l ++ l', ?_, fun w hw => ?_⟩
      · rw [append_assoc, ← hl']
        exact hl
      grind

lemma quiet_of_run (events : List (Event ι)) (hdone : c.phase j = .done result)
    (h : Quiet ((registry calls).run c events).shared.log j key) : Quiet c.shared.log j key := by
  obtain ⟨l, hl, hprocess⟩ := exists_log_run hdone events
  rw [hl] at h
  exact h.of_append hprocess

lemma lastWrite_of_run (events : List (Event ι)) (hdone : c.phase j = .done result)
    (h : lastWrite ((registry calls).run c events).shared.log key = some ⟨j, key, change⟩) :
    lastWrite c.shared.log key = some ⟨j, key, change⟩ := by
  obtain ⟨l, hl, hprocess⟩ := exists_log_run hdone events
  rw [hl, lastWrite, find?_append, Option.or_eq_some_iff] at h
  obtain h | ⟨-, h⟩ := h
  · exact absurd rfl (hprocess _ (mem_of_find?_eq_some h))
  · exact h

lemma within_run {ns name : Bytes} (hcall : calls i = .get ns name version)
    (events : List (Event ι)) (h : Within (n + events.countP fun d => d.process = i) (c.phase i)) :
    Within n (((registry calls).run c events).phase i) := by
  induction events generalizing c with
  | nil => exact h
  | cons e events ih =>
    refine ih (c := (registry calls).step c e) ?_
    obtain ⟨hi, hphase⟩ | ⟨hi, hphase⟩ := (registry calls).phase_step_cases c e i
    · have hprocess : e.process = i := hi.symm
      rw [countP_cons_of_pos (by simpa using hprocess), ← Nat.add_assoc] at h
      rw [hphase]
      change Within _ (act (calls e.process) e c.shared (c.phase i)).2
      rw [hprocess, hcall]
      exact within_get h
    · have hprocess : e.process ≠ i := Ne.symm hi
      grind

lemma Coherent.select_eq_none {ns name : Bytes}
    (h : Coherent calls (trim ⟨ns, name⟩) c) (hcareful : Careful calls c e)
    (hcall : calls e.process = .get ns name version) (hphase : c.phase e.process = .query)
    (hdone : c.phase j = .done (.ok reply)) (hdisables : (calls j).disables)
    (hkey : (calls j).key = trim ⟨ns, name⟩) (hquiet : Quiet c.shared.log j (trim ⟨ns, name⟩)) :
    c.shared.select (trim ⟨ns, name⟩) version = none := by
  rw [Option.eq_none_iff_forall_ne_some]
  intro fn hselect
  obtain ⟨hmem, hfnkey, hversion⟩ := mem_of_select hselect
  refine h.disabled (j := j) (by rw [hdone]; rfl) hdisables hkey hquiet fn hmem hfnkey ?_
  rw [Careful, hcall] at hcareful
  by_cases hzero : version = 0
  · rw [if_pos hzero] at hversion
    exact hversion
  · grind

lemma Coherent.select_eq_some {row : FunctionRow} (h : Coherent calls key c)
    (hlast : lastWrite c.shared.log key = some ⟨j, key, .deployed row⟩) : c.shared.select key 0 = some row := by
  have hactive := (h.recorded _ (mem_of_find?_eq_some hlast)).2.2.2 row rfl
  exact select_zero (h.shows _ hlast) hactive

section
variable {ns name : Bytes} {version : Int} {events : List (Event ι)}

lemma failing_run (hcall : calls i = .get ns name version) (hkey : (calls j).key = trim ⟨ns, name⟩)
    (hplain : (trim ⟨ns, name⟩).Plain) (hdisables : (calls j).disables)
    (hrespects : (registry calls).Respects (Careful calls) c events)
    (h : Coherent calls (trim ⟨ns, name⟩) c) (hdone : c.phase j = .done (.ok reply))
    (hquiet : Quiet ((registry calls).run c events).shared.log j (trim ⟨ns, name⟩))
    (hfailing : Failing (c.phase i)) : Failing (((registry calls).run c events).phase i) := by
  induction events generalizing c with
  | nil => exact hfailing
  | cons e events ih =>
    refine ih hrespects.2 (h.step hplain hrespects.1) (phase_step_of_done hdone) hquiet ?_
    obtain ⟨hi, hphase⟩ | ⟨-, hphase⟩ := (registry calls).phase_step_cases c e i
    · have hprocess : e.process = i := hi.symm
      rw [hphase]
      change Failing (act (calls e.process) e c.shared (c.phase i)).2
      rw [hprocess, hcall]
      refine failing_get (fun hquery => ?_) hfailing
      subst hprocess
      exact h.select_eq_none hrespects.1 hcall hquery hdone hdisables hkey (quiet_of_run (e :: events) hdone hquiet)
    · rw [hphase]
      exact hfailing

lemma finding_run (hcall : calls i = .get ns name 0) (hplain : (trim ⟨ns, name⟩).Plain)
    (hrespects : (registry calls).Respects (Careful calls) c events)
    (h : Coherent calls (trim ⟨ns, name⟩) c) (hdone : c.phase j = .done (.ok reply))
    (hlast : lastWrite ((registry calls).run c events).shared.log (trim ⟨ns, name⟩) =
      some ⟨j, trim ⟨ns, name⟩, .deployed row⟩)
    (hanswers : ∀ d ∈ events, d.process = i → d.fault = none) (hfinding : Finding row (c.phase i)) :
    Finding row (((registry calls).run c events).phase i) := by
  induction events generalizing c with
  | nil => exact hfinding
  | cons e events ih =>
    refine ih hrespects.2 (h.step hplain hrespects.1) (phase_step_of_done hdone) hlast
      (fun d hd => hanswers d (mem_cons_of_mem _ hd)) ?_
    obtain ⟨hi, hphase⟩ | ⟨-, hphase⟩ := (registry calls).phase_step_cases c e i
    · have hprocess : e.process = i := hi.symm
      rw [hphase]
      change Finding row (act (calls e.process) e c.shared (c.phase i)).2
      rw [hprocess, hcall]
      exact finding_get (h.select_eq_some (lastWrite_of_run (e :: events) hdone hlast))
        (hanswers e mem_cons_self hprocess) hfinding
    · rw [hphase]
      exact hfinding

/-- A Get that starts after a disable or a deployment has returned: it takes at most three turns, it fails when the
function has not been enabled or deployed since it was disabled, and it finds the row that was deployed when no other
call has changed the function since and the database answers. -/
theorem get_of_careful (functions : Unique FunctionRow FunctionRow.conflicts)
    (envVars : Unique EnvVarRow EnvVarRow.conflicts) (before after : List (Event ι))
    (hrespects : (registry calls).Respects (Careful calls) (opened functions envVars) (before ++ e :: after))
    (hcall : calls e.process = .get ns name version)
    (hstart : ((registry calls).run (opened functions envVars) before).phase e.process = .start)
    (hdone : ((registry calls).run (opened functions envVars) before).phase j = .done (.ok reply)) :
    let final := (registry calls).run (opened functions envVars) (before ++ e :: after)
    let key := FunctionKey.trim ⟨ns, name⟩
    (2 ≤ after.countP (fun d => d.process = e.process) → ∃ result, final.phase e.process = .done result) ∧
      ∀ result, final.phase e.process = .done result →
      ((calls j).disables = true → (calls j).key = key → Quiet final.shared.log j key →
      ∃ error, result = .error error) ∧
      ∀ row, version = 0 → lastWrite final.shared.log key = some ⟨j, key, .deployed row⟩ →
      (∀ d ∈ e :: after, d.process = e.process → d.fault = none) → result = .ok (.found row) := by
  intro final key
  obtain ⟨hcareful, hafter⟩ := hrespects.cut
  have hplain : key.Plain := by
    rw [Careful, hcall] at hcareful
    exact hcareful.1
  have h : Coherent calls key ((registry calls).run (opened functions envVars) before) :=
    hrespects.of_append.induction (fun c d hc hd => hc.step hplain hd) (coherent_opened functions envVars)
  have hfinal : final =
      (registry calls).run ((registry calls).step ((registry calls).run (opened functions envVars) before) e) after :=
    Interleaving.run_append ..
  have hphase : ((registry calls).step ((registry calls).run (opened functions envVars) before) e).phase e.process =
      (get key version e ((registry calls).run (opened functions envVars) before).shared .start).2 := by
    refine ((registry calls).phase_step_self ..).trans ?_
    change (act (calls e.process) e _ (Config.phase _ e.process)).2 = _
    rw [hcall, hstart]
    rfl
  refine ⟨fun hturns => ?_, fun result hresult => ⟨fun hdisables hkey hquiet => ?_, fun row hzero hlast hanswers => ?_⟩⟩
  · have hwithin : Within 0 (final.phase e.process) := by
      rw [hfinal]
      refine within_run hcall after ?_
      rw [hphase]
      exact within_get (Nat.add_le_add_right (hturns.trans (Nat.le_add_left ..)) 1)
    exact exists_done_of_within hwithin
  · have hfailing : Failing (final.phase e.process) := by
      rw [hfinal] at hquiet ⊢
      refine failing_run hcall hkey hplain hdisables hafter (h.step hplain hcareful) (phase_step_of_done hdone)
        hquiet ?_
      rw [hphase]
      refine failing_start (h.unused j reply hdone hdisables hkey ?_ version)
      exact quiet_of_run (e :: after) hdone hquiet
    rw [hresult] at hfailing
    cases result with
    | error error => exact ⟨error, rfl⟩
    | ok reply => cases hfailing
  · subst hzero
    have hfinding : Finding row (final.phase e.process) := by
      rw [hfinal] at hlast ⊢
      refine finding_run hcall hplain hafter (h.step hplain hcareful) (phase_step_of_done hdone) hlast
        (fun d hd => hanswers d (mem_cons_of_mem _ hd)) ?_
      rw [hphase]
      exact finding_start (h.deployed j reply row hdone (lastWrite_of_run (e :: after) hdone hlast))
    rw [hresult] at hfinding
    obtain heq | heq | heq := hfinding
    · cases heq
    · cases heq
    · cases heq
      rfl

end

section

def plainConfig : FunctionConfig := ⟨0, 0, false, 0, 0, [], false, 0, 0, 0, false⟩

def hello : FunctionDefinition := ⟨⟨ascii "ns", ascii "hello"⟩, plainConfig, .empty⟩

inductive Caller
  | deployer
  | disabler
  | early
  | reader
  | versionReader
deriving DecidableEq

def Caller.call : Caller → Call
  | .deployer => .register (some hello) [0]
  | .disabler => .setEnabled (ascii "ns") (ascii "hello") false
  | .early | .reader => .get (ascii "ns") (ascii "hello") 0
  | .versionReader => .get (ascii "ns") (ascii "hello") 1

def Caller.turn (i : Caller) : Event Caller := ⟨i, 0, none, [], ascii "bafy", ascii "id", .inOrder⟩

def Caller.run (turns : List Caller) : Config (Shared Caller) Caller Phase :=
  (registry Caller.call).run (opened .empty .empty) (turns.map Caller.turn)

def deployment : List Caller := [.deployer, .deployer, .deployer, .deployer, .deployer, .deployer]

def helloRow : FunctionRow := deployedRow hello none (ascii "bafy") (ascii "id") 0

lemma careful_deployer {c : Config (Shared Caller) Caller Phase} (h : c.shared.functions.rows = []) :
    Careful Caller.call c (Caller.turn .deployer) := by
  intro old wasmCID _ r hr
  rw [h] at hr
  cases hr

lemma careful_reader {c : Config (Shared Caller) Caller Phase}
    (h : ∀ fn, c.phase .reader = .store fn → c.shared.select hello.key 0 = some fn) :
    Careful Caller.call c (Caller.turn .reader) :=
  ⟨⟨by decide +kernel, by decide +kernel⟩, fun _ hne => absurd rfl hne, h⟩

open Caller

theorem get_of_careful_hello :
    (Caller.run (deployment ++ [.reader, .reader, .reader])).phase .reader = .done (.ok (.found helloRow)) := by
  have hrespects : (registry call).Respects (Careful call) (opened .empty .empty)
      (deployment.map turn ++ turn .reader :: [turn .reader, turn .reader]) := by
    refine ⟨careful_deployer rfl, careful_deployer rfl, careful_deployer rfl, (fun _ _ h => by cases h),
      (fun _ _ h => by cases h), (fun _ _ h => by cases h), careful_reader (fun _ h => by cases h),
      careful_reader (fun _ h => by cases h), careful_reader ?_, trivial⟩
    intro fn h
    have hread : (run (deployment ++ [.reader, .reader])).phase .reader = .store helloRow := by decide +kernel
    cases hread.symm.trans h
    decide +kernel
  have hdone : (run deployment).phase .deployer = .done (.ok (.registered none)) := by decide +kernel
  obtain ⟨hends, hresult⟩ := get_of_careful .empty .empty (deployment.map turn)
    [turn .reader, turn .reader] hrespects rfl rfl hdone
  obtain ⟨result, hphase⟩ := hends (by decide)
  rw [(hresult result hphase).2 helloRow rfl (by decide +kernel) (by simp [turn])] at hphase
  exact hphase

/-- A version that is asked for is found although the function is disabled, and a Get that has read before the disable
stores what the next one finds. -/
theorem get_finds_disabled :
    ((Caller.run (deployment ++ [.disabler, .disabler])).phase .disabler = .done (.ok .changed) ∧
    (Caller.run (deployment ++ [.disabler, .disabler, .versionReader, .versionReader, .versionReader])).phase
        .versionReader = .done (.ok (.found { helloRow with status := .inactive }))) ∧
      (Caller.run (deployment ++ [.early, .early, .disabler, .disabler])).phase .disabler = .done (.ok .changed) ∧
      (Caller.run (deployment ++ [.early, .early, .disabler, .disabler, .early, .reader])).phase .reader =
        .done (.ok (.found helloRow)) := by
  decide +kernel

end
end Orama.Serverless.Registry
