import Orama.Serverless.Registry

namespace Orama.Serverless.Registry
open Lib List Function Unique

def Phase.busy : Phase → Bool
  | .upload _ | .insert _ _ | .clearEnv _ _ | .saveEnv _ _ _ => true
  | _ => false

def Phase.saving : Phase → Bool
  | .clearEnv _ _ | .saveEnv _ _ _ => true
  | _ => false

def Phase.old : Phase → Option (Option FunctionRow)
  | .upload old | .insert old _ => some old
  | _ => none

def FunctionDefinition.trim (fn : FunctionDefinition) : FunctionDefinition := { fn with key := fn.key.trim }

variable {ι : Type}

def deploys (fns : ι → FunctionDefinition) (wasmBytes : ι → Bytes) (i : ι) : Call :=
  .register (some (fns i)) (wasmBytes i)

/-- What a step of a deployment needs: no other one is under way when the old row is read, a statement that takes
effect does not fail, and the id of an environment variable is new. -/
def SerialAt (fn : FunctionDefinition) (wasmBytes : Bytes) (c : Config (Shared ι) ι Phase) (e : Event ι) : Phase → Prop
  | .start => validate fn wasmBytes = none → ∀ j, (c.phase j).busy = false
  | .insert _ _ => e.fault ≠ some true
  | .clearEnv _ _ => e.fault = none
  | .saveEnv _ _ (_ :: _) => e.fault = none ∧ ∀ r ∈ c.shared.envVars.rows, r.id ≠ e.newID
  | _ => True

def Serial (fns : ι → FunctionDefinition) (wasmBytes : ι → Bytes) (c : Config (Shared ι) ι Phase) (e : Event ι) :
    Prop :=
  SerialAt (fns e.process).trim (wasmBytes e.process) c e (c.phase e.process)

inductive Deployment (fn : FunctionDefinition) (wasmBytes : Bytes) (e : Event ι) (s : Shared ι) :
    Phase → Shared ι → Phase → Prop
  | same (phase : Phase) : Deployment fn wasmBytes e s phase s phase
  | failed {phase : Phase} (error : RegistryError) (h : phase.written = false) :
      Deployment fn wasmBytes e s phase s (.done (.error error))
  | read (h : validate fn wasmBytes = none) :
      Deployment fn wasmBytes e s .start s (.upload (s.getByNameInternal fn.key))
  | uploaded (old : Option FunctionRow) : Deployment fn wasmBytes e s (.upload old) s (.insert old e.wasmCID)
  | inserted (old : Option FunctionRow) (wasmCID : Bytes) : Deployment fn wasmBytes e s (.insert old wasmCID)
        (s.insertOrReplace e.process (deployedRow fn old wasmCID e.newID e.now))
        (.clearEnv old (deployedRow fn old wasmCID e.newID e.now).id)
  | cleared (old : Option FunctionRow) (id : Bytes) :
      Deployment fn wasmBytes e s (.clearEnv old id) { s with envVars := s.envVars.delete fun r => r.functionID = id }
        (.saveEnv old id (e.order.list fn.envVars.rows))
  | saved (old : Option FunctionRow) {id : Bytes} {entry : Bytes × Bytes} (left : List (Bytes × Bytes))
      {envVars : Unique EnvVarRow EnvVarRow.conflicts}
      (h : s.envVars.insert ⟨e.newID, id, entry.1, entry.2, e.now⟩ = some envVars) :
      Deployment fn wasmBytes e s (.saveEnv old id (entry :: left)) { s with envVars } (.saveEnv old id left)
  | refused (old : Option FunctionRow) {id : Bytes} {entry : Bytes × Bytes} (left : List (Bytes × Bytes))
      (error : RegistryError) (h : s.envVars.insert ⟨e.newID, id, entry.1, entry.2, e.now⟩ = none) :
      Deployment fn wasmBytes e s (.saveEnv old id (entry :: left)) s (.done (.error error))
  | finished (old : Option FunctionRow) (id : Bytes) :
      Deployment fn wasmBytes e s (.saveEnv old id []) s (.invalidate (.registered old))
  | invalidated (reply : Reply) :
      Deployment fn wasmBytes e s (.invalidate reply) (s.invalidateFn fn.key) (.done (.ok reply))

variable {fn : FunctionDefinition} {wasmBytes : Bytes} {c : Config (Shared ι) ι Phase} {e : Event ι}
  {s s' : Shared ι} {phase phase' next : Phase} {error : RegistryError}

lemma Deployment.of_ask (hwritten : phase.written = false) (h : Deployment fn wasmBytes e s phase s next) :
    Deployment fn wasmBytes e s phase (ask e s error next).1 (ask e s error next).2 := by
  rw [ask]
  split
  · exact h
  · exact .failed error hwritten

lemma exec_of_answered (h : e.fault = none) : exec e s s' error next = (s', next) := by rw [exec, h]

lemma register_deployment (h : SerialAt fn wasmBytes c e phase) :
    Deployment fn wasmBytes e s phase (register fn wasmBytes e s phase).1 (register fn wasmBytes e s phase).2 := by
  cases phase with
  | start =>
    rw [register]
    split
    · exact .failed _ rfl
    · next hvalid => exact .of_ask rfl (.read hvalid)
  | upload old => exact .of_ask rfl (.uploaded old)
  | insert old wasmCID =>
    rw [register, exec]
    split
    · exact .inserted old wasmCID
    · next applied hfault =>
      cases applied with
      | true => exact absurd hfault h
      | false => exact .failed _ rfl
  | clearEnv old id =>
    rw [register, exec_of_answered h]
    exact .cleared old id
  | saveEnv old id left =>
    cases left with
    | nil => exact .finished old id
    | cons entry left =>
      rw [register]
      split
      · next hinsert => exact .refused old left _ hinsert
      · next envVars hinsert =>
        rw [exec_of_answered h.1]
        exact .saved old left hinsert
  | invalidate reply => exact .invalidated reply
  | _ => exact .same _

def Stores (s : Shared ι) (id : Bytes) (entry : Bytes × Bytes) : Prop :=
  ∃ r ∈ s.envVars.rows, r.functionID = id ∧ (r.key, r.value) = entry

def Saved (fn : FunctionDefinition) (s : Shared ι) (row : FunctionRow) : Phase → Prop
  | .clearEnv _ id => id = row.id
  | .saveEnv _ id left =>
    id = row.id ∧ (left.map Prod.fst).Nodup ∧ (∀ r ∈ s.envVars.rows, r.functionID = id → r.key ∉ left.map Prod.fst) ∧
      ∀ entry, entry ∈ fn.envVars.rows ↔ entry ∈ left ∨ Stores s id entry
  | .invalidate _ | .done (.ok _) => ∀ entry, entry ∈ fn.envVars.rows ↔ Stores s row.id entry
  | _ => False

variable {row : FunctionRow} {old : Option FunctionRow} {id : Bytes}

lemma saved_clear (h : Saved fn s row (.clearEnv old id)) :
    Saved fn { s with envVars := s.envVars.delete fun r => r.functionID = id } row
      (.saveEnv old id (e.order.list fn.envVars.rows)) := by
  refine ⟨h, ?_, fun r hr hid => ?_, fun entry => ?_⟩
  · exact ((e.order.perm fn.envVars.rows).map Prod.fst).nodup_iff.2 fn.envVars.nodup_keys
  · rw [mem_delete] at hr
    simp [hid] at hr
  · rw [Iteration.mem_list]
    refine ⟨.inl, ?_⟩
    rintro (hentry | ⟨r, hr, hid, -⟩)
    · exact hentry
    · rw [mem_delete] at hr
      simp [hid] at hr

variable {entry : Bytes × Bytes} {newID : Bytes} {now : Int} {left : List (Bytes × Bytes)}

lemma saved_insert {envVars : Unique EnvVarRow EnvVarRow.conflicts}
    (h : Saved fn s row (.saveEnv old id (entry :: left)))
    (hinsert : s.envVars.insert ⟨newID, id, entry.1, entry.2, now⟩ = some envVars) :
    Saved fn { s with envVars } row (.saveEnv old id left) := by
  obtain ⟨hid, hnodup, hfree, hentries⟩ := h
  rw [map_cons, nodup_cons] at hnodup
  have hrows := (insert_eq_some hinsert).1
  refine ⟨hid, hnodup.2, fun r hr hrid => ?_, fun entry' => ?_⟩
  · grind
  · have hstores : Stores { s with envVars } id entry' ↔ Stores s id entry' ∨ entry = entry' := by
      simp only [Stores, hrows, mem_append, mem_singleton, or_and_right, exists_or, exists_eq_left, true_and]
    rw [hentries, mem_cons, hstores]
    tauto

lemma exists_insert_of_saved (h : Saved fn s row (.saveEnv old id (entry :: left)))
    (hnew : ∀ r ∈ s.envVars.rows, r.id ≠ newID) :
    ∃ envVars, s.envVars.insert ⟨newID, id, entry.1, entry.2, now⟩ = some envVars := by
  refine exists_insert fun r hr => ?_
  rw [EnvVarRow.conflicts, Bool.or_eq_false_iff]
  refine ⟨decide_eq_false (hnew r hr), ?_⟩
  rw [Bool.and_eq_false_iff]
  by_cases hid : r.functionID = id
  · refine .inr (decide_eq_false fun hkey => h.2.2.1 r hr hid ?_)
    rw [hkey]
    exact mem_map_of_mem mem_cons_self
  · exact .inl (decide_eq_false hid)

lemma saved_congr (henv : s'.envVars = s.envVars) : Saved fn s' row phase ↔ Saved fn s row phase := by
  have hstores : Stores s' = Stores s := by
    unfold Stores
    rw [henv]
  cases phase with
  | saveEnv old id left => simp only [Saved, henv, hstores]
  | invalidate reply => simp only [Saved, hstores]
  | done result => cases result <;> simp only [Saved, hstores]
  | _ => exact Iff.rfl

lemma written_of_saved (h : Saved fn s row phase) : phase.written := by
  cases phase with
  | done result => cases result with
    | error error => cases h
    | ok reply => rfl
  | clearEnv old id => rfl
  | saveEnv old id left => rfl
  | invalidate reply => rfl
  | _ => cases h

lemma busy_of_saving (h : phase.saving) : phase.busy := by
  cases phase <;> first | rfl | cases h

lemma written_of_saving (h : phase.saving) : phase.written := by
  cases phase <;> first | rfl | cases h

lemma busy_of_old (h : phase.old = some old) : phase.busy := by
  cases phase <;> first | rfl | cases h

def Newer (w w' : Write ι) : Prop :=
  ∀ row row', w.change = .deployed row → w'.change = .deployed row' → row'.version < row.version

structure Serialised (fns : ι → FunctionDefinition) (key : FunctionKey) (c : Config (Shared ι) ι Phase) : Prop where
  one : ∀ i j, (c.phase i).busy = true → (c.phase j).busy = true → i = j
  read : ∀ i old, (c.phase i).old = some old → old = c.shared.getByNameInternal key
  ordered : c.shared.log.Pairwise Newer
  recorded : ∀ w ∈ c.shared.log, (c.phase w.process).written = true ∧ ∃ row, w = ⟨w.process, key, .deployed row⟩
  written : ∀ i, (c.phase i).written = true → ∃ w ∈ c.shared.log, w.process = i
  saving : ∀ i, (c.phase i).saving = true → ∃ w log, c.shared.log = w :: log ∧ w.process = i
  last : ∀ i row log, c.shared.log = ⟨i, key, .deployed row⟩ :: log →
    c.shared.getByNameInternal key = some row ∧ Saved (fns i) c.shared row (c.phase i)

variable {fns : ι → FunctionDefinition} {key : FunctionKey} {i : ι}
variable {wasmCID : Bytes} {w : Write ι}

lemma Serialised.newer (h : Serialised fns key c) {old : Option FunctionRow}
    (hold : old = c.shared.getByNameInternal key) (hw : w ∈ c.shared.log) :
    Newer ⟨i, key, .deployed (deployedRow fn old wasmCID newID now)⟩ w := by
  intro row row' hrow hrow'
  cases hrow
  cases hlog : c.shared.log with
  | nil =>
    rw [hlog] at hw
    cases hw
  | cons v log =>
    obtain ⟨-, rowv, hv⟩ := h.recorded v (by rw [hlog]; exact mem_cons_self)
    rw [hv] at hlog
    obtain ⟨hstored, -⟩ := h.last _ _ _ hlog
    rw [hold, hstored]
    change row'.version < rowv.version + 1
    rw [hlog, mem_cons] at hw
    obtain rfl | hw := hw
    · cases hrow'
      exact Int.lt_succ _
    · have hordered := h.ordered
      rw [hlog, pairwise_cons] at hordered
      have hlt := hordered.1 w hw rowv row' rfl hrow'
      omega

lemma one_update [DecidableEq ι] {phases : ι → Phase}
    (h : ∀ i j, (phases i).busy → (phases j).busy → i = j)
    (hbusy : phase'.busy → ∀ j, j ≠ i → (phases j).busy = false) :
    ∀ j k, (Function.update phases i phase' j).busy → (Function.update phases i phase' k).busy → j = k := by
  have hnot : phase'.busy → ∀ j, j ≠ i → (phases j).busy ≠ true := by
    intro hphase' j hj
    rw [hbusy hphase' j hj]
    decide
  intro j k
  by_cases hj : j = i
  · grind
  · grind

variable [DecidableEq ι]

section
variable (h : Serialised fns key c)
include h

lemma Serialised.unwritten (hbefore : (c.phase i).written = false)
    (hafter : phase'.written = false) (hbusy : phase'.busy → ∀ j, j ≠ i → (c.phase j).busy = false)
    (hold : ∀ old, phase'.old = some old → old = c.shared.getByNameInternal key) :
    Serialised fns key ⟨c.shared, Function.update c.phase i phase'⟩ where
  one := one_update h.one hbusy
  read := (forall_update_iff c.phase fun _ p =>
    ∀ old, p.old = some old → old = c.shared.getByNameInternal key).2 ⟨hold, fun j _ => h.read j⟩
  ordered := h.ordered
  recorded := by
    intro w hw
    obtain ⟨hwritten, hrow⟩ := h.recorded w hw
    grind
  written := (forall_update_iff c.phase fun j p => p.written → _).2
    ⟨fun hwritten => absurd hwritten (by rw [hafter]; decide), fun j _ => h.written j⟩
  saving := (forall_update_iff c.phase fun j p => p.saving → _).2
    ⟨fun hsaving => absurd (written_of_saving hsaving) (by rw [hafter]; decide), fun j _ => h.saving j⟩
  last := by
    intro j row log hlog
    obtain ⟨hrow, hsaved⟩ := h.last j row log hlog
    grind [written_of_saved]

lemma Serialised.insert (hkey : fn.key = key) (hphase : c.phase i = .insert old wasmCID) :
    Serialised fns key ⟨c.shared.insertOrReplace i (deployedRow fn old wasmCID newID now),
    Function.update c.phase i (.clearEnv old (deployedRow fn old wasmCID newID now).id)⟩ := by
  have hidle : ∀ j, j ≠ i → (c.phase j).busy = false := by
    intro j hj
    rw [Bool.eq_false_iff]
    exact fun hbusy => hj (h.one j i hbusy (by rw [hphase]; rfl))
  have hnot : ∀ w ∈ c.shared.log, w.process ≠ i := by
    rintro w hw rfl
    have hwritten := (h.recorded w hw).1
    rw [hphase] at hwritten
    cases hwritten
  constructor
  · exact one_update h.one fun _ => hidle
  · intro j old' hold
    dsimp only at hold
    by_cases hj : j = i
    · rw [hj, update_self] at hold
      cases hold
    · grind [busy_of_old]
  · refine pairwise_cons.2 ⟨fun w hw => ?_, h.ordered⟩
    subst hkey
    exact h.newer (h.read i old (by rw [hphase]; rfl)) hw
  · refine forall_mem_cons.2 ⟨⟨?_, deployedRow fn old wasmCID newID now, ?_⟩, fun w hw => ?_⟩
    · dsimp only
      rw [update_self]
      rfl
    · subst hkey
      rfl
    · obtain ⟨hwritten, hrow⟩ := h.recorded w hw
      grind
  · refine (forall_update_iff c.phase fun j p => p.written → _).2 ⟨fun _ => ?_, fun j _ hj => ?_⟩
    · exact ⟨_, mem_cons_self, rfl⟩
    · obtain ⟨w, hw, hprocess⟩ := h.written j hj
      exact ⟨w, mem_cons_of_mem _ hw, hprocess⟩
  · refine (forall_update_iff c.phase fun j p => p.saving → _).2 ⟨fun _ => ?_, fun j hj hsaving => ?_⟩
    · exact ⟨_, _, rfl, rfl⟩
    · exact absurd (busy_of_saving hsaving) (by rw [hidle j hj]; decide)
  · intro j row log hlog
    cases hlog
    dsimp only
    rw [update_self]
    exact ⟨getByNameInternal_eq_some.2 ⟨mem_insertOrReplace.2 (.inl rfl), hkey⟩, rfl⟩

lemma Serialised.save (hbefore : (c.phase i).written)
    (hafter : phase'.written) (hbusy : phase'.busy → (c.phase i).busy) (hold : phase'.old = none)
    (hsaving : phase'.saving → (c.phase i).saving) (hfunctions : s'.functions = c.shared.functions)
    (hlog : s'.log = c.shared.log) (henv : (c.phase i).saving ∨ s'.envVars = c.shared.envVars)
    (hsaved : ∀ row, Saved (fns i) c.shared row (c.phase i) → Saved (fns i) s' row phase') :
    Serialised fns key ⟨s', Function.update c.phase i phase'⟩ := by
  have hrow : s'.getByNameInternal key = c.shared.getByNameInternal key := by
    rw [Shared.getByNameInternal, hfunctions, Shared.getByNameInternal]
  constructor
  · refine one_update h.one fun hphase' j hj => ?_
    rw [Bool.eq_false_iff]
    exact fun hjbusy => hj (h.one j i hjbusy (hbusy hphase'))
  · dsimp only
    rw [hrow]
    refine (forall_update_iff c.phase fun _ p =>
      ∀ old, p.old = some old → old = c.shared.getByNameInternal key).2 ⟨?_, fun j _ => h.read j⟩
    intro old' hold'
    rw [hold] at hold'
    cases hold'
  · rw [hlog]
    exact h.ordered
  · dsimp only
    rw [hlog]
    intro w hw
    obtain ⟨hwritten, hw⟩ := h.recorded w hw
    grind
  · dsimp only
    rw [hlog]
    exact (forall_update_iff c.phase fun j p => p.written = true → _).2
      ⟨fun _ => h.written i hbefore, fun j _ => h.written j⟩
  · dsimp only
    rw [hlog]
    exact (forall_update_iff c.phase fun j p => p.saving = true → _).2
      ⟨fun hphase' => h.saving i (hsaving hphase'), fun j _ => h.saving j⟩
  · dsimp only
    rw [hlog, hrow]
    intro j row log hhead
    obtain ⟨hstored, hj⟩ := h.last j row log hhead
    refine ⟨hstored, ?_⟩
    by_cases hi : j = i
    · subst hi
      rw [update_self]
      exact hsaved row hj
    · rw [update_of_ne hi]
      obtain hsav | henv := henv
      · -- Whoever saves the environment has made the last write.
        obtain ⟨w, log', hlog', hprocess⟩ := h.saving i hsav
        rw [hlog'] at hhead
        cases hhead
        exact absurd hprocess hi
      · exact (saved_congr henv).2 hj

lemma Serialised.deployment {wasmBytes : ι → Bytes} (hkey : (fns e.process).trim.key = key)
    (hserial : SerialAt (fns e.process).trim (wasmBytes e.process) c e (c.phase e.process))
    (hstep : Deployment (fns e.process).trim (wasmBytes e.process) e c.shared (c.phase e.process) s' phase') :
    Serialised fns key ⟨s', Function.update c.phase e.process phase'⟩ := by
  generalize hphase : c.phase e.process = phase at hserial hstep
  cases hstep with
  | same =>
    rw [← hphase, update_eq_self]
    exact h
  | failed error hwritten =>
    exact h.unwritten (by rw [hphase, hwritten]) rfl (fun hbusy => by cases hbusy) (fun _ hold => by cases hold)
  | read hvalid =>
    refine h.unwritten (by rw [hphase]; rfl) rfl (fun _ j _ => hserial hvalid j) fun old hold => ?_
    cases hold
    rw [hkey]
  | uploaded old =>
    refine h.unwritten (by rw [hphase]; rfl) rfl (fun _ j hj => ?_) fun old' hold => ?_
    · rw [Bool.eq_false_iff]
      exact fun hbusy => hj (h.one j e.process hbusy (by rw [hphase]; rfl))
    · cases hold
      exact h.read e.process old (by rw [hphase]; rfl)
  | inserted old wasmCID => exact h.insert hkey hphase
  | cleared old id =>
    refine h.save (by rw [hphase]; rfl) rfl (fun _ => by rw [hphase]; rfl) rfl (fun _ => by rw [hphase]; rfl) rfl rfl
      (.inl (by rw [hphase]; rfl)) fun row hsaved => ?_
    rw [hphase] at hsaved
    exact saved_clear hsaved
  | saved old left hinsert =>
    refine h.save (by rw [hphase]; rfl) rfl (fun _ => by rw [hphase]; rfl) rfl (fun _ => by rw [hphase]; rfl) rfl rfl
      (.inl (by rw [hphase]; rfl)) fun row hsaved => ?_
    rw [hphase] at hsaved
    exact saved_insert hsaved hinsert
  | refused old left error hinsert =>
    -- The variables that are left are not in the table and the id is new, so that the insertion succeeds.
    obtain ⟨w, log, hlog, hprocess⟩ := h.saving e.process (by rw [hphase]; rfl)
    obtain ⟨-, row, hw⟩ := h.recorded w (by rw [hlog]; exact mem_cons_self)
    rw [hw, hprocess] at hlog
    have hsaved := (h.last _ _ _ hlog).2
    rw [hphase] at hsaved
    obtain ⟨envVars, hsome⟩ := exists_insert_of_saved hsaved hserial.2
    rw [hinsert] at hsome
    cases hsome
  | finished old id =>
    refine h.save (by rw [hphase]; rfl) rfl (fun hbusy => by cases hbusy) rfl (fun hsaving => by cases hsaving) rfl rfl
      (.inr rfl) fun row hsaved => ?_
    grind [Saved]
  | invalidated reply =>
    refine h.save (by rw [hphase]; rfl) rfl (fun hbusy => by cases hbusy) rfl (fun hsaving => by cases hsaving) rfl rfl
      (.inr rfl) fun row hsaved => ?_
    rw [hphase] at hsaved
    exact hsaved

lemma Serialised.step {wasmBytes : ι → Bytes} (hkey : ∀ i, (fns i).key.trim = key)
    (hserial : Serial fns wasmBytes c e) : Serialised fns key ((registry (deploys fns wasmBytes)).step c e) :=
  h.deployment (hkey e.process) hserial (register_deployment hserial)

end

omit [DecidableEq ι] in
lemma serialised_opened (functions : Unique FunctionRow FunctionRow.conflicts)
    (envVars : Unique EnvVarRow EnvVarRow.conflicts) : Serialised fns key (opened functions envVars) where
  one i j hi := by cases hi
  read i old hold := by cases hold
  ordered := List.Pairwise.nil
  recorded w hw := by cases hw
  written i hi := by cases hi
  saving i hi := by cases hi
  last i row log hlog := by cases hlog

omit [DecidableEq ι] in
lemma ne_of_newer {log : List (Write ι)} {w' : Write ι} {row row' : FunctionRow} (h : log.Pairwise Newer)
    (hw : w ∈ log) (hw' : w' ∈ log) (hne : w ≠ w') (hrow : w.change = .deployed row)
    (hrow' : w'.change = .deployed row') : row.version ≠ row'.version := by
  have hdiffer : log.Pairwise fun w w' =>
      ∀ row row', w.change = .deployed row → w'.change = .deployed row' → row.version ≠ row'.version :=
    h.imp fun hnewer row row' hrow hrow' => (hnewer row row' hrow hrow').ne'
  have hsymm : Std.Symm fun w w' : Write ι =>
      ∀ row row', w.change = .deployed row → w'.change = .deployed row' → row.version ≠ row'.version :=
    ⟨fun w w' hww' row row' hrow hrow' => (hww' row' row hrow' hrow).symm⟩
  exact hdiffer.forall hw hw' hne row row' hrow hrow'

lemma exists_ok_of_written (hwritten : phase.written)
    (hrest : phase = .start ∨ ∃ result, phase = .done result) : ∃ reply, phase = .done (.ok reply) := by
  obtain rfl | ⟨result, rfl⟩ := hrest
  · cases hwritten
  · cases result with
    | error error => cases hwritten
    | ok reply => exact ⟨reply, rfl⟩

/-- Deployments of one function that do not overlap store different versions, and once all that began have returned,
the row of the greatest version is stored with the environment of its deployment. -/
theorem deploys_of_serial {wasmBytes : ι → Bytes} (hkey : ∀ i, (fns i).key.trim = key)
    (functions : Unique FunctionRow FunctionRow.conflicts) (envVars : Unique EnvVarRow EnvVarRow.conflicts)
    (events : List (Event ι))
    (hrespects : (registry (deploys fns wasmBytes)).Respects (Serial fns wasmBytes) (opened functions envVars) events) :
    let final := (registry (deploys fns wasmBytes)).run (opened functions envVars) events
    (∀ i reply, final.phase i = .done (.ok reply) → ∃ row, ⟨i, key, .deployed row⟩ ∈ final.shared.log) ∧
      (∀ i j row row', i ≠ j → ⟨i, key, .deployed row⟩ ∈ final.shared.log →
      ⟨j, key, .deployed row'⟩ ∈ final.shared.log → row.version ≠ row'.version) ∧
      ((∀ i, final.phase i = .start ∨ ∃ result, final.phase i = .done result) →
      (∃ i reply, final.phase i = .done (.ok reply)) →
      ∃ i reply row, final.phase i = .done (.ok reply) ∧ ⟨i, key, .deployed row⟩ ∈ final.shared.log ∧
      final.shared.getByNameInternal key = some row ∧
      (∀ j row', ⟨j, key, .deployed row'⟩ ∈ final.shared.log → row'.version ≤ row.version) ∧
      ∀ entry, entry ∈ (fns i).envVars.rows ↔ Stores final.shared row.id entry) := by
  intro final
  have h : Serialised fns key final :=
    hrespects.induction (fun c e hc hserial => hc.step hkey hserial) (serialised_opened functions envVars)
  refine ⟨fun i reply hi => ?_, fun i j row row' hij hrow hrow' => ?_, fun hrest => ?_⟩
  · obtain ⟨w, hw, rfl⟩ := h.written i (by rw [hi]; rfl)
    obtain ⟨-, row, heq⟩ := h.recorded w hw
    rw [heq] at hw
    exact ⟨row, hw⟩
  · exact ne_of_newer h.ordered hrow hrow' (fun heq => hij (congrArg Write.process heq)) rfl rfl
  · rintro ⟨i, reply, hi⟩
    obtain ⟨w, hw, -⟩ := h.written i (by rw [hi]; rfl)
    obtain ⟨v, log, hlog⟩ := exists_cons_of_ne_nil (ne_nil_of_mem hw)
    obtain ⟨hwritten, row, hv⟩ := h.recorded v (by rw [hlog]; exact mem_cons_self)
    obtain ⟨reply', hdone⟩ := exists_ok_of_written hwritten (hrest v.process)
    rw [hv] at hlog
    obtain ⟨hstored, hsaved⟩ := h.last _ _ _ hlog
    rw [hdone] at hsaved
    refine ⟨v.process, reply', row, hdone, by rw [hlog]; exact mem_cons_self, hstored, fun j row' hrow' => ?_, hsaved⟩
    have hordered := h.ordered
    rw [hlog, pairwise_cons] at hordered
    rw [hlog, mem_cons] at hrow'
    obtain heq | hmem := hrow'
    · cases heq
      exact le_rfl
    · exact (hordered.1 _ hmem row row' rfl rfl).le

section

def quotaConfig : FunctionConfig := ⟨128, 10, true, 0, 0, [], false, 0, 0, 0, false⟩

def greet : FunctionKey := ⟨ascii "ns", ascii "greet"⟩

def editions (i : Bool) : FunctionDefinition :=
  ⟨greet, quotaConfig, Keyed.empty.put (if i then (ascii "B", ascii "2") else (ascii "A", ascii "1"))⟩

def greetRow : FunctionRow := ⟨ascii "id", greet, 1, ascii "bafy", quotaConfig, .active, 0, 0, ascii "ns"⟩

def editionCID (i : Bool) : Bytes := if i then ascii "bafyb" else ascii "bafya"

def editionRow (i : Bool) : FunctionRow := deployedRow (editions i) (some greetRow) (editionCID i) [] 0

def editionTurn (i : Bool) : Event Bool := ⟨i, 0, none, [], editionCID i, editionCID i, .inOrder⟩

def editionRun (turns : List Bool) : Config (Shared Bool) Bool Phase :=
  (registry (deploys editions fun _ => [0])).run (opened (Unique.empty.replace greetRow) .empty) (turns.map editionTurn)

instance (c : Config (Shared Bool) Bool Phase) (e : Event Bool) (fn : FunctionDefinition) (wasmBytes : Bytes) :
    ∀ phase, Decidable (SerialAt fn wasmBytes c e phase)
  | .start => inferInstanceAs (Decidable (validate fn wasmBytes = none → ∀ j, (c.phase j).busy = false))
  | .insert _ _ => inferInstanceAs (Decidable (e.fault ≠ some true))
  | .clearEnv _ _ => inferInstanceAs (Decidable (e.fault = none))
  | .saveEnv _ _ (_ :: _) =>
    inferInstanceAs (Decidable (e.fault = none ∧ ∀ r ∈ c.shared.envVars.rows, r.id ≠ e.newID))
  | .saveEnv _ _ [] | .upload _ | .invalidate _ | .query | .store _ | .done _ => inferInstanceAs (Decidable True)

instance (c : Config (Shared Bool) Bool Phase) (e : Event Bool) (fns : Bool → FunctionDefinition)
    (wasmBytes : Bool → Bytes) : Decidable (Serial fns wasmBytes c e) := inferInstanceAs (Decidable (SerialAt ..))

def oneByOne : List Bool :=
  [false, false, false, false, false, false, false, true, true, true, true, true, true, true]

theorem deploys_of_serial_editions : ∃ i reply row, (editionRun oneByOne).phase i = .done (.ok reply) ∧
    ⟨i, greet, .deployed row⟩ ∈ (editionRun oneByOne).shared.log ∧
    (editionRun oneByOne).shared.getByNameInternal greet = some row ∧
    (∀ j row', ⟨j, greet, .deployed row'⟩ ∈ (editionRun oneByOne).shared.log → row'.version ≤ row.version) ∧
    ∀ entry, entry ∈ (editions i).envVars.rows ↔ Stores (editionRun oneByOne).shared row.id entry := by
  have hkey : ∀ i, (editions i).key.trim = greet := by decide +kernel
  have hfalse : (editionRun oneByOne).phase false = .done (.ok (.registered (some greetRow))) := by decide +kernel
  have htrue : (editionRun oneByOne).phase true = .done (.ok (.registered (some (editionRow false)))) := by
    decide +kernel
  refine (deploys_of_serial hkey (empty.replace greetRow) .empty (oneByOne.map editionTurn)
    (by decide +kernel)).2.2 (fun i => .inr ?_) ⟨false, _, hfalse⟩
  cases i with
  | false => exact ⟨_, hfalse⟩
  | true => exact ⟨_, htrue⟩

def overlapping : List Bool :=
  [false, true, false, true, false, true, false, true, false, true, false, true, false, true]

/-- Both deployments have read the same row. They store the same version, and the row of the second one has the
variable of the first one too. -/
theorem deploys_overlap : (∀ i, (editionRun overlapping).phase i = .done (.ok (.registered (some greetRow)))) ∧
    (editionRun overlapping).shared.log =
    [⟨true, greet, .deployed (editionRow true)⟩, ⟨false, greet, .deployed (editionRow false)⟩] ∧
    (editionRow true).version = (editionRow false).version ∧
    (editionRun overlapping).shared.getByNameInternal greet = some (editionRow true) ∧
    ⟨editionCID false, (editionRow true).id, ascii "A", ascii "1", 0⟩ ∈ (editionRun overlapping).shared.envVars.rows ∧
    (ascii "A", ascii "1") ∉ (editions true).envVars.rows := by
  decide +kernel

end
end Orama.Serverless.Registry
