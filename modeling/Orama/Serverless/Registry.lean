import Orama.Lib.Interleaving
import Orama.Lib.Keyed
import Orama.Lib.Maps
import Orama.Lib.Strings
import Orama.Lib.Unique

namespace Orama.Serverless.Registry
open Lib List

def registryCacheTTL : Int := 5000000000

inductive FunctionStatus
  | active
  | inactive
  | error
deriving DecidableEq, Repr

structure FunctionKey where
  ns : Bytes
  name : Bytes
deriving DecidableEq

structure FunctionConfig where
  memoryLimitMB : Int
  timeoutSeconds : Int
  isPublic : Bool
  retryCount : Int
  retryDelaySeconds : Int
  dlqTopic : Bytes
  wsPersistent : Bool
  wsIdleTimeoutSec : Int
  wsMaxFrameBytes : Int
  wsMaxInflightPerConn : Int
  rawHTTPResponse : Bool
deriving DecidableEq

structure FunctionDefinition where
  key : FunctionKey
  config : FunctionConfig
  envVars : Keyed (Bytes × Bytes) Prod.fst

structure FunctionRow where
  id : Bytes
  key : FunctionKey
  version : Int
  wasmCID : Bytes
  config : FunctionConfig
  status : FunctionStatus
  createdAt : Int
  updatedAt : Int
  createdBy : Bytes
deriving DecidableEq

structure EnvVarRow where
  id : Bytes
  functionID : Bytes
  key : Bytes
  value : Bytes
  createdAt : Int
deriving DecidableEq

def FunctionRow.conflicts (r s : FunctionRow) : Bool := r.id = s.id || r.key = s.key

def EnvVarRow.conflicts (r s : EnvVarRow) : Bool := r.id = s.id || (r.functionID = s.functionID && r.key = s.key)

structure FnCacheEntry where
  key : Bytes
  fn : FunctionRow
  storedAt : Int
deriving DecidableEq

inductive Change
  | deployed (row : FunctionRow)
  | enabled
  | disabled
deriving DecidableEq

structure Write (ι : Type) where
  process : ι
  key : FunctionKey
  change : Change
deriving DecidableEq

structure Shared (ι : Type) where
  functions : Unique FunctionRow FunctionRow.conflicts
  envVars : Unique EnvVarRow EnvVarRow.conflicts
  fnCache : Keyed FnCacheEntry FnCacheEntry.key
  log : List (Write ι)

inductive RegistryError
  | validation (field message : Bytes)
  | deploy (functionName cause : Bytes)
  | functionNotFound
  | versionNotFound
  | failed (message : Bytes)
deriving DecidableEq

inductive Reply
  | registered (old : Option FunctionRow)
  | found (fn : FunctionRow)
  | changed
deriving DecidableEq

inductive Call
  | register (fn : Option FunctionDefinition) (wasmBytes : Bytes)
  | get (ns name : Bytes) (version : Int)
  | setEnabled (ns name : Bytes) (enabled : Bool)
  | delete (ns name : Bytes) (version : Int)

inductive Phase
  | start
  | upload (old : Option FunctionRow)
  | insert (old : Option FunctionRow) (wasmCID : Bytes)
  | clearEnv (old : Option FunctionRow) (id : Bytes)
  | saveEnv (old : Option FunctionRow) (id : Bytes) (left : List (Bytes × Bytes))
  | invalidate (reply : Reply)
  | query
  | store (fn : FunctionRow)
  | done (result : Except RegistryError Reply)
deriving DecidableEq

structure Event (ι : Type) where
  process : ι
  now : Int
  fault : Option Bool
  errorText : Bytes
  wasmCID : Bytes
  newID : Bytes
  order : Iteration (Bytes × Bytes)

def FunctionKey.trim (key : FunctionKey) : FunctionKey := ⟨trimSpace key.ns, trimSpace key.name⟩

def fnCacheKey (key : FunctionKey) (version : Int) : Bytes := key.ns ++ 0 :: (key.name ++ 0 :: decimalInt version)

variable {ι : Type}

namespace Shared
variable (s : Shared ι)

def cachedFn (key : Bytes) (now : Int) : Option FunctionRow :=
  match s.fnCache.get key with
  | none => none
  | some entry => if registryCacheTTL < now - entry.storedAt then none else some entry.fn

def storeFn (key : Bytes) (fn : FunctionRow) (now : Int) : Shared ι :=
  { s with fnCache := s.fnCache.put ⟨key, fn, now⟩ }

def invalidateFn (key : FunctionKey) : Shared ι :=
  { s with fnCache := s.fnCache.delete fun entry => hasPrefix entry.key (key.ns ++ 0 :: (key.name ++ [0])) }

def getByNameInternal (key : FunctionKey) : Option FunctionRow := s.functions.rows.find? fun r => r.key = key

def select (key : FunctionKey) (version : Int) : Option FunctionRow :=
  s.functions.rows.find? fun r => r.key = key && (if version = 0 then r.status = .active else r.version = version)

def insertOrReplace (i : ι) (row : FunctionRow) : Shared ι :=
  { s with functions := s.functions.replace row, log := ⟨i, row.key, .deployed row⟩ :: s.log }

end Shared

def FunctionRow.setStatus (status : FunctionStatus) (now : Int) (r : FunctionRow) : FunctionRow :=
  { r with status, updatedAt := now }

def FunctionRow.selected (key : FunctionKey) (version : Int) (r : FunctionRow) : Bool :=
  r.key = key && (version = 0 || r.version = version)

lemma conflicts_setStatus (p : FunctionRow → Bool) (status : FunctionStatus) (now : Int) (r s : FunctionRow) :
    FunctionRow.conflicts (if p r then r.setStatus status now else r) (if p s then s.setStatus status now else s) =
    FunctionRow.conflicts r s := by
  split <;> split <;> rfl

def Shared.updateStatus (s : Shared ι) (i : ι) (key : FunctionKey) (version : Int) (status : FunctionStatus)
    (now : Int) : Shared ι :=
  { s with
    functions := s.functions.map (fun r => if r.selected key version then r.setStatus status now else r)
      (conflicts_setStatus _ status now)
    log :=
      if s.functions.rows.any (FunctionRow.selected key version) then
        ⟨i, key, if status = .active then .enabled else .disabled⟩ :: s.log
      else s.log }

def FunctionConfig.withDefaults (config : FunctionConfig) : FunctionConfig :=
  { config with
    memoryLimitMB := if config.memoryLimitMB = 0 then 64 else config.memoryLimitMB
    timeoutSeconds := if config.timeoutSeconds = 0 then 30 else config.timeoutSeconds
    retryDelaySeconds := if config.retryDelaySeconds = 0 then 5 else config.retryDelaySeconds }

def deployedRow (fn : FunctionDefinition) (old : Option FunctionRow) (wasmCID newID : Bytes) (now : Int) :
    FunctionRow where
  id := old.elim newID FunctionRow.id
  key := fn.key
  version := old.elim 1 fun row => row.version + 1
  wasmCID := wasmCID
  config := fn.config.withDefaults
  status := .active
  createdAt := now
  updatedAt := now
  createdBy := fn.key.ns

def exec (e : Event ι) (s s' : Shared ι) (error : RegistryError) (next : Phase) : Shared ι × Phase :=
  match e.fault with
  | none => (s', next)
  | some applied => (if applied then s' else s, .done (.error error))

def ask (e : Event ι) (s : Shared ι) (error : RegistryError) (next : Phase) : Shared ι × Phase :=
  match e.fault with
  | none => (s, next)
  | some _ => (s, .done (.error error))

def validate (fn : FunctionDefinition) (wasmBytes : Bytes) : Option RegistryError :=
  if fn.key.name = [] then some (.validation (ascii "name") (ascii "cannot be empty"))
  else if fn.key.ns = [] then some (.validation (ascii "namespace") (ascii "cannot be empty"))
  else if wasmBytes = [] then some (.validation (ascii "wasmBytes") (ascii "cannot be empty"))
  else none

def register (fn : FunctionDefinition) (wasmBytes : Bytes) (e : Event ι) (s : Shared ι) : Phase → Shared ι × Phase
  | .start =>
    match validate fn wasmBytes with
    | some error => (s, .done (.error error))
    | none =>
      ask e s (.deploy fn.key.name (ascii "failed to query function: " ++ e.errorText))
        (.upload (s.getByNameInternal fn.key))
  | .upload old => ask e s (.deploy fn.key.name e.errorText) (.insert old e.wasmCID)
  | .insert old wasmCID =>
    let row := deployedRow fn old wasmCID e.newID e.now
    exec e s (s.insertOrReplace e.process row)
      (.deploy fn.key.name (ascii "failed to register function: " ++ e.errorText)) (.clearEnv old row.id)
  | .clearEnv old id =>
    exec e s { s with envVars := s.envVars.delete fun r => r.functionID = id }
      (.deploy fn.key.name (ascii "failed to clear existing env vars: " ++ e.errorText))
      (.saveEnv old id (e.order.list fn.envVars.rows))
  | .saveEnv old _ [] => (s, .invalidate (.registered old))
  | .saveEnv old id ((key, value) :: left) =>
    let error : RegistryError :=
      .deploy fn.key.name (ascii "failed to save env var '" ++ key ++ ascii "': " ++ e.errorText)
    match s.envVars.insert ⟨e.newID, id, key, value, e.now⟩ with
    | none => (s, .done (.error error))
    | some envVars => exec e s { s with envVars } error (.saveEnv old id left)
  | .invalidate reply => (s.invalidateFn fn.key, .done (.ok reply))
  | phase => (s, phase)

def get (key : FunctionKey) (version : Int) (e : Event ι) (s : Shared ι) : Phase → Shared ι × Phase
  | .start =>
    match s.cachedFn (fnCacheKey key version) e.now with
    | some fn => (s, .done (.ok (.found fn)))
    | none => (s, .query)
  | .query =>
    ask e s (.failed (ascii "failed to query function: " ++ e.errorText))
      (match s.select key version with
      | some fn => .store fn
      | none => .done (.error (if version = 0 then .functionNotFound else .versionNotFound)))
  | .store fn => (s.storeFn (fnCacheKey key version) fn e.now, .done (.ok (.found fn)))
  | phase => (s, phase)

def update (key : FunctionKey) (version : Int) (status : FunctionStatus) (failure : Bytes) (e : Event ι)
    (s : Shared ι) : Phase → Shared ι × Phase
  | .start =>
    exec e s (s.updateStatus e.process key version status e.now) (.failed (failure ++ e.errorText))
      (if s.functions.rows.any (FunctionRow.selected key version) then .invalidate .changed
      else .done (.error (if version = 0 then .functionNotFound else .versionNotFound)))
  | .invalidate reply => (s.invalidateFn key, .done (.ok reply))
  | phase => (s, phase)

def refuse (error : RegistryError) (s : Shared ι) : Phase → Shared ι × Phase
  | .start => (s, .done (.error error))
  | phase => (s, phase)

def setEnabled (key : FunctionKey) (enabled : Bool) (e : Event ι) (s : Shared ι) (phase : Phase) : Shared ι × Phase :=
  if key.ns = [] || key.name = [] then refuse (.failed (ascii "namespace and name required")) s phase
  else
    update key 0 (if enabled then .active else .inactive) (ascii "failed to set function enabled state: ") e s phase

def delete (key : FunctionKey) (version : Int) : Event ι → Shared ι → Phase → Shared ι × Phase :=
  update key version .inactive (ascii "failed to delete function: ")

def act (call : Call) (e : Event ι) (s : Shared ι) (phase : Phase) : Shared ι × Phase :=
  match call with
  | .register none _ => refuse (.validation (ascii "definition") (ascii "cannot be nil")) s phase
  | .register (some fn) wasmBytes => register { fn with key := fn.key.trim } wasmBytes e s phase
  | .get ns name version => get (FunctionKey.trim ⟨ns, name⟩) version e s phase
  | .setEnabled ns name enabled => setEnabled (FunctionKey.trim ⟨ns, name⟩) enabled e s phase
  | .delete ns name version => delete (FunctionKey.trim ⟨ns, name⟩) version e s phase

def registry (calls : ι → Call) : Interleaving (Shared ι) ι Phase (Event ι) where
  process := Event.process
  act e := act (calls e.process) e

def opened (functions : Unique FunctionRow FunctionRow.conflicts) (envVars : Unique EnvVarRow EnvVarRow.conflicts) :
    Config (Shared ι) ι Phase := ⟨⟨functions, envVars, .empty, []⟩, fun _ => .start⟩

section
variable {s : Shared ι} {key : FunctionKey} {row fn : FunctionRow}

lemma eq_of_key (hr : row ∈ s.functions.rows) (hfn : fn ∈ s.functions.rows) (h : row.key = fn.key) : row = fn :=
  s.functions.eq_of_conflicts (fun p q => by simp [FunctionRow.conflicts, eq_comm]) hr hfn
    (by simp [FunctionRow.conflicts, h])

lemma getByNameInternal_eq_some : s.getByNameInternal key = some row ↔ row ∈ s.functions.rows ∧ row.key = key := by
  constructor
  · intro h
    exact ⟨mem_of_find?_eq_some h, by simpa using find?_some h⟩
  · rintro ⟨hr, hkey⟩
    cases h : s.getByNameInternal key with
    | none =>
      have hne := find?_eq_none.1 h row hr
      simp [hkey] at hne
    | some fn =>
      have hfn := mem_of_find?_eq_some h
      have hfnKey : fn.key = key := by simpa using find?_some h
      rw [eq_of_key hfn hr (hfnKey.trans hkey.symm)]

lemma mem_of_select {version : Int} (h : s.select key version = some row) :
    row ∈ s.functions.rows ∧ row.key = key ∧ (if version = 0 then row.status = .active else row.version = version) := by
  refine ⟨mem_of_find?_eq_some h, ?_⟩
  have hrow := find?_some h
  rw [Bool.and_eq_true, decide_eq_true_eq] at hrow
  refine ⟨hrow.1, ?_⟩
  split
  · next hzero => simpa [hzero] using hrow.2
  · next hzero => simpa [hzero] using hrow.2

lemma mem_insertOrReplace {i : ι} {r : FunctionRow} : r ∈ (s.insertOrReplace i row).functions.rows ↔
      r = row ∨ (r ∈ s.functions.rows ∧ r.id ≠ row.id ∧ r.key ≠ row.key) := by
  simp [Shared.insertOrReplace, Unique.mem_replace, FunctionRow.conflicts]

end

def Call.key : Call → FunctionKey
  | .register none _ => ⟨[], []⟩
  | .register (some fn) _ => fn.key.trim
  | .get ns name _ | .setEnabled ns name _ | .delete ns name _ => FunctionKey.trim ⟨ns, name⟩

def Call.changes : Call → Bool
  | .get _ _ _ => false
  | _ => true

def Call.disables : Call → Bool
  | .setEnabled _ _ enabled => !enabled
  | .delete _ _ version => version = 0
  | _ => false

def Phase.written : Phase → Bool
  | .clearEnv _ _ | .saveEnv _ _ _ | .invalidate _ | .done (.ok _) => true
  | _ => false

inductive Effect (call : Call) (e : Event ι) (s : Shared ι) : Phase → Shared ι → Phase → Prop
  | same {phase phase' : Phase} {s' : Shared ι} (hfunctions : s'.functions = s.functions)
      (hcache : s'.fnCache = s.fnCache) (hlog : s'.log = s.log)
      (hwritten : call.changes = true → phase'.written = true → phase.written = true)
      (hdone : call.changes = true → ∀ reply, phase' = .done (.ok reply) → phase = .done (.ok reply))
      (hstore : ∀ fn, phase' = .store fn → phase = .store fn) : Effect call e s phase s' phase'
  | read {version : Int} {fn : FunctionRow} {ns name : Bytes} (hcall : call = .get ns name version)
      (hselect : s.select call.key version = some fn) : Effect call e s .query s (.store fn)
  | deploy {fn : FunctionDefinition} {wasmBytes wasmCID : Bytes} {old : Option FunctionRow} {phase' : Phase}
      (hcall : call = .register (some fn) wasmBytes) (hdone : ∀ reply, phase' ≠ .done (.ok reply))
      (hstore : ∀ fn, phase' ≠ .store fn) :
      Effect call e s (.insert old wasmCID)
        (s.insertOrReplace e.process (deployedRow { fn with key := fn.key.trim } old wasmCID e.newID e.now)) phase'
  | status {version : Int} {status : FunctionStatus} {phase' : Phase} (hchanges : call.changes = true)
      (hdisables : call.disables = true → version = 0 ∧ status = .inactive)
      (hwritten : phase'.written = true → s.functions.rows.any (FunctionRow.selected call.key version) = true)
      (hdone : ∀ reply, phase' ≠ .done (.ok reply)) (hstore : ∀ fn, phase' ≠ .store fn) :
      Effect call e s .start (s.updateStatus e.process call.key version status e.now) phase'
  | invalidate {reply : Reply} (hchanges : call.changes = true) :
      Effect call e s (.invalidate reply) (s.invalidateFn call.key) (.done (.ok reply))
  | store {version : Int} {fn : FunctionRow} {ns name : Bytes} (hcall : call = .get ns name version) :
      Effect call e s (.store fn) (s.storeFn (fnCacheKey call.key version) fn e.now) (.done (.ok (.found fn)))

variable {call : Call} {e : Event ι} {s s' : Shared ι} {phase phase' next : Phase} {error : RegistryError}

lemma Effect.failed (call : Call) (e : Event ι) (s : Shared ι) (phase : Phase) (error : RegistryError) :
    Effect call e s phase s (.done (.error error)) :=
  .same rfl rfl rfl (fun _ h => by cases h) (fun _ _ h => by cases h) (fun _ h => by cases h)

lemma Effect.of_ask (hwritten : call.changes → next.written → phase.written)
    (hdone : call.changes → ∀ reply, next = .done (.ok reply) → phase = .done (.ok reply))
    (hstore : ∀ fn, next = .store fn → phase = .store fn) :
    Effect call e s phase (ask e s error next).1 (ask e s error next).2 := by
  rw [ask]
  split
  · exact .same rfl rfl rfl hwritten hdone hstore
  · exact .failed ..

lemma exec_rule {P : Shared ι → Phase → Prop} (hnext : P s' next) (hrefused : P s (.done (.error error)))
    (hlost : P s' (.done (.error error))) : P (exec e s s' error next).1 (exec e s s' error next).2 := by
  grind [exec]

lemma Effect.refl (call : Call) (e : Event ι) (s : Shared ι) (phase : Phase) : Effect call e s phase s phase :=
  .same rfl rfl rfl (fun _ => id) (fun _ _ => id) (fun _ => id)

lemma Effect.of_env (envVars : Unique EnvVarRow EnvVarRow.conflicts)
    (hwritten : call.changes → next.written → phase.written)
    (hdone : call.changes → ∀ reply, next = .done (.ok reply) → phase = .done (.ok reply))
    (hstore : ∀ fn, next = .store fn → phase = .store fn) :
    Effect call e s phase (exec e s { s with envVars } error next).1 (exec e s { s with envVars } error next).2 := by
  refine exec_rule (P := fun s' phase' => Effect call e s phase s' phase') ?_ ?_ ?_
  · exact .same rfl rfl rfl hwritten hdone hstore
  · exact .failed ..
  · exact .same rfl rfl rfl (fun _ h => by cases h) (fun _ _ h => by cases h) (fun _ h => by cases h)

lemma register_effect (fn : FunctionDefinition) (wasmBytes : Bytes) (e : Event ι) (s : Shared ι) (phase : Phase) :
    Effect (.register (some fn) wasmBytes) e s phase (register { fn with key := fn.key.trim } wasmBytes e s phase).1
      (register { fn with key := fn.key.trim } wasmBytes e s phase).2 := by
  cases phase with
  | start =>
    rw [register]
    split
    · exact .failed ..
    · exact .of_ask (fun _ h => by cases h) (fun _ _ h => by cases h) (fun _ h => by cases h)
  | upload old => exact .of_ask (fun _ h => by cases h) (fun _ _ h => by cases h) (fun _ h => by cases h)
  | insert old wasmCID =>
    refine exec_rule (P := fun s' phase' => Effect _ e s _ s' phase') ?_ ?_ ?_
    · exact .deploy rfl (fun _ h => by cases h) (fun _ h => by cases h)
    · exact .failed ..
    · exact .deploy rfl (fun _ h => by cases h) (fun _ h => by cases h)
  | clearEnv old id => exact .of_env _ (fun _ _ => rfl) (fun _ _ h => by cases h) (fun _ h => by cases h)
  | saveEnv old id left =>
    cases left with
    | nil => exact .same rfl rfl rfl (fun _ _ => rfl) (fun _ _ h => by cases h) (fun _ h => by cases h)
    | cons entry left =>
      rw [register]
      split
      · exact .failed ..
      · exact .of_env _ (fun _ _ => rfl) (fun _ _ h => by cases h) (fun _ h => by cases h)
  | invalidate reply => exact .invalidate rfl
  | _ => exact .refl ..

lemma get_effect (ns name : Bytes) (version : Int) (e : Event ι) (s : Shared ι) (phase : Phase) :
    Effect (.get ns name version) e s phase (get (FunctionKey.trim ⟨ns, name⟩) version e s phase).1
      (get (FunctionKey.trim ⟨ns, name⟩) version e s phase).2 := by
  cases phase with
  | start =>
    rw [get]
    split <;> exact .same rfl rfl rfl (fun h => by cases h) (fun h => by cases h) (fun _ h => by cases h)
  | query =>
    rw [get, ask]
    split
    · split
      · next fn hselect => exact .read rfl hselect
      · exact .failed ..
    · exact .failed ..
  | store fn => exact .store rfl
  | _ => exact .refl ..

lemma refuse_effect (call : Call) (e : Event ι) (s : Shared ι) (phase : Phase) (error : RegistryError) :
    Effect call e s phase (refuse error s phase).1 (refuse error s phase).2 := by
  cases phase with
  | start => exact .failed ..
  | _ => exact .refl ..

lemma update_effect (call : Call) {version : Int} {status : FunctionStatus} (failure : Bytes) (e : Event ι)
    (s : Shared ι) (phase : Phase) (hchanges : call.changes)
    (hdisables : call.disables → version = 0 ∧ status = .inactive) :
    Effect call e s phase (update call.key version status failure e s phase).1
      (update call.key version status failure e s phase).2 := by
  cases phase with
  | start =>
    refine exec_rule (P := fun s' phase' => Effect call e s _ s' phase') ?_ ?_ ?_
    · split
      · next hany => exact .status hchanges hdisables (fun _ => hany) (fun _ h => by cases h) (fun _ h => by cases h)
      · exact .status hchanges hdisables (fun h => by cases h) (fun _ h => by cases h) (fun _ h => by cases h)
    · exact .failed ..
    · exact .status hchanges hdisables (fun h => by cases h) (fun _ h => by cases h) (fun _ h => by cases h)
  | invalidate reply => exact .invalidate hchanges
  | _ => exact .refl ..

lemma act_effect (call : Call) (e : Event ι) (s : Shared ι) (phase : Phase) :
    Effect call e s phase (act call e s phase).1 (act call e s phase).2 := by
  cases call with
  | register fn wasmBytes =>
    cases fn with
    | none => exact refuse_effect ..
    | some fn => exact register_effect fn wasmBytes e s phase
  | get ns name version => exact get_effect ns name version e s phase
  | setEnabled ns name enabled =>
    rw [act, setEnabled]
    split
    · exact refuse_effect ..
    · refine update_effect (.setEnabled ns name enabled) _ e s phase rfl fun h => ?_
      cases enabled
      · exact ⟨rfl, rfl⟩
      · cases h
  | delete ns name version =>
    exact update_effect (.delete ns name version) _ e s phase rfl fun h => ⟨of_decide_eq_true h, rfl⟩

end Orama.Serverless.Registry
