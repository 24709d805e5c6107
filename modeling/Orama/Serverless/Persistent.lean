import Mathlib.Algebra.Order.BigOperators.Group.Multiset
import Orama.Gateway.Jwt
import Orama.Lib.Tasks

namespace Orama.Serverless.Persistent
open Lib Gateway Multiset List.Sublist Nat

inductive CloseReason
  | clientDisconnect
  | serverShutdown
  | rejected
deriving DecidableEq

structure InvocationContext where
  functionID : Bytes
  functionName : Bytes
  ns : Bytes
  callerWallet : Bytes
  callerIP : Bytes
  callerClaims : List (Bytes × Bytes)
  callerJWTSubject : Bytes
  wsClientID : Bytes
deriving DecidableEq

structure OramaControlFrame where
  type : Bytes
  jwt : Bytes

structure OramaControlAck where
  type : Bytes
  ok : Bool
  error : Bytes
  subject : Bytes
deriving DecidableEq

structure Handler where
  functionID : Bytes
  functionName : Bytes
  ns : Bytes
  clientID : Bytes
  unmarshal : Bytes → Option OramaControlFrame
  jwtVerifier : Option (Int → Bytes → Except Bytes JWTClaims)

structure Frame where
  bytes : Bytes
  index : Nat
deriving DecidableEq

structure Captured where
  invCtx : InvocationContext
  read : Nat
deriving DecidableEq

inductive Purpose
  | wsOpen
  | wsFrame (frame : Frame)
  | wsClose (reason : CloseReason)
deriving DecidableEq

structure GuestCall where
  purpose : Purpose
  alloc : Bool
  ctx : Captured
  late : Bool
deriving DecidableEq

inductive Once
  | ready
  | running
  | done
deriving DecidableEq

/-- The instance with the state of its connection, and a record of what was read, acknowledged, submitted, taken from
the channel and called. -/
structure Instance where
  invCtx : InvocationContext
  expUnix : Int
  capacity : Nat
  inbound : List Frame
  inboundClosed : Bool
  closed : Bool
  closeOnce : Once
  moduleClosed : Bool
  cancelled : Bool
  panicked : Bool
  inputs : List (Int × Bytes)
  acks : List OramaControlAck
  submitted : List Frame
  taken : List Frame
  calls : List GuestCall

inductive Stage
  | beforeAlloc
  | alloc
  | beforeCall
  | call
deriving DecidableEq

inductive Task
  | opening
  | run
  | process (frame : Frame)
  | callExport (purpose : Purpose) (ctx : Captured) (stage : Stage)
  | read
  | submit (frame : Frame)
  | send (frame : Frame)
  | disconnect
  | close (reason : CloseReason)
  | storeClosed (reason : CloseReason)
  | closing (reason : CloseReason)
  | closeInbound
  | closeModule
  | drain
deriving DecidableEq

inductive Call
  | shutdownAll

/-- What a turn meets: the time, the message that is read unless the connection is gone, whether Run sees first that it
is cancelled, what the guest returns unless it traps, and whether its memory can be written. -/
structure Event where
  now : Int
  message : Option Bytes
  doneFirst : Bool
  result : Option UInt32
  written : Bool

def maxInflight (maxInflightFrames : Int) : Nat := if maxInflightFrames ≤ 0 then 64 else maxInflightFrames.toNat

def oramaControlFramePrefix : Bytes := ascii "\"__orama\""
def wsJWTExpiryGrace : Int := 120000000000

def wsJWTExpired (expUnix now grace : Int) : Bool := 0 < expUnix && expUnix * 1000000000 + grace < now

def validateRefreshClaims (claims : JWTClaims) (wsNamespace : Bytes) : Bytes :=
  if claims.ns = [] then ascii "jwt missing namespace claim"
  else if claims.ns ≠ wsNamespace then ascii "jwt namespace does not match websocket namespace"
  else if claims.sub = [] then ascii "jwt missing subject claim"
  else []

namespace Handler
variable (h : Handler)

def checkRefresh (now : Int) (jwt : Bytes) : Except Bytes JWTClaims :=
  match h.jwtVerifier with
  | none => .error (ascii "mid-session auth refresh not supported on this gateway")
  | some verify =>
    if jwt = [] then .error (ascii "jwt field required")
    else
      match verify now jwt with
      | .error text => .error (ascii "invalid or expired jwt: " ++ text)
      | .ok claims =>
        if validateRefreshClaims claims h.ns = [] then .ok claims else .error (validateRefreshClaims claims h.ns)

def newInvCtx (claims : JWTClaims) : InvocationContext where
  functionID := h.functionID
  functionName := h.functionName
  ns := h.ns
  callerWallet := claims.sub
  callerIP := []
  callerClaims := claims.custom
  callerJWTSubject := claims.sub
  wsClientID := h.clientID

def handleAuthRefresh (now : Int) (jwt : Bytes) (i : Instance) : Instance :=
  match h.checkRefresh now jwt with
  | .error text => { i with acks := i.acks ++ [⟨ascii "auth.refresh", false, text, []⟩] }
  | .ok claims =>
    { i with
      invCtx := h.newInvCtx claims
      expUnix := claims.exp
      acks := i.acks ++ [⟨ascii "auth.refresh", true, [], claims.sub⟩] }

def handleOramaControlFrame (now : Int) (bytes : Bytes) (i : Instance) : Option Instance :=
  match h.unmarshal bytes with
  | none => none
  | some ctrl =>
    if ctrl.type = [] then none
    else if ctrl.type = ascii "auth.refresh" then some (h.handleAuthRefresh now ctrl.jwt i)
    else some { i with acks := i.acks ++ [⟨ctrl.type, false, ascii "unknown __orama control type", []⟩] }

def receive (now : Int) (bytes : Bytes) (i : Instance) : Instance × List Task :=
  let i' := { i with inputs := i.inputs ++ [(now, bytes)] }
  match if contains bytes oramaControlFramePrefix then h.handleOramaControlFrame now bytes i' else none with
  | some i'' => (i'', [.read])
  | none =>
    if wsJWTExpired i.expUnix now wsJWTExpiryGrace then (i', [.disconnect])
    else (i', [.submit ⟨bytes, i.inputs.length⟩])

end Handler

def CloseReason.text : CloseReason → Bytes
  | .clientDisconnect => ascii "client_disconnect"
  | .serverShutdown => ascii "server_shutdown"
  | .rejected => ascii "rejected_by_open"

def Purpose.hasPayload : Purpose → Bool
  | .wsOpen => true
  | .wsFrame frame => frame.bytes ≠ []
  | .wsClose reason => reason.text ≠ []

def Purpose.returned (rc : Option UInt32) : Purpose → List Task
  | .wsOpen => if rc = some 0 then [.run, .read] else [.close .rejected]
  | .wsFrame _ => if rc = none || rc = some 1 then [] else [.run]
  | .wsClose _ => [.closeInbound]

def Purpose.isClose : Purpose → Bool
  | .wsClose _ => true
  | _ => false

namespace Instance

def new (invCtx : InvocationContext) (expUnix maxInflightFrames : Int) : Instance :=
  ⟨invCtx, expUnix, maxInflight maxInflightFrames, [], false, false, .ready, false, false, false, [], [], [], [], []⟩

variable (i : Instance)

def withInvCtx : Captured := ⟨i.invCtx, i.inputs.length⟩
def closeCalled : Bool := i.calls.any fun g => !g.alloc && g.purpose.isClose

def begin (purpose : Purpose) (alloc : Bool) (ctx : Captured) : Instance :=
  { i with calls := i.calls ++ [⟨purpose, alloc, ctx, i.closeCalled || i.moduleClosed⟩] }

def take (frame : Frame) (rest : List Frame) : Instance :=
  { i with inbound := rest, taken := i.taken ++ [frame] }

def callExport (e : Event) (purpose : Purpose) (ctx : Captured) : Stage → Instance × List Task
  | .beforeAlloc =>
    if purpose.hasPayload then (i.begin purpose true ctx, [.callExport purpose ctx .alloc])
    else (i, [.callExport purpose ctx .beforeCall])
  | .alloc =>
    if e.result.isSome && e.written then (i, [.callExport purpose ctx .beforeCall]) else (i, purpose.returned none)
  | .beforeCall => (i.begin purpose false ctx, [.callExport purpose ctx .call])
  | .call => (i, purpose.returned e.result)

def run (e : Event) : Instance × List Task :=
  if e.doneFirst && i.cancelled then (i, [])
  else
    match i.inbound with
    | frame :: rest => (i.take frame rest, [.process frame])
    | [] => if i.inboundClosed || i.cancelled then (i, []) else (i, [.run])

def send (frame : Frame) : Instance × List Task :=
  if i.inboundClosed then ({ i with panicked := true }, [])
  else if i.inbound.length < i.capacity then
    ({ i with inbound := i.inbound ++ [frame], submitted := i.submitted ++ [frame] }, [.read])
  else (i, [.disconnect])

def drain : Instance × List Task :=
  match i.inbound with
  | frame :: rest => (i.take frame rest, [.drain])
  | [] => if i.inboundClosed then (i, []) else (i, [.drain])

def close (reason : CloseReason) : Instance × List Task :=
  match i.closeOnce with
  | .ready => ({ i with closeOnce := .running }, [.storeClosed reason])
  | .running => (i, [.close reason])
  | .done => (i, [])

def perform (h : Handler) (e : Event) (i : Instance) : Task → Instance × List Task
  | .opening => (i, [.callExport .wsOpen i.withInvCtx .beforeAlloc])
  | .run => i.run e
  | .process frame => (i, [.callExport (.wsFrame frame) i.withInvCtx .beforeAlloc])
  | .callExport purpose ctx stage => i.callExport e purpose ctx stage
  | .read =>
    match e.message with
    | none => (i, [.disconnect])
    | some bytes => h.receive e.now bytes i
  | .submit frame => if i.closed then (i, [.disconnect]) else (i, [.send frame])
  | .send frame => i.send frame
  | .disconnect => ({ i with cancelled := true }, [.close .clientDisconnect])
  | .close reason => i.close reason
  | .storeClosed reason => ({ i with closed := true }, [.drain, .closing reason])
  | .closing reason => (i, [.callExport (.wsClose reason) i.withInvCtx .beforeAlloc])
  | .closeInbound => ({ i with inboundClosed := true }, [.closeModule])
  | .closeModule => ({ i with moduleClosed := true, closeOnce := .done }, [])
  | .drain => i.drain

end Instance

def persistent (h : Handler) : Scheduler Instance Task Call Event where
  entry _ := .close .serverShutdown
  perform := Instance.perform h

def start (invCtx : InvocationContext) (expUnix maxInflightFrames : Int) : Tasks Instance Task :=
  ⟨.new invCtx expUnix maxInflightFrames, [.opening]⟩

namespace Task

def drives : Task → Nat
  | .opening | .run | .process _ => 1
  | .callExport purpose _ _ => if purpose.isClose then 0 else 1
  | _ => 0

def closes : Task → Nat
  | .storeClosed _ | .closing _ | .closeInbound | .closeModule => 1
  | .callExport purpose _ _ => if purpose.isClose then 1 else 0
  | _ => 0

def executing : Task → Nat
  | .callExport _ _ .alloc | .callExport _ _ .call => 1
  | _ => 0

def enters : Task → Option Purpose
  | .opening => some .wsOpen
  | .process frame => some (.wsFrame frame)
  | .closing reason => some (.wsClose reason)
  | _ => none

def pending : Task → Option Frame
  | .process frame => some frame
  | .callExport (.wsFrame frame) _ stage => if stage = .call then none else some frame
  | _ => none

def live (i : Instance) : Task → Bool
  | .opening | .process _ | .send _ => true
  | .run => i.inbound ≠ []
  | .callExport purpose _ _ => !purpose.isClose
  | _ => false

def idle : Task → Bool
  | .read | .submit _ | .disconnect | .close _ | .drain => true
  | _ => false

def storing : Task → Bool
  | .storeClosed _ => true
  | _ => false

def afterStore : Task → Bool
  | .closing _ | .closeInbound | .closeModule => true
  | .callExport purpose _ _ => purpose.isClose
  | _ => false

def beforeClose : Task → Bool
  | .storeClosed _ | .closing _ => true
  | .callExport purpose _ stage => purpose.isClose && stage ≠ .call
  | _ => false

end Task

inductive Moves (i : Instance) : Task → List Task → Prop
  | enters {t : Task} {purpose : Purpose} (h : t.enters = some purpose) :
      Moves i t [.callExport purpose i.withInvCtx .beforeAlloc]
  | passes (purpose : Purpose) (ctx : Captured) {stage : Stage} (h : stage ≠ .call) :
      Moves i (.callExport purpose ctx stage) [.callExport purpose ctx .beforeCall]
  | returns (purpose : Purpose) (ctx : Captured) (stage : Stage) (rc : Option UInt32) :
      Moves i (.callExport purpose ctx stage) (purpose.returned rc)
  | waits (t : Task) : Moves i t [t]
  | ends {t : Task} (h : t.closes = 0) : Moves i t []
  | breaks {t : Task} (h : t.closes = 0) : Moves i t [.disconnect]
  | checked (frame : Frame) (h : i.closed = false) : Moves i (.submit frame) [.send frame]

inductive Effect (h : Handler) (e : Event) (i : Instance) : Task → Instance → List Task → Prop
  | moves {t : Task} {new : List Task} (hmoves : Moves i t new) : Effect h e i t i new
  | allocates (purpose : Purpose) (ctx : Captured) :
      Effect h e i (.callExport purpose ctx .beforeAlloc) (i.begin purpose true ctx) [.callExport purpose ctx .alloc]
  | calls (purpose : Purpose) (ctx : Captured) :
      Effect h e i (.callExport purpose ctx .beforeCall) (i.begin purpose false ctx) [.callExport purpose ctx .call]
  | takes {frame : Frame} {rest : List Frame} (hinbound : i.inbound = frame :: rest) :
      Effect h e i .run (i.take frame rest) [.process frame]
  | drains {frame : Frame} {rest : List Frame} (hinbound : i.inbound = frame :: rest) :
      Effect h e i .drain (i.take frame rest) [.drain]
  | receives {bytes : Bytes} {invCtx : InvocationContext} {expUnix : Int} {inputs : List (Int × Bytes)}
      {acks : List OramaControlAck} {new : List Task}
      (hreceive : h.receive e.now bytes i =
        ({ i with invCtx := invCtx, expUnix := expUnix, inputs := inputs, acks := acks }, new))
      (hnew : new = [.read] ∨ new = [.disconnect] ∨ new = [.submit ⟨bytes, i.inputs.length⟩]) :
      Effect h e i .read { i with invCtx := invCtx, expUnix := expUnix, inputs := inputs, acks := acks } new
  | sends (frame : Frame) (hopen : i.inboundClosed = false) : Effect h e i (.send frame)
        { i with inbound := i.inbound ++ [frame], submitted := i.submitted ++ [frame] } [.read]
  | panics (frame : Frame) (hclosed : i.inboundClosed = true) :
      Effect h e i (.send frame) { i with panicked := true } []
  | cancels : Effect h e i .disconnect { i with cancelled := true } [.close .clientDisconnect]
  | first (reason : CloseReason) (hready : i.closeOnce = .ready) :
      Effect h e i (.close reason) { i with closeOnce := .running } [.storeClosed reason]
  | stores (reason : CloseReason) :
      Effect h e i (.storeClosed reason) { i with closed := true } [.drain, .closing reason]
  | closesInbound : Effect h e i .closeInbound { i with inboundClosed := true } [.closeModule]
  | closesModule : Effect h e i .closeModule { i with moduleClosed := true, closeOnce := .done } []

variable {h : Handler} {e : Event} {i i' : Instance} {t : Task} {ts : Multiset Task} {new : List Task}
  {purpose : Purpose} {ctx : Captured} {stage : Stage} {f : Frame} {rc : Option UInt32}

open Bool Nat Handler

lemma handleOramaControlFrame_eq {now : Int} {bytes : Bytes}
    (hi : h.handleOramaControlFrame now bytes i = some i') :
    ∃ invCtx expUnix acks, i' = { i with invCtx := invCtx, expUnix := expUnix, acks := acks } := by
  rw [handleOramaControlFrame] at hi
  grind [handleAuthRefresh]

lemma receive_effect (bytes : Bytes) :
    Effect h e i .read (h.receive e.now bytes i).1 (h.receive e.now bytes i).2 := by
  cases hcontrol : if contains bytes oramaControlFramePrefix then
      h.handleOramaControlFrame e.now bytes { i with inputs := i.inputs ++ [(e.now, bytes)] } else none with
  | none =>
    by_cases hexpired : wsJWTExpired i.expUnix e.now wsJWTExpiryGrace
    · have hreceive : h.receive e.now bytes i = ({ i with inputs := i.inputs ++ [(e.now, bytes)] }, [.disconnect]) := by
        simp only [receive, hcontrol, hexpired, if_true]
      rw [hreceive]
      exact .receives hreceive (.inr (.inl rfl))
    · have hreceive : h.receive e.now bytes i =
          ({ i with inputs := i.inputs ++ [(e.now, bytes)] }, [.submit ⟨bytes, i.inputs.length⟩]) := by
        grind [receive]
      rw [hreceive]
      exact .receives hreceive (.inr (.inr rfl))
  | some i' =>
    have hreceive : h.receive e.now bytes i = (i', [.read]) := by
      simp only [receive, hcontrol]
    obtain ⟨invCtx, expUnix, acks, rfl⟩ := handleOramaControlFrame_eq ((Option.ite_none_right_eq_some.1 hcontrol).2)
    rw [hreceive]
    exact .receives hreceive (.inl rfl)

open Instance Purpose

lemma callExport_effect (purpose : Purpose) (ctx : Captured) (stage : Stage) :
    Effect h e i (.callExport purpose ctx stage) (i.callExport e purpose ctx stage).1
      (i.callExport e purpose ctx stage).2 := by
  cases stage with
  | beforeAlloc =>
    rw [callExport]
    split
    · exact .allocates purpose ctx
    · exact .moves (.passes purpose ctx (by decide))
  | alloc =>
    rw [callExport]
    split
    · exact .moves (.passes purpose ctx (by decide))
    · exact .moves (.returns purpose ctx .alloc none)
  | beforeCall => exact .calls purpose ctx
  | call => exact .moves (.returns purpose ctx .call e.result)

lemma perform_effect (h : Handler) (e : Event) (i : Instance) (t : Task) :
    Effect h e i t (i.perform h e t).1 (i.perform h e t).2 := by
  cases t with
  | opening => exact .moves (.enters rfl)
  | run =>
    rw [perform, run]
    split
    · exact .moves (.ends rfl)
    · split
      · next hinbound => exact .takes hinbound
      · split
        · exact .moves (.ends rfl)
        · exact .moves (.waits _)
  | process frame => exact .moves (.enters rfl)
  | callExport purpose ctx stage => exact callExport_effect purpose ctx stage
  | read =>
    rw [perform]
    split
    · exact .moves (.breaks rfl)
    · next bytes _ => exact receive_effect bytes
  | submit frame =>
    rw [perform]
    split
    · exact .moves (.breaks rfl)
    · next hopen => exact .moves (.checked frame (eq_false_iff.2 hopen))
  | send frame =>
    rw [perform, send]
    split
    · next hclosed => exact .panics frame hclosed
    · next hopen =>
      split
      · exact .sends frame (eq_false_iff.2 hopen)
      · exact .moves (.breaks rfl)
  | disconnect => exact .cancels
  | close reason =>
    rw [perform, close]
    split
    · next hready => exact .first reason hready
    · exact .moves (.waits _)
    · exact .moves (.ends rfl)
  | storeClosed reason => exact .stores reason
  | closing reason => exact .moves (.enters rfl)
  | closeInbound => exact .closesInbound
  | closeModule => exact .closesModule
  | drain =>
    rw [perform, drain]
    split
    · next hinbound => exact .drains hinbound
    · split
      · exact .moves (.ends rfl)
      · exact .moves (.waits _)

def GuestCall.frame (g : GuestCall) : Option Frame :=
  match g.purpose with
  | .wsFrame frame => if g.alloc then none else some frame
  | _ => none

def Instance.frames (i : Instance) : List Frame := i.calls.filterMap GuestCall.frame

/-- One goroutine drives the guest. What Run and the drain take are the first frames submitted, and ws_frame is called
with some of these in their order. -/
structure Ordered (i : Instance) (ts : Multiset Task) : Prop where
  drives : (ts.map Task.drives).sum ≤ 1
  queue : i.submitted = i.taken ++ i.inbound
  frames : i.frames.Sublist i.taken
  pending : ∀ t ∈ ts, ∀ f, t.pending = some f → (i.frames ++ [f]).Sublist i.taken

lemma enters_cases (ht : t.enters = some purpose) :
    t = .opening ∧ purpose = .wsOpen ∨ (∃ frame, t = .process frame ∧ purpose = .wsFrame frame) ∨
    ∃ reason, t = .closing reason ∧ purpose = .wsClose reason := by
  cases t <;> simp_all [Task.enters]

lemma returned_cases (hnew : t ∈ purpose.returned rc) :
    t = .run ∧ purpose.isClose = false ∨ t = .read ∨ t = .close .rejected ∨ t = .closeInbound ∧ purpose.isClose := by
  cases purpose <;> simp only [returned] at hnew <;> grind [isClose]

lemma sum_replace {w : Task → Nat} : ((ts + (new : Multiset Task)).map w).sum = (ts.map w).sum + (new.map w).sum := by
  rw [Multiset.map_add, sum_add, map_coe, sum_coe]

attribute [local simp] Task.pending Task.drives Task.live Task.beforeClose Task.closes Task.afterStore Task.storing

lemma Moves.drives_le (hm : Moves i t new) : (new.map Task.drives).sum ≤ t.drives := by
  cases hm with
  | enters ht => grind [enters_cases, Task.drives, isClose]
  | passes => simp
  | returns purpose ctx stage rc =>
    cases purpose <;> simp only [returned] <;> (try split) <;> simp [isClose]
  | waits => simp
  | ends => simp
  | breaks => simp
  | checked => simp

lemma Moves.closes_eq (hm : Moves i t new) : (new.map Task.closes).sum = t.closes := by
  cases hm with
  | enters ht => grind [enters_cases, Task.closes, isClose]
  | passes => simp
  | returns purpose ctx stage rc =>
    cases purpose <;> simp only [returned] <;> (try split) <;> simp [isClose]
  | waits => simp
  | ends h => exact h.symm
  | breaks h =>
    rw [h]
    rfl
  | checked => simp

variable {stage' : Stage}

lemma pending_callExport (hstage : stage ≠ .call) (hstage' : stage' ≠ .call) :
    (Task.callExport purpose ctx stage).pending = (Task.callExport purpose ctx stage').pending := by
  cases purpose <;> simp [hstage, hstage']

lemma Moves.pending_eq (hm : Moves i t new) : ∀ t' ∈ new, ∀ f, t'.pending = some f → t.pending = some f := by
  intro t' ht' f hf
  cases hm with
  | enters ht =>
    obtain rfl := List.mem_singleton.1 ht'
    obtain ⟨rfl, rfl⟩ | ⟨_, rfl, rfl⟩ | ⟨_, rfl, rfl⟩ := enters_cases ht
    · cases hf
    · exact hf
    · cases hf
  | passes purpose ctx hstage => grind [pending_callExport]
  | returns => obtain ⟨rfl, _⟩ | rfl | rfl | ⟨rfl, _⟩ := returned_cases ht' <;> cases hf
  | waits =>
    obtain rfl := List.mem_singleton.1 ht'
    exact hf
  | ends => cases ht'
  | breaks =>
    obtain rfl := List.mem_singleton.1 ht'
    cases hf
  | checked =>
    obtain rfl := List.mem_singleton.1 ht'
    cases hf

lemma Effect.drives_le (he : Effect h e i t i' new) : (new.map Task.drives).sum ≤ t.drives := by
  cases he with
  | moves hm => exact hm.drives_le
  | receives _ hnew => obtain rfl | rfl | rfl := hnew <;> simp
  | _ => simp

lemma drives_of_pending (hf : t.pending = some f) : t.drives = 1 := by
  cases t <;> simp_all
  split at hf <;> simp_all [isClose]

variable {t' : Task}

lemma pending_eq_none (hdrives : ((t ::ₘ ts).map Task.drives).sum ≤ 1) (ht : t.drives = 1) (ht' : t' ∈ ts) :
    t'.pending = none := by
  cases hf : t'.pending with
  | none => rfl
  | some f =>
    have hone := drives_of_pending hf
    have hle := le_sum_of_mem (mem_map_of_mem Task.drives ht')
    rw [map_cons, sum_cons] at hdrives
    omega

variable {alloc : Bool}

lemma frames_begin (hpurpose : ∀ f, purpose = .wsFrame f → alloc) :
    (i.begin purpose alloc ctx).frames = i.frames := by
  grind [frames, begin, GuestCall.frame]

lemma frames_begin_wsFrame : (i.begin (.wsFrame f) false ctx).frames = i.frames ++ [f] := by
  simp [frames, begin, GuestCall.frame]

namespace Ordered
section
variable (ho : Ordered i (t ::ₘ ts)) (hle : (new.map Task.drives).sum ≤ t.drives)
include ho hle

lemma drives_replace : ((ts + (new : Multiset Task)).map Task.drives).sum ≤ 1 := by
  have hdrives := ho.drives
  rw [map_cons, sum_cons] at hdrives
  rw [sum_replace]
  omega

lemma goesOn (hqueue : i'.submitted = i'.taken ++ i'.inbound) (hframes : i'.frames = i.frames)
    (htaken : i.taken.Sublist i'.taken) (hpending : ∀ t' ∈ new, ∀ f, t'.pending = some f → t.pending = some f) :
    Ordered i' (ts + (new : Multiset Task)) where
  drives := ho.drives_replace hle
  queue := hqueue
  frames := hframes ▸ ho.frames.trans htaken
  pending := by
    rw [hframes]
    refine forall_mem_move (fun t' ht' f hf => (ho.pending t' ht' f hf).trans htaken) fun ht t' ht' f hf => ?_
    exact ht f (hpending t' ht' f hf)

end

lemma takes {frame : Frame} {rest : List Frame} (ho : Ordered i (.run ::ₘ ts))
    (hinbound : i.inbound = frame :: rest) : Ordered (i.take frame rest) (ts + ([.process frame] : List Task)) where
  drives := ho.drives_replace (by simp)
  queue := by rw [take, ho.queue, hinbound, List.append_assoc, List.singleton_append]
  frames := ho.frames.trans (List.sublist_append_left _ _)
  pending t' ht' f hf := by
    obtain ht' | ht' := mem_add.1 ht'
    · rw [pending_eq_none ho.drives rfl ht'] at hf
      cases hf
    · obtain rfl := List.mem_singleton.1 ht'
      obtain rfl := Option.some.inj hf
      exact ho.frames.append (refl _)

lemma calls (ho : Ordered i (.callExport (.wsFrame f) ctx .beforeCall ::ₘ ts)) :
    Ordered (i.begin (.wsFrame f) false ctx) (ts + ([.callExport (.wsFrame f) ctx .call] : List Task)) where
  drives := ho.drives_replace (by simp)
  queue := ho.queue
  frames := by
    rw [frames_begin_wsFrame]
    exact ho.pending _ (mem_cons_self _ _) f rfl
  pending t' ht' f' hf := by
    obtain ht' | ht' := mem_add.1 ht'
    · rw [pending_eq_none ho.drives rfl ht'] at hf
      cases hf
    · obtain rfl := List.mem_singleton.1 ht'
      cases hf

lemma of_effect (ho : Ordered i (t ::ₘ ts)) (he : Effect h e i t i' new) :
    Ordered i' (ts + (new : Multiset Task)) := by
  have hle := he.drives_le
  cases he with
  | moves hm => exact ho.goesOn hle ho.queue rfl (refl _) hm.pending_eq
  | allocates purpose ctx =>
    refine ho.goesOn hle ho.queue (frames_begin fun _ _ => rfl) (refl _) fun t' ht' f hf => ?_
    grind [pending_callExport]
  | calls purpose ctx =>
    cases purpose with
    | wsFrame frame => exact ho.calls
    | wsOpen => exact ho.goesOn hle ho.queue (frames_begin (by simp)) (refl _) (by simp)
    | wsClose => exact ho.goesOn hle ho.queue (frames_begin (by simp)) (refl _) (by simp)
  | takes hinbound => exact ho.takes hinbound
  | drains hinbound =>
    refine ho.goesOn hle ?_ rfl (List.sublist_append_left _ _) (by simp)
    rw [take, ho.queue, hinbound, List.append_assoc, List.singleton_append]
  | receives hreceive hnew =>
    refine ho.goesOn hle ho.queue rfl (refl _) ?_
    obtain rfl | rfl | rfl := hnew <;> simp
  | sends frame hopen =>
    refine ho.goesOn hle ?_ rfl (refl _) (by simp)
    rw [ho.queue, List.append_assoc]
  | panics frame hclosed => exact ho.goesOn hle ho.queue rfl (refl _) (by simp)
  | cancels => exact ho.goesOn hle ho.queue rfl (refl _) (by simp)
  | first reason hready => exact ho.goesOn hle ho.queue rfl (refl _) (by simp)
  | stores reason => exact ho.goesOn hle ho.queue rfl (refl _) (by simp)
  | closesInbound => exact ho.goesOn hle ho.queue rfl (refl _) (by simp)
  | closesModule => exact ho.goesOn hle ho.queue rfl (refl _) (by simp)

end Ordered

lemma keeps_ordered (h : Handler) : (persistent h).Keeps (fun _ _ _ => True) Ordered where
  call i ts _ ho :=
    { ho with
      drives := by
        rw [map_cons, sum_cons]
        exact (zero_add _).trans_le ho.drives
      pending := forall_mem_cons.2 ⟨nofun, ho.pending⟩ }
  go i ts t e _ ho := ho.of_effect (perform_effect h e i t)

/-- An instance is marked as closed while no goroutine opens or serves the guest, can serve it next or is about to send
a frame. -/
def Calm (i : Instance) (ts : Multiset Task) : Task → Prop
  | .storeClosed _ => ∀ t ∈ ts, t.live i = false
  | _ => True

instance (i : Instance) (ts : Multiset Task) (t : Task) : Decidable (Calm i ts t) := by
  cases t with
  | storeClosed => exact inferInstanceAs (Decidable (∀ t ∈ ts, t.live i = false))
  | _ => exact inferInstanceAs (Decidable True)

structure Disciplined (i : Instance) (ts : Multiset Task) : Prop where
  closes : (ts.map Task.closes).sum = if i.closeOnce = .running then 1 else 0
  ready : i.closeOnce = .ready → i.closed = false
  storing : ∀ t ∈ ts, t.storing = true → i.closed = false
  opened : i.closed = false → (∀ t ∈ ts, t.afterStore = false) ∧ i.inboundClosed = false ∧ i.moduleClosed = false ∧
    i.closeCalled = false
  quiet : i.closed = true → ∀ t ∈ ts, t.live i = false
  beforeClose : ∀ t ∈ ts, t.beforeClose = true → i.moduleClosed = false ∧ i.closeCalled = false
  calls : ∀ g ∈ i.calls, g.late = false
  panicked : i.panicked = false

lemma executing_le_drives (ht : t.afterStore = false) : t.executing ≤ t.drives := by
  cases t with
  | callExport purpose ctx stage =>
    rw [Task.afterStore] at ht
    cases stage <;> simp [Task.executing, ht]
  | _ => exact zero_le _

lemma executing_le_closes (ht : t.live i = false) : t.executing ≤ t.closes := by
  cases t with
  | callExport purpose ctx stage =>
    rw [Task.live, not_eq_false'] at ht
    cases stage <;> simp [Task.executing, ht]
  | _ => exact zero_le _

lemma Disciplined.closes_le (hd : Disciplined i ts) : (ts.map Task.closes).sum ≤ 1 := by
  rw [hd.closes]
  split
  · exact le_refl 1
  · exact zero_le 1

lemma Disciplined.executing_le (hd : Disciplined i ts) (hdrives : (ts.map Task.drives).sum ≤ 1) :
    (ts.map Task.executing).sum ≤ 1 := by
  cases hclosed : i.closed with
  | false =>
    have hle : (ts.map Task.executing).sum ≤ (ts.map Task.drives).sum :=
      sum_map_le_sum_map _ _ fun t ht => executing_le_drives ((hd.opened hclosed).1 t ht)
    exact hle.trans hdrives
  | true =>
    have hle : (ts.map Task.executing).sum ≤ (ts.map Task.closes).sum :=
      sum_map_le_sum_map _ _ fun t ht => executing_le_closes (hd.quiet hclosed t ht)
    exact hle.trans hd.closes_le

structure Follows (i i' : Instance) (t t' : Task) : Prop where
  live : i.closed = true → t'.live i' = true → t.live i = true
  afterStore : t'.afterStore = true → t.afterStore = true
  beforeClose : t'.beforeClose = true → t.beforeClose = true
  storing : t'.storing = true → t.storing = true

lemma Follows.of_idle (ht' : t'.idle) : Follows i i' t t' := by
  cases t' with
  | read | submit | disconnect | close | drain =>
    constructor <;> simp
  | _ => cases ht'

lemma follows_idle (ht' : t'.idle) : ∀ t'' ∈ [t'], Follows i i' t t'' := List.forall_mem_singleton.2 (.of_idle ht')

lemma follows_callExport (hstage : stage ≠ .call) :
    Follows i i' (.callExport purpose ctx stage) (.callExport purpose ctx stage') := by
  constructor <;> simp +contextual [Task.live, Task.afterStore, Task.beforeClose, Task.storing, hstage]

lemma Moves.follows (hm : Moves i t new) : ∀ t' ∈ new, Follows i i t t' := by
  intro t' ht'
  cases hm with
  | enters ht =>
    obtain rfl := List.mem_singleton.1 ht'
    obtain ⟨rfl, rfl⟩ | ⟨_, rfl, rfl⟩ | ⟨_, rfl, rfl⟩ := enters_cases ht <;> constructor <;>
      simp [isClose]
  | passes purpose ctx hstage => grind [follows_callExport]
  | returns =>
    obtain ⟨rfl, hpurpose⟩ | rfl | rfl | ⟨rfl, hpurpose⟩ := returned_cases ht' <;> constructor <;>
      simp [*]
  | waits =>
    obtain rfl := List.mem_singleton.1 ht'
    exact ⟨fun _ h => h, id, id, id⟩
  | ends => cases ht'
  | breaks =>
    obtain rfl := List.mem_singleton.1 ht'
    exact .of_idle rfl
  | checked _ hopen =>
    obtain rfl := List.mem_singleton.1 ht'
    constructor <;> simp [hopen]

lemma live_of_inbound (hinbound : i'.inbound ≠ [] → i.inbound ≠ []) (ht : t.live i') : t.live i := by
  cases t with
  | run => exact decide_eq_true (hinbound (of_decide_eq_true ht))
  | _ => exact ht

lemma closes_of_beforeClose (ht : t.beforeClose) : t.closes = 1 := by
  cases t with
  | storeClosed | closing => rfl
  | callExport purpose ctx stage => rw [Task.closes, if_pos (and_elim_left ht)]
  | _ => cases ht

lemma closes_of_storing (ht : t.storing) : t.closes = 1 := by
  cases t with
  | storeClosed => rfl
  | _ => cases ht

lemma closeCalled_begin :
    (i.begin purpose alloc ctx).closeCalled = (i.closeCalled || (!alloc && purpose.isClose)) := by
  simp [closeCalled, begin]

namespace Disciplined
section
variable (hd : Disciplined i (t ::ₘ ts))
include hd

lemma of_mem_rest {t' : Task} (ht : t.closes = 1) (ht' : t' ∈ ts) : t'.closes ≠ 1 := by
  have hle := le_sum_of_mem (mem_map_of_mem Task.closes ht')
  have hsum := hd.closes_le
  rw [map_cons, sum_cons] at hsum
  omega

lemma running (ht : t.closes = 1) : i.closeOnce = .running := by
  have hsum := hd.closes
  grind [map_cons, sum_cons]

lemma goesOn (hcloses : (new.map Task.closes).sum = t.closes)
    (honce : i'.closeOnce = i.closeOnce) (hclosed : i'.closed = i.closed) (hmodule : i'.moduleClosed = i.moduleClosed)
    (hcall : i'.closeCalled = i.closeCalled) (hchannel : i.closed = false → i'.inboundClosed = false)
    (hinbound : i.closed → i'.inbound ≠ [] → i.inbound ≠ []) (hnew : ∀ t' ∈ new, Follows i i' t t')
    (hcalls : ∀ g ∈ i'.calls, g.late = false) (hpanicked : i'.panicked = false) :
    Disciplined i' (ts + (new : Multiset Task)) where
  closes := by rw [sum_replace, hcloses, honce, ← hd.closes, map_cons, sum_cons, add_comm]
  ready h := hclosed ▸ hd.ready (honce ▸ h)
  storing := by
    rw [hclosed]
    exact forall_mem_move hd.storing fun ht t' ht' hstoring => ht ((hnew t' ht').storing hstoring)
  opened hopen := by
    rw [hclosed] at hopen
    obtain ⟨hafter, _, hopened⟩ := hd.opened hopen
    refine ⟨forall_mem_move hafter fun ht t' ht' => ?_, hchannel hopen, hmodule ▸ hcall ▸ hopened⟩
    exact eq_false_iff.2 fun h => eq_false_iff.1 ht ((hnew t' ht').afterStore h)
  quiet hclosed' := by
    rw [hclosed] at hclosed'
    refine forall_mem_move (t := t) (fun t' ht' => ?_) fun _ t' ht' => eq_false_iff.2 fun hlive => ?_
    · have hquiet := hd.quiet hclosed' t' ht'
      grind [live_of_inbound]
    · have hquiet := hd.quiet hclosed' t (mem_cons_self t ts)
      exact eq_false_iff.1 hquiet ((hnew t' ht').live hclosed' hlive)
  beforeClose := by
    rw [hmodule, hcall]
    exact forall_mem_move hd.beforeClose fun ht t' ht' hbefore => ht ((hnew t' ht').beforeClose hbefore)
  calls := hcalls
  panicked := hpanicked

lemma open_of_live (ht : t.live i) : i.closed = false :=
  eq_false_iff.2 fun hclosed => eq_false_iff.1 (hd.quiet hclosed t (mem_cons_self t ts)) ht

lemma closed_of_afterStore (ht : t.afterStore) : i.closed := by
  by_contra hopen
  exact eq_false_iff.1 ((hd.opened (eq_false_iff.2 hopen)).1 t (mem_cons_self t ts)) ht

end

section
variable (hd : Disciplined i (.callExport purpose ctx stage ::ₘ ts)) (hstage : stage ≠ .call)
include hd hstage

lemma not_late : (i.closeCalled || i.moduleClosed) = false := by
  have hcalled : i.moduleClosed = false ∧ i.closeCalled = false := by
    cases hpurpose : purpose.isClose with
    | false => exact (hd.opened (hd.open_of_live (by simp [hpurpose]))).2.2
    | true => exact hd.beforeClose _ (mem_cons_self _ _) (by simp [hpurpose, hstage])
  rw [hcalled.1, hcalled.2]
  rfl

lemma calls_begin {alloc : Bool} : ∀ g ∈ (i.begin purpose alloc ctx).calls, g.late = false := by
  intro g hg
  obtain hg | hg := List.mem_append.1 hg
  · exact hd.calls g hg
  · obtain rfl := List.mem_singleton.1 hg
    exact hd.not_late hstage

end

variable {reason : CloseReason}

lemma calls_wsClose (hd : Disciplined i (.callExport (.wsClose reason) ctx .beforeCall ::ₘ ts)) :
    Disciplined (i.begin (.wsClose reason) false ctx)
      (ts + ([.callExport (.wsClose reason) ctx .call] : List Task)) where
  closes := by
    have hsum := hd.closes
    rw [map_cons, sum_cons] at hsum
    rw [sum_replace, add_comm]
    exact hsum
  ready := hd.ready
  storing := forall_mem_move hd.storing (by simp)
  opened hopen := absurd ((hd.closed_of_afterStore rfl).symm.trans hopen) (by decide)
  quiet hclosed := forall_mem_move (hd.quiet hclosed) (by simp)
  beforeClose t' ht' hbefore := by
    obtain ht' | ht' := mem_add.1 ht'
    · exact absurd (closes_of_beforeClose hbefore) (hd.of_mem_rest rfl ht')
    · obtain rfl := List.mem_singleton.1 ht'
      cases hbefore
  calls := hd.calls_begin (by decide)
  panicked := hd.panicked

lemma calls_export (hd : Disciplined i (.callExport purpose ctx .beforeCall ::ₘ ts)) :
    Disciplined (i.begin purpose false ctx) (ts + ([.callExport purpose ctx .call] : List Task)) := by
  by_cases hpurpose : purpose.isClose
  · cases purpose with
    | wsClose reason => exact hd.calls_wsClose
    | _ => cases hpurpose
  · refine hd.goesOn ?_ rfl rfl rfl ?_ (fun hopen => (hd.opened hopen).2.1) (fun _ hne => hne) ?_
      (hd.calls_begin (by decide)) hd.panicked
    all_goals grind [closeCalled_begin, follows_callExport, Task.closes]

lemma begins_alloc (hd : Disciplined i (.callExport purpose ctx .beforeAlloc ::ₘ ts)) :
    Disciplined (i.begin purpose true ctx) (ts + ([.callExport purpose ctx .alloc] : List Task)) := by
  refine hd.goesOn ?_ rfl rfl rfl ?_ (fun hopen => (hd.opened hopen).2.1) (fun _ hne => hne) ?_
    (hd.calls_begin (by decide)) hd.panicked
  all_goals grind [closeCalled_begin, follows_callExport, Task.closes]

lemma first (hd : Disciplined i (.close reason ::ₘ ts)) (hready : i.closeOnce = .ready) :
    Disciplined { i with closeOnce := .running } (ts + ([.storeClosed reason] : List Task)) := by
  have hopen := hd.ready hready
  obtain ⟨hafter, hopened⟩ := hd.opened hopen
  exact
    { closes := by
        have hsum := hd.closes
        rw [hready, map_cons, sum_cons] at hsum
        rw [sum_replace]
        change (ts.map Task.closes).sum + 1 = 1
        exact congrArg (· + 1) ((zero_add _).symm.trans hsum)
      ready := by simp
      storing := fun _ _ _ => hopen
      opened := fun _ => ⟨forall_mem_move hafter (by simp), hopened⟩
      quiet := fun hclosed => absurd (hopen.symm.trans hclosed) (by decide)
      beforeClose := fun _ _ _ => hopened.2
      calls := hd.calls
      panicked := hd.panicked }

lemma stores (hd : Disciplined i (.storeClosed reason ::ₘ ts))
    (hcalm : ∀ t ∈ .storeClosed reason ::ₘ ts, t.live i = false) :
    Disciplined { i with closed := true } (ts + ([.drain, .closing reason] : List Task)) where
  closes := by
    have hsum := hd.closes
    rw [map_cons, sum_cons] at hsum
    rw [sum_replace, add_comm]
    exact hsum
  ready hready := absurd ((hd.running rfl).symm.trans hready) (by decide)
  storing t' ht' hstoring := by
    obtain ht' | ht' := mem_add.1 ht'
    · exact absurd (closes_of_storing hstoring) (hd.of_mem_rest rfl ht')
    · obtain rfl | ht' := List.mem_cons.1 ht'
      · cases hstoring
      · obtain rfl := List.mem_singleton.1 ht'
        cases hstoring
  opened hopen := by cases hopen
  quiet _ := forall_mem_move hcalm (by simp)
  beforeClose _ _ _ := hd.beforeClose _ (mem_cons_self _ _) rfl
  calls := hd.calls
  panicked := hd.panicked

lemma closesModule (hd : Disciplined i (.closeModule ::ₘ ts)) :
    Disciplined { i with moduleClosed := true, closeOnce := .done } (ts + ([] : List Task)) := by
  have hclosed := hd.closed_of_afterStore rfl
  have hmem : ∀ t' ∈ ts + ([] : List Task), t' ∈ ts := fun t' ht' => (mem_add.1 ht').resolve_right (by simp)
  exact
    { closes := by
        have hsum := hd.closes_le
        rw [map_cons, sum_cons] at hsum
        rw [sum_replace]
        exact le_zero.1 (le_of_add_le_add_left hsum)
      ready := by simp
      storing := fun t' ht' hstoring => hd.storing t' (mem_cons_of_mem (hmem t' ht')) hstoring
      opened := fun hopen => absurd (hclosed.symm.trans hopen) (by decide)
      quiet := fun hclosed t' ht' => hd.quiet hclosed t' (mem_cons_of_mem (hmem t' ht'))
      beforeClose := fun t' ht' hbefore => absurd (closes_of_beforeClose hbefore) (hd.of_mem_rest rfl (hmem t' ht'))
      calls := hd.calls
      panicked := hd.panicked }

lemma of_effect (hd : Disciplined i (t ::ₘ ts)) (hcalm : Calm i (t ::ₘ ts) t) (he : Effect h e i t i' new) :
    Disciplined i' (ts + (new : Multiset Task)) := by
  have hchannel := fun hopen => (hd.opened hopen).2.1
  cases he with
  | moves hm =>
    exact hd.goesOn hm.closes_eq rfl rfl rfl rfl hchannel (fun _ hne => hne) hm.follows hd.calls hd.panicked
  | allocates purpose ctx => exact hd.begins_alloc
  | calls purpose ctx => exact hd.calls_export
  | takes hinbound =>
    refine hd.goesOn rfl rfl rfl rfl rfl hchannel (fun _ _ => by simp [hinbound]) ?_ hd.calls hd.panicked
    intro t' ht'
    obtain rfl := List.mem_singleton.1 ht'
    exact ⟨fun _ _ => by simp [hinbound], id, id, id⟩
  | drains hinbound =>
    exact hd.goesOn rfl rfl rfl rfl rfl hchannel (fun _ _ => by simp [hinbound]) (follows_idle rfl) hd.calls hd.panicked
  | receives _ hnew =>
    obtain rfl | rfl | rfl := hnew <;>
      exact hd.goesOn rfl rfl rfl rfl rfl hchannel (fun _ hne => hne) (follows_idle rfl) hd.calls hd.panicked
  | sends frame =>
    refine hd.goesOn rfl rfl rfl rfl rfl hchannel (fun hclosed _ => ?_) (follows_idle rfl) hd.calls hd.panicked
    exact absurd ((hd.open_of_live rfl).symm.trans hclosed) (by decide)
  | panics frame hclosed => exact absurd ((hchannel (hd.open_of_live rfl)).symm.trans hclosed) (by decide)
  | cancels =>
    exact hd.goesOn rfl rfl rfl rfl rfl hchannel (fun _ hne => hne) (follows_idle rfl) hd.calls hd.panicked
  | first reason hready => exact hd.first hready
  | stores reason => exact hd.stores hcalm
  | closesInbound =>
    refine hd.goesOn rfl rfl rfl rfl rfl (fun hopen => ?_) (fun _ hne => hne) ?_ hd.calls hd.panicked
    · exact absurd ((hd.closed_of_afterStore rfl).symm.trans hopen) (by decide)
    · intro t' ht'
      obtain rfl := List.mem_singleton.1 ht'
      exact ⟨fun _ h => h, id, id, id⟩
  | closesModule => exact hd.closesModule

lemma enter (hd : Disciplined i ts) : Disciplined i (.close reason ::ₘ ts) where
  closes := by
    rw [map_cons, sum_cons, ← hd.closes]
    exact zero_add _
  ready := hd.ready
  storing := forall_mem_cons.2 ⟨nofun, hd.storing⟩
  opened hopen := ⟨forall_mem_cons.2 ⟨rfl, (hd.opened hopen).1⟩, (hd.opened hopen).2⟩
  quiet hclosed := forall_mem_cons.2 ⟨rfl, hd.quiet hclosed⟩
  beforeClose := forall_mem_cons.2 ⟨nofun, hd.beforeClose⟩
  calls := hd.calls
  panicked := hd.panicked

end Disciplined

lemma keeps_disciplined (h : Handler) : (persistent h).Keeps Calm Disciplined where
  call _ _ _ hd := hd.enter
  go i _ t e hcalm hd := hd.of_effect hcalm (perform_effect h e i t)

lemma ordered_start (invCtx : InvocationContext) (expUnix maxInflightFrames : Int) :
    Ordered (start invCtx expUnix maxInflightFrames).shared (start invCtx expUnix maxInflightFrames).tasks where
  drives := le_refl 1
  queue := rfl
  frames := refl []
  pending t ht f hf := by
    obtain rfl := List.mem_singleton.1 ht
    cases hf

lemma disciplined_start (invCtx : InvocationContext) (expUnix maxInflightFrames : Int) :
    Disciplined (start invCtx expUnix maxInflightFrames).shared (start invCtx expUnix maxInflightFrames).tasks where
  closes := rfl
  ready _ := rfl
  storing _ _ _ := rfl
  opened _ := by
    refine ⟨fun t ht => ?_, rfl, rfl, rfl⟩
    obtain rfl := List.mem_singleton.1 ht
    rfl
  quiet hclosed := by cases hclosed
  beforeClose _ _ _ := ⟨rfl, rfl⟩
  calls _ hg := by cases hg
  panicked := rfl

/-- In every run ws_frame is called with frames in the order in which they were submitted. In a run that marks the
instance as closed while it is calm, at most one exported function is executing, none is called after ws_close or after
the module is closed, and Submit does not panic. -/
theorem disciplined_of_calm (h : Handler) (invCtx : InvocationContext) (expUnix maxInflightFrames : Int)
    (moves : List (Move Call Event)) :
    let c := (persistent h).run (start invCtx expUnix maxInflightFrames) moves
    c.shared.frames.Sublist c.shared.submitted ∧
      ((persistent h).Respects Calm (start invCtx expUnix maxInflightFrames) moves →
      (c.tasks.map Task.executing).sum ≤ 1 ∧ (∀ g ∈ c.shared.calls, g.late = false) ∧ c.shared.panicked = false) := by
  intro c
  have ho : Ordered c.shared c.tasks := (keeps_ordered h).run (ordered_start invCtx expUnix maxInflightFrames) moves
  refine ⟨ho.frames.trans (ho.queue ▸ List.sublist_append_left _ _), fun hrespects => ?_⟩
  have hd : Disciplined c.shared c.tasks :=
    (keeps_disciplined h).run_of_respects (disciplined_start invCtx expUnix maxInflightFrames) hrespects
  exact ⟨hd.executing_le ho.drives, hd.calls, hd.panicked⟩

def chatHandler : Handler := ⟨ascii "fn-1", ascii "chat", ascii "app", ascii "client-1", fun _ => none, none⟩

def wallet : InvocationContext where
  functionID := ascii "fn-1"
  functionName := ascii "chat"
  ns := ascii "app"
  callerWallet := ascii "0xa"
  callerIP := ascii "10.0.0.1"
  callerClaims := []
  callerJWTSubject := ascii "0xa"
  wsClientID := ascii "client-1"

def turn (k : Nat) (message : Option Bytes) : Move Call Event := .go k ⟨0, message, false, some 0, true⟩

def served : List (Move Call Event) :=
  List.replicate 5 (turn 0 none) ++ List.replicate 3 (turn 1 (some (ascii "hi"))) ++ [turn 0 none] ++
    List.replicate 3 (turn 1 none)

def wholeSession : List (Move Call Event) :=
  served ++ [turn 1 none, turn 1 none, turn 0 none, turn 1 none, turn 1 none, turn 1 none, turn 0 none] ++
    List.replicate 7 (turn 1 none) ++ [turn 0 none]

theorem disciplined_of_wholeSession :
    let c := (persistent chatHandler).run (start wallet 0 0) wholeSession
    c.tasks = [] ∧ c.shared.calls.length = 6 ∧ (∀ g ∈ c.shared.calls, g.late = false) ∧ c.shared.panicked = false := by
  have hcalm : (persistent chatHandler).Respects Calm (start wallet 0 0) wholeSession := by decide +kernel
  obtain ⟨-, hcalls, hpanicked⟩ := (disciplined_of_calm chatHandler wallet 0 0 wholeSession).2 hcalm
  exact ⟨by decide +kernel, by decide +kernel, hcalls, hpanicked⟩

def overlapping : List (Move Call Event) :=
  served ++ [turn 0 (some (ascii "bye")), turn 1 none, .call .shutdownAll, turn 2 none, turn 2 none] ++
    List.replicate 4 (turn 3 none) ++ [turn 0 none]

/-- Two exported functions are executing, and ws_frame was called after ws_close. When the channel is closed, Submit
panics. -/
theorem exports_overlap :
    let c := (persistent chatHandler).run (start wallet 0 0) overlapping
    let c' := (persistent chatHandler).run (start wallet 0 0) (overlapping ++ [turn 2 none, turn 3 none, turn 0 none])
    (c.tasks.map Task.executing).sum = 2 ∧ c.shared.calls.any GuestCall.late = true ∧ c'.shared.panicked = true := by
  decide +kernel

end Orama.Serverless.Persistent
