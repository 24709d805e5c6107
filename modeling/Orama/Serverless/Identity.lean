import Orama.Serverless.Persistent

namespace Orama.Serverless.Persistent
open Lib Gateway List
namespace Handler
variable (h : Handler)

def refreshed (now : Int) (bytes : Bytes) : Option InvocationContext :=
  if contains bytes oramaControlFramePrefix then
    match h.unmarshal bytes with
    | none => none
    | some ctrl =>
      if ctrl.type = ascii "auth.refresh" then
        match h.checkRefresh now ctrl.jwt with
        | .error _ => none
        | .ok claims => some (h.newInvCtx claims)
      else none
  else none

def contextAfter (invCtx : InvocationContext) (inputs : List (Int × Bytes)) : InvocationContext :=
  inputs.foldl (fun current m => (h.refreshed m.1 m.2).getD current) invCtx

end Handler

def Received (inputs : List (Int × Bytes)) (f : Frame) : Prop := (inputs[f.index]?).map Prod.snd = some f.bytes
deriving Decidable

structure Served (h : Handler) (invCtx : InvocationContext) (inputs : List (Int × Bytes)) (purpose : Purpose)
    (ctx : Captured) : Prop where
  read : ctx.read ≤ inputs.length
  context : ctx.invCtx = h.contextAfter invCtx (inputs.take ctx.read)
  frame : ∀ f, purpose = .wsFrame f → Received (inputs.take ctx.read) f

def Sound (h : Handler) (invCtx : InvocationContext) (inputs : List (Int × Bytes)) : Task → Prop
  | .process f | .submit f | .send f => Received inputs f
  | .callExport purpose ctx _ => Served h invCtx inputs purpose ctx
  | _ => True

structure Identified (h : Handler) (invCtx : InvocationContext) (i : Instance) (ts : Multiset Task) : Prop where
  current : i.invCtx = h.contextAfter invCtx i.inputs
  inbound : ∀ f ∈ i.inbound, Received i.inputs f
  tasks : ∀ t ∈ ts, Sound h invCtx i.inputs t
  calls : ∀ g ∈ i.calls, Served h invCtx i.inputs g.purpose g.ctx

variable {h : Handler} {invCtx : InvocationContext} {e : Event} {i i' : Instance} {t : Task} {ts : Multiset Task}
  {new : List Task} {purpose : Purpose} {ctx : Captured} {f : Frame} {inputs more : List (Int × Bytes)} {now : Int}
  {bytes : Bytes}

lemma Received.append (hf : Received inputs f) (more : List (Int × Bytes)) : Received (inputs ++ more) f := by
  grind [Received]

lemma received_last (now : Int) (bytes : Bytes) : Received (inputs ++ [(now, bytes)]) ⟨bytes, inputs.length⟩ := by
  rw [Received, getElem?_concat_length]
  rfl

lemma Served.append (hs : Served h invCtx inputs purpose ctx) (more : List (Int × Bytes)) :
    Served h invCtx (inputs ++ more) purpose ctx := by
  have htake : (inputs ++ more).take ctx.read = inputs.take ctx.read := take_append_of_le_length hs.read
  refine ⟨?_, ?_, ?_⟩
  · rw [length_append]
    exact Nat.le_add_right_of_le hs.read
  · rw [htake]
    exact hs.context
  · rw [htake]
    exact hs.frame

lemma Sound.append (ht : Sound h invCtx inputs t) (more : List (Int × Bytes)) :
    Sound h invCtx (inputs ++ more) t := by
  cases t with
  | process | submit | send => exact Received.append ht more
  | callExport => exact Served.append ht more
  | _ => trivial

open Handler

lemma contextAfter_concat :
    h.contextAfter invCtx (inputs ++ [(now, bytes)]) = (h.refreshed now bytes).getD (h.contextAfter invCtx inputs) := by
  rw [contextAfter, foldl_append]
  rfl

lemma handleAuthRefresh_identity (jwt : Bytes) :
    (h.handleAuthRefresh now jwt i).inputs = i.inputs ∧ (h.handleAuthRefresh now jwt i).invCtx =
    (match h.checkRefresh now jwt with
        | .error _ => none
        | .ok claims => some (h.newInvCtx claims)).getD i.invCtx := by
  grind [handleAuthRefresh]

lemma handleOramaControlFrame_identity (h : Handler) (now : Int) (i : Instance)
    (hcontains : contains bytes oramaControlFramePrefix) :
    ((h.handleOramaControlFrame now bytes i).getD i).inputs = i.inputs ∧
      ((h.handleOramaControlFrame now bytes i).getD i).invCtx = (h.refreshed now bytes).getD i.invCtx := by
  rw [handleOramaControlFrame, refreshed, if_pos hcontains]
  cases h.unmarshal bytes with
  | none => exact ⟨rfl, rfl⟩
  | some ctrl =>
    dsimp only
    by_cases hempty : ctrl.type = []
    · rw [if_pos hempty, if_neg (hempty ▸ by decide)]
      exact ⟨rfl, rfl⟩
    · grind [handleAuthRefresh_identity]

lemma receive_identity (hreceive : h.receive now bytes i = (i', new)) :
    i'.inputs = i.inputs ++ [(now, bytes)] ∧ i'.invCtx = (h.refreshed now bytes).getD i.invCtx := by
  by_cases hcontains : contains bytes oramaControlFramePrefix
  · grind [handleOramaControlFrame_identity, receive]
  · have hrefreshed : h.refreshed now bytes = none := if_neg hcontains
    simp only [receive, if_neg hcontains] at hreceive
    rw [hrefreshed]
    split at hreceive <;> obtain ⟨rfl, -⟩ := Prod.mk.inj hreceive <;> exact ⟨rfl, rfl⟩

namespace Identified

lemma goesOn (hi : Identified h invCtx i (t ::ₘ ts)) (hctx : i'.invCtx = i.invCtx) (hinputs : i'.inputs = i.inputs)
    (hinbound : ∀ f ∈ i'.inbound, Received i.inputs f)
    (hcalls : ∀ g ∈ i'.calls, Served h invCtx i.inputs g.purpose g.ctx)
    (hnew : ∀ t' ∈ new, Sound h invCtx i.inputs t') : Identified h invCtx i' (ts + (new : Multiset Task)) where
  current := by
    rw [hctx, hinputs]
    exact hi.current
  inbound := by
    rw [hinputs]
    exact hinbound
  tasks := by
    rw [hinputs]
    exact forall_mem_move hi.tasks fun _ => hnew
  calls := by
    rw [hinputs]
    exact hcalls

lemma served_withInvCtx (hi : Identified h invCtx i ts) (hf : ∀ f, purpose = .wsFrame f → Received i.inputs f) :
    Served h invCtx i.inputs purpose i.withInvCtx := by
  have htake : i.inputs.take i.withInvCtx.read = i.inputs := take_length
  refine ⟨Nat.le_refl _, ?_, ?_⟩
  · rw [htake]
    exact hi.current
  · rw [htake]
    exact hf

lemma sound_moves (hi : Identified h invCtx i (t ::ₘ ts)) (hm : Moves i t new) :
    ∀ t' ∈ new, Sound h invCtx i.inputs t' := by
  have ht := hi.tasks t (Multiset.mem_cons_self t ts)
  intro t' ht'
  cases hm with
  | enters henters =>
    obtain rfl := mem_singleton.1 ht'
    refine hi.served_withInvCtx fun f hf => ?_
    obtain ⟨rfl, rfl⟩ | ⟨_, rfl, rfl⟩ | ⟨_, rfl, rfl⟩ := enters_cases henters
    · cases hf
    · cases hf
      exact ht
    · cases hf
  | passes =>
    obtain rfl := mem_singleton.1 ht'
    exact ht
  | returns => obtain ⟨rfl, _⟩ | rfl | rfl | ⟨rfl, _⟩ := returned_cases ht' <;> trivial
  | waits =>
    obtain rfl := mem_singleton.1 ht'
    exact ht
  | ends => cases ht'
  | breaks =>
    obtain rfl := mem_singleton.1 ht'
    trivial
  | checked =>
    obtain rfl := mem_singleton.1 ht'
    exact ht

lemma calls_begin {stage : Stage} {alloc : Bool} (hi : Identified h invCtx i (.callExport purpose ctx stage ::ₘ ts)) :
    ∀ g ∈ (i.begin purpose alloc ctx).calls, Served h invCtx i.inputs g.purpose g.ctx := by
  intro g hg
  obtain hg | hg := mem_append.1 hg
  · exact hi.calls g hg
  · obtain rfl := mem_singleton.1 hg
    exact hi.tasks _ (Multiset.mem_cons_self _ ts)

lemma receives (hi : Identified h invCtx i (.read ::ₘ ts)) (hreceive : h.receive now bytes i = (i', new))
    (hsame : i'.inbound = i.inbound ∧ i'.calls = i.calls)
    (hnew : new = [.read] ∨ new = [.disconnect] ∨ new = [.submit ⟨bytes, i.inputs.length⟩]) :
    Identified h invCtx i' (ts + (new : Multiset Task)) := by
  obtain ⟨hinputs, hctx⟩ := receive_identity hreceive
  exact
    { current := by
        rw [hctx, hinputs, contextAfter_concat, hi.current]
      inbound := fun f hf => by
        rw [hinputs]
        exact (hi.inbound f (hsame.1 ▸ hf)).append _
      tasks := by
        rw [hinputs]
        refine forall_mem_move (fun t' ht' => (hi.tasks t' ht').append _) fun _ => ?_
        obtain rfl | rfl | rfl := hnew <;> rw [forall_mem_singleton]
        · trivial
        · trivial
        · exact received_last now bytes
      calls := fun g hg => by
        rw [hinputs]
        exact (hi.calls g (hsame.2 ▸ hg)).append _ }

lemma of_effect (hi : Identified h invCtx i (t ::ₘ ts)) (he : Effect h e i t i' new) :
    Identified h invCtx i' (ts + (new : Multiset Task)) := by
  have ht := hi.tasks t (Multiset.mem_cons_self t ts)
  cases he with
  | moves hm => exact hi.goesOn rfl rfl hi.inbound hi.calls (hi.sound_moves hm)
  | allocates purpose ctx =>
    exact hi.goesOn rfl rfl hi.inbound hi.calls_begin fun t' ht' => by
      obtain rfl := mem_singleton.1 ht'
      exact ht
  | calls purpose ctx =>
    exact hi.goesOn rfl rfl hi.inbound hi.calls_begin fun t' ht' => by
      obtain rfl := mem_singleton.1 ht'
      exact ht
  | takes hinbound =>
    have hframes := hi.inbound
    rw [hinbound, forall_mem_cons] at hframes
    exact hi.goesOn rfl rfl hframes.2 hi.calls fun t' ht' => by
      obtain rfl := mem_singleton.1 ht'
      exact hframes.1
  | drains hinbound =>
    have hframes := hi.inbound
    rw [hinbound, forall_mem_cons] at hframes
    exact hi.goesOn rfl rfl hframes.2 hi.calls (by simp [Sound])
  | receives hreceive hnew => exact hi.receives hreceive ⟨rfl, rfl⟩ hnew
  | sends frame =>
    refine hi.goesOn rfl rfl (fun f hf => ?_) hi.calls (by simp [Sound])
    obtain hf | hf := mem_append.1 hf
    · exact hi.inbound f hf
    · obtain rfl := mem_singleton.1 hf
      exact ht
  | _ => exact hi.goesOn rfl rfl hi.inbound hi.calls (by simp [Sound])

end Identified

lemma keeps_identified (h : Handler) (invCtx : InvocationContext) :
    (persistent h).Keeps (fun _ _ _ => True) (Identified h invCtx) where
  call _ _ _ hi := { hi with tasks := Multiset.forall_mem_cons.2 ⟨trivial, hi.tasks⟩ }
  go i _ t e _ hi := hi.of_effect (perform_effect h e i t)

lemma identified_start (h : Handler) (invCtx : InvocationContext) (expUnix maxInflightFrames : Int) :
    Identified h invCtx (start invCtx expUnix maxInflightFrames).shared
      (start invCtx expUnix maxInflightFrames).tasks where
  current := rfl
  inbound _ hf := by cases hf
  tasks t ht := by
    obtain rfl := mem_singleton.1 ht
    trivial
  calls _ hg := by cases hg

/-- In every run the context of the instance is that of the last refresh among the messages that were read. A frame is
one of the messages that had been read when Run began to process it, and ws_frame is called with it under the context
of the last refresh among these. -/
theorem context_of_frame (h : Handler) (invCtx : InvocationContext) (expUnix maxInflightFrames : Int)
    (moves : List (Move Call Event)) :
    let c := (persistent h).run (start invCtx expUnix maxInflightFrames) moves
    c.shared.invCtx = h.contextAfter invCtx c.shared.inputs ∧ ∀ g ∈ c.shared.calls, ∀ f, g.purpose = .wsFrame f →
      g.ctx.read ≤ c.shared.inputs.length ∧ Received (c.shared.inputs.take g.ctx.read) f ∧
      g.ctx.invCtx = h.contextAfter invCtx (c.shared.inputs.take g.ctx.read) := by
  intro c
  have hi : Identified h invCtx c.shared c.tasks :=
    (keeps_identified h invCtx).run (identified_start h invCtx expUnix maxInflightFrames) moves
  refine ⟨hi.current, fun g hg f hf => ?_⟩
  have hs := hi.calls g hg
  exact ⟨hs.read, hs.frame f hf, hs.context⟩

def refreshMessage : Bytes := ascii "\x7b\"__orama\":\"auth.refresh\",\"jwt\":\"t\"\x7d"

def otherClaims : JWTClaims := ⟨[], ascii "0xb", [], 0, 0, 9, ascii "app", []⟩

def refreshHandler : Handler :=
  { chatHandler with
    unmarshal := fun bytes => if bytes = refreshMessage then some ⟨ascii "auth.refresh", ascii "t"⟩ else none
    jwtVerifier := some fun _ _ => .ok otherClaims }

def hi : Frame := ⟨ascii "hi", 0⟩

def refreshedWhileQueued : Tasks Instance Task :=
  (persistent refreshHandler).run (start wallet 0 0) (List.replicate 5 (turn 0 none) ++
    List.replicate 3 (turn 1 (some (ascii "hi"))) ++ [turn 1 (some refreshMessage), turn 0 none] ++
    List.replicate 4 (turn 1 none))

def callOfHi : GuestCall := ⟨.wsFrame hi, false, ⟨refreshHandler.newInvCtx otherClaims, 2⟩, false⟩

theorem context_of_hi :
    callOfHi ∈ refreshedWhileQueued.shared.calls ∧ Received (refreshedWhileQueued.shared.inputs.take 2) hi ∧
    refreshHandler.newInvCtx otherClaims =
    refreshHandler.contextAfter wallet (refreshedWhileQueued.shared.inputs.take 2) := by
  have hcall : callOfHi ∈ refreshedWhileQueued.shared.calls := by decide +kernel
  exact ⟨hcall, ((context_of_frame refreshHandler wallet 0 0 _).2 callOfHi hcall hi rfl).2⟩

/-- The frame is not passed under the context in force when it was received. -/
theorem context_ne_of_received :
    callOfHi ∈ refreshedWhileQueued.shared.calls ∧ Received refreshedWhileQueued.shared.inputs hi ∧
    callOfHi.ctx.invCtx ≠ refreshHandler.contextAfter wallet (refreshedWhileQueued.shared.inputs.take hi.index) := by
  decide +kernel

end Orama.Serverless.Persistent
