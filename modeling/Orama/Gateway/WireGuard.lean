import Orama.Lib.Base64
import Orama.Lib.Quad

namespace Orama.Gateway.WireGuard
open Lib List

structure InviteToken where
  token : Bytes
  expiresAt : Int
  usedByIP : Option Bytes
  operatorWallet : Option Bytes
deriving DecidableEq

def consumeToken (tokens : List InviteToken) (token usedByIP : Bytes) (now : Int) : Option (List InviteToken) :=
  let usable (t : InviteToken) : Bool := t.token = token && t.usedByIP.isNone && now < t.expiresAt
  if tokens.any usable then
    some (tokens.map fun t => if usable t then { t with usedByIP := some usedByIP } else t)
  else none

def tokenOperatorWallet (tokens : List InviteToken) (token : Bytes) : Bytes :=
  ((tokens.find? fun t => t.token = token).bind InviteToken.operatorWallet).getD []

structure WGPeer where
  nodeID : Bytes
  wgIP : Bytes
  publicKey : Bytes
  publicIP : Bytes
  operatorWallet : Option Bytes
deriving DecidableEq

def WGPeer.conflicts (p q : WGPeer) : Bool :=
  p.nodeID = q.nodeID || p.wgIP = q.wgIP || p.publicKey = q.publicKey

structure WGPeers where
  rows : List WGPeer
  apart : rows.Pairwise fun p q => p.conflicts q = false
deriving DecidableEq

def WGPeers.empty : WGPeers := ⟨[], List.Pairwise.nil⟩

def WGPeers.delete (t : WGPeers) (drop : WGPeer → Bool) : WGPeers :=
  ⟨t.rows.filter fun p => !drop p, t.apart.filter _⟩

def WGPeers.insertOrReplace (t : WGPeers) (row : WGPeer) : WGPeers where
  rows := t.rows.filter (fun p => !p.conflicts row) ++ [row]
  apart := by
    rw [pairwise_append]
    refine ⟨t.apart.filter _, pairwise_singleton _ _, ?_⟩
    intro p hp q hq
    rw [mem_singleton.1 hq]
    simpa using (mem_filter.1 hp).2

def below (p q : Quad) : Bool := p.c < q.c || p.c = q.c && p.d < q.d

def highest (rows : List Bytes) : Quad :=
  rows.foldl (fun best row =>
    match scanQuad row with
    | none => best
    | some q => if below best q then q else best) ⟨0, 0, 0, 0⟩

def firstAddress : Bytes := ascii "10.0.0.2"

def joinAssignWGIP (rows : List Bytes) : Except Bytes Bytes :=
  if rows = [] then .ok firstAddress
  else
    let best := highest rows
    if best.a = 0 then .ok firstAddress
    else if best.d + 1 > 254 then
      if best.c + 1 > 255 then .error (ascii "WireGuard IP space exhausted")
      else .ok (Quad.text { best with c := best.c + 1, d := 1 })
    else .ok (Quad.text { best with d := best.d + 1 })

def enrollAssignWGIP (rows : List Bytes) : Bytes :=
  if rows = [] then firstAddress
  else
    let best := highest rows
    if best.d + 1 > 254 then Quad.text ⟨10, 0, best.c + 1, 1⟩
    else Quad.text ⟨10, 0, best.c, best.d + 1⟩

lemma below_iff (p q : Quad) : below p q ↔ p.c < q.c ∨ p.c = q.c ∧ p.d < q.d := by simp [below]

variable {q : Quad}

lemma not_below_trans {p r : Quad} (h : below p q = false) (h' : below q r = false) : below p r = false := by
  rw [← Bool.not_eq_true, below_iff] at *
  omega

def Proper (row : Bytes) : Prop := ∀ q, scanQuad row = some q → q.a ≠ 0 ∧ 0 ≤ q.d

lemma highest_rule (rows : List Bytes) :
    (∀ row ∈ rows, ∀ q, scanQuad row = some q → below (highest rows) q = false) ∧
    below (highest rows) ⟨0, 0, 0, 0⟩ = false ∧
    ((∀ row ∈ rows, Proper row) → 0 ≤ (highest rows).d ∧ ((highest rows).a = 0 → highest rows = ⟨0, 0, 0, 0⟩)) := by
  induction rows using List.reverseRecOn with
  | nil => exact ⟨by simp, by decide, fun _ => ⟨by decide, fun _ => rfl⟩⟩
  | append_singleton rows row ih =>
    obtain ⟨hrows, hzero, hstart⟩ := ih
    have hstep : highest (rows ++ [row]) = match scanQuad row with
        | none => highest rows
        | some q => if below (highest rows) q then q else highest rows := by
      rw [highest, foldl_append, foldl_cons, foldl_nil, ← highest]
    have hproper (h : ∀ r ∈ rows ++ [row], Proper r) : ∀ r ∈ rows, Proper r :=
      fun r hr => h r (mem_append_left _ hr)
    cases hq : scanQuad row with
    | none => grind
    | some q =>
      rw [hq] at hstep
      dsimp only at hstep
      by_cases hlt : below (highest rows) q
      · rw [if_pos hlt] at hstep
        rw [hstep]
        have hge : below q (highest rows) = false := by grind [below_iff]
        refine ⟨?_, not_below_trans hge hzero, ?_⟩
        · grind [below]
        · intro h
          obtain ⟨ha, hd⟩ := h row (by simp) q hq
          exact ⟨hd, fun hzero => absurd hzero ha⟩
      · grind

variable {rows : List Bytes}

lemma notMem_of_below (h : below (highest rows) q) : q.text ∉ rows := by grind [highest_rule, scanQuad_text]

lemma firstAddress_eq : firstAddress = Quad.text ⟨10, 0, 0, 2⟩ := by decide +kernel

lemma proper_text (h : q.a ≠ 0 ∧ 0 ≤ q.d) : Proper q.text := by
  intro p hp
  rw [scanQuad_text] at hp
  rwa [← Option.some.inj hp]

variable {wgIP : Bytes}

lemma joinAssignWGIP_fresh (h : joinAssignWGIP rows = .ok wgIP)
    (hrows : ∀ row ∈ rows, Proper row) : wgIP ∉ rows ∧ Proper wgIP := by
  have hfirst : Proper firstAddress := firstAddress_eq ▸ proper_text (by decide)
  have hnonneg := ((highest_rule rows).2.2 hrows).1
  rw [joinAssignWGIP] at h
  split at h
  · grind
  · grind [highest_rule, firstAddress_eq, notMem_of_below, below_iff, proper_text]

lemma enrollAssignWGIP_fresh (hrows : ∀ row ∈ rows, Proper row) :
    enrollAssignWGIP rows ∉ rows ∧ ∃ c d : Nat, enrollAssignWGIP rows = Quad.text ⟨10, 0, c, d⟩ := by
  have hnonneg := ((highest_rule rows).2.2 hrows).1
  have hzero := (highest_rule rows).2.1
  rw [← Bool.not_eq_true, below_iff] at hzero
  dsimp only at hzero
  rw [enrollAssignWGIP]
  split
  · next hnil =>
    rw [hnil]
    exact ⟨by simp, 0, 2, firstAddress_eq⟩
  · dsimp only
    split
    · refine ⟨notMem_of_below ((below_iff _ _).2 (.inl (by dsimp only; omega))), ((highest rows).c + 1).toNat, 1, ?_⟩
      congr 2
      omega
    · next hd =>
      refine ⟨notMem_of_below ((below_iff _ _).2 (.inr ⟨rfl, by dsimp only; omega⟩)), (highest rows).c.toNat,
        ((highest rows).d + 1).toNat, ?_⟩
      congr 2
      · omega
      · omega

inductive Kind where
  | join
  | enroll
deriving DecidableEq

def Kind.assignWGIP : Kind → List Bytes → Except Bytes Bytes
  | .join, rows => joinAssignWGIP rows
  | .enroll, rows => .ok (enrollAssignWGIP rows)

def Kind.nodeID : Kind → Bytes → Bytes
  | .join, wgIP => ascii "node-" ++ wgIP
  | .enroll, wgIP => ascii "orama-node-" ++ wgIP.map fun c => if c = 46 then 45 else c

/-- A request of a node. The public key comes with a join and is made by the
gateway for an enrollment, whose code comes with it. -/
structure NodeRequest where
  kind : Kind
  token : Bytes
  publicKey : Bytes
  publicIP : Bytes
  code : Bytes
deriving DecidableEq

abbrev HttpError := Nat × Bytes

def checkJoin (isIPv4 : Bytes → Bool) (req : NodeRequest) : Option HttpError :=
  if req.token = [] ∨ req.publicKey = [] ∨ req.publicIP = [] then
    some (400, ascii "token, wg_public_key, and public_ip are required")
  else if !isIPv4 req.publicIP then some (400, ascii "public_ip must be a valid IPv4 address")
  else if req.publicKey.any fun c => c = 10 || c = 13 then
    some (400, ascii "wg_public_key contains invalid characters")
  else if (Base64.decode req.publicKey).map List.length ≠ some 32 then
    some (400, ascii "wg_public_key must be a valid base64-encoded 32-byte key")
  else none

def checkEnroll (req : NodeRequest) : Option HttpError :=
  if req.code = [] ∨ req.token = [] ∨ req.publicIP = [] then
    some (400, ascii "code, token, and node_ip are required")
  else none

def Kind.check (isIPv4 : Bytes → Bool) : Kind → NodeRequest → Option HttpError
  | .join => checkJoin isIPv4
  | .enroll => checkEnroll

/-- How far a request has come. Between the selection and the insertion it
holds the addresses that it read and the one that it was given. -/
inductive Phase where
  | start
  | consumed
  | looked (wallet : Bytes)
  | cleaned (wallet : Option Bytes)
  | assigned (wallet : Option Bytes) (seen : List Bytes) (wgIP : Bytes)
  | registered (wgIP : Bytes)
  | answered (wgIP : Bytes)
  | failed (error : HttpError)
deriving DecidableEq

structure Tables where
  tokens : List InviteToken
  peers : WGPeers
deriving DecidableEq

structure Event (ι : Type) where
  request : ι
  now : Int
  fault : Option HttpError

def NodeRequest.row (req : NodeRequest) (wallet : Option Bytes) (wgIP : Bytes) : WGPeer :=
  ⟨req.kind.nodeID wgIP, wgIP, req.publicKey, req.publicIP, wallet⟩

variable {ι : Type}

def statement (isIPv4 : Bytes → Bool) (req : NodeRequest) (e : Event ι) (db : Tables) : Phase → Tables × Phase
  | .start =>
    match req.kind.check isIPv4 req with
    | some error => (db, .failed error)
    | none =>
      match if e.fault.isSome then none else consumeToken db.tokens req.token req.publicIP e.now with
      | none => (db, .failed (401, ascii "unauthorized: invalid or expired token"))
      | some tokens => ({ db with tokens }, .consumed)
  | .consumed =>
    match req.kind with
    | .join => (db, .looked (if e.fault.isSome then [] else tokenOperatorWallet db.tokens req.token))
    | .enroll =>
      -- The code is verified and the key pair is made.
      match e.fault with
      | some error => (db, .failed error)
      | none => (db, .cleaned none)
  | .looked wallet =>
    let peers := if e.fault.isSome then db.peers else db.peers.delete fun p => p.publicIP = req.publicIP
    ({ db with peers }, .cleaned (some wallet))
  | .cleaned wallet =>
    let seen := db.peers.rows.map WGPeer.wgIP
    match if e.fault.isSome then .error [] else req.kind.assignWGIP seen with
    | .error _ => (db, .failed (500, ascii "failed to assign WG IP"))
    | .ok wgIP => (db, .assigned wallet seen wgIP)
  | .assigned wallet _ wgIP =>
    if e.fault.isSome then (db, .failed (500, ascii "failed to register peer"))
    else ({ db with peers := db.peers.insertOrReplace (req.row wallet wgIP) }, .registered wgIP)
  | .registered wgIP =>
    -- The secrets and the peers are read; an enrollment sends them to the node.
    match e.fault with
    | some error => (db, .failed error)
    | none => (db, .answered wgIP)
  | .answered wgIP => (db, .answered wgIP)
  | .failed error => (db, .failed error)

lemma conflicts_iff (p q : WGPeer) :
    p.conflicts q ↔ p.nodeID = q.nodeID ∨ p.wgIP = q.wgIP ∨ p.publicKey = q.publicKey := by
  simp [WGPeer.conflicts, or_assoc]

lemma conflicts_comm (p q : WGPeer) : p.conflicts q = q.conflicts p := by grind [conflicts_iff]

lemma WGPeers.eq_of_wgIP (t : WGPeers) {p q : WGPeer} (hp : p ∈ t.rows) (hq : q ∈ t.rows) (h : p.wgIP = q.wgIP) :
    p = q := by
  by_contra hne
  have hsymm : Std.Symm fun p q : WGPeer => p.conflicts q = false := ⟨fun p q h => conflicts_comm q p ▸ h⟩
  have hfree := t.apart.forall hp hq hne
  rw [(conflicts_iff p q).2 (.inr (.inl h))] at hfree
  cases hfree

def Issued (kind : Kind) (wgIP : Bytes) : Prop := Proper wgIP ∧ (kind = .enroll → 45 ∉ wgIP)

lemma notMem_text (c d : Nat) : 45 ∉ Quad.text ⟨10, 0, c, d⟩ := by
  grind [isDigit_of_mem_decimal, digit_ne, decimalInt, Quad.text]

variable {kind : Kind}

lemma assignWGIP_fresh (h : kind.assignWGIP rows = .ok wgIP) (hrows : ∀ row ∈ rows, Proper row) :
    wgIP ∉ rows ∧ Issued kind wgIP := by
  cases kind with
  | join =>
    obtain ⟨hfresh, hproper⟩ := joinAssignWGIP_fresh h hrows
    exact ⟨hfresh, hproper, fun h => absurd h (by decide)⟩
  | enroll =>
    obtain ⟨hfresh, c, d, htext⟩ := enrollAssignWGIP_fresh hrows
    have hip : wgIP = enrollAssignWGIP rows := (Except.ok.inj h).symm
    rw [hip]
    refine ⟨hfresh, ?_, fun _ => ?_⟩
    · grind [proper_text]
    · rw [htext]
      exact notMem_text c d

lemma eq_of_nodeID {kind' : Kind} {wgIP' : Bytes} (h : kind.nodeID wgIP = kind'.nodeID wgIP')
    (hip : Issued kind wgIP) (hip' : Issued kind' wgIP') : wgIP = wgIP' := by
  have hjoin (ip : Bytes) : (Kind.join.nodeID ip).head? = some 110 := rfl
  have henroll (ip : Bytes) : (Kind.enroll.nodeID ip).head? = some 111 := rfl
  cases kind with
  | join =>
    cases kind' with
    | join => exact append_cancel_left h
    | enroll => exact absurd (congrArg List.head? h) (by rw [hjoin, henroll]; decide)
  | enroll =>
    cases kind' with
    | join => exact absurd (congrArg List.head? h) (by rw [hjoin, henroll]; decide)
    | enroll =>
      have hmap := append_cancel_left h
      have hundo {ip : Bytes} (hdash : 45 ∉ ip) :
          (ip.map fun c => if c = 46 then 45 else c).map (fun c => if c = 45 then 46 else c) = ip := by
        rw [map_map]
        conv_rhs => rw [← map_id ip]
        refine map_congr_left fun c hc => ?_
        have hne : c ≠ 45 := fun h => hdash (h ▸ hc)
        by_cases hdot : c = 46
        · simp [hdot]
        · simp [hdot, hne]
      rw [← hundo (hip.2 rfl), hmap, hundo (hip'.2 rfl)]

section
variable {isIPv4 : Bytes → Bool} {req : NodeRequest} {e : Event ι} {db : Tables} {phase : Phase}

lemma statement_peers (isIPv4 : Bytes → Bool) (req : NodeRequest) (e : Event ι) (db : Tables) (phase : Phase) :
    (statement isIPv4 req e db phase).1.peers = db.peers ∨ (∃ wallet, phase = .looked wallet ∧
    (statement isIPv4 req e db phase).1.peers = db.peers.delete fun p => p.publicIP = req.publicIP) ∨
    ∃ wallet seen wgIP, phase = .assigned wallet seen wgIP ∧
    (statement isIPv4 req e db phase).1.peers = db.peers.insertOrReplace (req.row wallet wgIP) := by
  cases phase with
  | looked wallet => grind [statement]
  | assigned wallet seen wgIP => grind [statement]
  | _ =>
    left
    rw [statement]
    repeat' split
    all_goals rfl

variable {wgIP : Bytes}

lemma statement_assigned {wallet : Option Bytes} {seen : List Bytes}
    (h : (statement isIPv4 req e db phase).2 = .assigned wallet seen wgIP) :
    seen = db.peers.rows.map WGPeer.wgIP ∧ req.kind.assignWGIP seen = .ok wgIP := by
  cases phase with
  | cleaned w => grind [statement]
  | _ =>
    rw [statement] at h
    repeat' split at h
    all_goals cases h

lemma statement_registered (h : (statement isIPv4 req e db phase).2 = .registered wgIP) :
    ∃ wallet seen, phase = .assigned wallet seen wgIP ∧
    (statement isIPv4 req e db phase).1.peers = db.peers.insertOrReplace (req.row wallet wgIP) := by
  cases phase with
  | assigned wallet seen ip =>
    rw [statement] at h ⊢
    by_cases hf : e.fault.isSome
    · simp [hf] at h
    · rw [if_neg hf] at h ⊢
      obtain rfl := Phase.registered.inj h
      exact ⟨wallet, seen, rfl, rfl⟩
  | _ =>
    rw [statement] at h
    repeat' split at h
    all_goals cases h

lemma statement_answered (h : (statement isIPv4 req e db phase).2 = .answered wgIP) :
    (phase = .registered wgIP ∨ phase = .answered wgIP) ∧ (statement isIPv4 req e db phase).1.peers = db.peers := by
  cases phase with
  | registered ip =>
    rw [statement] at h ⊢
    cases hf : e.fault with
    | some err => simp [hf] at h
    | none => grind
  | answered ip => exact ⟨.inr h, rfl⟩
  | _ =>
    rw [statement] at h
    repeat' split at h
    all_goals cases h

end
end Orama.Gateway.WireGuard
