import Orama.Agent.Boot
import Orama.Gateway.WireGuard

namespace Orama.Enrollment
open Lib Agent Gateway.WireGuard

def generateCode (random : Fin 4 → UInt8) : Bytes := bytesToHex (List.ofFn random)

inductive Party where
  | cli
  | gateway
  | other (n : Nat)
deriving DecidableEq

structure Call where
  complete : Bool
  post : Bool
  body : Option Result

def getCode : Call := ⟨false, false, none⟩
def complete (config : Result) : Call := ⟨true, true, some config⟩

inductive Reply where
  | refused
  | code (code : Bytes)
  | ok
  | status (n : Nat) (text : Bytes)
deriving DecidableEq

structure Server where
  code : Bytes
  served : Bool
  result : Option (Result × Party)

def Server.serve (s : Server) (sender : Party) (call : Call) : Server × Reply :=
  if s.result.isSome then (s, .refused)
  else if call.complete then
    if !call.post then (s, .status 405 (ascii "method not allowed"))
    else
      match call.body with
      | none => (s, .status 400 (ascii "invalid JSON"))
      | some config => ({ s with result := some (config, sender) }, .ok)
  else if s.served then (s, .status 410 (ascii "already served"))
  else ({ s with served := true }, .code s.code)

structure EnrollRequest where
  code : Bytes
  token : Bytes
  nodeIP : Bytes

def EnrollRequest.node (req : EnrollRequest) (publicKey : Bytes) : NodeRequest :=
  ⟨.enroll, req.token, publicKey, req.nodeIP, req.code⟩

def verifyCode (nodeIP expectedCode : Bytes) : Reply → Except Bytes Unit
  | .refused => .error (ascii "cannot reach node at " ++ nodeIP ++ ascii ":9999: connection refused")
  | .status n _ =>
    if n = 410 then .error (ascii "node already served its registration code")
    else .error (ascii "node returned status " ++ decimal n)
  | .ok => .error (ascii "registration code mismatch")
  | .code code => if code ≠ expectedCode then .error (ascii "registration code mismatch") else .ok ()

def pushConfigToNode : Reply → Option Bytes
  | .refused => some (ascii "failed to push config: connection refused")
  | .status n _ => some (ascii "node returned status " ++ decimal n)
  | .ok => none
  | .code _ => none

/-- What the gateway's host gives: a new key pair, its own key and address in
the mesh, the secret, and whether the database takes the row. -/
structure Host where
  generateWGKeypair : Except Bytes (Bytes × Bytes)
  publicKey : Except Bytes Bytes
  getMyWGIP : Except Bytes Bytes
  clusterSecret : Except Bytes Bytes
  registers : Bool

def getMyPublicIP (host : Host) (peers : WGPeers) : Except Bytes Bytes := do
  let myWGIP ← host.getMyWGIP
  match peers.rows.find? fun p => p.wgIP = myWGIP with
  | none => .error (ascii "no peer entry for WG IP " ++ myWGIP)
  | some p => .ok p.publicIP

def peerSection (publicKey publicIP wgIP : Bytes) : Bytes :=
  ascii "[Peer]\nPublicKey = " ++ publicKey ++ ascii "\nEndpoint = " ++ publicIP ++ ascii ":51820\nAllowedIPs = " ++
    wgIP ++ ascii "/32\nPersistentKeepalive = 25\n"

def buildWGConfig (host : Host) (peers : WGPeers) (privKey nodeWGIP : Bytes) : Except Bytes Bytes := do
  let myPubKey ← host.publicKey
  let myWGIP ← host.getMyWGIP
  let myPublicIP ← getMyPublicIP host peers
  let others := peers.rows.filter fun p => p.wgIP ≠ nodeWGIP && p.publicKey ≠ trimSpace myPubKey
  .ok (ascii "[Interface]\nPrivateKey = " ++ privKey ++ ascii "\nAddress = " ++ nodeWGIP ++
    ascii "/24\nListenPort = 51820\n\n" ++ peerSection (trimSpace myPubKey) myPublicIP myWGIP ++
    others.flatMap fun p => ascii "\n" ++ peerSection p.publicKey p.publicIP p.wgIP)

def getPeerList (peers : WGPeers) (excludeWGIP : Bytes) : List PeerInfo :=
  (peers.rows.filter fun p => p.wgIP ≠ excludeWGIP).map fun p => ⟨p.wgIP, p.nodeID⟩

def internal {α : Type} : Except Bytes α → Except HttpError α
  | .error _ => .error (500, ascii "internal error")
  | .ok a => .ok a

def prepare (host : Host) (tables : Tables) (req : EnrollRequest) : Except HttpError (Result × Tables) := do
  let (privKey, pubKey) ← internal host.generateWGKeypair
  let wgIP := enrollAssignWGIP (tables.peers.rows.map WGPeer.wgIP)
  if !host.registers then .error (500, ascii "failed to register peer")
  else
    let peers := tables.peers.insertOrReplace ((req.node pubKey).row none wgIP)
    let clusterSecret ← internal host.clusterSecret
    let wgConfig ← internal (buildWGConfig host peers privKey wgIP)
    .ok (⟨Kind.enroll.nodeID wgIP, wgConfig, trimSpace clusterSecret, getPeerList peers wgIP⟩, { tables with peers })

inductive Handling where
  | idle
  | received (req : EnrollRequest)
  | consumed (req : EnrollRequest)
  | verified (req : EnrollRequest)
  | prepared (req : EnrollRequest) (config : Result)
  | answered (status : Nat) (body : Bytes)

inductive Cli where
  | start
  | coded (code : Bytes)
  | waiting
  | enrolled
  | failed (text : Bytes)
deriving DecidableEq

def fetchRegistrationCode : Reply → Except Bytes Bytes
  | .refused => .error (ascii "GET failed: connection refused")
  | .status n _ =>
    if n = 410 then .error (ascii "registration code already served (node may be partially enrolled)")
    else .error (ascii "unexpected status " ++ decimal n)
  | .ok => .ok []
  | .code code => .ok code

def enrollWithGateway (status : Nat) (body : Bytes) : Option Bytes :=
  if status = 401 then some (ascii "invalid or expired invite token")
  else if status = 400 then some (ascii "bad request: " ++ body)
  else if status ≠ 200 then some (ascii "gateway returned " ++ decimal status ++ ascii ": " ++ body)
  else none

structure Flags where
  nodeIP : Bytes
  code : Bytes
  token : Bytes

structure Setup where
  flags : Flags
  nodeIP : Bytes
  host : Host
  now : Int

structure Net where
  server : Server
  cli : Cli
  handling : Party → Handling
  tables : Tables
  knows : Party → Bool

inductive Move where
  | cli
  /-- The gateway goes on with a party's request; a node at another address
  gives the reply that comes with the move. -/
  | gateway (client : Party) (elsewhere : Reply)
  /-- Another party sends a request to the node. -/
  | call (n : Nat) (call : Call)
  /-- Another party sends a request to the gateway. -/
  | enroll (n : Nat) (req : EnrollRequest)
  /-- A party passes the code on. -/
  | tell (p : Party) (n : Nat)

def Net.call (s : Net) (sender : Party) (call : Call) : Net × Reply :=
  let answer := s.server.serve sender call
  let knows := if answer.2 = .code s.server.code then Function.update s.knows sender true else s.knows
  ({ s with server := answer.1, knows }, answer.2)

def Net.handle (s : Net) (client : Party) (handling : Handling) : Net :=
  { s with handling := Function.update s.handling client handling }

def Net.cliStep (setup : Setup) (s : Net) : Net :=
  match s.cli with
  | .start =>
    if setup.flags.code ≠ [] then { s with cli := .coded setup.flags.code }
    else
      let (s, reply) := s.call .cli getCode
      match fetchRegistrationCode reply with
      | .error e => { s with cli := .failed (ascii "Error: could not reach OramaOS node: " ++ e) }
      | .ok code => { s with cli := .coded code }
  | .coded code => { s.handle .cli (.received ⟨code, setup.flags.token, setup.flags.nodeIP⟩) with cli := .waiting }
  | .waiting =>
    match s.handling .cli with
    | .answered status body =>
      match enrollWithGateway status body with
      | some e => { s with cli := .failed (ascii "Error: enrollment failed: " ++ e) }
      | none => { s with cli := .enrolled }
    | _ => s
  | .enrolled => s
  | .failed _ => s

def Net.reach (setup : Setup) (s : Net) (nodeIP : Bytes) (elsewhere : Reply) (call : Call) : Net × Reply :=
  if nodeIP = setup.nodeIP then s.call .gateway call else (s, elsewhere)

def Net.gatewayStep (setup : Setup) (s : Net) (client : Party) (elsewhere : Reply) : Net :=
  match s.handling client with
  | .received req =>
    match checkEnroll (req.node []) with
    | some (status, body) => s.handle client (.answered status body)
    | none =>
      match consumeToken s.tables.tokens req.token req.nodeIP setup.now with
      | none => s.handle client (.answered 401 (ascii "unauthorized: invalid or expired token"))
      | some tokens => { s with tables.tokens := tokens }.handle client (.consumed req)
  | .consumed req =>
    let (s, reply) := s.reach setup req.nodeIP elsewhere getCode
    match verifyCode req.nodeIP req.code reply with
    | .error e => s.handle client (.answered 400 (ascii "code verification failed: " ++ e))
    | .ok () => s.handle client (.verified req)
  | .verified req =>
    match prepare setup.host s.tables req with
    | .error (status, body) => s.handle client (.answered status body)
    | .ok (config, tables) => { s with tables }.handle client (.prepared req config)
  | .prepared req config =>
    let (s, reply) := s.reach setup req.nodeIP elsewhere (complete config)
    match pushConfigToNode reply with
    | some e => s.handle client (.answered 500 (ascii "failed to configure node: " ++ e))
    | none => s.handle client (.answered 200 (ascii "enrolled"))
  | _ => s

def Net.step (setup : Setup) (s : Net) : Move → Net
  | .cli => s.cliStep setup
  | .gateway client elsewhere => s.gatewayStep setup client elsewhere
  | .call n call => (s.call (.other n) call).1
  | .enroll n req =>
    match s.handling (.other n) with
    | .idle => s.handle (.other n) (.received req)
    | .answered _ _ => s.handle (.other n) (.received req)
    | _ => s
  | .tell p n => if s.knows p then { s with knows := Function.update s.knows (.other n) true } else s

def start (setup : Setup) (random : Fin 4 → UInt8) (tables : Tables) : Net where
  server := ⟨generateCode random, false, none⟩
  cli := .start
  handling _ := .idle
  tables := tables
  knows p := p = .cli && setup.flags.code = generateCode random

def round (setup : Setup) (s : Net) : Net := (s.cliStep setup).gatewayStep setup .cli .refused

def Completes (setup : Setup) (s : Net) (config : Result) : Prop :=
  ∃ N, ∀ n ≥ N, ((round setup)^[n] s).cli = .enrolled ∧ ((round setup)^[n] s).server.result = some (config, .gateway)

def Authentic (s : Net) : Prop := ∀ config p, s.server.result = some (config, p) → s.knows p = true

def cautious (s : Net) : Move → Bool
  | .call n call => !(call.complete && call.post && call.body.isSome) || s.knows (.other n)
  | _ => true

def guarded (setup : Setup) : Net → List Move → Bool
  | _, [] => true
  | s, move :: moves => cautious s move && guarded setup (s.step setup move) moves

def Handling.checked : Handling → Option EnrollRequest
  | .verified req => some req
  | .prepared req _ => some req
  | _ => none

structure Net.Inv (setup : Setup) (s : Net) : Prop where
  authentic : Authentic s
  checked : ∀ client req, (s.handling client).checked = some req → req.nodeIP = setup.nodeIP → s.knows .gateway = true

open Server

lemma Server.serve_cases (s : Server) (sender : Party) (call : Call) :
    (∃ reply, s.serve sender call = (s, reply) ∧ ∀ code, reply ≠ .code code) ∨
    (∃ config, (call.complete && call.post && call.body.isSome) ∧
    s.serve sender call = ({ s with result := some (config, sender) }, .ok)) ∨
    s.serve sender call = ({ s with served := true }, .code s.code) := by
  rw [serve]
  grind

variable {p : Party}

lemma Net.knows_call (s : Net) (sender : Party) (call : Call) (h : s.knows p) : (s.call sender call).1.knows p := by
  rw [Net.call]
  dsimp only
  split
  · grind
  · exact h

variable {sender : Party} {code : Bytes}

lemma Net.knows_of_code {s : Net} {call : Call} (h : (s.call sender call).2 = .code code) :
    (s.call sender call).1.knows sender := by
  rw [Net.call] at h ⊢
  dsimp only at h ⊢
  rcases s.server.serve_cases sender call with ⟨reply, heq, hreply⟩ | ⟨config, _, heq⟩ | heq
  all_goals grind

open Function

lemma Net.handling_handle_self (s : Net) (client : Party) (handling : Handling) :
    (s.handle client handling).handling client = handling := update_self ..

lemma Net.handling_handle_of_ne (s : Net) {client : Party} (h : p ≠ client) (handling : Handling) :
    (s.handle client handling).handling p = s.handling p := update_of_ne h ..

variable {setup : Setup} {s : Net}

section
variable (hs : s.Inv setup)
include hs

lemma Net.Inv.call {call : Call}
    (hsender : (call.complete && call.post && call.body.isSome) → s.knows sender) :
    (s.call sender call).1.Inv setup := by
  refine ⟨?_, fun client req h hip => s.knows_call sender call (hs.checked client req h hip)⟩
  intro config p hresult
  apply s.knows_call sender call
  rw [Net.call] at hresult
  dsimp only at hresult
  rcases s.server.serve_cases sender call with ⟨reply, heq, _⟩ | ⟨config', hconfig, heq⟩ | heq
  · rw [heq] at hresult
    exact hs.authentic config p hresult
  · grind
  · rw [heq] at hresult
    exact hs.authentic config p hresult

lemma Net.Inv.handle (client : Party) (handling : Handling)
    (hchecked : ∀ req, handling.checked = some req → req.nodeIP = setup.nodeIP → s.knows .gateway) :
    (s.handle client handling).Inv setup := by
  refine ⟨hs.authentic, ?_⟩
  intro p req h hip
  by_cases hp : p = client
  · rw [hp, handling_handle_self] at h
    exact hchecked req h hip
  · rw [handling_handle_of_ne s hp] at h
    exact hs.checked p req h hip

lemma Net.Inv.handle_of_none (client : Party) {handling : Handling}
    (h : handling.checked = none) : (s.handle client handling).Inv setup :=
  hs.handle client handling fun req hreq => by rw [h] at hreq; cases hreq

lemma Net.Inv.cliStep : (s.cliStep setup).Inv setup := by
  rw [Net.cliStep]
  split
  · split
    · exact ⟨hs.authentic, hs.checked⟩
    · have hcall : (s.call .cli getCode).1.Inv setup := hs.call nofun
      dsimp only
      split
      · exact ⟨hcall.authentic, hcall.checked⟩
      · exact ⟨hcall.authentic, hcall.checked⟩
  · next code _ =>
    have hhandle : (s.handle .cli (.received ⟨code, setup.flags.token, setup.flags.nodeIP⟩)).Inv setup :=
      hs.handle_of_none .cli rfl
    exact ⟨hhandle.authentic, hhandle.checked⟩
  · split
    · split
      · exact ⟨hs.authentic, hs.checked⟩
      · exact ⟨hs.authentic, hs.checked⟩
    · exact hs
  · exact hs
  · exact hs

lemma Net.Inv.reach (nodeIP : Bytes) (elsewhere : Reply) {call : Call}
    (hcall : nodeIP = setup.nodeIP → (call.complete && call.post && call.body.isSome) →
      s.knows .gateway) : (s.reach setup nodeIP elsewhere call).1.Inv setup := by
  grind [call, Net.reach]

end

lemma Net.knows_of_verifyCode (s : Net) {nodeIP : Bytes} {elsewhere : Reply} (hip : nodeIP = setup.nodeIP)
    (h : verifyCode nodeIP code (s.reach setup nodeIP elsewhere getCode).2 = .ok ()) :
    (s.reach setup nodeIP elsewhere getCode).1.knows .gateway := by
  rw [Net.reach, if_pos hip] at h ⊢
  cases hreply : (s.call .gateway getCode).2 with
  | code c => exact Net.knows_of_code hreply
  | refused =>
    rw [hreply] at h
    cases h
  | ok =>
    rw [hreply] at h
    cases h
  | status n text => grind [verifyCode]

lemma Net.Inv.gatewayStep (hs : s.Inv setup) (client : Party) (elsewhere : Reply) :
    (s.gatewayStep setup client elsewhere).Inv setup := by
  rw [Net.gatewayStep]
  split
  · split
    · exact hs.handle_of_none client rfl
    · split
      · exact hs.handle_of_none client rfl
      · next tokens _ =>
        have htokens : Net.Inv setup { s with tables.tokens := tokens } := ⟨hs.authentic, hs.checked⟩
        exact htokens.handle_of_none client rfl
  · next req _ =>
    have hreach : (s.reach setup req.nodeIP elsewhere getCode).1.Inv setup :=
      hs.reach req.nodeIP elsewhere nofun
    dsimp only
    split
    · exact hreach.handle_of_none client rfl
    · next hverify =>
      refine hreach.handle client _ ?_
      intro req' hreq hip
      obtain rfl : req = req' := Option.some.inj hreq
      exact s.knows_of_verifyCode hip hverify
  · next req hverified =>
    split
    · exact hs.handle_of_none client rfl
    · next config tables _ =>
      have htables : Net.Inv setup { s with tables } := ⟨hs.authentic, hs.checked⟩
      refine htables.handle client _ ?_
      intro req' hreq hip
      exact hs.checked client req' (by rw [hverified]; exact hreq) hip
  · next req config hprepared =>
    have hreach : (s.reach setup req.nodeIP elsewhere (complete config)).1.Inv setup :=
      hs.reach req.nodeIP elsewhere fun hip _ => hs.checked client req (by rw [hprepared]; rfl) hip
    dsimp only
    split
    · exact hreach.handle_of_none client rfl
    · exact hreach.handle_of_none client rfl
  · exact hs

lemma Net.Inv.step (hs : s.Inv setup) {move : Move} (hmove : cautious s move) : (s.step setup move).Inv setup := by
  cases move with
  | cli => exact hs.cliStep
  | gateway client elsewhere => exact hs.gatewayStep client elsewhere
  | call n call =>
    refine hs.call fun hconfig => ?_
    rw [cautious, hconfig] at hmove
    simpa using hmove
  | enroll n req =>
    rw [Net.step]
    split
    · exact hs.handle_of_none _ rfl
    · exact hs.handle_of_none _ rfl
    · exact hs
  | tell p n =>
    rw [Net.step]
    split
    · have hgrows {q : Party} (h : s.knows q) : update s.knows (.other n) true q := by
        grind
      exact ⟨fun config q h => hgrows (hs.authentic config q h),
        fun client req h hip => hgrows (hs.checked client req h hip)⟩
    · exact hs

lemma Net.Inv.run (moves : List Move) (hs : s.Inv setup) (hmoves : guarded setup s moves) :
    (moves.foldl (Net.step setup) s).Inv setup := by
  induction moves generalizing s with
  | nil => exact hs
  | cons move moves ih => grind [step, guarded]

lemma inv_start (setup : Setup) (random : Fin 4 → UInt8) (tables : Tables) :
    (start setup random tables).Inv setup := by
  exact ⟨nofun, nofun⟩

def alone (server : Server) (tables : Tables) (knows : Party → Bool) (handling : Handling) (cli : Cli) : Net where
  server := server
  cli := cli
  handling := Function.update (fun _ => .idle) .cli handling
  tables := tables
  knows := knows

def underway (server : Server) (tables : Tables) (knows : Party → Bool) (handling : Handling) : Net :=
  alone server tables knows handling .waiting

attribute [local simp] round underway alone Net.cliStep Net.gatewayStep Net.reach Net.call Net.handle serve getCode
  verifyCode

section
variable {server : Server} {tables tables' : Tables} {knows : Party → Bool} {req : EnrollRequest} {config : Result}

lemma round_verified (hip : req.nodeIP = setup.nodeIP) (hcode : req.code = server.code)
    (hserved : server.served = false) (hresult : server.result = none) :
    ∃ knows', round setup (underway server tables knows (.consumed req)) =
      underway { server with served := true } tables knows' (.verified req) := by
  refine ⟨update knows .gateway true, ?_⟩
  simp [hip, hcode, hserved, hresult]

lemma round_refused (hip : req.nodeIP = setup.nodeIP) (h : server.served ∨ req.code ≠ server.code)
    (hresult : server.result = none) : ∃ knows' e, round setup (underway server tables knows (.consumed req)) =
      underway { server with served := true } tables knows' (.answered 400 e) := by
  obtain ⟨code, served, result⟩ := server
  dsimp only at h hresult ⊢
  subst hresult
  cases served with
  | true =>
    refine ⟨knows, ascii "code verification failed: " ++ ascii "node already served its registration code", ?_⟩
    simp [hip]
  | false =>
    have hcode : code ≠ req.code := fun heq => h.elim (by decide) fun hne => hne heq.symm
    refine ⟨update knows .gateway true, ascii "code verification failed: " ++ ascii "registration code mismatch", ?_⟩
    simp [hip, hcode]

lemma round_prepared (hprepare : prepare setup.host tables req = .ok (config, tables')) :
    round setup (underway server tables knows (.verified req)) = underway server tables' knows (.prepared req config) := by
  simp [hprepare]

lemma round_pushed (hip : req.nodeIP = setup.nodeIP) (hresult : server.result = none) :
    round setup (underway server tables knows (.prepared req config)) =
    underway { server with result := some (config, .gateway) } tables knows (.answered 200 (ascii "enrolled")) := by
  simp [hip, complete, pushConfigToNode, hresult]

lemma round_answered (status : Nat) (body : Bytes) :
    round setup (underway server tables knows (.answered status body)) =
    alone server tables knows (.answered status body) (match enrollWithGateway status body with
        | some e => .failed (ascii "Error: enrollment failed: " ++ e) | none => .enrolled) := by
  cases h : enrollWithGateway status body with
  | some e => simp [h]
  | none => simp [h]

lemma round_ended (status : Nat) (body : Bytes) {cli : Cli} (hcli : cli = .enrolled ∨ ∃ e, cli = .failed e) :
    round setup (alone server tables knows (.answered status body) cli) =
    alone server tables knows (.answered status body) cli := by
  rcases hcli with rfl | ⟨e, rfl⟩
  · simp
  · simp

end

section
variable {random : Fin 4 → UInt8} {tables tables' : Tables} {tokens : List InviteToken} {config : Result}
  (hnode : setup.flags.nodeIP = setup.nodeIP) (hip : setup.nodeIP ≠ []) (htoken : setup.flags.token ≠ [])
  (hconsume : consumeToken tables.tokens setup.flags.token setup.nodeIP setup.now = some tokens)

lemma generateCode_ne_nil (random : Fin 4 → UInt8) : generateCode random ≠ [] := by simp [generateCode, bytesToHex]

include hnode hip htoken hconsume

lemma two_rounds_fetched (random : Fin 4 → UInt8) (hcode : setup.flags.code = []) :
    ∃ knows, (round setup)^[2] (start setup random tables) =
    underway ⟨generateCode random, true, none⟩ { tables with tokens } knows
        (.consumed ⟨generateCode random, setup.flags.token, setup.nodeIP⟩) := by
  have hne := generateCode_ne_nil random
  refine ⟨update (start setup random tables).knows .cli true, ?_⟩
  simp [start, fetchRegistrationCode, checkEnroll, EnrollRequest.node, hcode, hne, hnode, hip, htoken, hconsume]

lemma two_rounds_given (random : Fin 4 → UInt8) (hcode : setup.flags.code ≠ []) :
    ∃ knows, (round setup)^[2] (start setup random tables) =
    underway ⟨generateCode random, false, none⟩ { tables with tokens } knows
        (.consumed ⟨setup.flags.code, setup.flags.token, setup.nodeIP⟩) := by
  refine ⟨(start setup random tables).knows, ?_⟩
  simp [start, checkEnroll, EnrollRequest.node, hcode, hnode, hip, htoken, hconsume]

lemma completes_of_code (hcode : setup.flags.code = generateCode random)
    (hprepare : prepare setup.host { tables with tokens } ⟨setup.flags.code, setup.flags.token, setup.nodeIP⟩ =
      .ok (config, tables')) : Completes setup (start setup random tables) config := by
  have hne : setup.flags.code ≠ [] := hcode ▸ generateCode_ne_nil random
  obtain ⟨knows, h2⟩ := two_rounds_given hnode hip htoken hconsume random hne
  obtain ⟨knows', h3⟩ : ∃ knows', round setup (underway ⟨generateCode random, false, none⟩ { tables with tokens } knows
      (.consumed ⟨setup.flags.code, setup.flags.token, setup.nodeIP⟩)) =
      underway ⟨generateCode random, true, none⟩ { tables with tokens } knows'
        (.verified ⟨setup.flags.code, setup.flags.token, setup.nodeIP⟩) := round_verified rfl hcode rfl rfl
  have h6 : (round setup)^[6] (start setup random tables) =
      alone ⟨generateCode random, true, some (config, .gateway)⟩ tables' knows'
        (.answered 200 (ascii "enrolled")) .enrolled := by
    rw [iterate_add_apply (round setup) 4 2, h2]
    change round setup (round setup (round setup (round setup _))) = _
    rw [h3, round_prepared hprepare, round_pushed rfl rfl, round_answered]
    rfl
  have hend : round setup ((round setup)^[6] (start setup random tables)) =
      (round setup)^[6] (start setup random tables) := by
    rw [h6]
    exact round_ended _ _ (.inl rfl)
  refine ⟨6, fun n hn => ?_⟩
  obtain ⟨k, rfl⟩ := Nat.exists_eq_add_of_le' hn
  rw [iterate_add_apply, iterate_fixed hend, h6]
  exact ⟨rfl, rfl⟩

lemma not_completes_of_ne (hcode : setup.flags.code ≠ generateCode random) :
    ¬ Completes setup (start setup random tables) config := by
  obtain ⟨knows, code, served, hrefused, h2⟩ : ∃ knows code served, (served = true ∨ code ≠ generateCode random) ∧
      (round setup)^[2] (start setup random tables) =
      underway ⟨generateCode random, served, none⟩ { tables with tokens } knows
          (.consumed ⟨code, setup.flags.token, setup.nodeIP⟩) := by
    by_cases hempty : setup.flags.code = []
    · obtain ⟨knows, h2⟩ := two_rounds_fetched hnode hip htoken hconsume random hempty
      exact ⟨knows, _, true, .inl rfl, h2⟩
    · obtain ⟨knows, h2⟩ := two_rounds_given hnode hip htoken hconsume random hempty
      exact ⟨knows, _, false, .inr hcode, h2⟩
  obtain ⟨knows', e, h3⟩ : ∃ knows' e, round setup (underway ⟨generateCode random, served, none⟩ { tables with tokens }
      knows (.consumed ⟨code, setup.flags.token, setup.nodeIP⟩)) =
      underway ⟨generateCode random, true, none⟩ { tables with tokens } knows' (.answered 400 e) :=
    round_refused rfl hrefused rfl
  have h4 : (round setup)^[4] (start setup random tables) =
      alone ⟨generateCode random, true, none⟩ { tables with tokens } knows' (.answered 400 e)
        (.failed (ascii "Error: enrollment failed: " ++ (ascii "bad request: " ++ e))) := by
    rw [iterate_add_apply (round setup) 2 2, h2]
    change round setup (round setup _) = _
    rw [h3, round_answered]
    rfl
  have hend : round setup ((round setup)^[4] (start setup random tables)) =
      (round setup)^[4] (start setup random tables) := by
    rw [h4]
    exact round_ended _ _ (.inr ⟨_, rfl⟩)
  rintro ⟨N, hN⟩
  have h := (hN (N + 4) (Nat.le_add_right N 4)).1
  rw [iterate_add_apply, iterate_fixed hend, h4] at h
  cases h

end

/-- An undisturbed run ends well exactly when the command is given the code of
the node, and in a run whose parties send no configuration without the code the
node is configured by a party that has received it. -/
theorem enrollment_iff (setup : Setup) (random : Fin 4 → UInt8) (tables tables' : Tables) (tokens : List InviteToken)
    (config : Result) (hnode : setup.flags.nodeIP = setup.nodeIP) (hip : setup.nodeIP ≠ [])
    (htoken : setup.flags.token ≠ [])
    (hconsume : consumeToken tables.tokens setup.flags.token setup.nodeIP setup.now = some tokens)
    (hprepare : prepare setup.host { tables with tokens } ⟨generateCode random, setup.flags.token, setup.nodeIP⟩ =
      .ok (config, tables')) :
    (Completes setup (start setup random tables) config ↔ setup.flags.code = generateCode random) ∧
      ∀ moves, guarded setup (start setup random tables) moves = true →
      Authentic (moves.foldl (Net.step setup) (start setup random tables)) := by
  refine ⟨⟨fun h => ?_, fun hcode => ?_⟩, fun moves hmoves => ?_⟩
  · grind [not_completes_of_ne]
  · grind [completes_of_code]
  · exact (Net.Inv.run moves (inv_start setup random tables) hmoves).authentic

def firstHost : Host :=
  ⟨.ok (ascii "private", ascii "public"), .ok (ascii "own"), .ok (ascii "10.0.0.1"), .ok (ascii "secret"), true⟩

def firstTables : Tables where
  tokens := [⟨ascii "token-1", 1, none, none⟩]
  peers := ⟨[⟨ascii "node-10.0.0.1", ascii "10.0.0.1", ascii "own", ascii "198.51.100.1", none⟩],
    List.pairwise_singleton _ _⟩

def zeroCode (_ : Fin 4) : UInt8 := 0

def command (code : Bytes) : Setup :=
  ⟨⟨ascii "198.51.100.7", code, ascii "token-1"⟩, ascii "198.51.100.7", firstHost, 0⟩

def consumedTokens : List InviteToken := [⟨ascii "token-1", 1, some (ascii "198.51.100.7"), none⟩]

def sentConfig : Result where
  nodeID := ascii "orama-node-10-0-0-2"
  wireGuardConfig := ascii "[Interface]\nPrivateKey = private\nAddress = 10.0.0.2/24\nListenPort = 51820\n\n" ++
    peerSection (ascii "own") (ascii "198.51.100.1") (ascii "10.0.0.1")
  clusterSecret := ascii "secret"
  peers := [⟨ascii "10.0.0.1", ascii "node-10.0.0.1"⟩]

def enrolledTables : Tables :=
  ⟨consumedTokens, firstTables.peers.insertOrReplace
    ⟨ascii "orama-node-10-0-0-2", ascii "10.0.0.2", ascii "public", ascii "198.51.100.7", none⟩⟩

theorem enrollment_iff_zeroCode : prepare firstHost { firstTables with tokens := consumedTokens }
        ⟨generateCode zeroCode, ascii "token-1", ascii "198.51.100.7"⟩ = .ok (sentConfig, enrolledTables) ∧
      (Completes (command (generateCode zeroCode)) (start (command (generateCode zeroCode)) zeroCode firstTables)
        sentConfig ↔ generateCode zeroCode = generateCode zeroCode) ∧
      ∀ moves, guarded (command (generateCode zeroCode))
          (start (command (generateCode zeroCode)) zeroCode firstTables) moves = true →
        Authentic (moves.foldl (Net.step (command (generateCode zeroCode)))
          (start (command (generateCode zeroCode)) zeroCode firstTables)) := by
  have hprepare : prepare firstHost { firstTables with tokens := consumedTokens }
      ⟨generateCode zeroCode, ascii "token-1", ascii "198.51.100.7"⟩ = .ok (sentConfig, enrolledTables) := by
    decide +kernel
  exact ⟨hprepare, enrollment_iff (command (generateCode zeroCode)) zeroCode firstTables enrolledTables consumedTokens
    sentConfig rfl (by decide) (by decide) (by decide +kernel) hprepare⟩

/-- The node hands its code out once, to the command, and has none left for the gateway. A configuration that anybody
posts is taken without a code. -/
theorem code_is_gone_and_not_asked :
    ((round (command []))^[4] (start (command []) zeroCode firstTables)).cli = .failed (ascii
      "Error: enrollment failed: bad request: code verification failed: node already served its registration code") ∧
    ((round (command []))^[4] (start (command []) zeroCode firstTables)).server.result = none ∧
    ¬ Authentic ((start (command []) zeroCode firstTables).step (command []) (.call 0 (complete sentConfig))) := by
  refine ⟨by decide +kernel, by decide +kernel, fun h => ?_⟩
  exact absurd (h sentConfig (.other 0) rfl) (by decide)

end Orama.Enrollment
