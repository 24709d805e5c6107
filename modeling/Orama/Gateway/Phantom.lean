import Orama.Gateway.Request
import Orama.Lib.Tasks

namespace Orama.Gateway.Phantom
open Lib

inductive Status
  | pending
  | completed
  | failed
  | expired
deriving DecidableEq

structure APIKey where
  wallet : Bytes
  ns : Bytes
deriving DecidableEq

structure Session where
  ns : Bytes
  status : Status
  wallet : Bytes
  apiKey : Option APIKey
  errorMessage : Bytes
deriving DecidableEq

structure State where
  session : Session
  succeeded : List Bytes
deriving DecidableEq

structure Request where
  wallet : Bytes
  ns : Bytes
deriving DecidableEq

def Request.target (req : Request) : Bytes := if trimSpace req.ns = [] then ascii "default" else trimSpace req.ns

def toLower (s : Bytes) : Bytes := s.map lowerAscii

structure Findings where
  expired : Bool
  verified : Bool
  ownsNFT : Option (Except Bytes Bool)
  issued : Bool

inductive Task
  | complete (req : Request)
  | status
  | expire (ifPending : Bool)
  | fail (message : Bytes)
  | store (req : Request)
deriving DecidableEq

inductive Call
  | complete (req : Request)
  | status

def Call.task : Call → Task
  | .complete req => .complete req
  | .status => .status

def afterSelect (f : Findings) (req : Request) : Task :=
  if f.expired then .expire false
  else if !f.verified then .fail (ascii "signature verification failed")
  else
    match f.ownsNFT with
    | some (.error cause) => .fail (ascii "NFT verification error: " ++ cause)
    | some (.ok false) => .fail (ascii "wallet does not own required NFT")
    | _ => if f.issued then .store req else .fail (ascii "failed to issue API key")

def perform (f : Findings) (s : State) : Task → State × List Task
  | .complete req => (s, if s.session.status = .pending then [afterSelect f req] else [])
  | .status => (s, if s.session.status = .pending ∧ f.expired then [.expire true] else [])
  | .expire ifPending =>
    (if ifPending ∧ s.session.status ≠ .pending then s
      else { s with session := { s.session with status := .expired } }, [])
  | .fail message => ({ s with session := { s.session with status := .failed, errorMessage := message } }, [])
  | .store req =>
    ({ session := if s.session.status = .pending then
          { s.session with status := .completed, wallet := toLower req.wallet, apiKey := some ⟨req.wallet, req.target⟩ }
        else s.session
       succeeded := req.wallet :: s.succeeded }, [])

def requests : Scheduler State Task Call Findings := ⟨Call.task, perform⟩

def created (ns : Bytes) : Tasks State Task := ⟨⟨⟨ns, .pending, [], none, []⟩, []⟩, []⟩

def Orderly (s : State) (_ : Multiset Task) : Task → Prop
  | .complete _ | .status | .expire true => True
  | .expire false | .fail _ => s.session.status = .pending
  | .store req => s.session.status = .pending ∧ req.target = s.session.ns

instance : ∀ s ts t, Decidable (Orderly s ts t)
  | _, _, .complete _ | _, _, .status | _, _, .expire true => .isTrue trivial
  | s, _, .expire false | s, _, .fail _ => inferInstanceAs (Decidable (s.session.status = .pending))
  | s, _, .store req => inferInstanceAs (Decidable (s.session.status = .pending ∧ req.target = s.session.ns))

structure Sound (ns : Bytes) (s : State) : Prop where
  own : s.session.ns = ns
  succeeded : ∀ w ∈ s.succeeded, s.session.status = .completed ∧ s.session.wallet = toLower w
  apiKey : ∀ key, s.session.apiKey = some key → key.ns = ns

variable {s : State} {ts : Multiset Task} {t : Task}

attribute [local grind] perform Orderly

lemma sound_perform {ns : Bytes} (h : Sound ns s) (f : Findings) (horderly : Orderly s ts t) :
    Sound ns (perform f s t).1 := by
  obtain ⟨hns, hsucceeded, hkey⟩ := h
  cases t with
  | expire ifPending => cases ifPending <;> constructor <;> grind
  | _ => constructor <;> grind

lemma session_perform (h : s.session.status = .completed) (f : Findings) (horderly : Orderly s ts t) :
    (perform f s t).1.session = s.session := by
  cases t with
  | expire ifPending => cases ifPending <;> grind
  | _ => grind

/-- As long as requests find the session as they left it, a completed session is final, success means that it is
completed with the wallet that was verified, and its key belongs to its namespace. -/
theorem session_of_orderly (ns : Bytes) (before after : List (Move Call Findings))
    (h : requests.Respects Orderly (created ns) (before ++ after)) :
    let mid := (requests.run (created ns) before).shared
    let final := (requests.run (created ns) (before ++ after)).shared
    (mid.session.status = .completed → final.session = mid.session) ∧
      (∀ w ∈ final.succeeded, final.session.status = .completed ∧ final.session.wallet = toLower w) ∧
      ∀ key, final.session.apiKey = some key → key.ns = ns := by
  have hsound : requests.Keeps Orderly fun s _ => Sound ns s :=
    ⟨fun _ _ _ hs => hs, fun _ _ _ f horderly hs => sound_perform hs f horderly⟩
  have hcreated : Sound ns (created ns).shared := ⟨rfl, by simp [created], by simp [created]⟩
  obtain ⟨-, hsucceeded, hkey⟩ := hsound.run_of_respects hcreated h
  refine ⟨fun hcompleted => ?_, hsucceeded, hkey⟩
  have hfinal : requests.Keeps Orderly fun s _ =>
      s.session = (requests.run (created ns) before).shared.session := by
    refine ⟨fun _ _ _ hs => hs, fun s ts t f horderly hs => ?_⟩
    rw [← hs]
    exact session_perform (hs ▸ hcompleted) f horderly
  rw [Scheduler.run_append]
  exact hfinal.run_of_respects rfl h.append.2

def good : Findings := ⟨false, true, some (.ok true), true⟩
def bad : Findings := { good with verified := false }
def solana : Request := ⟨[65, 66], ascii "app"⟩

def login : List (Move Call Findings) := [.call (.complete solana), .go 0 good, .go 0 good]

theorem session_of_login :
    (requests.run (created (ascii "app")) (login ++ [.call .status, .go 0 good])).shared.session.status = .completed :=
  ((session_of_orderly (ascii "app") login [.call .status, .go 0 good] (by decide)).2.1 [65, 66] (by decide)).1

/-- A request with a bad signature has seen the session pending, and marks it as failed when it is completed. The
next one is answered with success and changes nothing. The key is for the namespace that a request names. -/
theorem completed_then_failed :
    let moves := [.call (.complete solana), .call (.complete solana), .call (.complete solana), .go 0 good, .go 0 bad,
      .go 0 good, .go 0 good]
    let mid := (requests.run (created (ascii "other")) moves).shared
    let final := (requests.run (created (ascii "other")) (moves ++ [.go 0 good, .go 0 good])).shared
    mid.session.status = .completed ∧ mid.session.apiKey = some ⟨[65, 66], ascii "app"⟩ ∧
      final.session.status = .failed ∧ final.succeeded = [[65, 66], [65, 66]] := by
  decide

end Orama.Gateway.Phantom
