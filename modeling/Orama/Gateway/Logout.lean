import Orama.Gateway.Rotation

namespace Orama.Gateway.Rotation
open Lib

def belongs (nsID : Nat) (subject : Bytes) (t : RefreshToken) : Bool := t.namespaceID = nsID ∧ t.subject = subject

open Option
section
variable {ι : Type}

def logout (requests : ι → Request) (c : Config Shared ι Phase) (e : Event ι) : Option (Nat × Bytes × Bytes) :=
  match requests e.call, c.phase e.call, e.fault with
  | .revoke _ token true subject, .running (.revoking nsID) _, .none => some (nsID, token, subject)
  | _, _, _ => none

/-- When a logout completes, no row of its subject is in its grace, and no call has claimed
such a row and not yet returned. A token that is given with the logout is the only one that it revokes. -/
structure Settled (requests : ι → Request) (c : Config Shared ι Phase) (now : Int) (nsID : Nat)
    (token subject : Bytes) : Prop where
  untargeted : token = []
  rows : ∀ t ∈ c.shared.db.refreshTokens.rows, belongs nsID subject t.2 = true → inGrace now t.2 = false
  calls : ∀ i, (c.phase i).claim ≠ none → (c.phase i).success = none →
    (c.shared.row (requests i).hashed).any (belongs nsID subject) = false

instance [Fintype ι] (requests : ι → Request) (c : Config Shared ι Phase) (now : Int) (nsID : Nat)
    (token subject : Bytes) : Decidable (Settled requests c now nsID token subject) :=
  decidable_of_iff
    (token = [] ∧ (∀ t ∈ c.shared.db.refreshTokens.rows, belongs nsID subject t.2 = true → inGrace now t.2 = false) ∧
      ∀ i, (c.phase i).claim ≠ none → (c.phase i).success = none →
      (c.shared.row (requests i).hashed).any (belongs nsID subject) = false)
    ⟨fun h => ⟨h.1, h.2.1, h.2.2⟩, fun h => ⟨h.untargeted, h.rows, h.calls⟩⟩

def Calm (requests : ι → Request) (c : Config Shared ι Phase) (e : Event ι) : Prop :=
  Steady c e ∧ ∀ l, l ∈ logout requests c e → Settled requests c e.moment.now l.1 l.2.1 l.2.2

instance [Fintype ι] (requests : ι → Request) (c : Config Shared ι Phase) (e : Event ι) :
    Decidable (Calm requests c e) :=
  inferInstanceAs (Decidable (_ ∧ ∀ l, l ∈ logout requests c e → Settled requests c e.moment.now l.1 l.2.1 l.2.2))

variable {nsID : Nat} {given subject : Bytes}

lemma logout_eq_some {requests : ι → Request} {c : Config Shared ι Phase} {e : Event ι}
    (h : logout requests c e = some (nsID, given, subject)) :
    ∃ ns tries, requests e.call = .revoke ns given true subject ∧ c.phase e.call = .running (.revoking nsID) tries ∧
      e.fault = .none := by
  grind [logout]

variable [DecidableEq ι]

/-- A call that presents a token of the subject which was there when the logout completed
succeeds only if it had succeeded before. -/
def LogoutFinal (svc : AuthService) (requests : ι → Request) (c : Config Shared ι Phase) (events : List (Event ι)) :
    Prop :=
  ∀ before e after, events = before ++ e :: after →
    ∀ nsID given subject, logout requests ((tokens svc requests).run c before) e = some (nsID, given, subject) →
    ∀ i token ns, requests i = .refresh token ns →
    (((tokens svc requests).run c before).shared.row (sha256Hex token)).any (belongs nsID subject) = true →
    (((tokens svc requests).run c events).phase i).success ≠ none →
    (((tokens svc requests).run c before).phase i).success ≠ none

variable {svc : AuthService} {requests : ι → Request} {c : Config Shared ι Phase} {e : Event ι}

def Spent (s : Shared) (hashed : Bytes) : Prop :=
  ∃ t, s.row hashed = some t ∧ t.revokedAt ≠ none ∧ inGrace s.clock t = false

variable {now : Int}

lemma inGrace_mono {clock : Int} {t : RefreshToken} (h : inGrace clock t = false) (hle : clock ≤ now) :
    inGrace now t = false := by
  grind [any_eq_true, inGrace]

variable {hashed : Bytes}

lemma Spent.not_claims {s s' : Shared} {path : Path} (h : Spent s hashed) (hle : s.clock ≤ now) :
    ¬ Claims now hashed s s' path := by
  obtain ⟨t, hrow, hr, hgrace⟩ := h
  intro hclaims
  cases path with
  | active =>
    obtain ⟨⟨t', hrow', hr'⟩, -⟩ := hclaims
    obtain rfl := some.inj (hrow.symm.trans hrow')
    exact hr hr'
  | grace =>
    obtain ⟨⟨t', hrow', hgrace'⟩, -⟩ := hclaims
    obtain rfl := some.inj (hrow.symm.trans hrow')
    rw [inGrace_mono hgrace hle] at hgrace'
    cases hgrace'

lemma Spent.step (h : Spent c.shared hashed) (he : Steady c e) :
    Spent ((tokens svc requests).step c e).shared hashed := by
  obtain ⟨t, hrow, hr, hgrace⟩ := h
  have hnow := inGrace_mono hgrace he
  cases row_step svc requests c e hashed with
  | kept hrow' => exact ⟨t, hrow'.trans hrow, hr, hnow⟩
  | inserted _ hnone =>
    rw [hrow] at hnone
    cases hnone
  | rotated t' hsome hr' => grind
  | graced t' hsome hgrace' => grind
  | revoked t' hsome hr' => grind

lemma shared_logout (h : logout requests c e = some (nsID, given, subject)) :
    ((tokens svc requests).step c e).shared =
    { c.shared.amend (isRevoked nsID given subject) (burn e.moment.now) (token_burn e.moment.now)
          (.revoked e.moment.now) with clock := e.moment.now } := by
  obtain ⟨ns, tries, hreq, hphase, hfault⟩ := logout_eq_some h
  change ({ (statement svc (requests e.call) e.moment e.fault c.shared (c.phase e.call)).1 with
    clock := e.moment.now } : Shared) = _
  rw [hreq, hphase, hfault]
  rfl

lemma Settled.spent (h : Settled requests c e.moment.now nsID given subject)
    (hlogout : logout requests c e = some (nsID, given, subject))
    (hrow : (c.shared.row hashed).any (belongs nsID subject)) :
    Spent ((tokens svc requests).step c e).shared hashed := by
  obtain ⟨t, ht, hbelongs⟩ := (any_eq_true ..).1 hrow
  obtain ⟨hns, hsubject⟩ := of_decide_eq_true hbelongs
  rw [shared_logout hlogout, h.untargeted]
  rcases amend_cases c.shared (isRevoked nsID [] subject) (burn e.moment.now) (token_burn e.moment.now)
    (.revoked e.moment.now) hashed with ⟨hnone, hkept, -⟩ | ⟨t', -, -, hburnt, -⟩
  · -- the row was revoked before, and its grace is over or used
    obtain ⟨i, hmem, -⟩ := Table.get_eq_some.1 ht
    refine ⟨t, hkept.trans ht, fun hr => ?_, h.rows (i, t) hmem hbelongs⟩
    rw [ht] at hnone
    have hrevoked : isRevoked nsID [] subject t := by simp [isRevoked, hns, hsubject, hr]
    rw [any_some, hrevoked] at hnone
    cases hnone
  · refine ⟨burn e.moment.now t', hburnt, by simp [burn], by simp [inGrace, burn]⟩

/-- In a run in which each logout finds its subject settled, every logout is final. -/
theorem logout_final (svc : AuthService) (requests : ι → Request) (db : Database) (clock : Int)
    (events : List (Event ι)) (hcalm : (tokens svc requests).Respects (Calm requests) (init db clock) events) :
    LogoutFinal svc requests (init db clock) events := by
  rintro before e after rfl nsID given subject hlogout i token ns hreq hrow hsuccess
  obtain ⟨⟨hsteady, hsettled⟩, hafter⟩ := hcalm.cut
  have hsettled := hsettled _ hlogout
  set c := (tokens svc requests).run (init db clock) before
  have hhashed : (requests i).hashed = sha256Hex token := by rw [hreq]; rfl
  -- from the logout on the row is spent, and whoever has claimed it has succeeded before
  have hrun := hafter.induction
    (P := fun d => Spent d.shared (sha256Hex token) ∧
      ∀ path at', (d.phase i).claim = some (path, at') → (c.phase i).success ≠ none)
    (fun d d' h hd => ⟨h.1.step hd.1, fun path at' hclaim => by
      rcases claim_step hclaim with hold | ⟨-, -, hnew⟩
      · exact h.2 path at' hold
      · rw [hhashed] at hnew
        exact absurd hnew (h.1.not_claims hd.1)⟩)
    ⟨hsettled.spent hlogout hrow, fun path at' hclaim => by
      rcases claim_step hclaim with hold | ⟨rfl, -, -⟩
      · intro hnone
        have hfalse := hsettled.calls i (by simp [hold]) hnone
        rw [hhashed, hrow] at hfalse
        cases hfalse
      · obtain ⟨ns', tries, hrevoke, -⟩ := logout_eq_some hlogout
        rw [hreq] at hrevoke
        cases hrevoke⟩
  rw [Interleaving.run_append] at hsuccess
  obtain ⟨⟨path, at'⟩, hclaim⟩ := ne_none_iff_exists'.1 hsuccess
  exact hrun.2 path at' (claim_of_success hclaim)

end

def bypassRequests : Fin 4 → Request
  | 0 => .issue (ascii "wallet") (ascii "default")
  | 1 => .refresh (sampleToken 1) (ascii "default")
  | 2 => .revoke (ascii "default") [] true (ascii "wallet")
  | 3 => .refresh (sampleToken 1) (ascii "default")

def bypassBefore : List (Event (Fin 4)) :=
  List.replicate 4 (turn 0 0 1) ++ List.replicate 6 (turn 1 1 2) ++ List.replicate 3 (turn 2 2 0)

def bypassAfter (now : Int) : List (Event (Fin 4)) := List.replicate 7 (turn 3 now 3)

/-- A minute after the rotation the logout is final. -/
theorem logout_final_late : (tokens sampleService bypassRequests).Respects (Calm bypassRequests) (init .empty 0)
        (bypassBefore ++ turn 2 61 0 :: bypassAfter 62) ∧
      LogoutFinal sampleService bypassRequests (init .empty 0) (bypassBefore ++ turn 2 61 0 :: bypassAfter 62) := by
  have hcalm : (tokens sampleService bypassRequests).Respects (Calm bypassRequests) (init .empty 0)
      (bypassBefore ++ turn 2 61 0 :: bypassAfter 62) := by decide +kernel
  exact ⟨hcalm, logout_final sampleService bypassRequests .empty 0 _ hcalm⟩

/-- The token that was rotated a second before the logout returns a new session after it. -/
theorem logout_bypassed :
    ¬ LogoutFinal sampleService bypassRequests (init .empty 0) (bypassBefore ++ turn 2 2 0 :: bypassAfter 3) := by
  intro h
  refine h bypassBefore (turn 2 2 0) (bypassAfter 3) rfl 1 [] (ascii "wallet") ?_ 3 (sampleToken 1) (ascii "default")
    rfl ?_ ?_ ?_
  · decide +kernel
  · decide +kernel
  · decide +kernel
  · decide +kernel

end Orama.Gateway.Rotation
