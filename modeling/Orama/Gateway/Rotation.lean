import Orama.Gateway.Login
import Orama.Lib.Interleaving

namespace Orama.Gateway.Rotation
open Lib

inductive Path
  | active
  | grace
deriving DecidableEq, Repr

inductive Mark
  | rotated (at' : Int)
  | graced (at' : Int)
  | revoked (at' : Int)
deriving DecidableEq, Repr

structure Shared where
  db : Database
  /-- The time of the last statement. -/
  clock : Int
  /-- What happened to the row of each hash, which is not known to the program. -/
  history : Bytes → List Mark

def Shared.row (s : Shared) (hashed : Bytes) : Option RefreshToken := s.db.refreshTokens.get hashed

def burn (now : Int) (t : RefreshToken) : RefreshToken :=
  { t with revokedAt := some now, graceUsedAt := some now }

lemma token_burn (now : Int) (t : RefreshToken) : (burn now t).token = t.token := rfl

def Shared.amend (s : Shared) (p : RefreshToken → Bool) (f : RefreshToken → RefreshToken)
    (hf : ∀ t, (f t).token = t.token) (mark : Mark) : Shared :=
  { s with
    db := { s.db with refreshTokens := s.db.refreshTokens.update (fun t => p t.2) f hf }
    history := fun hashed => if (s.row hashed).any p then s.history hashed ++ [mark] else s.history hashed }

def Shared.affected (s : Shared) (p : RefreshToken → Bool) : Bool := s.db.refreshTokens.rows.any fun t => p t.2

inductive Request
  | issue (wallet ns : Bytes)
  | refresh (token ns : Bytes)
  | revoke (ns token : Bytes) (all : Bool) (subject : Bytes)
deriving DecidableEq

def Request.ns : Request → Bytes
  | .issue _ ns => ns
  | .refresh _ ns => ns
  | .revoke ns _ _ _ => ns

def Request.hashed : Request → Bytes
  | .issue _ _ => []
  | .refresh token _ => sha256Hex token
  | .revoke _ token _ _ => sha256Hex token

inductive TokenError
  | auth (e : AuthError)
  | database
  | transient
  | replay
  | nothingToRevoke
deriving DecidableEq, Repr

inductive Fault
  | none
  | refused
  | lost
deriving DecidableEq, Repr

structure Event (ι : Type) where
  call : ι
  moment : Moment
  fault : Fault

structure Session where
  subject : Bytes
  custom : List (Bytes × Bytes)
deriving DecidableEq

structure Minted where
  accessToken : JWTClaims
  refresh : Bytes
  session : Session
deriving DecidableEq

inductive Stage
  | naming (minted : Option Minted)
  | resolving (minted : Option Minted)
  | looking (nsID : Nat)
  | gracing (nsID : Nat)
  | claiming (nsID : Nat) (session : Session)
  | rotating (nsID : Nat) (session : Session)
  | storing (nsID : Nat) (minted : Minted) (via : Option (Path × Int))
  | revoking (nsID : Nat)
deriving DecidableEq

inductive Phase
  | start
  | running (stage : Stage) (tries : Nat)
  | issued (accessToken : JWTClaims) (refresh : Bytes)
  | refreshed (accessToken : JWTClaims) (refresh subject : Bytes) (path : Path) (claimedAt : Int)
  | revoked
  | failed (error : TokenError)
deriving DecidableEq

def maxRetries : Nat := 3
def refreshSelectRetries : Nat := 3

def Stage.tries : Stage → Nat
  | .looking _ => refreshSelectRetries * maxRetries
  | .claiming _ _ => 1
  | .rotating _ _ => 1
  | _ => maxRetries

def Stage.failure (req : Request) : Stage → TokenError
  | .naming _ | .resolving _ =>
    match req with
    | .refresh _ _ => .transient
    | _ => .auth .namespaceUnresolved
  | .storing _ _ via => if via = none then .auth .notStored else .transient
  | .revoking _ => .database
  | _ => .transient

def isRow (nsID : Nat) (hashed : Bytes) (t : RefreshToken) : Bool := t.namespaceID = nsID ∧ t.token = hashed

def isActive (nsID : Nat) (hashed : Bytes) (t : RefreshToken) : Bool := isRow nsID hashed t ∧ t.revokedAt = none

def isGraced (now : Int) (nsID : Nat) (hashed : Bytes) (t : RefreshToken) : Bool :=
  isRow nsID hashed t ∧ inGrace now t = true

def isRevoked (nsID : Nat) (token subject : Bytes) (t : RefreshToken) : Bool :=
  t.namespaceID = nsID ∧ (if token ≠ [] then t.token = sha256Hex token else t.subject = subject) ∧ t.revokedAt = none

def prepare (svc : AuthService) (m : Moment) : Request → Phase
  | .issue wallet ns =>
    if !svc.hasSigningKey then .failed (.auth .signingKeyUnavailable)
    else
      let custom := resolveCustomClaims m wallet ns
      match generateJWT svc m.now ns wallet custom, m.buf with
      | .error e, _ => .failed (.auth e)
      | .ok _, none => .failed (.auth .randomUnavailable)
      | .ok token, some buf => .running (.naming (some ⟨token, rawURLEncode buf.1, wallet, custom⟩)) 0
  | .refresh _ _ => if !svc.hasRotation then .failed (.auth .rotationNotConfigured) else .running (.naming none) 0
  | .revoke _ _ _ _ => .running (.naming none) 0

def mint (svc : AuthService) (m : Moment) (ns : Bytes) (nsID : Nat) (session : Session) (path : Path) : Phase :=
  match generateJWT svc m.now ns session.subject session.custom, m.buf with
  | .error e, _ => .failed (.auth e)
  | .ok _, none => .failed (.auth .randomUnavailable)
  | .ok token, some buf => .running (.storing nsID ⟨token, rawURLEncode buf.1, session⟩ (some (path, m.now))) 0

def resolved (nsID : Nat) (minted : Option Minted) : Request → Phase
  | .issue _ _ =>
    match minted with
    -- not reached, an issue has made its tokens before
    | none => .failed (.auth .randomUnavailable)
    | some minted => .running (.storing nsID minted none) 0
  | .refresh _ _ => .running (.looking nsID) 0
  | .revoke _ token all subject =>
    if token ≠ [] ∨ (all = true ∧ subject ≠ []) then .running (.revoking nsID) 0 else .failed .nothingToRevoke

def stored (minted : Minted) : Option (Path × Int) → Phase
  | none => .issued minted.accessToken minted.refresh
  | some (path, claimedAt) => .refreshed minted.accessToken minted.refresh minted.session.subject path claimedAt

def write (fault : Fault) (s s' : Shared) (next : Phase) : Shared × Option Phase :=
  match fault with
  | .none => (s', some next)
  | .refused => (s, none)
  | .lost => (s', none)

def read (fault : Fault) (s : Shared) (next : Phase) : Shared × Option Phase :=
  match fault with
  | .none => (s, some next)
  | _ => (s, none)

def attempt (svc : AuthService) (req : Request) (m : Moment) (fault : Fault) (s : Shared) :
    Stage → Shared × Option Phase
  | .naming minted =>
    write fault s { s with db := s.db.ensureNamespace (namespaceName req.ns) } (.running (.resolving minted) 0)
  | .resolving minted =>
    read fault s
      (match s.db.namespaceID (namespaceName req.ns) with
      | none => .failed ((Stage.resolving minted).failure req)
      | some nsID => resolved nsID minted req)
  | .looking nsID =>
    read fault s
      (match s.db.refreshTokens.select fun t => isActive nsID req.hashed t.2 ∧ m.now < t.2.expiresAt with
      | none => .running (.gracing nsID) 0
      | some t => .running (.rotating nsID ⟨t.2.subject, t.2.customClaims⟩) 0)
  | .gracing nsID =>
    read fault s
      (match s.db.refreshTokens.select fun t => isGraced m.now nsID req.hashed t.2 ∧ m.now < t.2.expiresAt with
      | none => .failed (.auth .invalidRefreshToken)
      | some t =>
        -- no session without a subject is made
        if t.2.subject = [] then .failed (.auth .invalidRefreshToken)
        else .running (.claiming nsID ⟨t.2.subject, t.2.customClaims⟩) 0)
  | .claiming nsID session =>
    write fault s
      (s.amend (isGraced m.now nsID req.hashed) (RefreshToken.useGrace m.now) (RefreshToken.token_useGrace m.now)
        (.graced m.now))
      (if s.affected (isGraced m.now nsID req.hashed) then mint svc m req.ns nsID session .grace
      else .failed (.auth .invalidRefreshToken))
  | .rotating nsID session =>
    write fault s
      (s.amend (isActive nsID req.hashed) (RefreshToken.revoke m.now) (RefreshToken.token_revoke m.now)
        (.rotated m.now))
      (if s.affected (isActive nsID req.hashed) then mint svc m req.ns nsID session .active else .failed .replay)
  | .storing nsID minted via =>
    match storeRefreshToken s.db m.now nsID minted.session.subject minted.refresh minted.session.custom with
    | none => (s, none)
    | some db => write fault s { s with db := db } (stored minted via)
  | .revoking nsID =>
    match req with
    | .revoke _ token _ subject =>
      write fault s
        (s.amend (isRevoked nsID token subject) (burn m.now) (token_burn m.now)
          (.revoked m.now))
        .revoked
    | _ => (s, none)

def statement (svc : AuthService) (req : Request) (m : Moment) (fault : Fault) (s : Shared) : Phase → Shared × Phase
  | .start => (s, prepare svc m req)
  | .running stage tries =>
    match attempt svc req m fault s stage with
    | (s', some next) => (s', next)
    | (s', none) =>
      (s', if tries + 1 < stage.tries then .running stage (tries + 1) else .failed (stage.failure req))
  | phase => (s, phase)

def tokens {ι : Type} (svc : AuthService) (requests : ι → Request) : Interleaving Shared ι Phase (Event ι) where
  process := Event.call
  act e s phase :=
    let next := statement svc (requests e.call) e.moment e.fault s phase
    ({ next.1 with clock := e.moment.now }, next.2)

def Phase.claim : Phase → Option (Path × Int)
  | .running (.storing _ _ via) _ => via
  | .refreshed _ _ _ path claimedAt => some (path, claimedAt)
  | _ => none

def Phase.success : Phase → Option (Path × Int)
  | .refreshed _ _ _ path claimedAt => some (path, claimedAt)
  | _ => none

def init {ι : Type} (db : Database) (clock : Int) : Config Shared ι Phase := ⟨⟨db, clock, fun _ => []⟩, fun _ => .start⟩

def Steady {ι : Type} (c : Config Shared ι Phase) (e : Event ι) : Prop := c.shared.clock ≤ e.moment.now

instance {ι : Type} (c : Config Shared ι Phase) (e : Event ι) : Decidable (Steady c e) :=
  inferInstanceAs (Decidable (c.shared.clock ≤ e.moment.now))

open RefreshToken
section
variable {svc : AuthService} {req : Request} {m : Moment} {fault : Fault} {s s' : Shared} {hashed : Bytes}

lemma row_amend (s : Shared) (p : RefreshToken → Bool) (f : RefreshToken → RefreshToken)
    (hf : ∀ t, (f t).token = t.token) (mark : Mark) (hashed : Bytes) :
    (s.amend p f hf mark).row hashed = (s.row hashed).map fun t => if p t then f t else t :=
  s.db.refreshTokens.get_update p f hf hashed

variable {p : RefreshToken → Bool}

lemma affected_eq (hp : ∀ t, p t → t.token = hashed) :
    s.affected p = (s.row hashed).any p := s.db.refreshTokens.any_rows p hashed hp

inductive RowEffect (now : Int) (hashed : Bytes) (s s' : Shared) : Prop
  | kept (hrow : s'.row hashed = s.row hashed) (hhist : s'.history hashed = s.history hashed)
  | inserted (t : RefreshToken) (hnone : s.row hashed = none) (hrow : s'.row hashed = some t)
      (hrevoked : t.revokedAt = none) (hgrace : t.graceUsedAt = none) (hhist : s'.history hashed = s.history hashed)
  | rotated (t : RefreshToken) (hsome : s.row hashed = some t) (hrevoked : t.revokedAt = none)
      (hrow : s'.row hashed = some (t.revoke now)) (hhist : s'.history hashed = s.history hashed ++ [.rotated now])
  | graced (t : RefreshToken) (hsome : s.row hashed = some t) (hgrace : inGrace now t = true)
      (hrow : s'.row hashed = some (t.useGrace now)) (hhist : s'.history hashed = s.history hashed ++ [.graced now])
  | revoked (t : RefreshToken) (hsome : s.row hashed = some t) (hrevoked : t.revokedAt = none)
      (hrow : s'.row hashed = some (burn now t))
      (hhist : s'.history hashed = s.history hashed ++ [.revoked now])

lemma amend_cases (s : Shared) (p : RefreshToken → Bool) (f : RefreshToken → RefreshToken)
    (hf : ∀ t, (f t).token = t.token) (mark : Mark) (hashed : Bytes) :
    ((s.row hashed).any p = false ∧ (s.amend p f hf mark).row hashed = s.row hashed ∧
        (s.amend p f hf mark).history hashed = s.history hashed) ∨
        ∃ t, s.row hashed = some t ∧ p t ∧ (s.amend p f hf mark).row hashed = some (f t) ∧
        (s.amend p f hf mark).history hashed = s.history hashed ++ [mark] := by
  rw [row_amend]
  have hhist : (s.amend p f hf mark).history hashed =
      if (s.row hashed).any p then s.history hashed ++ [mark] else s.history hashed := rfl
  rw [hhist]
  cases s.row hashed with
  | none => exact .inl ⟨rfl, rfl, rfl⟩
  | some t => grind

lemma amend_of_any {f : RefreshToken → RefreshToken} {hf : ∀ t, (f t).token = t.token} {mark : Mark}
    (hany : (s.row hashed).any p) :
    ∃ t, s.row hashed = some t ∧ p t ∧ (s.amend p f hf mark).history hashed = s.history hashed ++ [mark] := by
  rcases amend_cases s p f hf mark hashed with ⟨hnone, -⟩ | ⟨t, hsome, hp, -, hhist⟩
  · rw [hany] at hnone
    cases hnone
  · exact ⟨t, hsome, hp, hhist⟩

variable {nsID : Nat} {t : RefreshToken}

lemma isActive_eq_true (h : isActive nsID hashed t) : t.token = hashed ∧ t.revokedAt = none := by
  grind [isActive, isRow]

variable {now : Int}

lemma isGraced_eq_true (h : isGraced now nsID hashed t) : t.token = hashed ∧ inGrace now t := by
  grind [isGraced, isRow]

variable {subject : Bytes}

lemma isRevoked_eq_true {token : Bytes} (h : isRevoked nsID token subject t) :
    t.revokedAt = none := (of_decide_eq_true h).2.2

lemma storeRefreshToken_effect {db db' : Database} {refresh : Bytes} {custom : List (Bytes × Bytes)}
    (h : storeRefreshToken db now nsID subject refresh custom = some db') (s : Shared) (hs : s.db = db) :
    RowEffect now hashed s { s with db := db' } := by
  subst hs
  rw [storeRefreshToken, Option.map_eq_some_iff] at h
  obtain ⟨tokens, hinsert, rfl⟩ := h
  obtain ⟨hnone, hget⟩ := Table.get_insert hinsert
  by_cases hk : sha256Hex refresh = hashed
  · subst hk
    exact .inserted _ hnone ((hget _).trans (if_pos rfl)) rfl rfl rfl
  · exact .kept ((hget hashed).trans (if_neg hk)) rfl

variable {next : Phase}

lemma write_fst (P : Shared → Prop) (hs : P s) (hs' : P s') : P (write fault s s' next).1 := by
  cases fault with
  | none => exact hs'
  | refused => exact hs
  | lost => exact hs'

lemma read_fst (next : Phase) : (read fault s next).1 = s := by cases fault <;> rfl

section
variable (svc : AuthService) (req : Request) (m : Moment) (fault : Fault) (s : Shared)

lemma attempt_effect (stage : Stage)
    (hashed : Bytes) : RowEffect m.now hashed s (attempt svc req m fault s stage).1 := by
  have hkept : RowEffect m.now hashed s s := .kept rfl rfl
  cases stage with
  | naming minted => exact write_fst (RowEffect m.now hashed s) hkept (.kept rfl rfl)
  | resolving minted =>
    rw [attempt, read_fst]
    exact hkept
  | looking nsID =>
    rw [attempt, read_fst]
    exact hkept
  | gracing nsID =>
    rw [attempt, read_fst]
    exact hkept
  | claiming nsID session =>
    refine write_fst (RowEffect m.now hashed s) hkept ?_
    rcases amend_cases s (isGraced m.now nsID req.hashed) (useGrace m.now)
      (token_useGrace m.now) (.graced m.now) hashed with ⟨-, hrow, hhist⟩ | ⟨t, hsome, hp, hrow, hhist⟩
    · exact .kept hrow hhist
    · exact .graced t hsome (isGraced_eq_true hp).2 hrow hhist
  | rotating nsID session =>
    refine write_fst (RowEffect m.now hashed s) hkept ?_
    rcases amend_cases s (isActive nsID req.hashed) (revoke m.now)
      (token_revoke m.now) (.rotated m.now) hashed with ⟨-, hrow, hhist⟩ | ⟨t, hsome, hp, hrow, hhist⟩
    · exact .kept hrow hhist
    · exact .rotated t hsome (isActive_eq_true hp).2 hrow hhist
  | storing nsID minted via =>
    rw [attempt]
    split
    · exact hkept
    · next db hdb => exact write_fst (RowEffect m.now hashed s) hkept (storeRefreshToken_effect hdb s rfl)
  | revoking nsID =>
    cases req with
    | issue wallet ns => exact hkept
    | refresh token ns => exact hkept
    | revoke ns token all subject =>
      refine write_fst (RowEffect m.now hashed s) hkept ?_
      rcases amend_cases s (isRevoked nsID token subject) (burn m.now)
        (token_burn m.now) (.revoked m.now) hashed with ⟨-, hrow, hhist⟩ | ⟨t, hsome, hp, hrow, hhist⟩
      · exact .kept hrow hhist
      · exact .revoked t hsome (isRevoked_eq_true hp) hrow hhist

lemma statement_row (phase : Phase)
    (hashed : Bytes) : RowEffect m.now hashed s (statement svc req m fault s phase).1 := by
  cases phase with
  | running stage tries => grind [attempt_effect, statement]
  | _ => exact .kept rfl rfl

end

def Claims (now : Int) (hashed : Bytes) (s s' : Shared) : Path → Prop
  | .active => (∃ t, s.row hashed = some t ∧ t.revokedAt = none) ∧ s'.history hashed = s.history hashed ++ [.rotated now]
  | .grace =>
    (∃ t, s.row hashed = some t ∧ inGrace now t = true) ∧ s'.history hashed = s.history hashed ++ [.graced now]

lemma claim_prepare (svc : AuthService) (m : Moment) (req : Request) : (prepare svc m req).claim = none := by
  cases req with
  | issue wallet ns =>
    rw [prepare]
    split
    · rfl
    · dsimp only
      split <;> rfl
  | refresh token ns =>
    rw [prepare]
    split <;> rfl
  | revoke ns token all subject => rfl

lemma claim_resolved (nsID : Nat) (minted : Option Minted) (req : Request) :
    (resolved nsID minted req).claim = none := by
  cases req with
  | issue wallet ns => cases minted <;> rfl
  | refresh token ns => rfl
  | revoke ns token all subject =>
    rw [resolved]
    split <;> rfl
variable {path : Path} {claim : Path × Int}

lemma claim_mint {ns : Bytes} {session : Session}
    (h : (mint svc m ns nsID session path).claim = some claim) : claim = (path, m.now) := by
  rw [mint] at h
  split at h
  · cases h
  · cases h
  · exact (Option.some.inj h).symm

lemma claim_stored (minted : Minted) (via : Option (Path × Int)) : (stored minted via).claim = via := by
  cases via <;> rfl

lemma claim_running (stage : Stage) (tries tries' : Nat) :
    (Phase.running stage tries).claim = (Phase.running stage tries').claim := by cases stage <;> rfl

variable {next' : Phase} {s₁ : Shared}

lemma write_eq (h : write fault s s' next = (s₁, some next')) : s₁ = s' ∧ next' = next := by
  cases fault with
  | none =>
    cases h
    exact ⟨rfl, rfl⟩
  | refused => cases h
  | lost => cases h

lemma read_eq (h : read fault s next = (s₁, some next')) : next' = next := by
  cases fault with
  | none =>
    cases h
    rfl
  | refused => cases h
  | lost => cases h

variable {at' : Int}

lemma attempt_claim {stage : Stage}
    (h : attempt svc req m fault s stage = (s', some next)) (hclaim : next.claim = some (path, at')) :
    (∃ nsID minted, stage = .storing nsID minted (some (path, at'))) ∨
      (at' = m.now ∧ Claims m.now req.hashed s s' path) := by
  cases stage with
  | naming minted =>
    obtain ⟨-, rfl⟩ := write_eq h
    cases hclaim
  | resolving minted =>
    rw [read_eq h] at hclaim
    split at hclaim
    · cases hclaim
    · rw [claim_resolved] at hclaim
      cases hclaim
  | looking nsID =>
    rw [read_eq h] at hclaim
    split at hclaim <;> cases hclaim
  | gracing nsID =>
    rw [read_eq h] at hclaim
    split at hclaim
    · cases hclaim
    · split at hclaim <;> cases hclaim
  | claiming nsID session =>
    obtain ⟨rfl, rfl⟩ := write_eq h
    rw [affected_eq fun t ht => (isGraced_eq_true ht).1] at hclaim
    split at hclaim
    · next hany =>
      obtain ⟨rfl, rfl⟩ := Prod.mk.inj (claim_mint hclaim)
      obtain ⟨t, hsome, hp, hhist⟩ := amend_of_any hany
      exact .inr ⟨rfl, ⟨t, hsome, (isGraced_eq_true hp).2⟩, hhist⟩
    · cases hclaim
  | rotating nsID session =>
    obtain ⟨rfl, rfl⟩ := write_eq h
    rw [affected_eq fun t ht => (isActive_eq_true ht).1] at hclaim
    split at hclaim
    · next hany =>
      obtain ⟨rfl, rfl⟩ := Prod.mk.inj (claim_mint hclaim)
      obtain ⟨t, hsome, hp, hhist⟩ := amend_of_any hany
      exact .inr ⟨rfl, ⟨t, hsome, (isActive_eq_true hp).2⟩, hhist⟩
    · cases hclaim
  | storing nsID minted via =>
    rw [attempt] at h
    split at h
    · cases h
    · obtain ⟨-, rfl⟩ := write_eq h
      rw [claim_stored] at hclaim
      exact .inl ⟨nsID, minted, by rw [hclaim]⟩
  | revoking nsID =>
    cases req with
    | issue wallet ns => cases h
    | refresh token ns => cases h
    | revoke ns token all subject =>
      obtain ⟨-, rfl⟩ := write_eq h
      cases hclaim

variable {phase : Phase}

lemma statement_claim (h : (statement svc req m fault s phase).2.claim = some (path, at')) :
    phase.claim = some (path, at') ∨
    (at' = m.now ∧ Claims m.now req.hashed s (statement svc req m fault s phase).1 path) := by
  cases phase with
  | start =>
    rw [statement, claim_prepare] at h
    cases h
  | running stage tries =>
    rw [statement] at h ⊢
    split at h
    · next s' next hattempt =>
      rcases attempt_claim hattempt h with ⟨nsID, minted, rfl⟩ | hnew
      · exact .inl rfl
      · exact .inr hnew
    · next s' hattempt =>
      split at h
      · rw [claim_running stage (tries + 1) tries] at h
        exact .inl h
      · cases h
  | _ => exact .inl h

lemma claim_of_success (h : phase.success = some claim) : phase.claim = some claim := by
  cases phase with
  | refreshed accessToken refresh subject path claimedAt => exact h
  | _ => cases h

end

section
variable {ι : Type} [DecidableEq ι] {svc : AuthService} {requests : ι → Request} {c : Config Shared ι Phase}

lemma row_step (svc : AuthService) (requests : ι → Request) (c : Config Shared ι Phase) (e : Event ι)
    (hashed : Bytes) : RowEffect e.moment.now hashed c.shared ((tokens svc requests).step c e).shared := by
  -- the clock is no part of the effect
  cases statement_row svc (requests e.call) e.moment e.fault c.shared (c.phase e.call) hashed with
  | kept hrow hhist => exact .kept hrow hhist
  | inserted t hnone hrow hr hg hhist => exact .inserted t hnone hrow hr hg hhist
  | rotated t hsome hr hrow hhist => exact .rotated t hsome hr hrow hhist
  | graced t hsome hg hrow hhist => exact .graced t hsome hg hrow hhist
  | revoked t hsome hr hrow hhist => exact .revoked t hsome hr hrow hhist

lemma claim_step {e : Event ι} {i : ι} {path : Path} {at' : Int}
    (h : (((tokens svc requests).step c e).phase i).claim = some (path, at')) :
    (c.phase i).claim = some (path, at') ∨ (i = e.call ∧ at' = e.moment.now ∧
        Claims e.moment.now (requests i).hashed c.shared ((tokens svc requests).step c e).shared path) := by
  rcases Interleaving.phase_step_cases (tokens svc requests) c e i with ⟨hi, hphase⟩ | ⟨-, hphase⟩
  · obtain rfl : i = e.call := hi
    rw [hphase] at h
    rcases statement_claim h with hold | ⟨hat, hnew⟩
    · exact .inl hold
    · refine .inr ⟨rfl, hat, ?_⟩
      cases path <;> exact hnew
  · rw [hphase] at h
    exact .inl h

end

def sampleService : AuthService where
  apiKeyHMACSecret := []
  toLower := id
  lib := ⟨id, fun _ => none, fun _ _ => none, fun _ _ _ => false⟩
  clientNamespace := []
  defaultNS := ascii "default"
  hasSigningKey := true
  hasEdSigningKey := false
  hasRotation := true

def seeded (n : Nat) (seed : UInt8) : Random n := some ⟨List.replicate n seed, List.length_replicate⟩

def turn {n : Nat} (call : Nat) (now : Int) (seed : UInt8) : Event (Fin (n + 1)) :=
  ⟨Fin.ofNat (n + 1) call, ⟨now, seeded 32 seed, none, [], none⟩, .none⟩

def sampleToken (seed : UInt8) : Bytes := rawURLEncode (List.replicate 32 seed)

end Orama.Gateway.Rotation
