import Orama.Gateway.Rotation

namespace Orama.Gateway.Rotation
open Lib

inductive Shape (clock : Int) : Option RefreshToken → List Mark → Prop
  | absent : Shape clock none []
  | active {t : RefreshToken} (hr : t.revokedAt = none) (hg : t.graceUsedAt = none) : Shape clock (some t) []
  | rotated {t : RefreshToken} {r : Int} (hr : t.revokedAt = some r) (hg : t.graceUsedAt = none) (hle : r ≤ clock) :
      Shape clock (some t) [.rotated r]
  | graced {t : RefreshToken} {r g : Int} (hr : t.revokedAt = some r) (hg : t.graceUsedAt = some g) (hle : r ≤ g)
      (hlt : g - r < refreshReuseGrace) : Shape clock (some t) [.rotated r, .graced g]
  | revoked {t : RefreshToken} {r : Int} (hr : t.revokedAt = some r) (hg : t.graceUsedAt = some r) :
      Shape clock (some t) [.revoked r]

section
variable {clock now : Int} {row : Option RefreshToken} {t : RefreshToken} {marks : List Mark}

lemma Shape.mono (h : Shape clock row marks) (hle : clock ≤ now) : Shape now row marks := by
  cases h with
  | absent => exact .absent
  | active hr hg => exact .active hr hg
  | rotated hr hg hrle => exact .rotated hr hg (Int.le_trans hrle hle)
  | graced hr hg hrle hlt => exact .graced hr hg hrle hlt
  | revoked hr hg => exact .revoked hr hg

lemma Shape.of_none (h : Shape clock none marks) : marks = [] := by
  cases h
  rfl

lemma Shape.of_active (h : Shape clock (some t) marks) (hr : t.revokedAt = none) :
    marks = [] ∧ t.graceUsedAt = none := by
  cases h with
  | active _ hg => exact ⟨rfl, hg⟩
  | rotated hr' => rw [hr] at hr'; cases hr'
  | graced hr' => rw [hr] at hr'; cases hr'
  | revoked hr' => rw [hr] at hr'; cases hr'

lemma inGrace_eq_true {now : Int} {t : RefreshToken} :
    inGrace now t ↔ (∃ r, t.revokedAt = some r ∧ now - refreshReuseGrace < r) ∧ t.graceUsedAt = none := by
  simp [inGrace, Option.any_eq_true]

lemma Shape.of_inGrace (h : Shape clock (some t) marks) (hgrace : inGrace now t) :
    ∃ r, t.revokedAt = some r ∧ marks = [.rotated r] ∧ r ≤ clock ∧ now - r < refreshReuseGrace := by
  obtain ⟨⟨r, hr, hlt⟩, hg⟩ := inGrace_eq_true.1 hgrace
  cases h with
  | active hr' => rw [hr] at hr'; cases hr'
  | rotated hr' _ hle => grind
  | graced _ hg' => rw [hg] at hg'; cases hg'
  | revoked _ hg' => rw [hg] at hg'; cases hg'

lemma Shape.step {s s' : Shared} {hashed : Bytes} (h : Shape clock (s.row hashed) (s.history hashed))
    (heffect : RowEffect now hashed s s') (hle : clock ≤ now) : Shape now (s'.row hashed) (s'.history hashed) := by
  cases heffect with
  | kept hrow hhist =>
    rw [hrow, hhist]
    exact h.mono hle
  | inserted t hnone hrow hrevoked hgrace hhist =>
    rw [hnone] at h
    rw [hrow, hhist, h.of_none]
    exact .active hrevoked hgrace
  | rotated t hsome hrevoked hrow hhist =>
    rw [hsome] at h
    obtain ⟨hmarks, hg⟩ := h.of_active hrevoked
    rw [hrow, hhist, hmarks]
    exact .rotated rfl hg (Int.le_refl now)
  | graced t hsome hgrace hrow hhist =>
    rw [hsome] at h
    obtain ⟨r, hr, hmarks, hrle, hlt⟩ := h.of_inGrace hgrace
    rw [hrow, hhist, hmarks]
    exact .graced hr rfl (Int.le_trans hrle hle) hlt
  | revoked t hsome hrevoked hrow hhist =>
    rw [hsome] at h
    rw [hrow, hhist, (h.of_active hrevoked).1]
    exact .revoked rfl rfl

end

def Path.mark : Path → Int → Mark
  | .active => .rotated
  | .grace => .graced

variable {s s' : Shared} {hashed : Bytes} {path : Path}

lemma Claims.history {now : Int} (h : Claims now hashed s s' path) :
    s'.history hashed = s.history hashed ++ [path.mark now] := by
  cases path <;> exact h.2

lemma Claims.unmarked {clock now : Int} (h : Claims now hashed s s' path)
    (hshape : Shape clock (s.row hashed) (s.history hashed)) (at' : Int) : path.mark at' ∉ s.history hashed := by
  cases path with
  | active =>
    obtain ⟨⟨t, hsome, hr⟩, -⟩ := h
    rw [hsome] at hshape
    rw [(hshape.of_active hr).1]
    exact List.not_mem_nil
  | grace =>
    obtain ⟨⟨t, hsome, hgrace⟩, -⟩ := h
    rw [hsome] at hshape
    obtain ⟨r, -, hmarks, -⟩ := hshape.of_inGrace hgrace
    rw [hmarks]
    simp [Path.mark]

lemma RowEffect.history_subset {now : Int} (h : RowEffect now hashed s s') :
    s.history hashed ⊆ s'.history hashed := by
  cases h with
  | kept _ hhist => rw [hhist]; exact List.Subset.refl _
  | inserted _ _ _ _ _ hhist => rw [hhist]; exact List.Subset.refl _
  | rotated _ _ _ _ hhist => rw [hhist]; exact List.subset_append_left _ _
  | graced _ _ _ _ hhist => rw [hhist]; exact List.subset_append_left _ _
  | revoked _ _ _ _ hhist => rw [hhist]; exact List.subset_append_left _ _

section
variable {ι : Type} {svc : AuthService} {requests : ι → Request} {c : Config Shared ι Phase}

structure Recorded (requests : ι → Request) (c : Config Shared ι Phase) : Prop where
  shape : ∀ hashed, Shape c.shared.clock (c.shared.row hashed) (c.shared.history hashed)
  marked : ∀ i path at', (c.phase i).claim = some (path, at') → path.mark at' ∈ c.shared.history (requests i).hashed
  once : ∀ i j path a b, (c.phase i).claim = some (path, a) → (c.phase j).claim = some (path, b) →
    (requests i).hashed = (requests j).hashed → i = j

def Unused (db : Database) : Prop := ∀ t ∈ db.refreshTokens.rows, t.2.revokedAt = none ∧ t.2.graceUsedAt = none

lemma recorded_init {db : Database} (hdb : Unused db) (clock : Int) : Recorded requests (init db clock) where
  shape hashed := by
    cases hrow : (⟨db, clock, fun _ => []⟩ : Shared).row hashed with
    | none => exact hrow ▸ .absent
    | some t =>
      obtain ⟨i, hmem, -⟩ := Table.get_eq_some.1 hrow
      obtain ⟨hr, hg⟩ := hdb (i, t) hmem
      exact hrow ▸ .active hr hg
  marked i path at' hclaim := by cases hclaim
  once i j path a b hi := by cases hi

structure BoundedUse (requests : ι → Request) (c : Config Shared ι Phase) : Prop where
  once : ∀ i j token ns ns' path a b, requests i = .refresh token ns → requests j = .refresh token ns' →
    (c.phase i).success = some (path, a) → (c.phase j).success = some (path, b) → i = j
  /-- The second use comes soon after the rotation that revoked the token. -/
  soon : ∀ i token ns g, requests i = .refresh token ns → (c.phase i).success = some (.grace, g) →
    ∃ t r, c.shared.row (sha256Hex token) = some t ∧ t.revokedAt = some r ∧
    .rotated r ∈ c.shared.history (sha256Hex token) ∧ r ≤ g ∧ g - r < 60
  unrevoked : ∀ i token ns g r, requests i = .refresh token ns → (c.phase i).success = some (.grace, g) →
    .revoked r ∉ c.shared.history (sha256Hex token)

variable {g : Int}

lemma Shape.of_graced {clock : Int} {row : Option RefreshToken} {marks : List Mark} (h : Shape clock row marks)
    (hg : .graced g ∈ marks) :
    ∃ t r, row = some t ∧ t.revokedAt = some r ∧ marks = [.rotated r, .graced g] ∧ r ≤ g ∧ g - r < 60 := by
  cases h with
  | absent => cases hg
  | active => cases hg
  | rotated => simp at hg
  | @graced t r g' hr _ hle hlt =>
    obtain rfl : g = g' := by simpa using hg
    exact ⟨t, r, rfl, hr, rfl, hle, hlt⟩
  | revoked => simp at hg

lemma Recorded.graced (h : Recorded requests c) {i : ι} {token ns : Bytes} (hreq : requests i = .refresh token ns)
    (hsuccess : (c.phase i).success = some (.grace, g)) :
    ∃ t r, c.shared.row (sha256Hex token) = some t ∧ t.revokedAt = some r ∧
      c.shared.history (sha256Hex token) = [.rotated r, .graced g] ∧ r ≤ g ∧ g - r < 60 := by
  have hmark := h.marked i .grace g (claim_of_success hsuccess)
  rw [hreq] at hmark
  exact (h.shape (sha256Hex token)).of_graced hmark

lemma Recorded.boundedUse (h : Recorded requests c) : BoundedUse requests c where
  once i j token ns ns' path a b hi hj hsi hsj :=
    h.once i j path a b (claim_of_success hsi) (claim_of_success hsj) (by rw [hi, hj]; rfl)
  soon i token ns g hreq hsuccess := by grind [graced]
  unrevoked i token ns g r hreq hsuccess := by grind [graced]

variable [DecidableEq ι]

lemma Recorded.step {e : Event ι} (h : Recorded requests c) (he : Steady c e) :
    Recorded requests ((tokens svc requests).step c e) where
  shape hashed := (h.shape hashed).step (row_step svc requests c e hashed) he
  marked i path at' hclaim := by
    rcases claim_step hclaim with hold | ⟨-, rfl, hnew⟩
    · exact (row_step svc requests c e _).history_subset (h.marked i path at' hold)
    · rw [hnew.history]
      exact List.mem_append_right _ List.mem_cons_self
  once i j path a b hi hj hhash := by
    rcases claim_step hi with hold | ⟨rfl, -, hnew⟩
    · rcases claim_step hj with hold' | ⟨rfl, -, hnew⟩
      · exact h.once i j path a b hold hold' hhash
      · have hmark := h.marked i path a hold
        rw [hhash] at hmark
        exact absurd hmark (hnew.unmarked (h.shape _) a)
    · rcases claim_step hj with hold' | ⟨rfl, -, -⟩
      · have hmark := h.marked j path b hold'
        rw [← hhash] at hmark
        exact absurd hmark (hnew.unmarked (h.shape _) b)
      · rfl

/-- However the statements of the calls are interleaved, a refresh token succeeds at most
once while it is active and at most once in its grace. -/
theorem refresh_token_bounded_use (svc : AuthService) (requests : ι → Request) (db : Database) (clock : Int)
    (events : List (Event ι)) (hdb : Unused db)
    (hsteady : (tokens svc requests).Respects Steady (init db clock) events) :
    BoundedUse requests ((tokens svc requests).run (init db clock) events) :=
  (hsteady.induction (P := Recorded requests) (fun _ _ h he => h.step he) (recorded_init hdb clock)).boundedUse

end

def retryRequests : Fin 3 → Request
  | 0 => .issue (ascii "wallet") (ascii "default")
  | 1 => .refresh (sampleToken 1) (ascii "default")
  | 2 => .refresh (sampleToken 1) (ascii "default")

def retryEvents : List (Event (Fin 3)) :=
  List.replicate 4 (turn 0 0 1) ++ List.replicate 6 (turn 1 1 2) ++ List.replicate 7 (turn 2 30 3)

theorem refresh_token_bounded_use_retry : Unused .empty ∧
    (tokens sampleService retryRequests).Respects Steady (init .empty 0) retryEvents ∧
    (((tokens sampleService retryRequests).run (init .empty 0) retryEvents).phase 1).success = some (.active, 1) ∧
    (((tokens sampleService retryRequests).run (init .empty 0) retryEvents).phase 2).success = some (.grace, 30) ∧
    BoundedUse retryRequests ((tokens sampleService retryRequests).run (init .empty 0) retryEvents) := by
  have hdb : Unused .empty := nofun
  have hsteady : (tokens sampleService retryRequests).Respects Steady (init .empty 0) retryEvents := by decide +kernel
  exact ⟨hdb, hsteady, by decide +kernel, by decide +kernel,
    refresh_token_bounded_use sampleService retryRequests .empty 0 retryEvents hdb hsteady⟩

end Orama.Gateway.Rotation
