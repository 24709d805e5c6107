import Mathlib.Tactic.Linarith

namespace Orama.RateLimit
open List

structure Config where
  requestsPerMinute : Int
  burst : Int
deriving DecidableEq

def Config.sane (d : Config) : Config :=
  ⟨if d.requestsPerMinute ≤ 0 then 10000 else d.requestsPerMinute, if d.burst ≤ 0 then 5000 else d.burst⟩

/-- What the store has for the namespace. There may be nothing, and reading it may fail. -/
def Config.effective (defaults : Config) : Option Config → Config
  | none => defaults
  | some cfg => ⟨if 0 < cfg.requestsPerMinute then cfg.requestsPerMinute else defaults.requestsPerMinute,
      if 0 < cfg.burst then cfg.burst else defaults.burst⟩

structure BucketLimiter where
  rate : ℚ
  burst : ℚ
  tokens : ℚ
  lastCheck : ℚ

def newBucketLimiter (c : Config) (now : ℚ) : BucketLimiter := ⟨c.requestsPerMinute / 60, c.burst, c.burst, now⟩

def BucketLimiter.allow (b : BucketLimiter) (now : ℚ) : BucketLimiter × Bool :=
  let tokens := b.tokens + (now - b.lastCheck) * b.rate
  let tokens := if tokens > b.burst then b.burst else tokens
  if 1 ≤ tokens then ({ b with tokens := tokens - 1, lastCheck := now }, true)
  else ({ b with tokens := tokens, lastCheck := now }, false)

structure Entry where
  limiter : BucketLimiter
  builtAt : ℚ

/-- The place of one namespace in the cache. -/
structure Manager where
  defaults : Config
  ttl : ℚ
  cache : Option Entry

structure Call where
  now : ℚ
  stored : Option Config

def newManager (defaults : Config) (ttl : ℚ) : Manager := ⟨defaults.sane, ttl, none⟩

def Manager.getOrBuild (m : Manager) (call : Call) : Entry :=
  let built : Entry := ⟨newBucketLimiter (m.defaults.effective call.stored) call.now, call.now⟩
  match m.cache with
  | some e => if call.now - e.builtAt < m.ttl then e else built
  | none => built

def Manager.allow (m : Manager) (call : Call) : Manager × Bool :=
  let e := m.getOrBuild call
  ({ m with cache := some { e with limiter := (e.limiter.allow call.now).1 } }, (e.limiter.allow call.now).2)

def Manager.run (m : Manager) (calls : List Call) : Manager := calls.foldl (fun m call => (m.allow call).1) m

/-- How many of the calls return true. -/
def Manager.allowed (m : Manager) : List Call → Nat
  | [] => 0
  | call :: calls => (if (m.allow call).2 then 1 else 0) + (m.allow call).1.allowed calls

variable {c : Config} {b : BucketLimiter} {m : Manager} {e : Entry} {call : Call} {calls : List Call} {now : ℚ}

structure Fits (c : Config) (b : BucketLimiter) : Prop where
  rate : b.rate = c.requestsPerMinute / 60
  burst : b.burst = c.burst
  tokens : 0 ≤ b.tokens
  rate_nonneg : 0 ≤ b.rate
  burst_nonneg : 0 ≤ b.burst

lemma fits_newBucketLimiter (hc : 0 < c.requestsPerMinute ∧ 0 < c.burst) (now : ℚ) :
    Fits c (newBucketLimiter c now) := by
  have hrate : (0 : ℚ) < c.requestsPerMinute := Int.cast_pos.2 hc.1
  have hburst : (0 : ℚ) < c.burst := Int.cast_pos.2 hc.2
  exact ⟨rfl, rfl, hburst.le, div_nonneg hrate.le (by norm_num), hburst.le⟩

lemma Fits.allow (h : Fits c b) (hnow : b.lastCheck ≤ now) : Fits c (b.allow now).1 := by
  have helapsed : 0 ≤ (now - b.lastCheck) * b.rate := mul_nonneg (sub_nonneg.2 hnow) h.rate_nonneg
  have htokens := h.tokens
  have hburst := h.burst_nonneg
  simp only [BucketLimiter.allow]
  split <;> split <;> refine ⟨h.rate, h.burst, ?_, h.rate_nonneg, h.burst_nonneg⟩ <;> dsimp only <;> linarith

/-- What a call takes out comes from the tokens before it and the time since the last one, and from the burst. -/
lemma allow_spends (b : BucketLimiter) (now : ℚ) : (b.allow now).1.lastCheck = now ∧ (b.allow now).1.rate = b.rate ∧
      (if (b.allow now).2 then 1 else 0) + (b.allow now).1.tokens ≤ b.tokens + (now - b.lastCheck) * b.rate ∧
      (if (b.allow now).2 then 1 else 0) + (b.allow now).1.tokens ≤ b.burst := by
  simp only [BucketLimiter.allow]
  split <;> split <;> refine ⟨rfl, rfl, ?_, ?_⟩ <;> simp only [if_true, Bool.false_eq_true, if_false] <;> linarith

lemma sane_effective (d : Config) (stored : Option Config) :
    0 < (d.sane.effective stored).requestsPerMinute ∧ 0 < (d.sane.effective stored).burst := by
  cases stored <;> simp only [Config.effective, Config.sane] <;> constructor <;> (repeat' split) <;> omega

/-- A limiter of the configuration that was checked before any of the calls. -/
def Ready (c : Config) (calls : List Call) (b : BucketLimiter) : Prop :=
  Fits c b ∧ ∀ call ∈ calls, b.lastCheck ≤ call.now

lemma Ready.allow (h : Ready c (call :: calls) b) (hsorted : (call :: calls).Pairwise (·.now ≤ ·.now)) :
    Ready c calls (b.allow call.now).1 := by
  refine ⟨h.1.allow (h.2 call mem_cons_self), ?_⟩
  rw [(allow_spends b call.now).1]
  exact (pairwise_cons.1 hsorted).1

open Manager

lemma ready_getOrBuild (h : ∀ e, m.cache = some e → Ready c (call :: calls) e.limiter)
    (hc : 0 < c.requestsPerMinute ∧ 0 < c.burst) (hcall : m.defaults.effective call.stored = c)
    (hsorted : (call :: calls).Pairwise (·.now ≤ ·.now)) : Ready c (call :: calls) (m.getOrBuild call).limiter := by
  have hnew : Ready c (call :: calls) (newBucketLimiter (m.defaults.effective call.stored) call.now) := by
    rw [hcall]
    exact ⟨fits_newBucketLimiter hc call.now, forall_mem_cons.2 ⟨le_rfl, (pairwise_cons.1 hsorted).1⟩⟩
  rw [getOrBuild]
  split
  · next e he =>
    split
    · exact h e he
    · exact hnew
  · exact hnew

lemma ready_run (before : List Call) (hc : 0 < c.requestsPerMinute ∧ 0 < c.burst)
    (h : ∀ e, m.cache = some e → Ready c (before ++ calls) e.limiter)
    (hconfig : ∀ call ∈ before, m.defaults.effective call.stored = c)
    (hsorted : (before ++ calls).Pairwise (·.now ≤ ·.now)) :
    (m.run before).defaults = m.defaults ∧ (m.run before).ttl = m.ttl ∧
      ∀ e, (m.run before).cache = some e → Ready c calls e.limiter := by
  induction before generalizing m with
  | nil => exact ⟨rfl, rfl, h⟩
  | cons call before ih =>
    obtain ⟨hcall, hconfig⟩ := forall_mem_cons.1 hconfig
    refine ih (m := (m.allow call).1) ?_ hconfig (pairwise_cons.1 hsorted).2
    rintro e ⟨⟩
    exact (ready_getOrBuild h hc hcall hsorted).allow hsorted

/-- As long as the entry is not rebuilt, its tokens and the time bound the calls that are allowed. -/
lemma allowed_le (stop : ℚ) (hcache : m.cache = some e) (hready : Ready c calls e.limiter)
    (hsorted : calls.Pairwise (·.now ≤ ·.now)) (hlast : e.limiter.lastCheck ≤ stop)
    (hcalls : ∀ call ∈ calls, call.now ≤ stop ∧ call.now - e.builtAt < m.ttl) :
    (m.allowed calls : ℚ) ≤ e.limiter.tokens + (stop - e.limiter.lastCheck) * e.limiter.rate := by
  induction calls generalizing m e with
  | nil =>
    have helapsed := mul_nonneg (sub_nonneg.2 hlast) hready.1.rate_nonneg
    have htokens := hready.1.tokens
    simp only [allowed, Nat.cast_zero]
    linarith
  | cons call calls ih =>
    obtain ⟨⟨hstop, hfresh⟩, hcalls⟩ := forall_mem_cons.1 hcalls
    have hget : m.getOrBuild call = e := by simp [getOrBuild, hcache, hfresh]
    obtain ⟨hnow, hrate, hspent, -⟩ := allow_spends e.limiter call.now
    have hrest := ih (m := (m.allow call).1) (e := { e with limiter := (e.limiter.allow call.now).1 })
      (by rw [allow, hget]) (hready.allow hsorted) (pairwise_cons.1 hsorted).2 (by rw [hnow]; exact hstop)
      hcalls
    simp only [hnow, hrate] at hrest
    rw [allowed, Nat.cast_add, allow, hget] at *
    push_cast
    dsimp only at *
    linarith

/-- In a window of which only the first call may build the limiter, the calls that return true are at most the burst and
what the rate gives in the time. -/
theorem allowed_in_window (defaults c : Config) (ttl t T : ℚ) (before : List Call) (first : Call) (rest : List Call)
    (hconfig : ∀ call ∈ before ++ first :: rest, defaults.sane.effective call.stored = c)
    (hsorted : (before ++ first :: rest).Pairwise (·.now ≤ ·.now))
    (hwindow : ∀ call ∈ first :: rest, t ≤ call.now ∧ call.now ≤ t + T)
    (hfresh : ∀ e, ((newManager defaults ttl).run (before ++ [first])).cache = some e →
      ∀ call ∈ rest, call.now - e.builtAt < ttl) :
    (((newManager defaults ttl).run before).allowed (first :: rest) : ℚ) ≤ c.burst + c.requestsPerMinute / 60 * T := by
  obtain ⟨hconfig, hfirst, -⟩ := forall_mem_append.1 hconfig |>.imp_right forall_mem_cons.1
  have hc : 0 < c.requestsPerMinute ∧ 0 < c.burst := by
    rw [← hfirst]
    exact sane_effective defaults first.stored
  obtain ⟨hdefaults, httl, hcache⟩ := ready_run (m := newManager defaults ttl) before hc (by rintro e ⟨⟩) hconfig hsorted
  have hafter := (pairwise_append.1 hsorted).2.1
  rw [run, foldl_append] at hfresh
  change ∀ e, (((newManager defaults ttl).run before).allow first).1.cache = some e → _ at hfresh
  generalize (newManager defaults ttl).run before = m at *
  have hbuilt := ready_getOrBuild hcache hc (by rw [hdefaults]; exact hfirst) hafter
  obtain ⟨⟨hstart, hend⟩, hwindow⟩ := forall_mem_cons.1 hwindow
  obtain ⟨hnow, hrate, -, hspent⟩ := allow_spends (m.getOrBuild first).limiter first.now
  have hrest := allowed_le (m := (m.allow first).1) (t + T) rfl (hbuilt.allow hafter) (pairwise_cons.1 hafter).2
    (by rw [hnow]; exact hend) fun call hcall => ⟨(hwindow call hcall).2, by
      rw [show (m.allow first).1.ttl = ttl from httl]
      exact hfresh _ rfl call hcall⟩
  have htime : (t + T - first.now) * (m.getOrBuild first).limiter.rate ≤ T * (m.getOrBuild first).limiter.rate :=
    mul_le_mul_of_nonneg_right (by linarith) hbuilt.1.rate_nonneg
  rw [hnow, hrate] at hrest
  rw [hbuilt.1.burst] at hspent
  rw [allowed, Nat.cast_add, mul_comm, ← hbuilt.1.rate]
  rw [allow] at hrest ⊢
  push_cast
  linarith

def modest : Config := ⟨60, 2⟩
def callAt (now : ℚ) : Call := ⟨now, none⟩

theorem allowed_of_modest :
    (((newManager modest 30).run []).allowed [callAt 0, callAt 1, callAt 2] : ℚ) ≤ (2 : Int) + (60 : Int) / 60 * 2 :=
  allowed_in_window modest modest 30 0 2 [] (callAt 0) [callAt 1, callAt 2] (by decide +kernel) (by decide +kernel)
    (by decide +kernel) (by rintro e ⟨⟩; decide +kernel)

/-- Four calls within a tenth of a second, where the burst is two and a token comes each second: the limiter is built
anew between them. -/
theorem allowed_by_rebuild : ((newManager modest 30).run [callAt 0]).allowed
      [callAt (299 / 10), callAt (299 / 10), callAt 30, callAt 30] = 4 ∧
    (modest.burst : ℚ) + modest.requestsPerMinute / 60 * (1 / 10) < 4 := by
  decide +kernel

end Orama.RateLimit
