import Orama.Gateway.Functions
import Orama.Lib.Calendar

namespace Orama.Serverless
open Lib Gateway

inductive FieldError
  | empty
  | badStep (segment : Bytes)
  | badRange (segment : Bytes)
  | badValue (segment : Bytes)
  | outOfRange (rangeLo rangeHi lo hi : Int)
deriving DecidableEq, Repr

inductive CronField
  | seconds
  | minutes
  | hours
  | dayOfMonth
  | month
  | dayOfWeek
deriving DecidableEq, Repr

inductive CronError
  | empty
  | fieldCount (count : Nat) (expr : Bytes)
  | field (name : CronField) (e : FieldError)
  | noMatch (expr : Bytes)
deriving DecidableEq, Repr

structure CronExpression where
  hasSeconds : Bool
  seconds : UInt64
  minutes : UInt64
  hours : UInt64
  dom : UInt64
  month : UInt64
  dow : UInt64
  expr : Bytes
deriving DecidableEq, Repr

def fieldBit (v : Int) : UInt64 := if 0 ≤ v ∧ v < 64 then 1 <<< UInt64.ofNat v.toNat else 0

def fieldMatch (f : UInt64) (v : Int) : Bool := f &&& fieldBit v ≠ 0

def wrap64 (v : Int) : Int := (v + 9223372036854775808) % 18446744073709551616 - 9223372036854775808

def fillRange (rangeHi step : Int) : Nat → Int → UInt64 → UInt64
  | 0, _, mask => mask
  | fuel + 1, v, mask =>
    if v ≤ rangeHi then fillRange rangeHi step fuel (wrap64 (v + step)) (mask ||| fieldBit v) else mask

def parseStep (seg : Bytes) : Except FieldError (Bytes × Int) :=
  match cut 47 seg with
  | (_, none) => .ok (seg, 1)
  | (body, some rest) =>
    match atoi rest with
    | none => .error (.badStep seg)
    | some n => if n ≤ 0 then .error (.badStep seg) else .ok (body, n)

def parseRange (seg : Bytes) (lo hi : Int) : Except FieldError (Int × Int) :=
  if seg = ascii "*" then .ok (lo, hi)
  else
    match cut 45 seg with
    | (a, some b) =>
      match atoi a, atoi b with
      | some a, some b => .ok (a, b)
      | _, _ => .error (.badRange seg)
    | (_, none) =>
      match atoi seg with
      | some n => .ok (n, n)
      | none => .error (.badValue seg)

def parseSegment (lo hi : Int) (mask : UInt64) (segment : Bytes) : Except FieldError UInt64 := do
  let (seg, step) ← parseStep (trimSpace segment)
  let (rangeLo, rangeHi) ← parseRange seg lo hi
  if rangeLo < lo ∨ hi < rangeHi ∨ rangeHi < rangeLo then .error (.outOfRange rangeLo rangeHi lo hi)
  else .ok (fillRange rangeHi step 256 rangeLo mask)

def parseField (name : CronField) (s : Bytes) (lo hi : Int) : Except CronError UInt64 :=
  if s = [] then .error (.field name .empty)
  else
    match (s.splitOn 44).foldlM (parseSegment lo hi) 0 with
    | .error e => .error (.field name e)
    | .ok mask => .ok mask

/-- The values a segment stands for: those of its range that the step reaches from the range's start. -/
def Denotes (lo hi : Int) (segment : Bytes) (v : Int) : Prop :=
  ∃ seg step a b, parseStep (trimSpace segment) = .ok (seg, step) ∧ parseRange seg lo hi = .ok (a, b) ∧
    ∃ i : Nat, v = a + i * step ∧ v ≤ b

/-- The loop variable stays below the largest integer. -/
def stepFits (hi : Int) (segment : Bytes) : Bool :=
  match parseStep (trimSpace segment) with
  | .ok (_, step) => hi + step < 2 ^ 63
  | .error _ => true

section
variable {mask mask' : UInt64} {lo hi v step : Int} {x fuel : Nat} {seg segment : Bytes} {segments : List Bytes}

lemma toNat_bit : ∀ n < 64, (1 <<< UInt64.ofNat n : UInt64).toNat = 2 ^ n := by decide +kernel

lemma testBit_or_fieldBit (hv : 0 ≤ v) (hlt : v < 64) :
    (mask ||| fieldBit v).toNat.testBit x ↔ mask.toNat.testBit x ∨ x = v := by
  rw [UInt64.toNat_or, Nat.testBit_or, Bool.or_eq_true, fieldBit, if_pos ⟨hv, hlt⟩, toNat_bit _ (by omega),
    Nat.testBit_two_pow, decide_eq_true_iff]
  exact or_congr_right (by omega)

lemma fillRange_of_lt (h : hi < v) : fillRange hi step fuel v mask = mask := by
  cases fuel with
  | zero => rfl
  | succ fuel => rw [fillRange, if_neg (by omega)]

/-- What ends the loop is the bound and not the fuel. -/
lemma testBit_fillRange (hstep : 0 < step) (hsum : hi + step < 2 ^ 63) (hhi : hi < 64) (hv : 0 ≤ v)
    (hfuel : hi - v < fuel) : (fillRange hi step fuel v mask).toNat.testBit x ↔
      mask.toNat.testBit x ∨ ∃ i : Nat, (x : Int) = v + i * step ∧ (x : Int) ≤ hi := by
  induction fuel generalizing v mask with
  | zero =>
    have hnone : ¬ ∃ i : Nat, (x : Int) = v + i * step ∧ (x : Int) ≤ hi := by
      rintro ⟨i, hx, hle⟩
      have := Int.mul_nonneg (Int.natCast_nonneg i) hstep.le
      omega
    rw [fillRange_of_lt (by omega), or_iff_left hnone]
  | succ fuel ih =>
    rcases lt_or_ge hi v with hlt | hle
    · rw [← ih hv (by omega), fillRange_of_lt hlt, fillRange_of_lt hlt]
    · have hwrap : wrap64 (v + step) = v + step := by
        rw [wrap64]
        omega
      rw [fillRange, if_pos hle, hwrap, ih (by omega) (by omega), testBit_or_fieldBit hv (by omega), or_assoc]
      refine or_congr_right ⟨?_, ?_⟩
      · rintro (hx | ⟨i, hx, hle'⟩)
        · exact ⟨0, by omega, by omega⟩
        · exact ⟨i + 1, by push_cast; linarith, hle'⟩
      · rintro ⟨_ | i, hx, hle'⟩
        · exact .inl (by omega)
        · exact .inr ⟨i, by push_cast at hx; linarith, hle'⟩

lemma stepFits_spec (hfits : stepFits hi segment) (h : parseStep (trimSpace segment) = .ok (seg, step)) :
    0 < step ∧ hi + step < 2 ^ 63 := by
  grind [stepFits, parseStep]

lemma testBit_parseSegment (hlo : 0 ≤ lo) (hhi : hi < 64) (hfits : stepFits hi segment)
    (h : parseSegment lo hi mask segment = .ok mask') :
    mask'.toNat.testBit x ↔ mask.toNat.testBit x ∨ Denotes lo hi segment x := by
  unfold parseSegment at h
  rcases hstep : parseStep (trimSpace segment) with e | ⟨seg, step⟩
  · simp [hstep, bind, Except.bind] at h
  rcases hrange : parseRange seg lo hi with e | ⟨a, b⟩
  · simp [hstep, hrange, bind, Except.bind] at h
  obtain ⟨hpos, hsum⟩ := stepFits_spec hfits hstep
  simp only [hstep, hrange, bind, Except.bind] at h
  split at h
  · cases h
  · cases h
    rw [testBit_fillRange hpos (by omega) (by omega) (by omega) (by omega), Denotes]
    simp [hstep, hrange]

lemma testBit_foldlM (hlo : 0 ≤ lo) (hhi : hi < 64) (hfits : segments.all (stepFits hi))
    (h : segments.foldlM (parseSegment lo hi) mask = .ok mask') :
    mask'.toNat.testBit x ↔ mask.toNat.testBit x ∨ ∃ segment ∈ segments, Denotes lo hi segment x := by
  induction segments generalizing mask with
  | nil =>
    cases h
    simp
  | cons segment segments ih =>
    rw [List.all_cons, Bool.and_eq_true] at hfits
    rw [List.foldlM_cons] at h
    rcases hone : parseSegment lo hi mask segment with e | mid
    · simp [hone, bind, Except.bind] at h
    · rw [hone] at h
      rw [ih hfits.2 h, testBit_parseSegment hlo hhi hfits.1 hone, or_assoc, List.exists_mem_cons_iff]

end

def fieldsLoop : Nat → Bytes → Bytes → List Bytes
  | 0, _, _ => []
  | _ + 1, word, [] => if word = [] then [] else [word.reverse]
  | fuel + 1, word, c :: s =>
    match whiteSpace.find? fun w => w.isPrefixOf (c :: s) with
    | none => fieldsLoop fuel (c :: word) s
    | some w => (if word = [] then [] else [word.reverse]) ++ fieldsLoop fuel [] ((c :: s).drop w.length)

def fields (s : Bytes) : List Bytes := fieldsLoop (s.length + 1) [] s

def parseParts (expr : Bytes) (s : Option Bytes) (mi h d mo w : Bytes) : Except CronError CronExpression := do
  let seconds ←
    match s with
    | none => .ok 0
    | some s => parseField .seconds s 0 59
  let minutes ← parseField .minutes mi 0 59
  let hours ← parseField .hours h 0 23
  let dom ← parseField .dayOfMonth d 1 31
  let month ← parseField .month mo 1 12
  let dow ← parseField .dayOfWeek w 0 7
  -- seven is Sunday too
  let dow := if fieldMatch dow 7 then dow ||| 1 else dow
  .ok ⟨s.isSome, seconds, minutes, hours, dom, month, dow &&& 0x7F, expr⟩

def parseCron (expr : Bytes) : Except CronError CronExpression :=
  let expr := trimSpace expr
  if expr = [] then .error .empty
  else
    match fields expr with
    | [mi, h, d, mo, w] => parseParts expr none mi h d mo w
    | [s, mi, h, d, mo, w] => parseParts expr (some s) mi h d mo w
    | parts => .error (.fieldCount parts.length expr)

def nanos : Int := 1000000000

namespace CronExpression
variable (c : CronExpression)

/-- Where the search goes from a second that does not match, the first field that does not
match decides. A second that matches is not left. -/
def advance (t : Int) : Option Int :=
  let day := t / 86400
  let hour := t / 3600 % 24
  let minute := t / 60 % 60
  let midnight := Calendar.date (Calendar.year day) (Calendar.month day) (Calendar.dayOfMonth day) * 86400
  if !fieldMatch c.month (Calendar.month day) then
    some (Calendar.date (Calendar.year day) (Calendar.month day + 1) 1 * 86400)
  else if !fieldMatch c.dom (Calendar.dayOfMonth day) || !fieldMatch c.dow (Calendar.weekday day) then
    some (Calendar.date (Calendar.year day) (Calendar.month day) (Calendar.dayOfMonth day + 1) * 86400)
  else if !fieldMatch c.hours hour then some (midnight + (hour + 1) * 3600)
  else if !fieldMatch c.minutes minute then some (midnight + hour * 3600 + (minute + 1) * 60)
  else if c.hasSeconds && !fieldMatch c.seconds (t % 60) then some (t + 1)
  else none

def nextLoop (deadline : Int) : Nat → Int → Option Int
  | 0, _ => none
  | fuel + 1, t =>
    if t * nanos < deadline then
      match c.advance t with
      | none => some t
      | some t' => nextLoop deadline fuel t'
    else none

def firstAfter (after : Int) : Int :=
  if c.hasSeconds then (after + nanos) / nanos else (after + 60 * nanos) / (60 * nanos) * 60

def horizon : Nat := 157680000

def next (after : Int) : Except CronError Int :=
  match c.nextLoop (after + horizon * nanos) (horizon + 1) (c.firstAfter after) with
  | none => .error (.noMatch c.expr)
  | some t => .ok (t * nanos)

/-- A second on which the expression can fall and that all its fields match. -/
structure Matches (t : Int) : Prop where
  whole : c.hasSeconds ∨ 60 ∣ t
  month : fieldMatch c.month (Calendar.month (t / 86400))
  dom : fieldMatch c.dom (Calendar.dayOfMonth (t / 86400))
  dow : fieldMatch c.dow (Calendar.weekday (t / 86400))
  hours : fieldMatch c.hours (t / 3600 % 24)
  minutes : fieldMatch c.minutes (t / 60 % 60)
  seconds : c.hasSeconds → fieldMatch c.seconds (t % 60)

def found (after : Int) : Set Int := {t | after < t * nanos ∧ t * nanos < after + horizon * nanos ∧ c.Matches t}

variable {c} {t t' after : Int} {fuel : Nat}

/-- A skip goes forward and passes over no match. -/
lemma advance_spec (h : c.advance t = some t') :
    t < t' ∧ (c.hasSeconds ∨ 60 ∣ t') ∧ ∀ s, c.Matches s → t ≤ s → t' ≤ s := by
  have hlater := (Calendar.monthOf_spec (t / 86400)).2
  rw [advance, Calendar.date_month_succ, Calendar.date_day_succ, Calendar.date_self] at h
  split_ifs at h <;> cases h <;> refine ⟨by omega, by grind, fun s hs hle => ?_⟩ <;> by_contra hlt <;>
    obtain ⟨-, hmonth, hdom, hdow, hhours, hminutes, hseconds⟩ := hs
  · rw [Calendar.month_eq (a := t / 86400) (by omega) (by omega)] at hmonth
    simp_all
  · have heq : s / 86400 = t / 86400 := by omega
    simp_all
  · have heq : s / 3600 = t / 3600 := by omega
    simp_all
  · have heq : s / 60 = t / 60 := by omega
    simp_all
  · have heq : s = t := by omega
    simp_all

/-- From a second that no match lies before, enough turns find the first match. -/
lemma nextLoop_isLeast (hwhole : c.hasSeconds ∨ 60 ∣ t) (hlt : after < t * nanos)
    (hfirst : ∀ s, c.Matches s → after < s * nanos → t ≤ s) (hfuel : after + horizon * nanos ≤ (t + fuel) * nanos) :
    match c.nextLoop (after + horizon * nanos) fuel t with
    | some t' => IsLeast (c.found after) t'
    | none => c.found after = ∅ := by
  fun_induction nextLoop c (after + horizon * nanos) fuel t with
  | case1 | case4 => grind [found, nanos]
  | case2 fuel t hbefore hadvance =>
    have hmatch : c.Matches t := by constructor <;> grind [advance]
    exact ⟨⟨hlt, hbefore, hmatch⟩, fun s hs => hfirst s hs.2.2 hs.1⟩
  | case3 fuel t hbefore t' hadvance ih =>
    obtain ⟨hforward, hwhole', hpass⟩ := advance_spec hadvance
    rw [nanos] at *
    exact ih hwhole' (by omega) (fun s hs hafter => hpass s hs (hfirst s hs hafter)) (by omega)

lemma firstAfter_le_iff (hwhole : c.hasSeconds ∨ 60 ∣ t) : c.firstAfter after ≤ t ↔ after < t * nanos := by
  rw [firstAfter, nanos]
  split <;> grind

lemma search_isLeast (c : CronExpression) (after : Int) :
    match c.nextLoop (after + horizon * nanos) (horizon + 1) (c.firstAfter after) with
    | some t => IsLeast (c.found after) t
    | none => c.found after = ∅ := by
  have hwhole : c.hasSeconds ∨ 60 ∣ c.firstAfter after := by grind [firstAfter]
  have hlt : after < c.firstAfter after * nanos := (firstAfter_le_iff hwhole).1 le_rfl
  exact nextLoop_isLeast hwhole hlt (fun s hs => (firstAfter_le_iff hs.whole).2) (by grind [nanos])

lemma lt_of_next (h : c.next after = .ok t) : after / nanos < t / nanos := by
  have hsearch := search_isLeast c after
  rw [next] at h
  split at h
  · cases h
  · next t' hloop =>
    cases h
    rw [hloop] at hsearch
    have hlt := hsearch.1.1
    rw [nanos] at hlt ⊢
    omega

end CronExpression

example : (parseCron (ascii "*/15 9-17 * * 1-5")).toOption.map (fun c => c.next (1779369255 * nanos + 7)) =
    some (.ok (1779369300 * nanos)) := by decide +kernel

end Orama.Serverless
