import Orama.Lib.Text

namespace Orama.Lib.Calendar

def yearStart (y : Int) : Int := 365 * (y - 1) + (y - 1) / 4 - (y - 1) / 100 + (y - 1) / 400 - 719162

def isLeap (y : Int) : Bool := y % 4 = 0 && (y % 100 ≠ 0 || y % 400 = 0)

def daysBefore (leap : Bool) (m : Int) : Int :=
  let extra := if leap then 1 else 0
  if m ≤ 0 then 0
  else if m = 1 then 31
  else if m = 2 then 59 + extra
  else if m = 3 then 90 + extra
  else if m = 4 then 120 + extra
  else if m = 5 then 151 + extra
  else if m = 6 then 181 + extra
  else if m = 7 then 212 + extra
  else if m = 8 then 243 + extra
  else if m = 9 then 273 + extra
  else if m = 10 then 304 + extra
  else 334 + extra

def monthStart (k : Int) : Int := yearStart (k / 12) + daysBefore (isLeap (k / 12)) (k % 12)

def findMonth (day : Int) : Nat → Int → Int
  | 0, k => k
  | fuel + 1, k => if day < monthStart (k + 1) then k else findMonth day fuel (k + 1)

def monthOf (day : Int) : Int := findMonth day 36 (12 * ((day + 719162) * 400 / 146097))

def year (day : Int) : Int := monthOf day / 12
def month (day : Int) : Int := monthOf day % 12 + 1
def dayOfMonth (day : Int) : Int := day - monthStart (monthOf day) + 1
def weekday (day : Int) : Int := (day + 4) % 7
def date (y m d : Int) : Int := monthStart (12 * y + (m - 1)) + (d - 1)

lemma daysBefore_first (leap : Bool) : daysBefore leap 0 = 0 := by cases leap <;> decide

lemma monthStart_year (y : Int) : monthStart (12 * y) = yearStart y := by
  have hyear : 12 * y / 12 = y := by omega
  have hmonth : 12 * y % 12 = 0 := by omega
  rw [monthStart, hyear, hmonth, daysBefore_first, Int.add_zero]

lemma findMonth_spec {day : Int} {fuel : Nat} {k : Int} (hle : monthStart k ≤ day)
    (hlt : day < monthStart (k + fuel)) :
    monthStart (findMonth day fuel k) ≤ day ∧ day < monthStart (findMonth day fuel k + 1) := by
  induction fuel generalizing k with
  | zero =>
    rw [Int.natCast_zero, Int.add_zero] at hlt
    omega
  | succ fuel ih =>
    rw [findMonth]
    split
    · next h => exact ⟨hle, h⟩
    · next h =>
      refine ih (by omega) ?_
      have heq : k + ((fuel + 1 : Nat) : Int) = k + 1 + fuel := by omega
      rwa [heq] at hlt

lemma monthOf_spec (day : Int) : monthStart (monthOf day) ≤ day ∧ day < monthStart (monthOf day + 1) := by
  refine findMonth_spec ?_ ?_
  · rw [monthStart_year, yearStart]
    omega
  · have heq : 12 * ((day + 719162) * 400 / 146097) + ((36 : Nat) : Int) =
        12 * ((day + 719162) * 400 / 146097 + 3) := by omega
    rw [heq, monthStart_year, yearStart]
    omega

lemma date_self (day : Int) : date (year day) (month day) (dayOfMonth day) = day := by
  have hk : 12 * year day + (month day - 1) = monthOf day := by
    rw [year, month]
    omega
  rw [date, hk, dayOfMonth]
  omega

lemma date_month_succ (day : Int) : date (year day) (month day + 1) 1 = monthStart (monthOf day + 1) := by
  have hk : 12 * year day + (month day + 1 - 1) = monthOf day + 1 := by
    rw [year, month]
    omega
  rw [date, hk]
  omega

lemma monthStart_lt_succ (k : Int) : monthStart k < monthStart (k + 1) := by
  rw [monthStart, monthStart, yearStart, yearStart, daysBefore, daysBefore]
  rcases (by omega : (k + 1) / 12 = k / 12 ∨ (k + 1) / 12 = k / 12 + 1) with h | h <;> rw [h] <;> omega

lemma month_eq {a d : Int} (hle : a ≤ d) (hlt : d < monthStart (monthOf a + 1)) : month d = month a := by
  have hmono := strictMono_int_of_lt_succ monthStart_lt_succ
  have hfrom := hmono.lt_iff_lt.1 (((monthOf_spec a).1.trans hle).trans_lt (monthOf_spec d).2)
  have hto := hmono.lt_iff_lt.1 ((monthOf_spec d).1.trans_lt hlt)
  rw [month, month]
  omega

lemma date_day_succ (y m d : Int) : date y m (d + 1) = date y m d + 1 := by
  rw [date, date]
  omega

example : (year 20594, month 20594, dayOfMonth 20594, weekday 20594) = (2026, 5, 21, 4) := by decide +kernel

end Orama.Lib.Calendar
