/-
# Days and dates

The date of a day exists, and its day is the day (`Date.isValid_civil`, `Date.dayNumber_civil`).

Years of an era are counted from March, so a leap day is the last of its year. The year of a day is
a quotient by 365 of the days of the era without the leap days. That number of days does not fall
from one day to the next (`ordinary_le`), so it is enough to look at the first and the last day of
each of the 400 years (`ordinary_firstDay`).
-/

import LoanDesk.Time.Calendar

namespace LoanDesk
namespace Date

/-! ### The years of an era -/

/-- The first day of a year of the era. -/
def firstDay (y : Nat) : Nat := 365 * y + y / 4 - y / 100 + y / 400

/-- The days of the era up to a day, without leap days. -/
def ordinary (day : Nat) : Nat := day - day / 1460 + day / 36524 - day / 146096

/-- Leap days taken out as integers are leap days taken out as natural numbers. -/
theorem cast_ordinary (e : Nat) :
    (ordinary e : Int) = (e : Int) - e / 1460 + e / 36524 - e / 146096 := by
  unfold ordinary
  omega

/-- Later days have no fewer ordinary days before them. -/
theorem ordinary_le {a b : Nat} (h : a ≤ b) : ordinary a ≤ ordinary b := by
  induction h with
  | refl => exact Nat.le_refl _
  | @step b h ih =>
    refine Nat.le_trans ih ?_
    unfold ordinary
    omega

/-- In every year of an era the ordinary days run from 365 times the year to 365 times the next. -/
theorem ordinary_firstDay : ∀ y < 400, 365 * y ≤ ordinary (firstDay y) ∧
    ordinary (firstDay (y + 1) - 1) < 365 * (y + 1) := by decide +kernel

/-- The year of a day of the era. -/
theorem firstDay_le {day : Nat} (h : day < 146097) :
    ordinary day / 365 < 400 ∧ firstDay (ordinary day / 365) ≤ day ∧
      day < firstDay (ordinary day / 365 + 1) := by
  have hlt : ordinary day / 365 < 400 := by
    unfold ordinary
    omega
  refine ⟨hlt, Nat.le_of_not_lt fun hday => ?_, Nat.lt_of_not_le fun hday => ?_⟩
  · cases hy : ordinary day / 365 with
    | zero => simp [hy, firstDay] at hday
    | succ y =>
      have hlast := (ordinary_firstDay y (by omega)).2
      rw [hy] at hday
      have hle := ordinary_le (show day ≤ firstDay (y + 1) - 1 by omega)
      omega
  · rcases Nat.lt_or_ge (ordinary day / 365 + 1) 400 with hy | hy
    · have hfirst := (ordinary_firstDay _ hy).1
      have hle := ordinary_le hday
      omega
    · have hy : ordinary day / 365 + 1 = 400 := by omega
      rw [hy, show firstDay 400 = 146097 by decide] at hday
      omega

/-- A year ends after 366 days if the next number is that of a leap year, and else after 365. -/
theorem firstDay_succ : ∀ y < 400,
    firstDay (y + 1) = firstDay y + if isLeap (y + 1 : Nat) then 366 else 365 := by decide +kernel

/-- Leap years come again after 400 years. -/
theorem isLeap_add (y era : Int) : isLeap (y + era * 400) = isLeap y := by
  unfold isLeap
  rw [show (y + era * 400) % 4 = y % 4 by omega, show (y + era * 400) % 100 = y % 100 by omega,
    show (y + era * 400) % 400 = y % 400 by omega]

/-! ### The date of a day -/

/-- The date of a day of a year of an era. -/
def fromMarch (era : Int) (year day : Nat) : Date :=
  let m := (5 * day + 2) / 153
  let month := if m < 10 then m + 3 else m - 9
  ⟨year + era * 400 + (if month ≤ 2 then 1 else 0), month, day - (153 * m + 2) / 5 + 1⟩

/-- Every day is one of the days of a year of an era. The year has 366 of them where the next one,
to which its January and February belong, is a leap year. -/
theorem civil_eq (n : Int) : ∃ (era : Int) (year day : Nat), year < 400 ∧
    day < (if isLeap (year + 1 : Nat) then 366 else 365) ∧
    n + 719468 = era * 146097 + firstDay year + day ∧ civil n = fromMarch era year day := by
  obtain ⟨e, he⟩ : ∃ e : Nat, (n + 719468) % 146097 = e :=
    ⟨((n + 719468) % 146097).toNat, (Int.toNat_of_nonneg (by omega)).symm⟩
  obtain ⟨hyear, hfirst, hnext⟩ := firstDay_le (show e < 146097 by omega)
  generalize hy : ordinary e / 365 = year at hyear hfirst hnext
  obtain ⟨day, rfl⟩ := Nat.exists_eq_add_of_le hfirst
  rw [firstDay_succ year hyear] at hnext
  refine ⟨(n + 719468) / 146097, year, day, hyear, by omega, by omega, ?_⟩
  have hquot : (((firstDay year + day : Nat) : Int) - (firstDay year + day : Nat) / 1460 +
      (firstDay year + day : Nat) / 36524 - (firstDay year + day : Nat) / 146096) / 365 = year := by
    rw [← cast_ordinary]
    omega
  have hday : ((firstDay year + day : Nat) : Int) - (365 * year + year / 4 - year / 100) = day := by
    unfold firstDay
    omega
  obtain ⟨m, hm⟩ : ∃ m, (5 * day + 2) / 153 = m := ⟨_, rfl⟩
  have hcast : (5 * (day : Int) + 2) / 153 = m := by omega
  unfold civil fromMarch
  dsimp only
  rw [he, hquot, hday, hcast, hm]
  clear he hquot hday hcast
  congr 1
  · split <;> split <;> split <;> omega
  · split <;> split <;> omega
  · omega

/-- The date of a day exists. -/
theorem isValid_civil (n : Int) : (civil n).isValid := by
  obtain ⟨era, year, day, -, hday, -, hcivil⟩ := civil_eq n
  have hle : day ≤ 365 := by
    split at hday <;> omega
  obtain ⟨m, hm⟩ : ∃ m, (5 * day + 2) / 153 = m := ⟨_, rfl⟩
  have hleap : isLeap ((year + 1 : Nat) : Int) = isLeap (year + era * 400 + 1) := by
    rw [show (year : Int) + era * 400 + 1 = (year + 1 : Nat) + era * 400 by omega, isLeap_add]
  rw [hleap] at hday
  rw [hcivil, fromMarch, hm]
  simp only [isValid, daysInMonth, Bool.and_eq_true, decide_eq_true_eq, Bool.or_eq_true, beq_iff_eq]
  clear hleap hcivil
  rcases Nat.lt_or_ge m 10 with hlt | hge
  · rw [if_pos hlt]
    refine ⟨⟨⟨by omega, by omega⟩, by omega⟩, ?_⟩
    rw [if_neg (by omega)]
    split <;> omega
  · rw [if_neg (Nat.not_lt.2 hge), if_pos (show m - 9 ≤ 2 by omega)]
    refine ⟨⟨⟨by omega, by omega⟩, by omega⟩, ?_⟩
    split
    · -- February has what is left of the year
      obtain rfl : m = 11 := by omega
      split at hday
      · rw [if_pos ‹_›]
        omega
      · rw [if_neg ‹_›]
        omega
    · split <;> omega

/-- **The day of the date of a day is the day.** -/
theorem dayNumber_civil (n : Int) : (civil n).dayNumber = n := by
  obtain ⟨era, year, day, hyear, hday, hn, hcivil⟩ := civil_eq n
  have hle : day ≤ 365 := by
    split at hday <;> omega
  clear hday
  obtain ⟨m, hm⟩ : ∃ m, (5 * day + 2) / 153 = m := ⟨_, rfl⟩
  rw [hcivil, fromMarch, hm, dayNumber]
  clear hcivil
  have hmonth : (((if m < 10 then m + 3 else m - 9 : Nat) : Int) + 9) % 12 = m := by
    split <;> omega
  have hsame : (if (if m < 10 then m + 3 else m - 9) ≤ 2 then
      (year : Int) + era * 400 + (if (if m < 10 then m + 3 else m - 9) ≤ 2 then 1 else 0) - 1
      else (year : Int) + era * 400 + (if (if m < 10 then m + 3 else m - 9) ≤ 2 then 1 else 0)) =
        year + era * 400 := by
    split <;> omega
  dsimp only
  rw [hmonth, hsame]
  unfold firstDay at hn
  omega

end Date
end LoanDesk
