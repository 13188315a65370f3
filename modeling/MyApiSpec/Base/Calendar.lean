import Mathlib

/-!
# Dates in a location with a fixed offset

Days are counted from the first of January 1970, months from the January of year zero, and times are seconds
since the first midnight of 1970 in UTC. `firstDay` gives the first day of every month of the Gregorian calendar,
`monthOf` the month of a day. A year is counted from March here, so that the leap day is its last day.
-/

namespace MyApiSpec.Base.Calendar

/-! ### Months and days -/

/-- The days before the first of March of a year, from the first of March of year zero. -/
def daysBeforeYear (y : Int) : Int := 365 * y + y / 4 - y / 100 + y / 400

/-- The days of a year before its months, the first one being March. -/
def daysBeforeMonth (m : Int) : Int := (153 * m + 2) / 5

/-- The first day of a month. -/
def firstDay (month : Int) : Int :=
  daysBeforeYear ((month - 2) / 12) + daysBeforeMonth ((month - 2) % 12) - 719468

/-- The year within four centuries of a day. -/
def yearOfEra (doe : Int) : Int :=
  let century := min (doe / 36524) 3
  let doc := doe - 36524 * century
  100 * century + 4 * (doc / 1461) + min (doc % 1461 / 365) 3

/-- The year of a day, both counted from the first of March of year zero. -/
def yearOf (z : Int) : Int := yearOfEra (z % 146097) + 400 * (z / 146097)

/-- The month of a day. -/
def monthOf (day : Int) : Int :=
  let z := day + 719468
  let y := yearOf z
  12 * y + (5 * (z - daysBeforeYear y) + 2) / 153 + 2

theorem daysBeforeYear_add (y e : Int) : daysBeforeYear (y + 400 * e) = daysBeforeYear y + 146097 * e := by
  unfold daysBeforeYear
  omega

theorem daysBeforeYear_succ (y : Int) :
    daysBeforeYear y + 365 ≤ daysBeforeYear (y + 1) ∧ daysBeforeYear (y + 1) ≤ daysBeforeYear y + 366 := by
  unfold daysBeforeYear
  omega

/-- The days before a year that is given by its century, the cycle of four years in it and the year in that. -/
theorem daysBeforeYear_eq {c q y : Int} (hc : 0 ≤ c ∧ c ≤ 3) (hq : 0 ≤ q ∧ q ≤ 24) (hy : 0 ≤ y ∧ y ≤ 3) :
    daysBeforeYear (100 * c + 4 * q + y) = 36524 * c + 1461 * q + 365 * y := by
  unfold daysBeforeYear
  omega

/-- A year ends with its days or, in the last year of a cycle, with the cycle. -/
theorem yearOfEra_spec {doe : Int} (hlo : 0 ≤ doe) (hhi : doe < 146097) :
    daysBeforeYear (yearOfEra doe) ≤ doe ∧ doe < daysBeforeYear (yearOfEra doe + 1) := by
  simp only [yearOfEra]
  obtain ⟨c, hc⟩ : ∃ c, min (doe / 36524) 3 = c := ⟨_, rfl⟩
  rw [hc]
  have hcb : 0 ≤ c ∧ c ≤ 3 := by omega
  generalize hdoc' : doe - 36524 * c = doc at *
  obtain ⟨q, hq⟩ : ∃ q, doc / 1461 = q := ⟨_, rfl⟩
  obtain ⟨r, hr⟩ : ∃ r, doc % 1461 = r := ⟨_, rfl⟩
  obtain ⟨y, hy⟩ : ∃ y, min (r / 365) 3 = y := ⟨_, rfl⟩
  rw [hq, hr, hy]
  have hqb : 0 ≤ q ∧ q ≤ 24 := by omega
  have hyb : 0 ≤ y ∧ y ≤ 3 ∧ 365 * y ≤ r ∧ (y < 3 → r < 365 * (y + 1)) := by omega
  refine ⟨?_, ?_⟩
  · rw [daysBeforeYear_eq hcb hqb ⟨hyb.1, hyb.2.1⟩]
    omega
  · by_cases hlast : y < 3
    · rw [Int.add_assoc, daysBeforeYear_eq hcb hqb (show 0 ≤ y + 1 ∧ y + 1 ≤ 3 by omega)]
      omega
    by_cases hcycle : q < 24
    · rw [show 100 * c + 4 * q + y + 1 = 100 * c + 4 * (q + 1) + 0 by omega,
        daysBeforeYear_eq hcb (show 0 ≤ q + 1 ∧ q + 1 ≤ 24 by omega) (by omega)]
      omega
    by_cases hcentury : c < 3
    · rw [show 100 * c + 4 * q + y + 1 = 100 * (c + 1) + 4 * 0 + 0 by omega,
        daysBeforeYear_eq (show 0 ≤ c + 1 ∧ c + 1 ≤ 3 by omega) (by omega) (by omega)]
      omega
    · rw [show 100 * c + 4 * q + y + 1 = 400 by omega]
      simp only [show daysBeforeYear 400 = 146097 by decide]
      omega

/-- The year of a day holds the day. -/
theorem yearOf_spec (z : Int) : daysBeforeYear (yearOf z) ≤ z ∧ z < daysBeforeYear (yearOf z + 1) := by
  have hspec := yearOfEra_spec (z.emod_nonneg (show (146097 : Int) ≠ 0 by decide))
    (z.emod_lt_of_pos (show (0 : Int) < 146097 by decide))
  have h := daysBeforeYear_add (yearOfEra (z % 146097)) (z / 146097)
  have h' := daysBeforeYear_add (yearOfEra (z % 146097) + 1) (z / 146097)
  rw [show yearOfEra (z % 146097) + 1 + 400 * (z / 146097) = yearOf z + 1 by unfold yearOf; omega] at h'
  unfold yearOf at h' ⊢
  omega

/-- A month has 28 days or more. -/
theorem firstDay_succ (m : Int) : firstDay m + 28 ≤ firstDay (m + 1) := by
  unfold firstDay
  have hyear := daysBeforeYear_succ ((m - 2) / 12)
  by_cases hlast : (m - 2) % 12 = 11
  · rw [show (m + 1 - 2) / 12 = (m - 2) / 12 + 1 by omega, show (m + 1 - 2) % 12 = 0 by omega, hlast]
    simp only [show daysBeforeMonth 11 = 337 by decide, show daysBeforeMonth 0 = 0 by decide]
    omega
  · rw [show (m + 1 - 2) / 12 = (m - 2) / 12 by omega, show (m + 1 - 2) % 12 = (m - 2) % 12 + 1 by omega]
    unfold daysBeforeMonth
    omega

theorem firstDay_strictMono : StrictMono firstDay :=
  strictMono_int_of_lt_succ fun m => by
    have := firstDay_succ m
    omega

/-- The month of a day holds the day. -/
theorem monthOf_spec (day : Int) : firstDay (monthOf day) ≤ day ∧ day < firstDay (monthOf day + 1) := by
  obtain ⟨hlo, hhi⟩ := yearOf_spec (day + 719468)
  have hyear := daysBeforeYear_succ (yearOf (day + 719468))
  simp only [monthOf]
  generalize yearOf (day + 719468) = y at *
  obtain ⟨doy, hdoy⟩ : ∃ doy, day + 719468 - daysBeforeYear y = doy := ⟨_, rfl⟩
  obtain ⟨m, hm⟩ : ∃ m, (5 * doy + 2) / 153 = m := ⟨_, rfl⟩
  rw [hdoy, hm]
  have hmb : 0 ≤ m ∧ m ≤ 11 := by omega
  have hfirst : ∀ k, 0 ≤ k → k ≤ 11 → firstDay (12 * y + k + 2) = daysBeforeYear y + daysBeforeMonth k - 719468 := by
    intro k hk hk'
    unfold firstDay
    rw [show (12 * y + k + 2 - 2) / 12 = y by omega, show (12 * y + k + 2 - 2) % 12 = k by omega]
  refine ⟨?_, ?_⟩
  · rw [hfirst m hmb.1 hmb.2]
    unfold daysBeforeMonth
    omega
  · by_cases hlast : m = 11
    · have hnext : firstDay (12 * y + m + 2 + 1) = daysBeforeYear (y + 1) - 719468 := by
        unfold firstDay
        rw [show (12 * y + m + 2 + 1 - 2) / 12 = y + 1 by omega, show (12 * y + m + 2 + 1 - 2) % 12 = 0 by omega]
        simp only [show daysBeforeMonth 0 = 0 by decide, Int.add_zero]
      omega
    · rw [show 12 * y + m + 2 + 1 = 12 * y + (m + 1) + 2 by omega, hfirst (m + 1) (by omega) (by omega)]
      unfold daysBeforeMonth
      omega

-- The last day of January 1970, the day behind it, and the leap day of the year 2000.
example : firstDay (12 * 1970) = 0 ∧ monthOf 30 = 12 * 1970 ∧ monthOf 31 = 12 * 1970 + 1 ∧
    monthOf 11016 = 12 * 2000 + 1 ∧ firstDay (12 * 2000 + 2) = 11017 := by decide

/-- The day some months later, with the same number in its month as far as the months before overflow into it. -/
def addMonths (day months : Int) : Int := firstDay (monthOf day + months) + (day - firstDay (monthOf day))

theorem addMonths_zero (day : Int) : addMonths day 0 = day := by
  unfold addMonths
  rw [Int.add_zero]
  omega

theorem addMonths_strictMono (day : Int) : StrictMono (addMonths day) := by
  intro m n h
  have := firstDay_strictMono (show monthOf day + m < monthOf day + n by omega)
  unfold addMonths
  omega

/-! ### Times -/

/-- The seconds of a day. -/
def secondsPerDay : Int := 86400

/-- The local day of a time. -/
def localDay (offset t : Int) : Int := (t + offset) / secondsPerDay

/-- The first second of a local day. -/
def midnight (offset day : Int) : Int := secondsPerDay * day - offset

theorem lt_midnight_succ (offset t : Int) : t < midnight offset (localDay offset t + 1) := by
  unfold midnight localDay secondsPerDay
  omega

theorem midnight_strictMono (offset : Int) : StrictMono (midnight offset) := by
  intro d e h
  unfold midnight secondsPerDay
  omega

/-- `AddDate` with months only. -/
def addDateMonths (offset t months : Int) : Int :=
  midnight offset (addMonths (localDay offset t) months) + (t - midnight offset (localDay offset t))

theorem addDateMonths_strictMono (offset t : Int) : StrictMono (addDateMonths offset t) := by
  intro m n h
  have := midnight_strictMono offset (addMonths_strictMono (localDay offset t) h)
  unfold addDateMonths
  omega

theorem addDateMonths_zero (offset t : Int) : addDateMonths offset t 0 = t := by
  unfold addDateMonths
  rw [addMonths_zero]
  omega

end MyApiSpec.Base.Calendar
