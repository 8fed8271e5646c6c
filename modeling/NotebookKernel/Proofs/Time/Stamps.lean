import Mathlib.Tactic.IntervalCases
import NotebookKernel.Time.Calendar

/-!
# Time stamps in the order of time

Every day has a date of the Gregorian calendar that exists (`Date.Valid`), the day is found again from
it (`daysOf_dateOfDays`), and a later day has a later date (`before_dateOfDays`). All of it is shown over
the years that begin in March, by which `dateOfDays` counts: a day is so many days after the first of
March of a year (`FromMarch`), and what remains are the twelve months.

The stamps of two moments are compared as texts, character by character, although the fraction of a
second has as many digits as it needs. `timestamp_le_iff` says that this is the order of time: all fields
before the fraction have a fixed width (`decimals`), and where a fraction ends, its `+` comes before
every digit and before the point of another one.
-/

namespace NotebookKernel.Instant

/-- The date exists in the calendar. -/
structure Date.Valid (date : Date) : Prop where
  one_le_month : 1 ≤ date.month
  month_le : date.month ≤ 12
  one_le_day : 1 ≤ date.day
  day_le : date.day ≤ daysInMonth date.year date.month

/-- The date comes before another one: by the year, then the month, then the day. -/
def Date.Before (a b : Date) : Prop :=
  a.year < b.year ∨ a.year = b.year ∧
    (a.month < b.month ∨ a.month = b.month ∧ a.day < b.day)

/-- How many days after the first of January 1970 a date is. -/
def Date.days (date : Date) : Int := daysOf date.year date.month date.day

/-- The nanoseconds since the start of 1970. -/
def nanoseconds (i : Instant) : Int := i.seconds * 1000000000 + i.nanos

/-- The year of the moment has four digits at most, and the nanoseconds make up less than a second. -/
structure Proper (i : Instant) : Prop where
  year_nonneg : 0 ≤ (dateOfDays (i.seconds / 86400)).year
  year_le : (dateOfDays (i.seconds / 86400)).year ≤ 9999
  nanos_lt : i.nanos < 1000000000

/-! ## Years -/

theorem isLeap_iff {year : Int} :
    isLeap year = true ↔ year % 4 = 0 ∧ (year % 100 ≠ 0 ∨ year % 400 = 0) := by
  simp [isLeap]

/-- How many days there are before a year, from the first of January of the year 1 on. -/
def daysBeforeYear (year : Int) : Int :=
  (year - 1) * 365 + (year - 1) / 4 - (year - 1) / 100 + (year - 1) / 400

theorem daysOf_eq (year : Int) (month day : Nat) : daysOf year month day =
    daysBeforeYear year - 719162 + daysBefore year month + (day - 1 : Int) :=
  rfl

theorem daysBeforeYear_succ (year : Int) :
    daysBeforeYear (year + 1) = daysBeforeYear year + 365 + if isLeap year then 1 else 0 := by
  simp only [daysBeforeYear, isLeap_iff]
  split <;> omega

theorem daysBeforeYear_mono {a b : Int} (h : a ≤ b) : daysBeforeYear a ≤ daysBeforeYear b := by
  unfold daysBeforeYear
  omega

theorem daysBeforeYear_era {yearOfEra : Nat} (h : yearOfEra < 400) (era : Int) :
    daysBeforeYear (yearOfEra + era * 400 + 1) =
      era * 146097 + (365 * yearOfEra + yearOfEra / 4 - yearOfEra / 100 : Nat) := by
  have h4 : (yearOfEra + era * 400) / 4 = (yearOfEra / 4 : Nat) + era * 100 := by omega
  have h100 : (yearOfEra + era * 400) / 100 = (yearOfEra / 100 : Nat) + era * 4 := by omega
  have h400 : (yearOfEra + era * 400) / 400 = era := by omega
  simp only [daysBeforeYear, Int.add_sub_cancel]
  omega

/-! ## Eras -/

/-- The year of a day of an era. -/
def yearOfEra (day : Nat) : Nat := (day - day / 1460 + day / 36524 - day / 146096) / 365

/-- The year is found from the centuries, the spans of four years, the years and the days that have
passed. Only the last year of a span may have 366 days, and not in the last span of a century. -/
theorem yearOfEra_eq {century span year day : Nat} (hcentury : century ≤ 3) (hspan : span ≤ 24)
    (hyear : year ≤ 3) (hday : day ≤ 365) (hlast : day = 365 → year = 3 ∧ span ≤ 23) :
    yearOfEra (36524 * century + 1461 * span + 365 * year + day) =
      100 * century + 4 * span + year := by
  unfold yearOfEra
  generalize hsum : 36524 * century + 1461 * span + 365 * year + day = dayOfEra
  have hcenturies : dayOfEra / 36524 = century := by omega
  have hend : dayOfEra / 146096 = 0 := by omega
  have hspans : dayOfEra / 1460 = 25 * century + span +
      (if 1460 ≤ 24 * century + span + 365 * year + day then 1 else 0) := by
    split <;> omega
  rw [hcenturies, hend, hspans]
  split <;> omega

/-- A day of an era is a day of a year. -/
structure InEra (day year dayOfYear : Nat) : Prop where
  year_lt : year < 400
  sum : day = 365 * year + year / 4 - year / 100 + dayOfYear
  day_le : dayOfYear ≤ 365
  leap : dayOfYear = 365 → year % 4 = 3 ∧ (year % 100 ≠ 99 ∨ year = 399)

theorem inEra {day : Nat} (h : day < 146097) : InEra day (yearOfEra day)
    (day - (365 * yearOfEra day + yearOfEra day / 4 - yearOfEra day / 100)) := by
  by_cases hend : day = 146096
  · -- The last day of an era is the leap day that the fourth century has more than the others.
    subst hend
    exact ⟨by decide, by decide, by decide, by decide⟩
  · obtain ⟨c, k, y, d, hday, hc, hk, hy, hd, hlast⟩ : ∃ c k y d,
        day = 36524 * c + 1461 * k + 365 * y + d ∧
          c ≤ 3 ∧ k ≤ 24 ∧ y ≤ 3 ∧ d ≤ 365 ∧ (d = 365 → y = 3 ∧ k ≤ 23) := by
      refine ⟨day / 36524, day % 36524 / 1461, min (day % 36524 % 1461 / 365) 3,
        day % 36524 % 1461 - 365 * min (day % 36524 % 1461 / 365) 3, ?_⟩
      omega
    have hspans : (100 * c + 4 * k + y) / 4 = 25 * c + k := by omega
    have hcenturies : (100 * c + 4 * k + y) / 100 = c := by omega
    have hrest : 36524 * c + 1461 * k + 365 * y + d -
        (365 * (100 * c + 4 * k + y) + (25 * c + k) - c) = d := by omega
    rw [hday, yearOfEra_eq hc hk hy hd hlast, hspans, hcenturies, hrest]
    exact ⟨by omega, by omega, hd, by omega⟩

/-! ## Years that begin in March -/

/-- The date of a day of a year that begins in March. -/
def ofMarch (year : Int) (dayOfYear : Nat) : Date :=
  let monthFromMarch := (5 * dayOfYear + 2) / 153
  let month := if monthFromMarch < 10 then monthFromMarch + 3 else monthFromMarch - 9
  { year := year + (if month ≤ 2 then 1 else 0)
    month
    day := dayOfYear - (153 * monthFromMarch + 2) / 5 + 1 }

/-- The day is so many days after the first of March of the year, and before the next. -/
structure FromMarch (days year : Int) (dayOfYear : Nat) : Prop where
  days_eq : days = daysBeforeYear (year + 1) + dayOfYear - 719468
  day_le : dayOfYear ≤ 365
  leap : dayOfYear = 365 → isLeap (year + 1) = true

theorem exists_fromMarch (days : Int) :
    ∃ year dayOfYear, FromMarch days year dayOfYear ∧ dateOfDays days = ofMarch year dayOfYear := by
  obtain ⟨era, hera⟩ : ∃ era, (days + 719468) / 146097 = era := ⟨_, rfl⟩
  have hday : (days + 719468 - era * 146097).toNat < 146097 := by omega
  have hdays : days = era * 146097 + (days + 719468 - era * 146097).toNat - 719468 := by omega
  have hdate : dateOfDays days =
      let day := (days + 719468 - era * 146097).toNat
      ofMarch (yearOfEra day + era * 400)
        (day - (365 * yearOfEra day + yearOfEra day / 4 - yearOfEra day / 100)) := by
    rw [← hera]
    rfl
  generalize (days + 719468 - era * 146097).toNat = day at hday hdays hdate
  obtain ⟨hyear, hsum, hle, hleap⟩ := inEra hday
  refine ⟨_, _, ⟨?_, hle, fun hlast => ?_⟩, hdate⟩
  · rw [daysBeforeYear_era hyear]
    omega
  · have := hleap hlast
    rw [isLeap_iff]
    omega

theorem ofMarch_of_lt {year : Int} {dayOfYear month : Nat} (hmonth : (5 * dayOfYear + 2) / 153 = month)
    (h : month < 10) :
    ofMarch year dayOfYear = ⟨year, month + 3, dayOfYear - (153 * month + 2) / 5 + 1⟩ := by
  rw [ofMarch, hmonth]
  simp only [if_pos h, Date.mk.injEq, and_true]
  rw [if_neg (by omega), Int.add_zero]

theorem ofMarch_of_le {year : Int} {dayOfYear month : Nat} (hmonth : (5 * dayOfYear + 2) / 153 = month)
    (h : 10 ≤ month) (hle : month ≤ 11) :
    ofMarch year dayOfYear = ⟨year + 1, month - 9, dayOfYear - (153 * month + 2) / 5 + 1⟩ := by
  rw [ofMarch, hmonth]
  simp only [if_neg (show ¬month < 10 by omega), Date.mk.injEq, and_true]
  rw [if_pos (by omega)]

/-- Behind January, February and the leap day, the months begin after `(153 * month + 2) / 5` days. -/
theorem daysBefore_march (year : Int) {month : Nat} (h : month < 10) : daysBefore year (month + 3) =
    59 + (if isLeap year then 1 else 0) + (153 * month + 2) / 5 := by
  unfold daysBefore
  cases isLeap year <;> interval_cases month <;> rfl

theorem daysInMonth_march (year : Int) {month : Nat} (h : month < 10) :
    daysInMonth year (month + 3) + (153 * month + 2) / 5 = (153 * month + 155) / 5 := by
  unfold daysInMonth
  cases isLeap year <;> interval_cases month <;> rfl

theorem FromMarch.days_ofMarch {days year : Int} {dayOfYear : Nat}
    (h : FromMarch days year dayOfYear) : (ofMarch year dayOfYear).days = days := by
  obtain ⟨hdays, hle, -⟩ := h
  generalize hmonth : (5 * dayOfYear + 2) / 153 = month
  rw [hdays]
  rcases Nat.lt_or_ge month 10 with hlt | hge
  · have hnext := daysBeforeYear_succ year
    rw [ofMarch_of_lt hmonth hlt, Date.days, daysOf_eq, daysBefore_march year hlt, hnext]
    push_cast
    omega
  · rw [ofMarch_of_le hmonth hge (by omega), Date.days, daysOf_eq]
    obtain rfl | rfl : month = 10 ∨ month = 11 := by omega
    · have hnone : daysBefore (year + 1) (10 - 9) = 0 := rfl
      dsimp only
      rw [hnone]
      omega
    · have hjanuary : daysBefore (year + 1) (11 - 9) = 31 := rfl
      dsimp only
      rw [hjanuary]
      omega

theorem FromMarch.valid_ofMarch {days year : Int} {dayOfYear : Nat}
    (h : FromMarch days year dayOfYear) : (ofMarch year dayOfYear).Valid := by
  obtain ⟨-, hle, hleap⟩ := h
  generalize hmonth : (5 * dayOfYear + 2) / 153 = month
  rcases Nat.lt_or_ge month 10 with hlt | hge
  · have hend := daysInMonth_march year hlt
    rw [ofMarch_of_lt hmonth hlt]
    constructor <;> dsimp only <;> omega
  · rw [ofMarch_of_le hmonth hge (by omega)]
    obtain rfl | rfl : month = 10 ∨ month = 11 := by omega
    · have hjanuary : daysInMonth (year + 1) (10 - 9) = 31 := rfl
      constructor <;> dsimp only <;> omega
    · have hfebruary : daysInMonth (year + 1) (11 - 9) =
          28 + if isLeap (year + 1) then 1 else 0 := rfl
      have hlast : dayOfYear ≤ 364 + if isLeap (year + 1) then 1 else 0 := by
        split
        · omega
        · have hne : dayOfYear ≠ 365 := fun heq => ‹¬_› (hleap heq)
          omega
      constructor <;> dsimp only <;> omega

/-! ## Months -/

theorem daysBefore_succ (year : Int) {month : Nat} (hone : 1 ≤ month) (hmonth : month ≤ 11) :
    daysBefore year (month + 1) = daysBefore year month + daysInMonth year month := by
  unfold daysBefore daysInMonth
  cases isLeap year <;> interval_cases month <;> rfl

theorem daysInMonth_le (year : Int) {month : Nat} (hone : 1 ≤ month) (hmonth : month ≤ 12) :
    daysInMonth year month ≤ 31 := by
  unfold daysInMonth
  cases isLeap year <;> interval_cases month <;> decide

/-- The days of a month come before those of a later month. -/
theorem daysBefore_add_daysInMonth_le (year : Int) {month later : Nat} (hone : 1 ≤ month)
    (hlt : month < later) (hlater : later ≤ 12) :
    daysBefore year month + daysInMonth year month ≤ daysBefore year later := by
  induction later, hlt using Nat.le_induction with
  | base => rw [daysBefore_succ year hone (by omega)]
  | succ later hlt ih =>
    rw [daysBefore_succ year (by omega) (by omega)]
    have := ih (by omega)
    omega

theorem Date.Valid.dayOfYear_le {date : Date} (h : date.Valid) :
    daysBefore date.year date.month + date.day ≤ 365 + if isLeap date.year then 1 else 0 := by
  have hday := h.day_le
  have hend : daysBefore date.year 12 + daysInMonth date.year 12 =
      365 + if isLeap date.year then 1 else 0 := by
    simp [daysBefore, daysInMonth]
    omega
  rcases Nat.lt_or_eq_of_le h.month_le with hlt | heq
  · have := daysBefore_add_daysInMonth_le date.year h.one_le_month hlt (le_refl 12)
    omega
  · rw [heq] at hday ⊢
    omega

/-! ## Days and their dates -/

/-- The day is found again from its date. -/
theorem daysOf_dateOfDays (days : Int) : (dateOfDays days).days = days := by
  obtain ⟨year, dayOfYear, h, hdate⟩ := exists_fromMarch days
  rw [hdate, h.days_ofMarch]

theorem valid_dateOfDays (days : Int) : (dateOfDays days).Valid := by
  obtain ⟨year, dayOfYear, h, hdate⟩ := exists_fromMarch days
  rw [hdate]
  exact h.valid_ofMarch

theorem Date.Before.days_lt {a b : Date} (h : a.Before b) (ha : a.Valid) (hb : b.Valid) :
    a.days < b.days := by
  have hday := hb.one_le_day
  simp only [Date.days, daysOf_eq]
  obtain hyear | ⟨hyear, hmonth | ⟨hmonth, hday⟩⟩ := h
  · have hnext := daysBeforeYear_succ a.year
    have hmono := daysBeforeYear_mono (show a.year + 1 ≤ b.year from hyear)
    have hend : (daysBefore a.year a.month + a.day : Int) ≤ 365 + if isLeap a.year then 1 else 0 := by
      exact_mod_cast ha.dayOfYear_le
    omega
  · have hle := daysBefore_add_daysInMonth_le a.year ha.one_le_month hmonth hb.month_le
    have hend := ha.day_le
    rw [← hyear]
    omega
  · rw [hyear, hmonth]
    omega

theorem Date.before_or_eq_or_before (a b : Date) : a.Before b ∨ a = b ∨ b.Before a := by
  rcases a with ⟨year, month, day⟩
  rcases b with ⟨year', month', day'⟩
  simp only [Date.Before, Date.mk.injEq]
  omega

/-- A later day has a later date. -/
theorem before_dateOfDays {days days' : Int} (h : days < days') :
    (dateOfDays days).Before (dateOfDays days') := by
  rcases (dateOfDays days).before_or_eq_or_before (dateOfDays days') with hbefore | heq | hafter
  · exact hbefore
  · have hdays := congrArg Date.days heq
    rw [daysOf_dateOfDays, daysOf_dateOfDays] at hdays
    omega
  · have hlt := hafter.days_lt (valid_dateOfDays days') (valid_dateOfDays days)
    rw [daysOf_dateOfDays, daysOf_dateOfDays] at hlt
    omega

/-! ## Numbers of fixed width -/

/-- The last digits of a number. -/
def decimals : Nat → Nat → List Char
  | 0, _ => []
  | width + 1, n => decimals width (n / 10) ++ [(n % 10).digitChar]

theorem decimals_zero (width : Nat) : decimals width 0 = List.replicate width '0' := by
  induction width with
  | zero => rfl
  | succ width ih => rw [decimals, Nat.zero_div, ih, List.replicate_succ']; rfl

theorem decimals_add (width rest n : Nat) :
    decimals (width + rest) n = decimals width (n / 10 ^ rest) ++ decimals rest n := by
  induction rest generalizing n with
  | zero => simp [decimals]
  | succ rest ih =>
    rw [← Nat.add_assoc, decimals, ih, decimals, List.append_assoc, Nat.div_div_eq_div_mul,
      ← Nat.pow_succ']

theorem toList_padded {width n : Nat} (hwidth : 0 < width) (hn : n < 10 ^ width) :
    (padded width n).toList = decimals width n := by
  simp only [padded, String.toList_ofList]
  induction width, hwidth using Nat.le_induction generalizing n with
  | base =>
    rw [Nat.pow_one] at hn
    rw [Nat.toDigits_of_lt_base hn, decimals, decimals, Nat.mod_eq_of_lt hn]
    rfl
  | succ width hwidth ih =>
    rcases Nat.lt_or_ge n 10 with hlt | hge
    · rw [Nat.toDigits_of_lt_base hlt, decimals, Nat.div_eq_of_lt hlt, decimals_zero,
        Nat.mod_eq_of_lt hlt]
      rfl
    · have hquotient : n / 10 < 10 ^ width := by rw [Nat.pow_succ'] at hn; omega
      rw [Nat.toDigits_of_base_le (by decide) hge, decimals, ← ih hquotient]
      simp

theorem digitChar_lt {m n : Nat} (h : m < n) (hn : n < 10) : m.digitChar < n.digitChar := by
  rw [Char.lt_def, UInt32.lt_iff_toNat_lt]
  change m.digitChar.toNat < n.digitChar.toNat
  rw [Nat.toNat_digitChar_of_lt_ten hn, Nat.toNat_digitChar_of_lt_ten (by omega)]
  omega

theorem plus_lt_digitChar (n : Nat) : '+' < (n % 10).digitChar := by
  rw [Char.lt_def, UInt32.lt_iff_toNat_lt]
  change '+'.toNat < (n % 10).digitChar.toNat
  rw [Nat.toNat_digitChar_of_lt_ten (by omega)]
  have : '+'.toNat = 43 := rfl
  omega

/-- A smaller number comes first, whatever follows. -/
theorem decimals_append_lt {width m n : Nat} (h : m < n) (hn : n < 10 ^ width) (xs ys : List Char) :
    decimals width m ++ xs < decimals width n ++ ys := by
  induction width generalizing m n xs ys with
  | zero => rw [Nat.pow_zero] at hn; omega
  | succ width ih =>
    simp only [decimals, List.append_assoc, List.singleton_append]
    rcases Nat.lt_or_eq_of_le (Nat.div_le_div_right (c := 10) h.le) with hlt | heq
    · exact ih hlt (by rw [Nat.pow_succ'] at hn; omega) _ _
    · rw [heq]
      refine List.append_left_lt (List.cons_lt_cons_iff.mpr (.inl ?_))
      exact digitChar_lt (by omega) (Nat.mod_lt _ (by decide))

theorem cons_lt {c : Char} {xs ys : List Char} (h : xs < ys) : c :: xs < c :: ys :=
  List.cons_lt_cons_iff.mpr (.inr ⟨rfl, h⟩)

/-- Fields are compared before what follows them. -/
theorem field_lt {width m n : Nat} {xs ys : List Char} (hn : n < 10 ^ width)
    (h : m < n ∨ m = n ∧ xs < ys) : decimals width m ++ xs < decimals width n ++ ys := by
  obtain hlt | ⟨rfl, hrest⟩ := h
  · exact decimals_append_lt hlt hn _ _
  · exact List.append_left_lt hrest

/-! ## Fractions -/

/-- Numbers of different widths behind the point are compared by their digits, if a `+` follows. -/
theorem decimals_plus_lt {p q e f x y : Nat} (hwidth : p + e = q + f)
    (h : x * 10 ^ e < y * 10 ^ f) (hy : y < 10 ^ q) (xs ys : List Char) :
    decimals p x ++ '+' :: xs < decimals q y ++ ys := by
  rcases Nat.le_total p q with hle | hle
  · obtain ⟨k, rfl⟩ := Nat.exists_eq_add_of_le hle
    obtain rfl : e = k + f := by omega
    rw [Nat.pow_add, ← Nat.mul_assoc] at h
    have hlt := Nat.lt_of_mul_lt_mul_right h
    have hdiv : x ≤ y / 10 ^ k := (Nat.le_div_iff_mul_le (by positivity)).mpr hlt.le
    rw [decimals_add, List.append_assoc]
    refine field_lt (by rw [Nat.div_lt_iff_lt_mul (by positivity), ← Nat.pow_add]; exact hy) ?_
    rcases Nat.lt_or_eq_of_le hdiv with hless | heq
    · exact .inl hless
    · refine .inr ⟨heq, ?_⟩
      cases k with
      | zero => simp at heq hlt; omega
      | succ k =>
        rw [Nat.add_comm, decimals_add]
        exact List.cons_lt_cons_iff.mpr (.inl (plus_lt_digitChar _))
  · obtain ⟨k, rfl⟩ := Nat.exists_eq_add_of_le hle
    obtain rfl : f = k + e := by omega
    rw [Nat.pow_add, ← Nat.mul_assoc] at h
    have hlt := Nat.lt_of_mul_lt_mul_right h
    rw [decimals_add, List.append_assoc]
    exact decimals_append_lt ((Nat.div_lt_iff_lt_mul (by positivity)).mpr hlt) hy _ _

/-- How many digits the fraction has. -/
def precision (nanos : Nat) : Nat :=
  if nanos = 0 then 0 else if nanos % 1000000 = 0 then 3 else if nanos % 1000 = 0 then 6 else 9

theorem toList_fraction {nanos : Nat} (h : nanos < 1000000000) :
    (fraction nanos).toList = if nanos = 0 then [] else
      '.' :: decimals (precision nanos) (nanos / 10 ^ (9 - precision nanos)) := by
  unfold fraction precision
  split_ifs
  · rfl
  all_goals rw [String.toList_append, toList_padded (by decide) (by omega)]
  · rfl
  · rfl
  · rw [Nat.sub_self, Nat.pow_zero, Nat.div_one]
    rfl

/-- The digits of the fraction are exact. -/
theorem div_mul_precision (nanos : Nat) :
    nanos / 10 ^ (9 - precision nanos) * 10 ^ (9 - precision nanos) = nanos := by
  unfold precision
  split_ifs <;> omega

theorem precision_add (nanos : Nat) : precision nanos + (9 - precision nanos) = 9 := by
  unfold precision
  split_ifs <;> rfl

/-- The fractions of two moments within a second are in their order. -/
theorem fraction_lt {m n : Nat} (h : m < n) (hn : n < 1000000000) (xs ys : List Char) :
    (fraction m).toList ++ '+' :: xs < (fraction n).toList ++ ys := by
  have hpositive : n ≠ 0 := by omega
  rw [toList_fraction (h.trans hn), toList_fraction hn, if_neg hpositive]
  split
  · exact List.cons_lt_cons_iff.mpr (.inl (by decide))
  · refine cons_lt (decimals_plus_lt
      ((precision_add m).trans (precision_add n).symm) ?_ ?_ _ _)
    · rwa [div_mul_precision, div_mul_precision]
    · rw [Nat.div_lt_iff_lt_mul (by positivity), ← Nat.pow_add, precision_add]
      exact hn

/-! ## Dates and times of day -/

/-- The characters of a date. -/
def dateChars (date : Date) : List Char :=
  decimals 4 date.year.toNat ++ '-' :: (decimals 2 date.month ++ '-' :: decimals 2 date.day)

/-- The characters of a second of a day. -/
def clockChars (second : Nat) : List Char :=
  decimals 2 (second / 3600) ++ ':' :: (decimals 2 (second / 60 % 60) ++ ':' ::
    decimals 2 (second % 60))

/-- The date is written with four digits for the year. -/
structure Date.Writable (date : Date) : Prop extends date.Valid where
  year_nonneg : 0 ≤ date.year
  year_le : date.year ≤ 9999

namespace Date.Writable

variable {a b : Date}

theorem year_lt (h : a.Writable) : a.year.toNat < 10 ^ 4 := by have := h.year_le; omega

theorem month_lt (h : a.Writable) : a.month < 10 ^ 2 := by have := h.month_le; omega

theorem day_lt (h : a.Writable) : a.day < 10 ^ 2 := by
  have := h.day_le.trans (daysInMonth_le a.year h.one_le_month h.month_le)
  omega

end Date.Writable

theorem dateChars_lt {a b : Date} (ha : a.Writable) (hb : b.Writable) (h : a.Before b)
    (xs ys : List Char) : dateChars a ++ xs < dateChars b ++ ys := by
  simp only [dateChars, List.append_assoc, List.cons_append]
  refine field_lt hb.year_lt ?_
  obtain hlt | ⟨hyear, hrest⟩ := h
  · have := ha.year_nonneg
    exact .inl (by omega)
  refine .inr ⟨by rw [hyear], cons_lt (field_lt hb.month_lt ?_)⟩
  obtain hlt | ⟨hmonth, hlt⟩ := hrest
  · exact .inl hlt
  · exact .inr ⟨hmonth, cons_lt (field_lt hb.day_lt (.inl hlt))⟩

theorem clockChars_lt {m n : Nat} (h : m < n) (hn : n < 86400) (xs ys : List Char) :
    clockChars m ++ xs < clockChars n ++ ys := by
  simp only [clockChars, List.append_assoc, List.cons_append]
  refine field_lt (by omega) ?_
  by_cases hhour : m / 3600 < n / 3600
  · exact .inl hhour
  refine .inr ⟨by omega, cons_lt (field_lt (by omega) ?_)⟩
  by_cases hminute : m / 60 % 60 < n / 60 % 60
  · exact .inl hminute
  · exact .inr ⟨by omega, cons_lt (field_lt (by omega) (.inl (by omega)))⟩

/-! ## Stamps -/

/-- The date of a moment. -/
def date (i : Instant) : Date := dateOfDays (i.seconds / 86400)

/-- The second of the day of a moment. -/
def secondOfDay (i : Instant) : Nat := (i.seconds - i.seconds / 86400 * 86400).toNat

theorem secondOfDay_eq (i : Instant) :
    (i.secondOfDay : Int) = i.seconds - i.seconds / 86400 * 86400 := by
  unfold secondOfDay
  omega

theorem Proper.writable {i : Instant} (h : i.Proper) : i.date.Writable :=
  ⟨valid_dateOfDays _, h.year_nonneg, h.year_le⟩

theorem toList_timestamp {i : Instant} (h : i.Proper) : i.timestamp.toList =
    dateChars i.date ++ 'T' :: (clockChars i.secondOfDay ++
      ((fraction i.nanos).toList ++ '+' :: ['0', '0', ':', '0', '0'])) := by
  have hsecond := i.secondOfDay_eq
  have hhour : i.secondOfDay / 3600 < 10 ^ 2 := by omega
  have hminute : i.secondOfDay / 60 % 60 < 10 ^ 2 := by omega
  have hsecond : i.secondOfDay % 60 < 10 ^ 2 := by omega
  rw [dateChars, clockChars, ← toList_padded (by decide) h.writable.year_lt,
    ← toList_padded (by decide) h.writable.month_lt, ← toList_padded (by decide) h.writable.day_lt,
    ← toList_padded (by decide) hhour, ← toList_padded (by decide) hminute,
    ← toList_padded (by decide) hsecond]
  simp [timestamp, date, secondOfDay]

theorem timestamp_lt {a b : Instant} (ha : a.Proper) (hb : b.Proper)
    (h : a.nanoseconds < b.nanoseconds) : a.timestamp < b.timestamp := by
  have hnanos := ha.nanos_lt
  have hnanos' := hb.nanos_lt
  have hsecond := a.secondOfDay_eq
  have hsecond' := b.secondOfDay_eq
  rw [nanoseconds, nanoseconds] at h
  rw [String.lt_iff, toList_timestamp ha, toList_timestamp hb]
  rcases Int.lt_or_le (a.seconds / 86400) (b.seconds / 86400) with hday | hday
  · exact dateChars_lt ha.writable hb.writable (before_dateOfDays hday) _ _
  have hdate : a.date = b.date := congrArg dateOfDays (by omega)
  rw [hdate]
  refine List.append_left_lt (cons_lt ?_)
  rcases Nat.lt_or_ge a.secondOfDay b.secondOfDay with hclock | hclock
  · exact clockChars_lt hclock (by omega) _ _
  have hclock : a.secondOfDay = b.secondOfDay := by omega
  rw [hclock]
  exact List.append_left_lt (fraction_lt (by omega) hnanos' _ _)

theorem eq_of_nanoseconds_eq {a b : Instant} (ha : a.Proper) (hb : b.Proper)
    (h : a.nanoseconds = b.nanoseconds) : a = b := by
  have hnanos := ha.nanos_lt
  have hnanos' := hb.nanos_lt
  rcases a with ⟨seconds, nanos⟩
  rcases b with ⟨seconds', nanos'⟩
  simp only [nanoseconds, Instant.mk.injEq] at *
  omega

/-- The stamps of two moments are in the order of time. -/
theorem timestamp_le_iff {a b : Instant} (ha : a.Proper) (hb : b.Proper) :
    a.timestamp ≤ b.timestamp ↔ a.nanoseconds ≤ b.nanoseconds := by
  constructor
  · intro h
    by_contra hlt
    exact String.not_le.mpr (timestamp_lt hb ha (by omega)) h
  · intro h
    rcases Int.lt_or_eq_of_le h with hlt | heq
    · exact String.not_lt.mp (String.lt_asymm (timestamp_lt ha hb hlt))
    · exact eq_of_nanoseconds_eq ha hb heq ▸ String.le_refl _

end NotebookKernel.Instant
