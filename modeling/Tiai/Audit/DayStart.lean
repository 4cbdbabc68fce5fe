import Tiai.Lib.Civil
import Tiai.Lib.LocalTime

/-!
# The period of an audit search

`frontend/src/utils/auditQuery.ts`: the reader picks calendar days, the API wants instants.  An instant is a number of
milliseconds, as `Date` has it, and a zone is what `Intl` knows of it: an offset in whole seconds at every instant.  The
ISO text of an instant is left out.

* `midnightIn`, `localDayStart`, `localDayEnd`, `auditPeriodParams` — the instants of a period;
* `zoneOffset_of_le`, `zoneOffset_of_lt` — the offset as read off the parts of a date, which years before 100 garble;
* `midnightIn_eq`, `midnightIn_lt` — the midnight is the zone's own guess, or years off;
* `startsRight_iff` — a day starts where it starts exactly when the zone's clocks settle at both its ends.
-/

namespace Tiai.Audit

open Lib.Calendar
open Lib.LocalTime (oneDay)

/-! ### `Date` -/

/-- The 1st of January 1970. -/
def epoch : ℤ := 719163

/-- `Date.UTC` takes the years 0 to 99 for 1900 to 1999. -/
def fullYear (y : ℤ) : ℤ := if 0 ≤ y ∧ y ≤ 99 then 1900 + y else y

/-- `Date.UTC(y, month, day)`. -/
def dateUTC (y month day : ℤ) : ℤ := (ordinal (fullYear y) month day - epoch) * oneDay

/-- `getUTCFullYear`, `getUTCMonth`, `getUTCDate`; and of local time, when `ms` is what the clocks show. -/
def utcDate (ms : ℤ) : Date := civil (ms / oneDay + epoch)

/-! ### A day as the URL has it -/

/-- `Number(…)`, of digits. -/
def number (digits : List Char) : ℤ := digits.foldl (fun n c => 10 * n + (c.toNat - 48)) 0

/-- `DATE_RE`: the year, the month and the day. -/
def dateRe : List Char → Option (List Char × List Char × List Char)
  | [y1, y2, y3, y4, '-', m1, m2, '-', d1, d2] =>
    if [y1, y2, y3, y4, m1, m2, d1, d2].all Char.isDigit then some ([y1, y2, y3, y4], [m1, m2], [d1, d2]) else none
  | _ => none

/-- A calendar day, its month counted from 0 as `Date` counts it, or `none` when not a real date. -/
def parseDay (value : List Char) : Option Date :=
  match dateRe value with
  | none => none
  | some (y, mo, d) =>
    let check := utcDate (dateUTC (number y) (number mo - 1) (number d))
    if check.year ≠ number y ∨ check.month ≠ number mo - 1 ∨ check.day ≠ number d then none else some check

/-! ### Zones -/

/-- What `Intl` knows of a zone. -/
structure Zone extends Lib.LocalTime.Zone where
  whole : ∀ t, 1000 ∣ offset t

/-- The date in the zone. -/
def Zone.date (zone : Zone) (ms : ℤ) : Date := utcDate (zone.clock ms)

/-- What `formatToParts` writes; the years before the year 1 count backwards, in an era of their own. -/
structure Parts where
  year : ℤ
  month : ℤ
  day : ℤ
  hour : ℤ
  minute : ℤ
  second : ℤ

def formatToParts (zone : Zone) (ms : ℤ) : Parts :=
  let date := zone.date ms
  let second := zone.clock ms % oneDay / 1000
  { year := if date.year ≤ 0 then 1 - date.year else date.year
    month := date.month + 1
    day := date.day
    hour := second / 3600
    minute := second / 60 % 60
    second := second % 60 }

/-- How far the zone's wall clock runs ahead of UTC. -/
def zoneOffset (ms : ℤ) (zone : Zone) : ℤ :=
  let parts := formatToParts zone ms
  let wall := dateUTC parts.year (parts.month - 1) parts.day +
    ((parts.hour * 60 + parts.minute) * 60 + parts.second) * 1000
  wall - ms / 1000 * 1000

/-- The instant a wall-clock midnight happens. -/
def midnightIn (y m d : ℤ) (zone : Zone) : ℤ :=
  let guess := dateUTC y (m - 1) d
  let at_ := guess - zoneOffset guess zone
  -- A second pass settles the days where the offset differs between the guess and the answer.
  let settled := guess - zoneOffset at_ zone
  if settled ≠ at_ then settled else at_

def localDayStart (day : List Char) (zone : Zone) : Option ℤ :=
  (parseDay day).map fun parsed => midnightIn parsed.year (parsed.month + 1) parsed.day zone

/-- The instant the day after starts. -/
def localDayEnd (day : List Char) (zone : Zone) : Option ℤ :=
  (parseDay day).map fun parsed =>
    let next := utcDate (dateUTC parsed.year parsed.month (parsed.day + 1))
    midnightIn next.year (next.month + 1) next.day zone

structure Period where
  since : Option ℤ
  until_ : Option ℤ
  deriving DecidableEq

/-- An empty text is no day. -/
def auditPeriodParams (since until_ : Option (List Char)) (zone : Zone) : Period where
  since := since.bind fun day => if day = [] then none else localDayStart day zone
  until_ := until_.bind fun day => if day = [] then none else localDayEnd day zone

/-- `list_audit`: an entry of the period. -/
def Period.lists (period : Period) (ms : ℤ) : Prop :=
  (∀ since ∈ period.since, since ≤ ms) ∧ ∀ until_ ∈ period.until_, ms < until_

/-! ### Reading a day -/

/-- A calendar day that can be written `YYYY-MM-DD`. -/
structure Day where
  date : Date
  real : date.Exists
  written : 0 ≤ date.year ∧ date.year ≤ 9999

def digit (n : ℤ) : Char := Char.ofNat (48 + (n % 10).toNat)

def Day.text (day : Day) : List Char :=
  let y := day.date.year
  let mo : ℤ := day.date.month + 1
  let d := day.date.day
  [digit (y / 1000), digit (y / 100), digit (y / 10), digit y, '-', digit (mo / 10), digit mo, '-', digit (d / 10),
    digit d]

lemma toNat_digit (n : ℤ) : ((digit n).toNat : ℤ) = 48 + n % 10 := by
  have hten : ∀ k < 10, (Char.ofNat (48 + k)).toNat = 48 + k := by decide
  unfold digit
  rw [hten _ (by omega)]
  omega

lemma isDigit_digit (n : ℤ) : (digit n).isDigit = true := by
  have := toNat_digit n
  simp only [Char.isDigit, Bool.and_eq_true, decide_eq_true_eq, ge_iff_le, UInt32.le_iff_toNat_le]
  change 48 ≤ (digit n).toNat ∧ (digit n).toNat ≤ 57
  omega

lemma number_four {n : ℤ} (hlo : 0 ≤ n) (hhi : n ≤ 9999) :
    number [digit (n / 1000), digit (n / 100), digit (n / 10), digit n] = n := by
  simp only [number, List.foldl_cons, List.foldl_nil, toNat_digit]
  omega

lemma number_two {n : ℤ} (hlo : 0 ≤ n) (hhi : n ≤ 99) : number [digit (n / 10), digit n] = n := by
  simp only [number, List.foldl_cons, List.foldl_nil, toNat_digit]
  omega

lemma fullYear_of_le {y : ℤ} (h : 100 ≤ y) : fullYear y = y := if_neg (by omega)

lemma fullYear_of_lt {y : ℤ} (hlo : 0 ≤ y) (hhi : y < 100) : fullYear y = 1900 + y := if_pos (by omega)

lemma utcDate_dateUTC (y month day : ℤ) : utcDate (dateUTC y month day) = civil (ordinal (fullYear y) month day) := by
  unfold utcDate dateUTC
  rw [Int.mul_ediv_cancel _ (by decide)]
  congr 1
  omega

lemma dateRe_text (day : Day) : dateRe day.text =
    some ([digit (day.date.year / 1000), digit (day.date.year / 100), digit (day.date.year / 10), digit day.date.year],
      [digit ((day.date.month + 1) / 10), digit (day.date.month + 1)], [digit (day.date.day / 10), digit day.date.day]) := by
  simp [Day.text, dateRe, isDigit_digit]

/-- **A day reads back**, from the year 100 on. -/
theorem parseDay_text (day : Day) : parseDay day.text = if 100 ≤ day.date.year then some day.date else none := by
  obtain ⟨⟨hmonth, hday⟩, hyear⟩ := And.intro day.real day.written
  have hlong : monthLength (leapDay day.date.year) day.date.month ≤ 31 := by
    have := leapDay_bounds day.date.year
    unfold monthLength
    split_ifs <;> omega
  unfold parseDay
  rw [dateRe_text]
  simp only [number_four hyear.1 hyear.2, number_two (n := day.date.day) (by omega) (by omega),
    number_two (n := day.date.month + 1) (by omega) (by omega), utcDate_dateUTC, Int.add_sub_cancel]
  by_cases hcentury : 100 ≤ day.date.year
  · rw [fullYear_of_le hcentury, (civil_ordinal_iff _).2 day.real, if_pos hcentury]
    simp
  · -- The day of a later year is read.
    have hlate := (year_spec (ordinal (1900 + day.date.year) day.date.month day.date.day)).2
    rw [fullYear_of_lt hyear.1 (by omega), if_neg hcentury, if_pos]
    left
    intro heq
    rw [ordinal_of_month _ hmonth] at hlate heq
    have hfirst := daysBeforeMonth_bounds (1900 + day.date.year) (show day.date.month ≤ 12 by omega)
    have hlt : 1900 + day.date.year < year (daysBeforeYear (1900 + day.date.year) +
        daysBeforeMonth (leapDay (1900 + day.date.year)) day.date.month + day.date.day) + 1 :=
      daysBeforeYear_strictMono.lt_iff_lt.1 (lt_of_lt_of_le (by omega) hlate)
    change year _ = _ at heq
    omega

/-! ### The offset -/

/-- The 1st of January of the year 100. -/
def century : ℤ := dateUTC 100 0 1

section Offset

variable (zone : Zone) (ms : ℤ)

/-- Before the year 100 the year that is shown is taken for one much later. -/
lemma fullYear_shown {y : ℤ} (h : y < 100) : y + 199 ≤ fullYear (if y ≤ 0 then 1 - y else y) := by
  unfold fullYear
  split_ifs <;> omega

lemma century_le_iff (clock : ℤ) : century ≤ clock ↔ 100 ≤ (utcDate clock).year := by
  have hcentury : century = daysBeforeYear 100 * oneDay + (1 - epoch) * oneDay := by decide
  obtain ⟨hlo, hhi⟩ := year_spec (clock / oneDay + epoch)
  change _ ↔ 100 ≤ year (clock / oneDay + epoch)
  have hlow : 100 ≤ year (clock / oneDay + epoch) → daysBeforeYear 100 ≤ daysBeforeYear (year (clock / oneDay + epoch)) :=
    daysBeforeYear_strictMono.monotone.imp
  have hhigh : year (clock / oneDay + epoch) + 1 ≤ 100 →
      daysBeforeYear (year (clock / oneDay + epoch) + 1) ≤ daysBeforeYear 100 := daysBeforeYear_strictMono.monotone.imp
  rw [hcentury]
  unfold oneDay epoch at *
  omega

/-- The seconds of a day, from the three numbers that are shown. -/
lemma time_of_day (second : ℤ) :
    ((second / 3600 * 60 + second / 60 % 60) * 60 + second % 60) * 1000 = second * 1000 := by
  omega

/-- The offset, as the parts of the date have it. -/
lemma zoneOffset_of_le (h : century ≤ zone.clock ms) : zoneOffset ms zone = zone.offset ms := by
  have hyear := (century_le_iff _).1 h
  have hwhole := zone.whole ms
  unfold zoneOffset formatToParts
  simp only [time_of_day, Int.add_sub_cancel]
  unfold Zone.date
  rw [if_neg (by omega), dateUTC, fullYear_of_le hyear]
  unfold utcDate
  rw [ordinal_civil]
  unfold Lib.LocalTime.Zone.clock oneDay
  omega

/-- Years too many. -/
lemma zoneOffset_of_lt (h : zone.clock ms < century) : 1000 * oneDay ≤ zoneOffset ms zone := by
  have hyear : (utcDate (zone.clock ms)).year < 100 := by
    by_contra hle
    have := (century_le_iff (zone.clock ms)).2 (by omega)
    omega
  have hbounds := zone.clock_bounds ms
  unfold zoneOffset formatToParts
  simp only [time_of_day, Int.add_sub_cancel]
  unfold Zone.date utcDate at *
  generalize hn : zone.clock ms / oneDay + epoch = n at *
  have hmonth := (civil_exists n).month
  have hday : n = _ := (ordinal_civil n).symm
  rw [ordinal_of_month _ hmonth] at hday
  rw [dateUTC, ordinal_of_month _ hmonth]
  have hshown := fullYear_shown hyear
  generalize fullYear (if (civil n).year ≤ 0 then 1 - (civil n).year else (civil n).year) = shown at *
  have hyears := (daysBeforeYear_add (civil n).year 199).trans (daysBeforeYear_strictMono.monotone hshown)
  have hmonths := daysBeforeMonth_bounds (civil n).year (show (civil n).month ≤ 12 by omega)
  have hmonths' := daysBeforeMonth_bounds shown (show (civil n).month ≤ 12 by omega)
  have hleap := leapDay_bounds (civil n).year
  unfold oneDay Lib.LocalTime.offsetMax epoch at *
  omega

end Offset

/-! ### Midnight -/

/-- The midnight of a day in UTC, which is the first guess. -/
def Day.guess (day : Day) : ℤ := (ordinal day.date.year day.date.month day.date.day - epoch) * oneDay

/-- Both offsets are asked for at instants that the clocks show in a year past 99. -/
def Shown (zone : Zone) (mark : ℤ) : Prop :=
  century ≤ zone.clock mark ∧ century ≤ zone.clock (mark - zone.offset mark)

section Midnight

variable {zone : Zone} {y month day : ℤ}

/-- **Midnight** is the guess of the zone's own offsets. -/
theorem midnightIn_eq (h : Shown zone (dateUTC y month day)) :
    midnightIn y (month + 1) day zone = zone.passes (dateUTC y month day) := by
  unfold midnightIn
  simp only [Int.add_sub_cancel]
  rw [zoneOffset_of_le _ _ h.1, zoneOffset_of_le _ _ h.2]
  unfold Lib.LocalTime.Zone.passes
  split
  · rfl
  · next hsame => exact (not_not.1 hsame).symm

/-- Otherwise it is years before. -/
lemma midnightIn_lt (h : ¬ Shown zone (dateUTC y month day)) (hlow : dateUTC y month day ≤ century) :
    midnightIn y (month + 1) day zone ≤ dateUTC y month day - 1000 * oneDay := by
  have hsecond : 1000 * oneDay ≤
      zoneOffset (dateUTC y month day - zoneOffset (dateUTC y month day) zone) zone := by
    refine zoneOffset_of_lt _ _ ?_
    by_cases hfirst : century ≤ zone.clock (dateUTC y month day)
    · rw [zoneOffset_of_le _ _ hfirst]
      exact not_le.1 fun hle => h ⟨hfirst, hle⟩
    · have hearly := zoneOffset_of_lt _ _ (not_le.1 hfirst)
      have hbounds := zone.clock_bounds (dateUTC y month day - zoneOffset (dateUTC y month day) zone)
      unfold Lib.LocalTime.offsetMax oneDay at *
      omega
  unfold midnightIn
  simp only [Int.add_sub_cancel]
  split
  · omega
  · next hsame => omega

/-- From the second day of the year 100 on the clocks show years past 99. -/
lemma shown_of_le {mark : ℤ} (h : century + oneDay ≤ mark) : Shown zone mark := by
  have hfirst := zone.clock_bounds mark
  have hsecond := zone.clock_first mark
  unfold Lib.LocalTime.offsetMax Lib.LocalTime.jumpMax oneDay at *
  exact ⟨by omega, by omega⟩

end Midnight

/-! ### A day starts where it starts -/

/-- **The claim on a day**: it starts at its earliest instant in the zone, its period holds its own instants and no
other, and the next day starts where it ends. -/
structure StartsRight (zone : Zone) (day : Day) : Prop where
  earliest : ∃ start, localDayStart day.text zone = some start ∧ IsLeast {ms | zone.date ms = day.date} start
  lists : ∀ ms, (auditPeriodParams (some day.text) (some day.text) zone).lists ms ↔ zone.date ms = day.date
  abuts : ∀ next : Day, next.guess = day.guess + oneDay → localDayStart next.text zone = localDayEnd day.text zone

/-- The year is past 99, the clocks settle at both ends of the day, and on the first day of the year 100 they are not
behind UTC, nor put forward within their own offset before. -/
structure Settled (zone : Zone) (day : Day) : Prop where
  year : 100 ≤ day.date.year
  start : zone.Settles day.guess
  stop : zone.Settles (day.guess + oneDay)
  first : day.guess = century →
    0 ≤ zone.offset day.guess ∧ zone.offset day.guess ≤ zone.offset (day.guess - zone.offset day.guess)

section Day

variable {zone : Zone} {day : Day}

lemma dateUTC_date (h : 100 ≤ day.date.year) : dateUTC day.date.year day.date.month day.date.day = day.guess := by
  unfold dateUTC Day.guess
  rw [fullYear_of_le h]

lemma utcDate_guess (day : Day) : utcDate day.guess = day.date := by
  unfold utcDate Day.guess
  rw [Int.mul_ediv_cancel _ (by decide), sub_add_cancel, (civil_ordinal_iff _).2 day.real]

lemma year_le_iff (day : Day) : 100 ≤ day.date.year ↔ century ≤ day.guess := by
  rw [century_le_iff, utcDate_guess]

/-- The instants of a day, by what the clocks show. -/
lemma date_eq_iff (ms : ℤ) :
    zone.date ms = day.date ↔ day.guess ≤ zone.clock ms ∧ zone.clock ms < day.guess + oneDay := by
  unfold Zone.date utcDate
  rw [civil_eq_iff day.real]
  unfold Day.guess oneDay
  omega

lemma localDayStart_text (zone : Zone) (h : 100 ≤ day.date.year) : localDayStart day.text zone =
    some (midnightIn day.date.year (day.date.month + 1) day.date.day zone) := by
  unfold localDayStart
  rw [parseDay_text, if_pos h, Option.map_some]

lemma localDayStart_of_shown (h : 100 ≤ day.date.year) (hshown : Shown zone day.guess) :
    localDayStart day.text zone = some (zone.passes day.guess) := by
  rw [localDayStart_text zone h, ← dateUTC_date h, midnightIn_eq]
  rwa [dateUTC_date h]

/-- The end of a day is always read off years past 99. -/
lemma localDayEnd_text (zone : Zone) (h : 100 ≤ day.date.year) :
    localDayEnd day.text zone = some (zone.passes (day.guess + oneDay)) := by
  have hle := (year_le_iff day).1 h
  have hnext : dateUTC day.date.year day.date.month (day.date.day + 1) = day.guess + oneDay := by
    rw [← dateUTC_date h]
    unfold dateUTC ordinal oneDay
    omega
  have hyear := (century_le_iff (day.guess + oneDay)).1 (by unfold oneDay; omega)
  have hback : dateUTC (utcDate (day.guess + oneDay)).year (utcDate (day.guess + oneDay)).month
      (utcDate (day.guess + oneDay)).day = day.guess + oneDay := by
    rw [dateUTC, fullYear_of_le hyear]
    unfold utcDate
    rw [ordinal_civil]
    unfold Day.guess oneDay
    omega
  unfold localDayEnd
  rw [parseDay_text, if_pos h, Option.map_some]
  simp only [hnext]
  rw [midnightIn_eq (by rw [hback]; exact shown_of_le (by omega)), hback]

lemma shown_guess_iff (h : 100 ≤ day.date.year) : Shown zone day.guess ↔ (day.guess = century →
    0 ≤ zone.offset day.guess ∧ zone.offset day.guess ≤ zone.offset (day.guess - zone.offset day.guess)) := by
  have hle := (year_le_iff day).1 h
  by_cases hfirst : day.guess = century
  · rw [← hfirst]
    unfold Shown Lib.LocalTime.Zone.clock
    rw [← hfirst]
    omega
  · -- Guesses are whole days apart.
    have hlater : century + oneDay ≤ day.guess := by
      unfold century dateUTC Day.guess oneDay at *
      omega
    exact iff_of_true (shown_of_le hlater) fun heq => absurd heq hfirst

/-- **The period of one day** has the instants between the two guesses. -/
lemma lists_iff (h : 100 ≤ day.date.year) (hshown : Shown zone day.guess) (ms : ℤ) :
    (auditPeriodParams (some day.text) (some day.text) zone).lists ms ↔
      zone.passes day.guess ≤ ms ∧ ms < zone.passes (day.guess + oneDay) := by
  have htext : day.text ≠ [] := List.cons_ne_nil _ _
  simp [auditPeriodParams, htext, localDayStart_of_shown h hshown, localDayEnd_text zone h, Period.lists]

/-- Years off, a start is not of the day. -/
lemma shown_of_earliest (h : 100 ≤ day.date.year) {start : ℤ} (hstart : localDayStart day.text zone = some start)
    (hof : zone.date start = day.date) : Shown zone day.guess := by
  by_contra hnot
  have hlow : day.guess ≤ century := by
    by_contra hlater
    refine hnot ((shown_guess_iff h).2 fun heq => ?_)
    omega
  rw [localDayStart_text zone h, Option.some.injEq] at hstart
  rw [← dateUTC_date h] at hnot hlow
  have hearly := midnightIn_lt hnot hlow
  have hclock := (date_eq_iff start).1 hof
  have hbounds := zone.clock_bounds start
  rw [hstart, dateUTC_date h] at hearly
  unfold Lib.LocalTime.offsetMax oneDay at *
  omega

end Day

/-- **A day starts where it starts** exactly when it is settled. -/
theorem startsRight_iff (zone : Zone) (day : Day) : StartsRight zone day ↔ Settled zone day := by
  constructor
  · rintro ⟨⟨start, hstart, hleast⟩, hlists, -⟩
    have hyear : 100 ≤ day.date.year := by
      by_contra hearly
      unfold localDayStart at hstart
      rw [parseDay_text, if_neg hearly] at hstart
      cases hstart
    have hshown := shown_of_earliest hyear hstart hleast.1
    obtain ⟨hsettles, hsettles'⟩ := (Lib.LocalTime.Zone.day_iff).1 fun ms => by
      rw [← lists_iff hyear hshown, hlists, date_eq_iff]
    exact ⟨hyear, hsettles, hsettles', (shown_guess_iff hyear).1 hshown⟩
  · rintro ⟨hyear, hsettles, hsettles', hfirst⟩
    have hshown := (shown_guess_iff hyear).2 hfirst
    have hday := (Lib.LocalTime.Zone.day_iff (z := zone.toZone)).2 ⟨hsettles, hsettles'⟩
    refine ⟨⟨_, localDayStart_of_shown hyear hshown, ?_, fun ms hms => ?_⟩, fun ms => ?_, fun next hnext => ?_⟩
    · change zone.date _ = day.date
      rw [date_eq_iff, ← hday]
      exact ⟨le_rfl, zone.passes_lt _⟩
    · change zone.date ms = day.date at hms
      rw [date_eq_iff, ← hday] at hms
      exact hms.1
    · rw [lists_iff hyear hshown, hday, date_eq_iff]
    · have hle := (year_le_iff day).1 hyear
      have hyear' := (year_le_iff next).2 (by rw [hnext]; unfold oneDay; omega)
      rw [localDayStart_of_shown hyear' (by rw [hnext]; exact shown_of_le (by omega)), hnext, localDayEnd_text zone hyear]

/-! ### A midnight that is skipped -/

/-- Four hours behind UTC until 04:00 on the 8th of September 2024, when midnight becomes one o'clock. -/
def santiago : Zone where
  offset ms := if ms < 1725768000000 then -14400000 else -10800000
  bounded ms := by split <;> decide
  small ms := by split_ifs <;> decide
  apart s t hst hs ht := by split_ifs at hs ht <;> omega
  whole ms := by split <;> decide

def september8 : Day := ⟨⟨2024, 8, 8⟩, ⟨by decide, by decide⟩, by decide⟩

/-- The day starts an hour before it does, on the day before. -/
theorem santiago_starts_early : localDayStart september8.text santiago = some 1725764400000 ∧
    santiago.date 1725764400000 = ⟨2024, 8, 7⟩ ∧ ¬ StartsRight santiago september8 := by
  have hstart : localDayStart september8.text santiago = some 1725764400000 := by decide
  have hdate : santiago.date 1725764400000 = ⟨2024, 8, 7⟩ := by decide
  refine ⟨hstart, hdate, fun h => ?_⟩
  obtain ⟨start, heq, hleast⟩ := h.earliest
  rw [hstart, Option.some.injEq] at heq
  have hof : santiago.date start = september8.date := hleast.1
  rw [← heq, hdate] at hof
  exact absurd hof (by decide)

end Tiai.Audit
