import Kestrel.Base.Calendar
import Kestrel.Base.Except
import Kestrel.Base.Numeral
import Kestrel.Scheduler.Recurrence
import Mathlib.Tactic.IntervalCases

/-!
# Cron expressions

The next run of an expression is searched minute by minute in UTC, and each minute is matched as the
wall clock of a time zone shows it.
-/

namespace Kestrel.Scheduler

open List Nat Except

/-- `range(first, last + 1, step)`. -/
def progression (first last step : ℤ) : List ℤ :=
  (range ((last - first) / step + 1).toNat).map fun index : ℕ => first + index * step

theorem mem_progression {first last step value : ℤ} (positive : 0 < step) :
    value ∈ progression first last step ↔
      ∃ index : ℕ, value = first + index * step ∧ value ≤ last := by
  simp only [progression, mem_map, mem_range, Int.lt_toNat, Int.lt_add_one_iff,
    Int.le_ediv_iff_mul_le positive]
  constructor
  · rintro ⟨index, within, rfl⟩
    exact ⟨index, rfl, by omega⟩
  · rintro ⟨index, rfl, within⟩
    exact ⟨index, by omega, rfl⟩

/-- `text.split(separator, 1)`, where the separator occurs. -/
def cut (separator : Char) (text : String) : String × String :=
  (.ofList (text.toList.takeWhile (· ≠ separator)),
    .ofList (text.toList.dropWhile (· ≠ separator)).tail)

def parseTerm (field : String) (lowest highest step : ℤ) (part : String) :
    Except String (List ℤ) :=
  if part = "*" then .ok (progression lowest highest step)
  else if '-' ∈ part.toList then
    match Numeral.int (cut '-' part).1, Numeral.int (cut '-' part).2 with
    | some low, some high =>
      if low < lowest ∨ highest < high ∨ high < low then
        .error s!"Range {low}-{high} out of bounds [{lowest}-{highest}] in '{field}'"
      else .ok (progression low high step)
    | _, _ => .error s!"Invalid range '{part}' in field '{field}'"
  else
    match Numeral.int part with
    | none => .error s!"Invalid value '{part}' in field '{field}'"
    | some value =>
      if value < lowest ∨ highest < value then
        .error s!"Value {value} out of bounds [{lowest}-{highest}] in '{field}'"
      else if 1 < step then .ok (progression value highest step)
      else .ok [value]

def parsePart (field : String) (lowest highest : ℤ) (part : String) : Except String (List ℤ) :=
  let part := Text.strip part
  if part = "" then .error s!"Empty sub-expression in field '{field}'"
  else if '/' ∈ part.toList then
    let (base, stepStr) := cut '/' part
    match Numeral.int stepStr with
    | none => .error s!"Invalid step value '{stepStr}' in '{field}'"
    | some step =>
      if step < 1 then .error s!"Step must be >= 1, got {step} in '{field}'"
      else parseTerm field lowest highest step base
  else parseTerm field lowest highest 1 part

def parseField (field : String) (lowest highest : ℤ) : Except String (List ℤ) := do
  let terms ← (field.toList.splitOn ',').mapM fun part =>
    parsePart field lowest highest (.ofList part)
  pure terms.flatten

def aliases : List (String × String) :=
  [("@hourly", "0 * * * *"), ("@daily", "0 0 * * *"), ("@midnight", "0 0 * * *"),
    ("@weekly", "0 0 * * 0"), ("@monthly", "0 0 1 * *"), ("@yearly", "0 0 1 1 *"),
    ("@annually", "0 0 1 1 *")]

/-- Lower case. Of the letters beyond ASCII only the Kelvin sign becomes one of an alias. -/
def lower (letter : Char) : Char := if letter.toNat = 0x212A then 'k' else letter.toLower

def resolveAlias (expression : String) : Except String String :=
  if expression.toList.head? = some '@' then
    match aliases.lookup (.ofList (expression.toList.map lower)) with
    | some fields => .ok fields
    | none => .error s!"Unknown cron alias '{expression}'"
  else .ok expression

/-- The values that the fields of an expression allow. -/
structure CronFields where
  minutes : List ℤ
  hours : List ℤ
  daysOfMonth : List ℤ
  months : List ℤ
  daysOfWeek : List ℤ
  deriving DecidableEq, Repr

def parse (expression : String) : Except String CronFields := do
  let expression ← resolveAlias (Text.strip expression)
  match ((expression.toList.splitOnP Text.isSpace).filter (· ≠ [])).map String.ofList with
  | [minute, hour, day, month, weekday] => do
    let minutes ← parseField minute 0 59
    let hours ← parseField hour 0 23
    let daysOfMonth ← parseField day 1 31
    let months ← parseField month 1 12
    let daysOfWeek ← parseField weekday 0 6
    pure { minutes, hours, daysOfMonth, months, daysOfWeek }
  | fields => .error s!"Expected 5 fields, got {fields.length} in '{expression}'"

/-- Whether the fields allow a minute of a wall clock. The first day of year 1 is a Monday. -/
def CronFields.allow (fields : CronFields) (wall : ℕ) : Bool :=
  let date := Calendar.Date.ofNumber (wall / 1440)
  ↑(wall % 60) ∈ fields.minutes ∧ ↑(wall / 60 % 24) ∈ fields.hours ∧
    ↑date.day ∈ fields.daysOfMonth ∧ ↑date.month ∈ fields.months ∧
    ↑((wall / 1440 + 1) % 7) ∈ fields.daysOfWeek

/-- `matches`. -/
def cronMatches (expression : String) (wall : ℕ) : Except String Bool :=
  (parse expression).map fun fields => fields.allow wall

/-- A time zone: for each minute of UTC the minute on the wall clock and whether it is the repeated
one of a fold, or nothing where no `datetime` can hold it. -/
abbrev Zone := ℕ → Option (ℕ × Bool)

def getTimezone (zones : String → Option Zone) (timezoneName : String) : Except String Zone :=
  if Text.isBlank timezoneName then .error "timezone must be a non-empty IANA timezone name"
  else
    match zones timezoneName with
    | some zone => .ok zone
    | none => .error s!"Unknown IANA timezone '{timezoneName}'"

/-- The minutes of the years that a `datetime` can hold. -/
def calendarEnd : ℕ := Calendar.daysOfYears 9999 * 1440

def outOfRange : String := "date value out of range"

def addMinute (minute : ℕ) : Except String ℕ :=
  if minute + 1 < calendarEnd then .ok (minute + 1) else .error outOfRange

def maxIterations : ℕ := 4 * 366 * 24 * 60

section Search

variable (expression : String) (fields : CronFields) (zone : Zone)

/-- The loop of `next_run`. -/
def searchFrom : ℕ → ℕ → Except String ℕ
  | 0, _ => .error s!"No matching time found within safety limit for expression '{expression}'"
  | iterations + 1, candidate =>
    match zone candidate with
    | none => .error outOfRange
    | some (wall, fold) =>
      if fold = false ∧ fields.allow wall = true then .ok candidate
      else do searchFrom iterations (← addMinute candidate)

/-- The wall clock shows a minute that the fields allow, for the first time. -/
def Due (minute : ℕ) : Prop := ∃ wall, zone minute = some (wall, false) ∧ fields.allow wall = true

/-- A minute and those before it, from some minute on, are held by a `datetime` in both clocks. -/
def Held (first minute : ℕ) : Prop :=
  ∀ other, first ≤ other → other ≤ minute → other < calendarEnd ∧ (zone other).isSome

/-- The minutes in which the search looks for the next run. -/
def Searched (start minute : ℕ) : Prop :=
  start < minute ∧ minute ≤ start + maxIterations ∧ Held zone (start + 1) minute

end Search

/-- `next_run`, from an instant in microseconds. -/
def nextRun (zones : String → Option Zone) (expression : String) (after : ℕ)
    (timezoneName : String) : Except String ℕ := do
  let fields ← parse expression
  let zone ← getTimezone zones timezoneName
  let candidate ← addMinute (after / 60000000)
  let found ← searchFrom expression fields zone maxIterations candidate
  pure (found * 60000000)

variable {expression timezoneName : String} {fields : CronFields} {zone : Zone}
  {zones : String → Option Zone} {iterations candidate found after : ℕ}

/-- The loop returns the first due minute, where it reaches one. -/
theorem searchFrom_eq_ok (early : candidate < calendarEnd) :
    searchFrom expression fields zone iterations candidate = .ok found ↔
      (candidate ≤ found ∧ found < candidate + iterations ∧ Held zone candidate found) ∧
        Due fields zone found ∧
          ∀ other, candidate ≤ other → Due fields zone other → found ≤ other := by
  induction iterations generalizing candidate with
  | zero =>
    refine iff_of_false (fun impossible => nomatch impossible) ?_
    rintro ⟨⟨_, _, _⟩, _⟩
    omega
  | succ iterations ih =>
    rw [searchFrom]
    split
    · next unheld =>
      refine iff_of_false (fun impossible => nomatch impossible) fun ⟨⟨reached, _, held⟩, _⟩ => ?_
      have := (held candidate (le_refl _) reached).2
      rw [unheld] at this
      cases this
    · next wall fold shown =>
      have due : Due fields zone candidate ↔ fold = false ∧ fields.allow wall = true := by
        simp [Due, shown]
      split_ifs with now
      · rw [← due] at now
        simp only [ok.injEq]
        constructor
        · rintro rfl
          refine ⟨⟨le_refl _, by omega, fun other lower upper => ?_⟩, now,
            fun _ later _ => later⟩
          rw [le_antisymm upper lower, shown]
          exact ⟨early, rfl⟩
        · rintro ⟨⟨reached, _⟩, _, least⟩
          exact le_antisymm reached (least candidate (le_refl _) now)
      · rw [← due] at now
        have onward {other : ℕ} (reached : candidate ≤ other) (due : Due fields zone other) :
            candidate + 1 ≤ other :=
          lt_of_le_of_ne reached fun same => now (same ▸ due)
        unfold addMinute
        split_ifs with next
        · rw [ok_bind, ih next]
          constructor
          · rintro ⟨⟨reached, within, held⟩, dueFound, least⟩
            refine ⟨⟨by omega, by omega, fun other lower upper => ?_⟩, dueFound,
              fun other lower due => least other (onward lower due) due⟩
            rcases eq_or_lt_of_le lower with rfl | lower
            · rw [shown]
              exact ⟨early, rfl⟩
            · exact held other lower upper
          · rintro ⟨⟨reached, within, held⟩, dueFound, least⟩
            exact ⟨⟨onward reached dueFound, by omega, fun other lower => held other (by omega)⟩,
              dueFound, fun other lower => least other (by omega)⟩
        · refine iff_of_false (fun impossible => nomatch impossible)
            fun ⟨⟨reached, _, held⟩, dueFound, _⟩ => ?_
          exact next (held _ (le_succ _) (onward reached dueFound)).1

theorem nextRun_eq_ok (parsed : parse expression = .ok fields)
    (known : getTimezone zones timezoneName = .ok zone) {result : ℕ} :
    nextRun zones expression after timezoneName = .ok result ↔
      ∃ minute, result = minute * 60000000 ∧ Searched zone (after / 60000000) minute ∧
        Due fields zone minute ∧
          ∀ other, after / 60000000 < other → Due fields zone other → minute ≤ other := by
  simp only [nextRun, parsed, known, ok_bind, addMinute]
  split_ifs with early
  · rw [ok_bind, bind_eq_ok]
    refine exists_congr fun minute => ?_
    rw [searchFrom_eq_ok early]
    simp only [Searched, succ_le_iff]
    constructor
    · rintro ⟨⟨⟨later, within, held⟩, due, least⟩, same⟩
      cases same
      exact ⟨rfl, ⟨later, by omega, held⟩, due, least⟩
    · rintro ⟨rfl, ⟨later, within, held⟩, due, least⟩
      exact ⟨⟨⟨later, by omega, held⟩, due, least⟩, rfl⟩
  · refine iff_of_false (fun impossible => nomatch impossible) ?_
    rintro ⟨minute, _, ⟨later, _, held⟩, _⟩
    exact early (held _ (le_refl _) later).1

theorem nextRun_eq_error (parsed : parse expression = .ok fields)
    (known : getTimezone zones timezoneName = .ok zone) :
    (∃ error, nextRun zones expression after timezoneName = .error error) ↔
      ∀ minute, Searched zone (after / 60000000) minute → ¬ Due fields zone minute := by
  classical
  constructor
  · rintro ⟨error, failed⟩ minute searched due
    have some : ∃ minute, after / 60000000 < minute ∧ Due fields zone minute :=
      ⟨minute, searched.1, due⟩
    have first := Nat.find_min' some ⟨searched.1, due⟩
    have found : nextRun zones expression after timezoneName = .ok (Nat.find some * 60000000) :=
      (nextRun_eq_ok parsed known).mpr ⟨Nat.find some, rfl, ⟨(Nat.find_spec some).1, first.trans searched.2.1,
        fun other lower upper => searched.2.2 other lower (upper.trans first)⟩,
        (Nat.find_spec some).2, fun other later due => Nat.find_min' some ⟨later, due⟩⟩
    rw [failed] at found
    cases found
  · intro none
    cases found : nextRun zones expression after timezoneName with
    | error error => exact ⟨error, rfl⟩
    | ok result =>
      obtain ⟨minute, _, searched, due, _⟩ := (nextRun_eq_ok parsed known).mp found
      exact absurd due (none minute searched)

theorem isChain_nextRun (parsed : parse expression = .ok fields)
    (known : getTimezone zones timezoneName = .ok zone) {runs : List ℕ}
    (chain : (after :: runs).IsChain fun run next =>
      nextRun zones expression run timezoneName = .ok next) :
    (∀ run ∈ runs, after < run) ∧ runs.Pairwise (· < ·) ∧
      ∀ minute, after / 60000000 < minute → (∃ last ∈ runs, minute * 60000000 ≤ last) →
        (Due fields zone minute ↔ minute * 60000000 ∈ runs) := by
  induction runs generalizing after with
  | nil => simp
  | cons run runs ih =>
    obtain ⟨found, chain⟩ := isChain_cons_cons.mp chain
    obtain ⟨minute, rfl, searched, due, least⟩ := (nextRun_eq_ok parsed known).mp found
    obtain ⟨later, sorted, exact⟩ := ih chain
    have first : after < minute * 60000000 := by
      have := searched.1
      omega
    refine ⟨forall_mem_cons.mpr ⟨first, fun run member => first.trans (later run member)⟩,
      pairwise_cons.mpr ⟨later, sorted⟩, fun other after' ⟨last, member, within⟩ => ?_⟩
    rw [Nat.mul_div_cancel _ (by decide : 0 < 60000000)] at exact
    rcases lt_trichotomy other minute with lower | rfl | higher
    · refine iff_of_false (fun due => by have := least other after' due; omega) fun member => ?_
      rcases mem_cons.mp member with same | member
      · omega
      · have := later _ member
        omega
    · exact iff_of_true due mem_cons_self
    · rw [exact other higher ?_, mem_cons, or_iff_right (by omega)]
      rcases mem_cons.mp member with rfl | member
      · omega
      · exact ⟨last, member, within⟩

/-- The instants of a schedule, an expression and the name of a time zone. -/
def CronMatch (zones : String → Option Zone) (cron : String × String) (instant : ℕ) : Prop :=
  ∃ fields zone minute, parse cron.1 = .ok fields ∧ getTimezone zones cron.2 = .ok zone ∧
    instant = minute * 60000000 ∧ Due fields zone minute

theorem nextRun_returnsSuccessors (zones : String → Option Zone) :
    ReturnsSuccessors (CronMatch zones) fun cron after => nextRun zones cron.1 after cron.2 := by
  intro cron after next found
  obtain ⟨fields, parsed, rest⟩ := bind_eq_ok.mp found
  obtain ⟨zone, known, _⟩ := bind_eq_ok.mp rest
  obtain ⟨minute, rfl, searched, due, least⟩ := (nextRun_eq_ok parsed known).mp found
  have later := searched.1
  refine ⟨by omega, ⟨fields, zone, minute, parsed, known, rfl, due⟩, ?_⟩
  rintro _ ⟨_, _, other, parsed', known', rfl, due'⟩ later'
  cases parsed.symm.trans parsed'
  cases known.symm.trans known'
  have := least other (by omega) due'
  omega

/-- What `next_run` returns, when it raises, and where its own results lead. -/
theorem nextRun_exact (parsed : parse expression = .ok fields)
    (known : getTimezone zones timezoneName = .ok zone) (after : ℕ) :
    (∀ result, nextRun zones expression after timezoneName = .ok result ↔
      ∃ minute, result = minute * 60000000 ∧ Searched zone (after / 60000000) minute ∧
        Due fields zone minute ∧
          ∀ other, after / 60000000 < other → Due fields zone other → minute ≤ other) ∧
    ((∃ error, nextRun zones expression after timezoneName = .error error) ↔
      ∀ minute, Searched zone (after / 60000000) minute → ¬ Due fields zone minute) ∧
    ∀ runs : List ℕ, ((after :: runs).IsChain fun run next =>
        nextRun zones expression run timezoneName = .ok next) →
      runs.Pairwise (· < ·) ∧
        ∀ minute, after / 60000000 < minute → (∃ last ∈ runs, minute * 60000000 ≤ last) →
          (Due fields zone minute ↔ minute * 60000000 ∈ runs) :=
  ⟨fun _ => nextRun_eq_ok parsed known, nextRun_eq_error parsed known,
    fun _ chain => (isChain_nextRun parsed known chain).2⟩

def utcOnly (timezoneName : String) : Option Zone :=
  if timezoneName = "UTC" then some fun minute => some (minute, false) else none

theorem parse_leapDay : parse "0 0 29 2 *" = .ok ⟨[0], [0], [29], [2], [0, 1, 2, 3, 4, 5, 6]⟩ := by
  decide +kernel

theorem nextRun_exact_leapDay : (∃ error, nextRun utcOnly "0 0 29 2 *" 0 "UTC" = .error error) ↔
      ∀ minute, Searched (fun minute => some (minute, false)) (0 / 60000000) minute →
        ¬ Due ⟨[0], [0], [29], [2], [0, 1, 2, 3, 4, 5, 6]⟩ (fun minute => some (minute, false))
          minute :=
  (nextRun_exact parse_leapDay (by rfl) 0).2.1

/-- From the leap day of 2096 on no run reaches that of 2104: the century year between them is none,
and the search gives up after four years. -/
theorem leapDay_unreached : ∃ fields zone after minute, parse "0 0 29 2 *" = .ok fields ∧
      getTimezone utcOnly "UTC" = .ok zone ∧ after / 60000000 < minute ∧ minute < calendarEnd ∧
      Due fields zone minute ∧
      ∃ error, nextRun utcOnly "0 0 29 2 *" after "UTC" = .error error := by
  let start := Calendar.dayNumber 2096 2 29 * 1440
  refine ⟨_, _, start * 60000000, Calendar.dayNumber 2104 2 29 * 1440, parse_leapDay, by rfl,
    by decide +kernel, by decide +kernel, ⟨_, rfl, by decide +kernel⟩, ?_⟩
  refine (nextRun_eq_error parse_leapDay (by rfl)).mpr ?_
  rintro minute ⟨later, within, _⟩ ⟨wall, shown, allowed⟩
  cases shown
  rw [Nat.mul_div_cancel _ (by decide : 0 < 60000000)] at later within
  simp only [CronFields.allow, mem_singleton, decide_eq_true_eq] at allowed
  obtain ⟨minutes, hours, day, month, _⟩ := allowed
  norm_cast at minutes hours day month
  have number := Calendar.Date.number_ofNumber (minute / 1440)
  have leap := (Calendar.Date.ofNumber (minute / 1440)).day_mem.2
  rw [Calendar.Date.number, Calendar.dayNumber, month, day] at number
  rw [month, day] at leap
  generalize (Calendar.Date.ofNumber (minute / 1440)).year = year at number leap
  have january : Calendar.daysOfMonths year (2 - 1) = 31 := by
    simp [Calendar.daysOfMonths, Calendar.daysInMonth]
  have first : start = 765242 * 1440 := by decide +kernel
  rw [january, Calendar.daysOfYears] at number
  rw [first] at later within
  have years : 2096 ≤ year ∧ year ≤ 2100 := by
    unfold maxIterations at within
    omega
  have leaps : Calendar.IsLeap year := by
    by_contra common
    rw [Calendar.daysInMonth, if_pos rfl, if_neg common] at leap
    omega
  obtain ⟨lowest, highest⟩ := years
  interval_cases year
  all_goals omega

end Kestrel.Scheduler
