import Pipework.Calendar.ZoneTable

set_option autoImplicit false

/-!
Time zones: the offset of the local time, and when summer time begins and ends.

Dates of the civil calendar with times of day, and the seconds since the start of 1970 that they stand for.
-/

namespace Pipework

/-- A date with a time of day. The parts may lie outside of their usual ranges. -/
structure Civil where
  year : Int
  /-- From 1 on. -/
  month : Int
  /-- From 1 on. -/
  day : Int
  hour : Int := 0
  minute : Int := 0
  second : Int := 0
  deriving DecidableEq, Repr

namespace Civil

/-- The number of the first day of a year, in days since the start of 1970. -/
def yearStart (year : Int) : Int :=
  let passed := year - 1
  365 * (year - 1970) + (passed.fdiv 4 - passed.fdiv 100 + passed.fdiv 400) - 477

def isLeap (year : Int) : Bool := year.fmod 4 = 0 && (year.fmod 100 ≠ 0 || year.fmod 400 = 0)

/-- How many days of a year come before a month from 1 to 12. -/
def daysBefore (leap : Bool) (month : Nat) : Int :=
  let days : Int := [0, 31, 59, 90, 120, 151, 181, 212, 243, 273, 304, 334, 365].getD (month - 1) 0
  if leap && 2 < month then days + 1 else days

/-- The number of a day, in days since the start of 1970. The month and the day may lie in other years. -/
def dayNumber (year month day : Int) : Int :=
  let shifted := year + (month - 1).fdiv 12
  yearStart shifted + daysBefore (isLeap shifted) ((month - 1).fmod 12 + 1).toNat + (day - 1)

/-- The seconds since the start of 1970, where no time is put off. -/
def toSeconds (civil : Civil) : Int :=
  dayNumber civil.year civil.month civil.day * 86400 + civil.hour * 3600 + civil.minute * 60 + civil.second

/-- The year in which a day lies. -/
def yearOfDay (day : Int) : Int :=
  let guess := 1970 + (day * 400).fdiv 146097
  if day < yearStart guess then guess - 1
  else if yearStart (guess + 1) ≤ day then guess + 1
  else guess

/-- The date and time at some seconds since the start of 1970, where no time is put off. -/
def ofSeconds (seconds : Int) : Civil :=
  let number := seconds.fdiv 86400
  let rest := seconds.fmod 86400
  let year := yearOfDay number
  let place := number - yearStart year
  let month := ((List.range 12).filter fun index => daysBefore (isLeap year) (index + 1) ≤ place).length
  { year, month, day := place - daysBefore (isLeap year) month + 1
    hour := rest / 3600, minute := rest / 60 % 60, second := rest % 60 }

/-- The number of the day, in days since the start of 1970. -/
def dayCount (civil : Civil) : Int := dayNumber civil.year civil.month civil.day

/-- The day of the week; Sunday is 0. -/
def weekday (civil : Civil) : Int := (civil.dayCount + 4).fmod 7

/-- The place of the day in its year, from 0 on. -/
def yearDay (civil : Civil) : Int := civil.dayCount - yearStart civil.year

end Civil

/-- What holds in a zone for part of the year. -/
structure ZonePhase where
  name : List Char
  /-- How many seconds the local time is ahead. -/
  offset : Int := 0
  isSummer : Bool := false
  deriving DecidableEq, Repr

/-- A day of each year. -/
inductive YearlyDay where
  /-- From 1 to 365; the day between February and March does not count. -/
  | fixed (number : Nat)
  /-- From 0 to 365. -/
  | counted (number : Nat)
  /-- A weekday of a month; the fifth is the last one. -/
  | weekday (month week day : Nat)
  deriving DecidableEq, Repr

/-- The number of the day in a year, in days since the start of 1970. -/
def YearlyDay.inYear (year : Int) : YearlyDay → Int
  | fixed number =>
    Civil.yearStart year + (number - 1) + (if Civil.isLeap year && 60 ≤ number then 1 else 0)
  | counted number => Civil.yearStart year + number
  | weekday month week day =>
    let first := Civil.dayNumber year month 1
    let start := first + ((day : Int) - (first + 4)).fmod 7 + 7 * ((week : Int) - 1)
    if Civil.dayNumber year (month + 1) 1 ≤ start then start - 7 else start

/-- A moment of each year in local time. -/
structure YearlyMoment where
  day : YearlyDay
  /-- The seconds since the start of the day. -/
  time : Int := 7200
  deriving DecidableEq, Repr

/-- The seconds since the start of the year 1970 of local time. -/
def YearlyMoment.inYear (year : Int) (moment : YearlyMoment) : Int := moment.day.inYear year * 86400 + moment.time

/-- From when to when summer time holds, from some year on. -/
structure SummerRule where
  since : Int
  start : YearlyMoment
  finish : YearlyMoment
  deriving DecidableEq, Repr

/-- A time zone. -/
structure Zone where
  standard : ZonePhase
  /-- Summer time, with rules of which the latest come first. -/
  summer : Option (ZonePhase × List SummerRule) := none
  deriving DecidableEq, Repr

namespace Zone

/-- The zone in which no time is put off. -/
def universal : Zone := { standard := { name := "UTC".toList } }

/-- What holds at some seconds since the start of 1970. -/
def phaseAt (zone : Zone) (seconds : Int) : ZonePhase :=
  match zone.summer with
  | none => zone.standard
  | some (summer, rules) =>
    let year := (Civil.ofSeconds seconds).year
    match rules.find? (·.since ≤ year) with
    | none => zone.standard
    | some rule =>
      let start := rule.start.inYear year - zone.standard.offset
      let finish := rule.finish.inYear year - summer.offset
      let isSummer : Bool :=
        if start ≤ finish then start ≤ seconds && seconds < finish
        else start ≤ seconds || seconds < finish
      if isSummer then summer else zone.standard

/-- The local time at some seconds since the start of 1970. -/
def civilAt (zone : Zone) (seconds : Int) : Civil := Civil.ofSeconds (seconds + (zone.phaseAt seconds).offset)

/-- The seconds at which it is a local time. It may be asked for standard time or summer time. -/
def secondsAt (zone : Zone) (isSummer : Option Bool) (civil : Civil) : Int :=
  let goal := civil.toSeconds
  let approach (guess : Int) : Int := goal - (zone.phaseAt guess).offset
  let found := approach (approach (approach goal))
  match isSummer, zone.summer with
  | some wanted, some (summer, _) =>
    if (zone.phaseAt found).isSummer = wanted then found
    else goal - (if wanted then summer.offset else zone.standard.offset)
  | _, _ => found

namespace Reader

/-- A number at the start of a text. -/
def natural? (text : List Char) : Option (Nat × List Char) :=
  let digits := text.takeWhile Char.isDigit
  if digits.isEmpty then none
  else
    some (digits.foldl (fun value digit => value * 10 + (digit.toNat - '0'.toNat)) 0, text.drop digits.length)

/-- Minutes or seconds behind a colon. -/
def part (text : List Char) : Option (Nat × List Char) :=
  match text with
  | ':' :: rest => (natural? rest).map fun (value, rest) => (min 59 value, rest)
  | _ => none

/-- A time with at most three parts, in seconds. -/
def time? (text : List Char) : Option (Int × List Char) := do
  let isNegative : Bool := text.head? = some '-'
  let (hours, rest) ← natural? (if isNegative || text.head? = some '+' then text.tail else text)
  let (minutes, seconds, rest) : Nat × Nat × List Char :=
    match part rest with
    | none => (0, 0, rest)
    | some (minutes, rest) =>
      match part rest with
      | none => (minutes, 0, rest)
      | some (seconds, rest) => (minutes, seconds, rest)
  let total : Int := hours * 3600 + minutes * 60 + seconds
  return (if isNegative then -total else total, rest)

/-- The name of a phase, of at least three letters. -/
def name? (text : List Char) : Option (List Char × List Char) :=
  match text with
  | '<' :: rest =>
    let name := rest.takeWhile fun char => char.isAlphanum || char = '+' || char = '-'
    match rest.drop name.length with
    | '>' :: rest => if name.length < 3 then none else some (name, rest)
    | _ => none
  | text =>
    let name := text.takeWhile Char.isAlpha
    if name.length < 3 then none else some (name, text.drop name.length)

/-- A day of each year. -/
def day? (text : List Char) : Option (YearlyDay × List Char) :=
  match text with
  | 'J' :: rest => do
    let (number, rest) ← natural? rest
    if 1 ≤ number && number ≤ 365 then some (.fixed number, rest) else none
  | 'M' :: rest => do
    let (month, rest) ← natural? rest
    let rest ← if rest.head? = some '.' then some rest.tail else none
    let (week, rest) ← natural? rest
    let rest ← if rest.head? = some '.' then some rest.tail else none
    let (day, rest) ← natural? rest
    if 1 ≤ month && month ≤ 12 && 1 ≤ week && week ≤ 5 && day ≤ 6 then some (.weekday month week day, rest)
    else none
  | text => do
    let (number, rest) ← natural? text
    if number ≤ 365 then some (.counted number, rest) else none

/-- A moment of each year behind a comma. -/
def moment? (text : List Char) : Option (YearlyMoment × List Char) :=
  match text with
  | ',' :: rest => do
    let (day, rest) ← day? rest
    match rest with
    | '/' :: rest => do
      let (time, rest) ← time? rest
      return ({ day, time }, rest)
    | rest => return ({ day }, rest)
  | _ => none

/-- The usual rule. -/
def usualRule : SummerRule where
  since := -1000000000000
  start := { day := .weekday 3 2 0 }
  finish := { day := .weekday 11 1 0 }

/-- A zone as its rule tells. What is wrong in the rule is passed over. -/
def rule (text : List Char) : Zone :=
  match name? text with
  | none => { standard := { name := [] } }
  | some (name, rest) =>
    match time? rest with
    | none => { standard := { name } }
    | some (behind, rest) =>
      let standard : ZonePhase := { name, offset := -behind }
      match name? rest with
      | none => { standard }
      | some (name, rest) =>
        let (offset, rest) : Int × List Char :=
          match time? rest with
          | some (behind, rest) => (-behind, rest)
          | none => (standard.offset + 3600, rest)
        let moments := do
          let (start, rest) ← moment? rest
          let (finish, _) ← moment? rest
          return (start, finish)
        let rule : SummerRule :=
          match moments with
          | some (start, finish) => { usualRule with start, finish }
          | none => usualRule
        { standard, summer := some ({ name, offset, isSummer := true }, [rule]) }

end Reader

/-- Earlier rules in zones where summer time begins and ends as it does in most of a continent. -/
def earlierRules (rule : SummerRule) : List SummerRule :=
  let sunday (month week : Nat) (moment : YearlyMoment) : YearlyMoment :=
    { moment with day := .weekday month week 0 }
  match rule.start.day, rule.finish.day with
  | .weekday 3 2 0, .weekday 11 1 0 =>
    [{ rule with since := 2007 },
      { since := 1987, start := sunday 4 1 rule.start, finish := sunday 10 5 rule.finish },
      { since := 1976, start := sunday 4 5 rule.start, finish := sunday 10 5 rule.finish },
      { since := 1975, start := sunday 2 5 rule.start, finish := sunday 10 5 rule.finish },
      { since := 1974, start := sunday 1 1 rule.start, finish := sunday 10 5 rule.finish },
      { since := 1967, start := sunday 4 5 rule.start, finish := sunday 10 5 rule.finish }]
  | .weekday 3 5 0, .weekday 10 5 0 =>
    [{ rule with since := 1996 }, { rule with since := 1981, finish := sunday 9 5 rule.finish }]
  | _, _ => [{ rule with since := 1970 }]

/-- The zone with a name or a rule. -/
def read (text : List Char) : Zone :=
  let text := if text.head? = some ':' then text.tail else text
  if text.isEmpty then universal
  else
    match zoneTable.find? fun entry => (entry.2.splitOn " ").any fun name => name.toList = text with
    | none => Reader.rule text
    | some (rule, _) =>
      let zone := Reader.rule rule.toList
      { zone with
        summer := zone.summer.map fun (phase, rules) => (phase, rules.flatMap earlierRules) }

end Zone

/-- A moment in the local time of a zone. -/
structure LocalTime where
  seconds : Int
  nanosecond : Nat := 0
  civil : Civil
  phase : ZonePhase

/-- The local time at some nanoseconds since the start of 1970. -/
def Zone.localTime (zone : Zone) (moment : Int) : LocalTime :=
  let seconds := moment.fdiv 1000000000
  { seconds, nanosecond := (moment.fmod 1000000000).toNat, civil := zone.civilAt seconds
    phase := zone.phaseAt seconds }

end Pipework
