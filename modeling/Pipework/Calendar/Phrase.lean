import Pipework.Calendar.Word

set_option autoImplicit false

/-!
Phrases that tell a time: dates, times of day, days of the week, zones and distances, in any order.
-/

namespace Pipework

/-- A distance in time. -/
structure TimeDistance where
  years : Int := 0
  months : Int := 0
  days : Int := 0
  hours : Int := 0
  minutes : Int := 0
  seconds : Int := 0
  nanoseconds : Int := 0
  deriving DecidableEq, Repr

namespace TimeDistance

/-- A number of units. -/
def ofUnit (count : Int) : TimeUnit → TimeDistance
  | .year => { years := count }
  | .month => { months := count }
  | .days days => { days := count * days }
  | .hour => { hours := count }
  | .minute => { minutes := count }
  | .second => { seconds := count }

/-- The sum of a distance and a multiple of another one. -/
def add (sum : TimeDistance) (sign : Int) (distance : TimeDistance) : TimeDistance where
  years := sum.years + sign * distance.years
  months := sum.months + sign * distance.months
  days := sum.days + sign * distance.days
  hours := sum.hours + sign * distance.hours
  minutes := sum.minutes + sign * distance.minutes
  seconds := sum.seconds + sign * distance.seconds
  nanoseconds := sum.nanoseconds + sign * distance.nanoseconds

end TimeDistance

/-- What a phrase says. -/
structure TimePhrase where
  year : Numeral
  month : Int
  day : Int
  hour : Int
  minute : Int
  second : Int
  nanosecond : Int
  /-- The half of the day that is told. -/
  half : Option Bool := none
  /-- Whether summer time holds, if that is told. -/
  isSummer : Option Bool := none
  zone : Int := 0
  weekday : Int := 0
  ordinal : Int := 0
  distance : TimeDistance := {}
  hasDistance : Bool := false
  /-- How often dates, times, weekdays, zones, local zones, summer times, and the zone of the place are told. -/
  dates : Nat := 0
  times : Nat := 0
  weekdays : Nat := 0
  zones : Nat := 0
  localZones : Nat := 0
  summers : Nat := 0
  ownZones : Nat := 0

namespace TimePhrase

/-- Reading of the parts of a phrase. -/
abbrev Step := TimePhrase → List TimeToken → Option (TimePhrase × List TimeToken)

/-- Sets the time of day. -/
def setTime (phrase : TimePhrase) (hour minute second nanosecond : Int) (half : Option Bool) : TimePhrase :=
  { phrase with hour, minute, second, nanosecond, half, times := phrase.times + 1 }

/-- Sets the date. -/
def setDate (phrase : TimePhrase) (year : Option Numeral) (month day : Int) : TimePhrase :=
  { phrase with year := year.getD phrase.year, month, day, dates := phrase.dates + 1 }

/-- Adds a distance. -/
def addDistance (phrase : TimePhrase) (sign : Int) (distance : TimeDistance) : TimePhrase :=
  { phrase with distance := phrase.distance.add sign distance, hasDistance := true }

/-- Adds a distance that a word for its direction may follow. -/
def addDirected (phrase : TimePhrase) (distance : TimeDistance) : List TimeToken → TimePhrase × List TimeToken
  | .direction sign :: rest => (phrase.addDistance sign distance, rest)
  | rest => (phrase.addDistance 1 distance, rest)

/-- The minutes behind a colon, and what follows them; none if something else follows the colon. -/
def minutes? : List TimeToken → Option (Option Int × List TimeToken)
  | .sign ':' :: .plain minutes :: rest => some (some minutes.value, rest)
  | .sign ':' :: _ => none
  | rest => some (none, rest)

/-- The offset of a zone that is told in hours, or in hours and minutes, in seconds. -/
def offset? (numeral : Numeral) (minutes : Option Int) : Option Int :=
  let total : Int :=
    match minutes with
    | some minutes => numeral.value * 60 + (if numeral.isNegative then -minutes else minutes)
    | none =>
      let value := if numeral.digits ≤ 2 then numeral.value * 100 else numeral.value
      value.tdiv 100 * 60 + value.tmod 100
  if -1440 ≤ total && total ≤ 1440 then some (total * 60) else none

/-- An offset behind a time, if there is one. -/
def readOffset : Step := fun phrase tokens =>
  match tokens with
  | .signed numeral :: rest => do
    let (minutes, rest) ← minutes? rest
    return ({ phrase with zone := ← offset? numeral minutes, zones := phrase.zones + 1 }, rest)
  | rest => some (phrase, rest)

/-- What follows the parts of a time of day: the half of the day, or an offset. -/
def readTimeEnd (hour minute second nanosecond : Int) (takesHalf : Bool) : Step := fun phrase tokens =>
  match takesHalf, tokens with
  | true, .half isAfternoon :: rest =>
    some (phrase.setTime hour minute second nanosecond (some isAfternoon), rest)
  | _, tokens => readOffset (phrase.setTime hour minute second nanosecond none) tokens

/-- A time of day behind its hour. -/
def readTime (takesHalf : Bool) (hour : Int) : Step := fun phrase tokens =>
  match tokens with
  | .sign ':' :: .plain minute :: .sign ':' :: .plain second :: rest =>
    readTimeEnd hour minute.value second.value 0 takesHalf phrase rest
  | .sign ':' :: .plain minute :: .sign ':' :: .fraction false seconds nanoseconds :: rest =>
    readTimeEnd hour minute.value seconds nanoseconds takesHalf phrase rest
  | .sign ':' :: .plain _ :: .sign ':' :: _ => none
  | .sign ':' :: .plain minute :: rest => readTimeEnd hour minute.value 0 0 takesHalf phrase rest
  | .signed _ :: _ => readTimeEnd hour 0 0 0 false phrase tokens
  | _ => none

/-- Digits alone: a year, a date or a time. -/
def setDigits (phrase : TimePhrase) (numeral : Numeral) : TimePhrase :=
  let (value, digits) := (numeral.value, numeral.digits)
  if phrase.dates ≠ 0 && phrase.year.digits = 0 && !phrase.hasDistance && (phrase.times ≠ 0 || 2 < digits) then
    { phrase with year := numeral }
  else if 4 < digits then
    phrase.setDate (some { value := value / 10000, digits := digits - 4 }) (value / 100 % 100) (value % 100)
  else if digits ≤ 2 then phrase.setTime value 0 0 0 none
  else phrase.setTime (value / 100) (value % 100) 0 0 none

/-- What begins with a number without a sign. -/
def readNumber (numeral : Numeral) : Step := fun phrase tokens =>
  let value := numeral.value
  match tokens with
  | .half isAfternoon :: rest => some (phrase.setTime value 0 0 0 (some isAfternoon), rest)
  | .sign ':' :: _ => readTime true value phrase tokens
  | .sign '/' :: .plain second :: .sign '/' :: .plain third :: rest =>
    if 4 ≤ numeral.digits then some (phrase.setDate (some numeral) second.value third.value, rest)
    else some (phrase.setDate (some third) value second.value, rest)
  | .sign '/' :: .plain _ :: .sign '/' :: _ => none
  | .sign '/' :: .plain second :: rest => some (phrase.setDate none value second.value, rest)
  | .sign '/' :: _ => none
  | .month month :: .signed year :: rest =>
    some (phrase.setDate (some { year with value := -year.value }) month value, rest)
  | .month month :: .plain year :: rest => some (phrase.setDate (some year) month value, rest)
  | .month month :: rest => some (phrase.setDate none month value, rest)
  | .signed month :: .signed day :: rest => do
    let phrase := phrase.setDate (some numeral) (-month.value) (-day.value)
    match rest with
    | .between :: .plain hour :: rest => readTime false hour.value phrase rest
    | .between :: _ => none
    | rest => some (phrase, rest)
  | .signed count :: .unit unit :: rest =>
    some ((phrase.setDigits numeral).addDistance 1 (.ofUnit count.value unit), rest)
  | .signed _ :: _ => readTime false value phrase tokens
  | .weekday day :: rest =>
    some ({ phrase with ordinal := value, weekday := day, weekdays := phrase.weekdays + 1 }, rest)
  | .unit unit :: rest => some (phrase.addDirected (.ofUnit value unit) rest)
  | rest => some (phrase.setDigits numeral, rest)

/-- What follows the name of a zone. -/
def readZone (offset : Int) : Step := fun phrase tokens =>
  let phrase := { phrase with zone := offset, zones := phrase.zones + 1 }
  match tokens with
  | .summer :: rest => some ({ phrase with zone := offset + 3600 }, rest)
  | .signed count :: .unit unit :: rest => some (phrase.addDistance 1 (.ofUnit count.value unit), rest)
  | .signed numeral :: rest => do
    let (minutes, rest) ← minutes? rest
    return ({ phrase with zone := offset + (← offset? numeral minutes) }, rest)
  | rest => some (phrase, rest)

/-- A part of a phrase. -/
def readItem : Step := fun phrase tokens =>
  match tokens with
  | .plain numeral :: rest => readNumber numeral phrase rest
  | .signed count :: .unit unit :: rest => some (phrase.addDirected (.ofUnit count.value unit) rest)
  | .fraction _ seconds nanoseconds :: .unit .second :: rest =>
    some (phrase.addDirected { seconds, nanoseconds } rest)
  | .ordinal count :: .unit unit :: rest => some (phrase.addDirected (.ofUnit count unit) rest)
  | .ordinal ordinal :: .weekday weekday :: rest =>
    some ({ phrase with ordinal, weekday, weekdays := phrase.weekdays + 1 }, rest)
  | .unit unit :: rest => some (phrase.addDirected (.ofUnit 1 unit) rest)
  | .shift days :: rest => some (phrase.addDistance 1 { days }, rest)
  | .weekday weekday :: .sign ',' :: rest | .weekday weekday :: rest =>
    some ({ phrase with ordinal := 0, weekday, weekdays := phrase.weekdays + 1 }, rest)
  | .month month :: .signed day :: .signed year :: rest =>
    some (phrase.setDate (some { year with value := -year.value }) month (-day.value), rest)
  | .month month :: .plain day :: .sign ',' :: .plain year :: rest =>
    some (phrase.setDate (some year) month day.value, rest)
  | .month _ :: .plain _ :: .sign ',' :: _ => none
  | .month month :: .plain day :: rest => some (phrase.setDate none month day.value, rest)
  | .zone offset :: rest => readZone offset phrase rest
  | .summerZone offset :: rest =>
    some ({ phrase with zone := offset + 3600, zones := phrase.zones + 1 }, rest)
  | .between :: rest =>
    let phrase := { phrase with zone := -7 * 3600, zones := phrase.zones + 1 }
    match rest with
    | .signed count :: .unit unit :: rest => some (phrase.addDistance 1 (.ofUnit count.value unit), rest)
    | .signed _ :: _ => none
    | rest => some (phrase, rest)
  | .localZone _ :: .summer :: rest =>
    some ({ phrase with
      isSummer := some true, localZones := phrase.localZones + 1, summers := phrase.summers + 1 }, rest)
  | .ownZone :: rest => some ({ phrase with ownZones := phrase.ownZones + 1 }, rest)
  | .localZone isSummer :: rest => some ({ phrase with isSummer, localZones := phrase.localZones + 1 }, rest)
  | _ => none

/-- All parts of a phrase. -/
def readItems : Nat → TimePhrase → List TimeToken → Option TimePhrase
  | _, phrase, [] => some phrase
  | 0, _, _ => none
  | fuel + 1, phrase, tokens => do
    let (phrase, rest) ← readItem phrase tokens
    readItems fuel phrase rest

/-- The year, of which two digits are enough. -/
def fullYear (phrase : TimePhrase) : Int :=
  let value := phrase.year.value
  if phrase.year.digits = 2 && 0 ≤ value then value + (if value < 69 then 2000 else 1900)
  else if value < 0 then -value
  else value

/-- The hour, from 0 to 23. -/
def fullHour? (phrase : TimePhrase) : Option Int :=
  let hour := phrase.hour
  match phrase.half with
  | none => if 0 ≤ hour && hour < 24 then some hour else none
  | some isAfternoon =>
    if 0 < hour && hour < 12 then some (if isAfternoon then hour + 12 else hour)
    else if hour = 12 then some (if isAfternoon then 12 else 0)
    else none

/-- Whether the parts of a date lie in their ranges. -/
def isProper (civil : Civil) : Bool := Civil.ofSeconds civil.toSeconds = civil

/-- Whether a year can be told. -/
def hasYear (year : Int) : Bool := -2147481748 ≤ year && year ≤ 2147485547

/-- The moment that a phrase tells, in nanoseconds since the start of 1970. -/
def moment? (phrase : TimePhrase) (zone : Zone) (wasSummer : Bool) : Option Int := do
  let isRepeated : Bool :=
    [phrase.times, phrase.dates, phrase.weekdays, phrase.summers, phrase.localZones + phrase.zones + phrase.ownZones].any (1 < ·)
  if isRepeated then none
  let hasTime : Bool :=
    phrase.times ≠ 0 || (phrase.hasDistance && phrase.dates = 0 && phrase.weekdays = 0)
  let hour ← if hasTime then phrase.fullHour? else some 0
  let civil : Civil :=
    { year := phrase.fullYear, month := phrase.month, day := phrase.day, hour
      minute := if hasTime then phrase.minute else 0, second := if hasTime then phrase.second else 0 }
  let nanosecond := if hasTime then phrase.nanosecond else 0
  let isAbsolute : Bool := phrase.dates ≠ 0 || phrase.weekdays ≠ 0 || phrase.times ≠ 0
  let isSummer : Option Bool :=
    if phrase.localZones ≠ 0 then phrase.isSummer else if isAbsolute then none else some wasSummer
  if !isProper civil || !hasYear civil.year then none
  let start := zone.secondsAt isSummer civil
  if phrase.zones = 0 && zone.civilAt start ≠ civil then none
  let (civil, start) : Civil × Int :=
    if phrase.weekdays ≠ 0 && phrase.dates = 0 then
      let isLater : Bool := 0 < phrase.ordinal && civil.weekday ≠ phrase.weekday
      let weeks := phrase.ordinal - (if isLater then 1 else 0)
      let distance := (phrase.weekday - civil.weekday + 7).fmod 7 + weeks * 7
      let moved := zone.secondsAt none { civil with day := civil.day + distance }
      (zone.civilAt moved, moved)
    else (civil, start)
  let distance := phrase.distance
  let moved : Civil :=
    { civil with
      year := civil.year + distance.years
      month := civil.month + distance.months
      day := civil.day + distance.days }
  let isMoved : Bool := distance.years ≠ 0 || distance.months ≠ 0 || distance.days ≠ 0
  let start := if isMoved then zone.secondsAt isSummer moved else start
  if !hasYear (zone.civilAt start).year then none
  let start := if phrase.zones = 0 then start else start + (zone.phaseAt start).offset - phrase.zone
  let total := start + distance.hours * 3600 + distance.minutes * 60 + distance.seconds
  let result := total * 1000000000 + nanosecond + distance.nanoseconds
  if TimeToken.limit < result.fdiv 1000000000 || result.fdiv 1000000000 < -TimeToken.limit - 1 then none
  else some result

/-- The names that a place has for its zone around a moment. -/
def localNames (zone : Zone) (seconds : Int) : TimeToken.LocalNames :=
  let now := zone.phaseAt seconds
  let later := [1, 2, 3].map fun quarter : Int => zone.phaseAt (seconds + quarter * 7776000)
  match later.find? (·.isSummer ≠ now.isSummer) with
  | none => [(now.name, .localZone (some now.isSummer))]
  | some other =>
    if other.name = now.name then [(now.name, .localZone none)]
    else [(now.name, .localZone (some now.isSummer)), (other.name, .localZone (some other.isSummer))]

/-- The zone at the start of a phrase, and what follows it. -/
def readZoneName (zone : Zone) (text : List Char) : Zone × List Char :=
  match text with
  | 'T' :: 'Z' :: '=' :: '\x22' :: rest =>
    match quotedName rest with
    | some (name, rest) => (Zone.read name, rest)
    | none => (zone, text)
  | _ => (zone, text)
where
  /-- A name up to a double quote. -/
  quotedName : List Char → Option (List Char × List Char)
    | [] => none
    | '\x22' :: rest => some ([], rest)
    | '\\' :: char :: rest =>
      if char = '\\' || char = '\x22' then (quotedName rest).map fun (name, rest) => (char :: name, rest) else none
    | char :: rest => (quotedName rest).map fun (name, rest) => (char :: name, rest)

/-- The moment that a text tells, seen from a moment now; both are in nanoseconds since the start of 1970. -/
def read? (zone : Zone) (now : Int) (text : List Char) : Option Int := do
  let isBlank (char : Char) : Bool := char = ' ' || ('\t' ≤ char && char ≤ '\r')
  let (zone, text) := readZoneName zone (text.dropWhile isBlank)
  let text := text.dropWhile isBlank
  let text := if text.isEmpty then ['0'] else text
  let here := zone.localTime now
  let tokens ← TimeToken.readAll (localNames zone here.seconds) (text.length + 1) text
  match tokens with
  | [.sign '@', .plain numeral] | [.sign '@', .signed numeral] => some (numeral.value * 1000000000)
  | [.sign '@', .fraction _ seconds nanoseconds] => some (seconds * 1000000000 + nanoseconds)
  | tokens => do
    let civil := here.civil
    let phrase ← readItems (tokens.length + 1)
      { year := { value := civil.year, digits := 0 }, month := civil.month, day := civil.day, hour := civil.hour
        minute := civil.minute, second := civil.second, nanosecond := here.nanosecond } tokens
    phrase.moment? zone here.phase.isSummer

/-- The moment that digits in pairs tell: month, day, hour and minute, with a year before or behind them, and seconds
behind a point. -/
def readDigits? (zone : Zone) (now : Int) (yearIsLast : Bool) (text : List Char) : Option Int := do
  let digits := text.takeWhile (· ≠ '.')
  let behind := text.drop digits.length
  let length := digits.length
  if !(8 ≤ length && length ≤ 12 && length % 2 = 0 && digits.all Char.isDigit) then none
  let second : Int ← match behind with
    | [] => some 0
    | ['.', tens, ones] => if tens.isDigit && ones.isDigit then some (pair tens ones) else none
    | _ => none
  let pairs := pairsOf digits
  let count := pairs.length - 4
  let (years, parts) :=
    if yearIsLast then (pairs.drop 4, pairs.take 4) else (pairs.take count, pairs.drop count)
  let year : Int ← match years with
    | [] => some (zone.localTime now).civil.year
    | [year] => some (year + (if year ≤ 68 then 2000 else 1900))
    | century :: year :: _ => if century < 19 then none else some (century * 100 + year)
  match parts with
  | [month, day, hour, minute] => do
    let civil : Civil := { year, month, day, hour, minute, second := min 59 second }
    let seconds := zone.secondsAt none civil
    if second ≤ 60 && zone.civilAt seconds = civil then some ((seconds + (second - civil.second)) * 1000000000)
    else none
  | _ => none
where
  pair (tens ones : Char) : Int := (tens.toNat - '0'.toNat : Nat) * 10 + (ones.toNat - '0'.toNat : Nat)
  pairsOf : List Char → List Int
    | tens :: ones :: rest => pair tens ones :: pairsOf rest
    | _ => []

end TimePhrase

end Pipework
