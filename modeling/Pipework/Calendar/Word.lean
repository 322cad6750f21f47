import Pipework.Calendar.Zone

set_option autoImplicit false

/-!
The words and numbers of phrases that tell a time.
-/

namespace Pipework

/-- What a distance in time is counted in. -/
inductive TimeUnit where
  | year
  | month
  /-- A number of days. -/
  | days (count : Int)
  | hour
  | minute
  | second
  deriving DecidableEq, Repr

/-- A number as it is written. -/
structure Numeral where
  value : Int
  digits : Nat
  isNegative : Bool := false
  deriving DecidableEq, Repr

/-- A word, a number or a sign of a phrase. -/
inductive TimeToken where
  | plain (numeral : Numeral)
  | signed (numeral : Numeral)
  /-- Seconds with a fraction, and whether a sign stands before them. -/
  | fraction (isSigned : Bool) (seconds nanoseconds : Int)
  /-- The half of the day. -/
  | half (isAfternoon : Bool)
  | month (number : Int)
  | weekday (number : Int)
  | unit (unit : TimeUnit)
  /-- A number of days from now. -/
  | shift (days : Int)
  | ordinal (number : Int)
  /-- In which direction a distance goes. -/
  | direction (sign : Int)
  /-- A zone, by its offset in seconds. -/
  | zone (offset : Int)
  /-- A zone in its summer time, by the offset of its standard time. -/
  | summerZone (offset : Int)
  /-- The zone of the place itself; it may be known whether it is summer time. -/
  | localZone (isSummer : Option Bool)
  | summer
  /-- The zone of the place itself, by its letter. -/
  | ownZone
  /-- The letter between a date and a time. -/
  | between
  | sign (char : Char)
  deriving DecidableEq, Repr

namespace TimeToken

/-- Words for halves of the day. -/
def halves : List (String × TimeToken) :=
  [("AM", half false), ("A.M.", half false), ("PM", half true), ("P.M.", half true)]

/-- The names of months and days; their first three letters are enough. -/
def names : List (String × TimeToken) :=
  [("JANUARY", month 1), ("FEBRUARY", month 2), ("MARCH", month 3), ("APRIL", month 4), ("MAY", month 5),
    ("JUNE", month 6), ("JULY", month 7), ("AUGUST", month 8), ("SEPTEMBER", month 9), ("SEPT", month 9),
    ("OCTOBER", month 10), ("NOVEMBER", month 11), ("DECEMBER", month 12), ("SUNDAY", weekday 0),
    ("MONDAY", weekday 1), ("TUESDAY", weekday 2), ("TUES", weekday 2), ("WEDNESDAY", weekday 3),
    ("WEDNES", weekday 3), ("THURSDAY", weekday 4), ("THUR", weekday 4), ("THURS", weekday 4),
    ("FRIDAY", weekday 5), ("SATURDAY", weekday 6)]

/-- The units of time. -/
def units : List (String × TimeToken) :=
  [("YEAR", unit .year), ("MONTH", unit .month), ("FORTNIGHT", unit (.days 14)), ("WEEK", unit (.days 7)),
    ("DAY", unit (.days 1)), ("HOUR", unit .hour), ("MINUTE", unit .minute), ("MIN", unit .minute),
    ("SECOND", unit .second), ("SEC", unit .second)]

/-- Words for distances. -/
def distances : List (String × TimeToken) :=
  [("TOMORROW", shift 1), ("YESTERDAY", shift (-1)), ("TODAY", shift 0), ("NOW", shift 0), ("LAST", ordinal (-1)),
    ("THIS", ordinal 0), ("NEXT", ordinal 1), ("FIRST", ordinal 1), ("THIRD", ordinal 3), ("FOURTH", ordinal 4),
    ("FIFTH", ordinal 5), ("SIXTH", ordinal 6), ("SEVENTH", ordinal 7), ("EIGHTH", ordinal 8), ("NINTH", ordinal 9),
    ("TENTH", ordinal 10), ("ELEVENTH", ordinal 11), ("TWELFTH", ordinal 12), ("AGO", direction (-1)),
    ("HENCE", direction 1)]

/-- Names for the zone in which no time is put off. -/
def universalNames : List (String × TimeToken) := [("GMT", zone 0), ("UT", zone 0), ("UTC", zone 0)]

/-- The names of zones with their offsets in minutes; the second list holds those of summer times. -/
def zoneNames : List (String × TimeToken) :=
  ([("WET", 0), ("ART", -180), ("BRT", -180), ("NST", -210), ("AST", -240), ("CLT", -240), ("EST", -300),
    ("CST", -360), ("MST", -420), ("PST", -480), ("AKST", -540), ("HST", -600), ("HAST", -600), ("SST", -720),
    ("WAT", 60), ("CET", 60), ("MET", 60), ("MEZ", 60), ("EET", 120), ("CAT", 120), ("SAST", 120), ("EAT", 180),
    ("MSK", 180), ("IST", 330), ("SGT", 480), ("KST", 540), ("JST", 540), ("GST", 600), ("NZST", 720)] :
      List (String × Int)).map (fun (name, minutes) => (name, zone (minutes * 60))) ++
  ([("WEST", 0), ("BST", 0), ("BRST", -180), ("NDT", -210), ("ADT", -240), ("CLST", -240), ("EDT", -300),
    ("CDT", -360), ("MDT", -420), ("PDT", -480), ("AKDT", -540), ("HADT", -600), ("CEST", 60), ("MEST", 60),
    ("MESZ", 60), ("EEST", 120), ("MSD", 180), ("NZDT", 720)] :
      List (String × Int)).map fun (name, minutes) => (name, summerZone (minutes * 60))

/-- Zones of single letters, in hours. -/
def letterZones : List (Char × Int) :=
  [('A', 1), ('B', 2), ('C', 3), ('D', 4), ('E', 5), ('F', 6), ('G', 7), ('H', 8), ('I', 9), ('K', 10), ('L', 11),
    ('M', 12), ('N', -1), ('O', -2), ('P', -3), ('Q', -4), ('R', -5), ('S', -6), ('U', -8), ('V', -9), ('W', -10),
    ('X', -11), ('Y', -12), ('Z', 0)]

/-- The names that a place has for its zone. -/
abbrev LocalNames := List (List Char × TimeToken)

/-- What a word means in one of the lists. -/
def inList (table : List (String × TimeToken)) (word : List Char) : Option TimeToken :=
  (table.find? fun entry => entry.1.toList = word).map Prod.snd

/-- The zone with a name. -/
def zone? (here : LocalNames) (word : List Char) : Option TimeToken :=
  ((inList universalNames word).orElse fun _ => here.lookup word).orElse fun _ => inList zoneNames word

/-- What a word in capital letters means. -/
def word? (here : LocalNames) (word : List Char) : Option TimeToken :=
  let isShort : Bool := word.length = 3 || (word.length = 4 && word.getLast? = some '.')
  let name? : Option TimeToken :=
    if isShort then (names.find? fun entry => entry.1.toList.take 3 = word.take 3).map Prod.snd
    else inList names word
  let singular? : Option TimeToken :=
    if word.getLast? = some 'S' then inList units word.dropLast else none
  let letter? : Option TimeToken :=
    match word with
    | ['T'] => some between
    | ['J'] => some ownZone
    | [letter] => (letterZones.lookup letter).map fun hours => zone (hours * 3600)
    | _ => none
  let plain := word.filter (· ≠ '.')
  [inList halves word, name?, zone? here word, if word = "DST".toList then some summer else none, inList units word,
    singular?, inList distances word, letter?, if plain = word then none else zone? here plain].findSome? id

/-- The largest whole number of seconds. -/
def limit : Int := 9223372036854775807

/-- A number at the start of a text that begins with a digit, and the text behind it. -/
def numeral? (sign : Option Char) (text : List Char) : Option (TimeToken × List Char) :=
  let valueOf (digits : List Char) : Int :=
    digits.foldl (fun value digit => value * 10 + (digit.toNat - '0'.toNat : Nat)) 0
  let digits := text.takeWhile Char.isDigit
  let rest := text.drop digits.length
  let isNegative : Bool := sign = some '-'
  let value := if isNegative then -(valueOf digits) else valueOf digits
  if value < -limit - 1 || limit < value then none
  else
    let behind := if rest.head? = some '.' || rest.head? = some ',' then rest.tail.takeWhile Char.isDigit else []
    if behind.isEmpty then
      let numeral : Numeral := { value, digits := digits.length, isNegative }
      some (if sign.isSome then signed numeral else plain numeral, rest)
    else
      let shown := valueOf ((behind ++ List.replicate 9 '0').take 9)
      let shown := if isNegative && (behind.drop 9).any (· ≠ '0') then shown + 1 else shown
      let (seconds, nanoseconds) : Int × Int :=
        if isNegative && shown ≠ 0 then (value - 1, 1000000000 - shown) else (value, shown)
      some (fraction sign.isSome seconds nanoseconds, rest.drop (behind.length + 1))

/-- What follows a comment in parentheses, which may hold others. -/
def skipComment : (depth : Nat) → List Char → Option (List Char)
  | _, [] => none
  | depth, '(' :: rest => skipComment (depth + 1) rest
  | depth, ')' :: rest => if depth ≤ 1 then some rest else skipComment (depth - 1) rest
  | depth, _ :: rest => skipComment depth rest

/-- The words, numbers and signs of a phrase; none if one of them means nothing. -/
def readAll (here : LocalNames) : Nat → List Char → Option (List TimeToken)
  | 0, _ => some []
  | _, [] => some []
  | fuel + 1, char :: rest =>
    let isBlank (char : Char) : Bool := char = ' ' || ('\t' ≤ char && char ≤ '\r')
    let text := char :: rest
    if isBlank char then readAll here fuel rest
    else if char = '-' || char = '+' then
      let rest := rest.dropWhile isBlank
      if rest.head?.any Char.isDigit then do
        let (token, rest) ← numeral? (some char) rest
        return token :: (← readAll here fuel rest)
      else readAll here fuel rest
    else if char.isDigit then do
      let (token, rest) ← numeral? none text
      return token :: (← readAll here fuel rest)
    else if char.isAlpha then do
      let word := text.takeWhile fun char => char.isAlpha || char = '.'
      let token ← word? here ((word.take 19).map Char.toUpper)
      return token :: (← readAll here fuel (text.drop word.length))
    else if char = '(' then
      match skipComment 0 text with
      | none => some []
      | some rest => readAll here fuel rest
    else do return sign char :: (← readAll here fuel rest)

end TimeToken

end Pipework
