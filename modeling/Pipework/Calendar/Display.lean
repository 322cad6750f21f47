import Pipework.Calendar.Zone

set_option autoImplicit false

/-!
Formats for local times. A directive has flags, a width, a modifier and a letter.
-/

namespace Pipework

namespace LocalTime

def weekdayNames : List String :=
  ["Sunday", "Monday", "Tuesday", "Wednesday", "Thursday", "Friday", "Saturday"]

def monthNames : List String :=
  ["January", "February", "March", "April", "May", "June", "July", "August", "September", "October", "November",
    "December"]

/-- A directive of a format. -/
structure Directive where
  /-- How it is filled up: `_` for blanks, `0` and `+` for zeros, `-` for nothing. -/
  pad : Option Char := none
  isUpper : Bool := false
  swapsCase : Bool := false
  width : Option Nat := none
  modifier : Option Char := none
  colons : Nat := 0

namespace Directive

/-- Text in its width. -/
def showText (directive : Directive) (text : List Char) : List Char :=
  let text := if directive.isUpper then text.map Char.toUpper else text
  let missing := if directive.pad = some '-' then 0 else directive.width.getD 0 - text.length
  List.replicate missing (if directive.pad = some '0' || directive.pad = some '+' then '0' else ' ') ++ text

/-- Digits behind a sign, in their width. -/
def showDigits (directive : Directive) (width : Nat) (sign digits : List Char) : List Char :=
  let width := directive.width.getD width
  let missing := width - sign.length - digits.length
  match directive.pad with
  | some '-' => sign ++ digits
  | some '_' => List.replicate missing ' ' ++ sign ++ digits
  | _ => sign ++ List.replicate missing '0' ++ digits

/-- A number. -/
def showNumber (directive : Directive) (width : Nat) (value : Int) : List Char :=
  directive.showDigits width (if value < 0 then ['-'] else []) (Nat.toDigits 10 value.natAbs)

/-- A number that blanks fill up. -/
def showBlankNumber (directive : Directive) (width : Nat) (value : Int) : List Char :=
  { directive with pad := directive.pad.getD '_' }.showNumber width value

/-- A part of a year. A plus stands before it if it has more digits than usual and that is asked for. -/
def showYear (directive : Directive) (yearPad : Option Char) (width : Nat) (isNegative : Bool) (value : Nat) :
    List Char :=
  let directive := { directive with pad := directive.pad.orElse fun _ => yearPad }
  let isWide : Bool := (if width = 2 then 99 else 9999) < value || directive.width.any (width < ·)
  let sign : List Char :=
    if isNegative then ['-'] else if directive.pad = some '+' && isWide then ['+'] else []
  directive.showDigits width sign (Nat.toDigits 10 value)

/-- The offset of a zone, with colons as asked for. -/
def showOffset (directive : Directive) (offset : Int) : List Char :=
  let sign := [if offset < 0 then '-' else '+']
  let size := offset.natAbs
  let (hours, minutes, seconds) := (size / 3600, size / 60 % 60, size % 60)
  let two (value : Nat) : List Char := (if value < 10 then ['0'] else []) ++ Nat.toDigits 10 value
  let behind := ':' :: two minutes
  let further := behind ++ ':' :: two seconds
  let shown (width : Nat) (behind : List Char) : List Char :=
    directive.showDigits width sign (Nat.toDigits 10 hours ++ behind)
  match directive.colons with
  | 0 => directive.showDigits 5 sign (Nat.toDigits 10 (hours * 100 + minutes))
  | 1 => shown 6 behind
  | 2 => shown 9 further
  | _ => if seconds ≠ 0 then shown 9 further else if minutes ≠ 0 then shown 6 behind else shown 3 []

/-- The flags, the width and the modifier of a directive, and what follows them. -/
def flags (directive : Directive) : List Char → Directive × List Char
  | '^' :: rest => flags { directive with isUpper := true } rest
  | '#' :: rest => flags { directive with swapsCase := true } rest
  | char :: rest =>
    if "_-+0".toList.contains char then flags { directive with pad := some char } rest
    else
      let digits := (char :: rest).takeWhile Char.isDigit
      let width := digits.foldl (fun value digit => value * 10 + (digit.toNat - '0'.toNat)) 0
      let directive := { directive with width := if digits.isEmpty then none else some (min 2147483647 width) }
      match (char :: rest).drop digits.length with
      | 'E' :: rest => ({ directive with modifier := some 'E' }, rest)
      | 'O' :: rest => ({ directive with modifier := some 'O' }, rest)
      | rest => (directive, rest)
  | [] => (directive, [])

/-- Whether a letter may have the modifier. -/
def fits (directive : Directive) (letter : Char) : Bool :=
  match directive.modifier with
  | none => true
  | some 'E' => !"%aAbBhdeDFHIjklMmNSUVGgWw".toList.contains letter
  | some _ => !"%aAcDFxXY".toList.contains letter

/-- Whether a number is shown in its usual form, as text, because of the modifier. -/
def isPlain (directive : Directive) (letter : Char) : Bool :=
  match directive.modifier with
  | none => false
  | some 'E' => "CyY".toList.contains letter
  | some _ => "CdegGHIjklMmSuUVwWyz".toList.contains letter

end Directive

/-- How many days of the week of a day lie in a year, where weeks begin on Mondays and the first one has a Thursday:
negative before the first week. -/
def weekDays (yearDay weekday : Int) : Int :=
  yearDay - (yearDay - weekday + 4 + 378).fmod 7 + 4 - 1

/-- The year to which the week of a day belongs, and the number of the week. -/
def weekOf (civil : Civil) : Int × Int :=
  let size (year : Int) : Int := if Civil.isLeap year then 366 else 365
  let (day, weekday) := (civil.yearDay, civil.weekday)
  let days := weekDays day weekday
  if days < 0 then (civil.year - 1, weekDays (day + size (civil.year - 1)) weekday / 7 + 1)
  else
    let later := weekDays (day - size civil.year) weekday
    if 0 ≤ later then (civil.year + 1, later / 7 + 1) else (civil.year, days / 7 + 1)

/-- A format that a letter stands for. -/
def longForm? : Char → Option String
  | 'c' => some "%a %b %e %H:%M:%S %-Y"
  | 'D' | 'x' => some "%m/%d/%y"
  | 'R' => some "%H:%M"
  | 'r' => some "%I:%M:%S %p"
  | 'T' | 'X' => some "%H:%M:%S"
  | _ => none

/-- What a directive without a longer form shows. -/
def showPart (time : LocalTime) (yearPad : Option Char) (directive : Directive) (letter : Char) :
    Option (List Char) :=
  let civil := time.civil
  let raised := { directive with isUpper := directive.isUpper || directive.swapsCase }
  let half : Int := (civil.hour + 11) % 12 + 1
  let nameIn (names : List String) (index : Int) : List Char := (names.getD index.toNat "?").toList
  let yearOf (width : Nat) (value : Int) : List Char :=
    directive.showYear yearPad width (value < 0) value.natAbs
  let lastDigits (year : Int) : List Char :=
    directive.showYear yearPad 2 false (if year < 0 then year.natAbs % 100 else (year % 100).toNat)
  let wordOf (word : String) : List Char :=
    if directive.swapsCase then { directive with isUpper := false }.showText (word.toList.map Char.toLower)
    else directive.showText word.toList
  match letter with
  | '%' => some (directive.showText ['%'])
  | 'n' => some (directive.showText ['\n'])
  | 't' => some (directive.showText ['\t'])
  | 'a' => some (raised.showText ((nameIn weekdayNames civil.weekday).take 3))
  | 'A' => some (raised.showText (nameIn weekdayNames civil.weekday))
  | 'b' | 'h' => some (raised.showText ((nameIn monthNames (civil.month - 1)).take 3))
  | 'B' => some (raised.showText (nameIn monthNames (civil.month - 1)))
  | 'C' => some (directive.showYear yearPad 2 (civil.year < 0) (civil.year.natAbs / 100))
  | 'd' => some (directive.showNumber 2 civil.day)
  | 'e' => some (directive.showBlankNumber 2 civil.day)
  | 'g' => some (lastDigits (weekOf civil).1)
  | 'G' => some (yearOf 4 (weekOf civil).1)
  | 'H' => some (directive.showNumber 2 civil.hour)
  | 'I' => some (directive.showNumber 2 half)
  | 'j' => some (directive.showNumber 3 (civil.yearDay + 1))
  | 'k' => some (directive.showBlankNumber 2 civil.hour)
  | 'l' => some (directive.showBlankNumber 2 half)
  | 'M' => some (directive.showNumber 2 civil.minute)
  | 'm' => some (directive.showNumber 2 civil.month)
  | 'N' => some (fractionText directive)
  | 'p' => some (wordOf (if civil.hour < 12 then "AM" else "PM"))
  | 'P' =>
    some ({ directive with isUpper := false }.showText (if civil.hour < 12 then "am" else "pm").toList)
  | 'q' => some (directive.showNumber 1 ((civil.month - 1) / 3 + 1))
  | 'S' => some (directive.showNumber 2 civil.second)
  | 's' => some (directive.showNumber 1 time.seconds)
  | 'u' => some (directive.showNumber 1 ((civil.weekday + 6) % 7 + 1))
  | 'U' => some (directive.showNumber 2 ((civil.yearDay - civil.weekday + 7) / 7))
  | 'V' => some (directive.showNumber 2 (weekOf civil).2)
  | 'W' => some (directive.showNumber 2 ((civil.yearDay - (civil.weekday + 6) % 7 + 7) / 7))
  | 'w' => some (directive.showNumber 1 civil.weekday)
  | 'Y' => some (yearOf 4 civil.year)
  | 'y' => some (lastDigits civil.year)
  | 'z' => some (directive.showOffset time.phase.offset)
  | 'Z' =>
    if directive.swapsCase then
      some ({ directive with isUpper := false }.showText (time.phase.name.map Char.toLower))
    else some (directive.showText time.phase.name)
  | _ => none
where
  /-- The fraction of the second, with as many digits as the width says. -/
  fractionText (directive : Directive) : List Char :=
    let width := if directive.width.getD 0 = 0 then 9 else directive.width.getD 9
    let digits := Nat.toDigits 10 time.nanosecond
    let digits := (List.replicate (9 - digits.length) '0' ++ digits).take width
    let digits :=
      if directive.pad = some '-' || directive.pad = some '_' then
        let kept := (digits.reverse.dropWhile (· = '0')).reverse
        if kept.isEmpty then ['0'] else kept
      else digits
    let missing := if directive.pad = some '-' then 0 else width - digits.length
    digits ++ List.replicate missing (if directive.pad = some '_' then ' ' else '0')

/-- A directive at the start of a text behind the percent sign, and the text behind it. -/
def readDirective (text : List Char) : Directive × Option Char × List Char :=
  let (directive, rest) := Directive.flags {} text
  match rest with
  | [] => (directive, none, [])
  | ':' :: later =>
    let colons := later.takeWhile (· = ':')
    match later.drop colons.length with
    | 'z' :: rest =>
      ({ directive with colons := colons.length + 1 }, if colons.length < 3 then some 'z' else none, rest)
    | _ => (directive, none, later)
  | letter :: later =>
    if letter = '%' && rest.length ≠ text.length then (directive, none, rest) else (directive, some letter, later)

/-- Writes a local time in a format, down to some depth of formats within formats. -/
def writeIn (time : LocalTime) (isUpper : Bool) (yearPad : Option Char) : Nat → List Char → List Char
  | 0, _ => []
  | _, [] => []
  | fuel + 1, '%' :: rest =>
    let (directive, letter, later) := readDirective rest
    let directive := { directive with isUpper := directive.isUpper || isUpper }
    let raised : Bool := directive.isUpper || (directive.swapsCase && letter.any "bhB".toList.contains)
    let raw := { directive with isUpper := raised }.showText ('%' :: rest.take (rest.length - later.length))
    let nested (inner : Option Char) (form : String) : List Char :=
      { directive with isUpper := false }.showText
        (time.writeIn directive.isUpper inner fuel form.toList)
    let shown : List Char :=
      match letter with
      | none => raw
      | some letter =>
        if !directive.fits letter then raw
        else if letter = 'F' then
          let plain := directive.pad.isNone && directive.width.isNone
          let pad := if plain then some '+' else directive.pad
          let width := if plain then 4 else directive.width.getD 0 - 6
          let year := { directive with pad, width := some width }.showYear none 4 (time.civil.year < 0)
            time.civil.year.natAbs
          { directive with pad, isUpper := false }.showText
            (year ++ time.writeIn false none fuel "-%m-%d".toList)
        else
          match longForm? letter with
          | some form => nested (if "cxXr".toList.contains letter then none else directive.pad) form
          | none =>
            let plain := (time.showPart none {} letter).getD []
            if directive.isPlain letter && plain.head? ≠ some '-' then directive.showText plain
            else if directive.modifier = some 'O' && letter = 'q' then directive.showText "%Oq".toList
            else (time.showPart yearPad directive letter).getD raw
    shown ++ time.writeIn isUpper yearPad fuel later
  | fuel + 1, char :: rest => char :: time.writeIn isUpper yearPad fuel rest

/-- Writes a local time in a format. -/
def write (time : LocalTime) (format : List Char) : List Char :=
  time.writeIn false none (format.length + 64) format

end LocalTime

end Pipework
