import Pipework.Calendar.Display
import Pipework.Calendar.Phrase
import Pipework.Tool.Option
import Pipework.Tool.Path
import Pipework.Tool.Running

set_option autoImplicit false

/-!
The date and the time, now or as a phrase tells it.
-/

namespace Pipework.Tool

open Kernel

/-- The zone in which local times are told. -/
def Variables.zone (settings : Variables) : Zone :=
  match settings.lookup "TZ".toList with
  | some text => Zone.read text
  | none => .universal

/-- The moment now. -/
def currentMoment : Work Moment := do
  match ← Work.ask (.query .now) with
  | .number moment => return (moment : Int)
  | _ => return 0

namespace Date

/-- How exactly times are told in forms that are sorted like the times. -/
inductive Precision where
  | day
  | seconds
  | nanoseconds
  | hours
  | minutes
  deriving DecidableEq, Repr

/-- The words for that. -/
def precisions : List (String × Precision) :=
  [("hours", .hours), ("minutes", .minutes), ("date", .day), ("seconds", .seconds), ("ns", .nanoseconds)]

/-- The format for a precision, with a letter between the date and the time. -/
def formatOf : Precision → String
  | .day => "%Y-%m-%d"
  | .seconds => "%Y-%m-%dT%H:%M:%S%:z"
  | .nanoseconds => "%Y-%m-%dT%H:%M:%S,%N%:z"
  | .hours => "%Y-%m-%dT%H%:z"
  | .minutes => "%Y-%m-%dT%H:%M%:z"

/-- The format for a precision, with a blank between the date and the time. -/
def spacedFormatOf : Precision → String
  | .seconds => "%Y-%m-%d %H:%M:%S%:z"
  | .nanoseconds => "%Y-%m-%d %H:%M:%S.%N%:z"
  | _ => "%Y-%m-%d"

/-- The usual format. -/
def usualFormat : String := "%a %b %e %H:%M:%S %Z %Y"

/-- What the options say. -/
structure Wish where
  phrase : Option Text := none
  batch : Option Text := none
  reference : Option Text := none
  newTime : Option Text := none
  isUniversal : Bool := false
  /-- Whether the shortest time that can be told is wanted. -/
  tellsResolution : Bool := false
  format : Option Text := none

/-- Sets the format, of which there may be only one. -/
def Wish.setFormat (wish : Wish) (format : Text) : Work Wish := do
  if wish.format.isSome then Work.fail "multiple output formats specified".toList
  return { wish with format := some format }

/-- Takes on an option. -/
def Wish.addOption (wish : Wish) (option : Given) : Work Wish := do
  let text := option.argument.getD []
  match option.letter with
  | 'd' => return { wish with phrase := some text }
  | 'f' => return { wish with batch := some text }
  | 'r' => return { wish with reference := some text }
  | 's' => return { wish with newTime := some text }
  | 'u' => return { wish with isUniversal := true }
  | '\x03' => return { wish with tellsResolution := true }
  | 'R' => wish.setFormat "%a, %d %b %Y %H:%M:%S %z".toList
  | 'I' => do
    let precision ← match option.argument with
      | some text => chooseFrom "--iso-8601" precisions text
      | none => pure .day
    wish.setFormat (formatOf precision).toList
  | '\x01' => do wish.setFormat (spacedFormatOf (← chooseFrom "--rfc-3339" (precisions.drop 2) text)).toList
  | _ => return wish

/-- A format in which fractions of seconds that are as long as they have to be have all nine digits. -/
def withFractions : Text → Text
  | '%' :: '-' :: 'N' :: rest => "%9N".toList ++ withFractions rest
  | '%' :: '%' :: rest => '%' :: '%' :: withFractions rest
  | char :: rest => char :: withFractions rest
  | [] => []

/-- Whether there is a year for a time. -/
def hasCalendar (time : LocalTime) : Bool := TimePhrase.hasYear time.civil.year

/-- Prints a moment. -/
def tellMoment (zone : Zone) (format : Text) (moment : Moment) : Work Unit := do
  let time := zone.localTime moment
  if hasCalendar time then Work.putLine (time.write format)
  else Work.report ("time ".toList ++ quoted (toString time.seconds).toList ++ " is out of range".toList)

/-- Prints the moments that the lines of a file tell. -/
def tellBatch (zone : Zone) (format operand : Text) : Work Unit := do
  match ← Work.readOperand operand with
  | .error fault => Work.fail (because (shownName operand) fault.errno)
  | .ok text => (plainLines text).forM fun line => do
    match TimePhrase.read? zone (← currentMoment) line with
    | some moment => tellMoment zone format moment
    | none => Work.report ("invalid date ".toList ++ quoted line)

end Date

open Date

/-- The options of the date. -/
def dateOptions : OptionTable where
  letters := "d:f:I::r:Rs:u\x01:\x02\x03"
  names :=
    [("date", 'd'), ("debug", '\x02'), ("file", 'f'), ("iso-8601", 'I'), ("reference", 'r'), ("resolution", '\x03'), ("rfc-email", 'R'),
      ("rfc-822", 'R'), ("rfc-2822", 'R'), ("rfc-3339", '\x01'), ("set", 's'), ("uct", 'u'), ("utc", 'u'),
      ("universal", 'u')]

/-- Tells the date. -/
def date (settings : Variables) (arguments : List Text) : Work Unit := do
  let (given, operands) ← readOptions dateOptions arguments
  let wish ← given.foldlM Wish.addOption {}
  let chosen := [wish.phrase, wish.batch, wish.reference].filter Option.isSome
  let isChosen := !chosen.isEmpty || wish.tellsResolution
  if 1 < chosen.length || (!chosen.isEmpty && wish.tellsResolution) then
    Work.failUsage "the options to specify dates for printing are mutually exclusive".toList
  if wish.newTime.isSome && isChosen then
    Work.failUsage "the options to print and set the time may not be used together".toList
  match operands with
  | _ :: extra :: _ => failExtra extra
  | _ => pure ()
  let wish ← match operands with
    | ('+' :: format) :: _ => wish.setFormat format
    | operand :: _ => do
      if wish.newTime.isSome || isChosen then
        Work.failUsage ("the argument ".toList ++ quoted operand ++ (" lacks a leading '+';\n" ++
          "when using an option to specify date(s), any non-option\n" ++
          "argument must be a format string beginning with '+'").toList)
      else pure wish
    | [] => pure wish
  let zone := if wish.isUniversal then Zone.universal else settings.zone
  let format := withFractions (wish.format.getD (if wish.tellsResolution then "%s.%N" else usualFormat).toList)
  let now ← currentMoment
  let refuse (text : Text) : Work Moment := Work.fail ("invalid date ".toList ++ quoted text)
  let digits := (operands.head?).filter (·.head? ≠ some '+')
  match wish.batch with
  | some operand => tellBatch zone format operand
  | none => do
    let moment ← match wish.phrase.orElse (fun _ => wish.newTime), wish.reference, digits with
      | some text, _, _ =>
        match TimePhrase.read? zone now text with
        | some moment => pure moment
        | none => refuse text
      | none, some path, _ =>
        match ← Work.facts path true with
        | .ok facts => pure facts.modified
        | .error errno => Work.fail (because (shownName path) errno)
      | none, none, some text =>
        match TimePhrase.readDigits? zone now true text with
        | some moment => pure moment
        | none => refuse text
      | none, none, none => pure (if wish.tellsResolution then 1 else now)
    if wish.newTime.isSome || digits.isSome then
      Work.report (because "cannot set date".toList .notPermitted)
    tellMoment zone format moment

end Pipework.Tool
