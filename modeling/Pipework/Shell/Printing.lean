import Pipework.Shell.Syntax
import Pipework.Text.Conversion

set_option autoImplicit false

/-!
Printing: the escapes of `echo`, and formats, which are used again and again until no argument is left.
-/

namespace Pipework.Shell

/-- The value of octal digits at the start of a text, at most so many of them, and the text behind them. -/
def octal (limit : Nat) (text : Text) : Nat × Text :=
  let digits := (text.take limit).takeWhile fun char => '0' ≤ char && char ≤ '7'
  (digits.foldl (fun value char => value * 8 + (char.toNat - '0'.toNat)) 0, text.drop digits.length)

def byteChar (value : Nat) : Char := Char.ofNat (value % 256)

/-- The characters that a letter after a backslash stands for. -/
def simpleEscape? : Char → Option Char
  | '\\' => some '\\'
  | 'a' => some '\x07'
  | 'b' => some '\x08'
  | 'e' => some '\x1b'
  | 'f' => some '\x0c'
  | 'n' => some '\n'
  | 'r' => some '\r'
  | 't' => some '\t'
  | 'v' => some '\x0b'
  | _ => none

/-- The value of a digit in bases up to 16. -/
def digitValue (char : Char) : Nat :=
  if char.isDigit then char.toNat - '0'.toNat
  else if 'a' ≤ char.toLower && char.toLower ≤ 'f' then char.toLower.toNat - 'a'.toNat + 10
  else 16

/-- How printing is done. -/
structure PrintRules where
  /-- The format of numbers with a fraction. -/
  numbers : BinaryFormat := .double
  /-- Whether escapes may have hexadecimal digits. -/
  hexEscapes : Bool := false

/-- What an escape with hexadecimal digits stands for: a byte, or a character that is shown by its number. -/
def hexEscape? (char : Char) (text : Text) : Option (Text × Text) :=
  let isHex (char : Char) : Bool := digitValue char < 16
  if char = 'x' then
    let digits := (text.take 2).takeWhile isHex
    if digits.isEmpty then none
    else
      let value := digits.foldl (fun value digit => value * 16 + digitValue digit) 0
      some ([byteChar value], text.drop digits.length)
  else
    let count := if char = 'u' then 4 else if char = 'U' then 8 else 0
    let digits := (text.take count).takeWhile isHex
    if count = 0 || digits.length < count then none
    else some ('\\' :: char :: digits.map Char.toUpper, text.drop count)

/-- What an escape stands for, given the text behind the backslash, and the text behind the escape. A backslash
that begins no escape stands for itself. -/
def escape (rules : PrintRules) (text : Text) : Text × Text :=
  match text with
  | [] => (['\\'], [])
  | char :: rest =>
    if '0' ≤ char && char ≤ '7' then
      let (value, after) := octal 3 text
      ([byteChar value], after)
    else
      match simpleEscape? char, if rules.hexEscapes then hexEscape? char rest else none with
      | some escaped, _ => ([escaped], rest)
      | none, some found => found
      | none, none => (['\\'], text)

/-- Replaces the escapes of an argument, where octal digits may follow a zero. Also says whether to print on. -/
def argumentEscapes (rules : PrintRules) : Nat → Text → Text × Bool
  | 0, text => (text, true)
  | _, [] => ([], true)
  | fuel + 1, '\\' :: rest =>
    match rest with
    | 'c' :: _ => ([], false)
    | '0' :: digits =>
      let (value, after) := octal 3 digits
      let (later, more) := argumentEscapes rules fuel after
      (byteChar value :: later, more)
    | _ =>
      let (shown, after) := escape rules rest
      let (later, more) := argumentEscapes rules fuel after
      (shown ++ later, more)
  | fuel + 1, char :: rest =>
    let (later, more) := argumentEscapes rules fuel rest
    (char :: later, more)

/-- What is printed of several arguments. Also says whether to print on. -/
def echoArguments (rules : PrintRules) : List Text → Text × Bool
  | [] => ([], true)
  | argument :: later =>
    let (shown, more) := argumentEscapes rules (argument.length + 1) argument
    if more && !later.isEmpty then
      let (rest, more) := echoArguments rules later
      (shown ++ ' ' :: rest, more)
    else (shown, more)

/-- What `echo` prints. -/
def echo (arguments : List Text) : Text :=
  let (newline, arguments) :=
    match arguments with
    | ['-', 'n'] :: others => (false, others)
    | others => (true, others)
  let (printed, more) := echoArguments {} arguments
  if newline && more then printed ++ ['\n'] else printed

/-- What is wrong with an argument that should be a number. -/
inductive NumberFault where
  | notNumeric
  | notConverted
  | outOfRange
  deriving DecidableEq, Repr

/-- Why a format cannot be used. -/
inductive FormatFault where
  | missingCharacter
  /-- The directive as it was written. -/
  | invalidDirective (directive : Text)
  deriving DecidableEq, Repr

/-- How far a format has been printed. -/
structure Printing where
  /-- What was printed, the last piece first. -/
  printed : List Text := []
  arguments : List Text
  /-- The arguments that should have been numbers, the last one first. -/
  complaints : List (Text × NumberFault) := []
  fault : Option FormatFault := none
  /-- Whether nothing more is printed. -/
  stopped : Bool := false

namespace Printing

def print (printing : Printing) (text : Text) : Printing :=
  { printing with printed := text :: printing.printed }

/-- The argument that comes next. -/
def takeArgument (printing : Printing) : Option Text × Printing :=
  (printing.arguments.head?, { printing with arguments := printing.arguments.tail })

def complain (printing : Printing) (argument : Text) (fault : NumberFault) : Printing :=
  { printing with complaints := (argument, fault) :: printing.complaints }

/-- Notes what is left of an argument of which a number was read. -/
def check (printing : Printing) (argument rest : Text) (inRange : Bool) : Printing :=
  if !rest.isEmpty then
    printing.complain argument (if rest.length = argument.length then .notNumeric else .notConverted)
  else if !inRange then printing.complain argument .outOfRange
  else printing

/-- The whole number that a text begins with, in base 16 or 8 if it begins so, and the text behind it. -/
def readInteger (text : Text) : Int × Text :=
  let unsigned := text.dropWhile isSpace
  let (negative, unsigned) :=
    match unsigned with
    | '-' :: rest => (true, rest)
    | '+' :: rest => (false, rest)
    | _ => (false, unsigned)
  let (base, digits) : Nat × Text :=
    match unsigned with
    | '0' :: mark :: digit :: rest =>
      if (mark = 'x' || mark = 'X') && digitValue digit < 16 then (16, digit :: rest) else (8, unsigned)
    | '0' :: _ => (8, unsigned)
    | _ => (10, unsigned)
  let isDigit (char : Char) : Bool := digitValue char < base
  let value := (digits.takeWhile isDigit).foldl (fun value char => value * base + digitValue char) 0
  if (digits.takeWhile isDigit).isEmpty then (0, text)
  else (if negative then -(value : Int) else value, digits.dropWhile isDigit)

/-- How many numbers there are of 64 bits. -/
def wordSize : Nat := 18446744073709551616

/-- The number that the next argument holds; a quote stands before a character whose number counts. -/
def takeInteger (printing : Printing) (signed : Bool) : Int × Printing :=
  match printing.takeArgument with
  | (none, printing) => (0, printing)
  | (some argument, printing) =>
    match argument with
    | '\x27' :: rest | '\x22' :: rest => ((rest.headD '\x00').toNat, printing)
    | _ =>
      let (value, rest) := readInteger argument
      if signed then
        let half : Int := wordSize / 2
        let bounded := max (-half) (min (half - 1) value)
        (bounded, printing.check argument rest (bounded = value))
      else if (wordSize : Int) ≤ value.natAbs then
        ((wordSize : Int) - 1, printing.check argument rest false)
      else (value.emod wordSize, printing.check argument rest true)

/-- The number with a fraction that the next argument holds. -/
def takeFloating (printing : Printing) (format : BinaryFormat) : Floating × Printing :=
  match printing.takeArgument with
  | (none, printing) => (.zero, printing)
  | (some argument, printing) =>
    match argument with
    | '\x27' :: rest | '\x22' :: rest => (format.ofNat (rest.headD '\x00').toNat, printing)
    | _ =>
      match format.read? (argument.dropWhile isSpace) with
      | some (value, rest, inRange) => (value, printing.check argument rest inRange)
      | none => (.zero, printing.check argument argument true)

/-- How many widths there are: of a larger number only the lowest bits count. -/
def widthCount : Nat := 4294967296

/-- Reads a width or a precision, which an asterisk takes from the arguments. -/
def takeSize (printing : Printing) (text : Text) : Option Int × Text × Printing :=
  match text with
  | '*' :: rest =>
    let (value, printing) := printing.takeInteger true
    (some (Int.bmod value widthCount), rest, printing)
  | _ =>
    let digits := text.takeWhile Char.isDigit
    let value : Nat := digits.foldl (fun value char => value * 10 + (char.toNat - '0'.toNat)) 0
    (if digits.isEmpty then none else some (value : Int), text.drop digits.length, printing)

/-- The conversion that a text behind a percent sign begins with, and the text from its letter on. -/
def takeConversion (printing : Printing) (text : Text) : Conversion × Text × Printing :=
  let flags := text.takeWhile Conversion.isFlag
  let (width, afterWidth, printing) := printing.takeSize (text.drop flags.length)
  let (precision, rest, printing) : Option Int × Text × Printing :=
    match afterWidth with
    | '.' :: rest =>
      let (precision, rest, printing) := printing.takeSize rest
      (some (precision.getD 0), rest, printing)
    | _ => (none, afterWidth, printing)
  let width := width.getD 0
  let conversion := flags.foldl Conversion.addFlag { width := width.natAbs }
  ({ conversion with
      leftAligned := conversion.leftAligned || width < 0
      precision := (precision.filter (0 ≤ ·)).map Int.toNat }, rest, printing)

/-- Prints the next argument under a conversion. -/
def convert (printing : Printing) (rules : PrintRules) (conversion : Conversion) (letter : Char)
    (directive : Text) : Printing :=
  match letter with
  | 's' =>
    let (argument, printing) := printing.takeArgument
    printing.print (conversion.text (argument.getD []))
  | 'b' =>
    let (argument, printing) := printing.takeArgument
    let argument := argument.getD []
    let (text, more) := argumentEscapes rules (argument.length + 1) argument
    { printing.print (conversion.text text) with stopped := !more }
  | 'c' =>
    let (argument, printing) := printing.takeArgument
    printing.print (conversion.pad [((argument.getD []).headD '\x00')])
  | _ =>
    if letter = 'd' || letter = 'i' then
      let (value, printing) := printing.takeInteger true
      printing.print (conversion.integer value)
    else if "ouxX".toList.contains letter then
      let (value, printing) := printing.takeInteger false
      printing.print (conversion.natural letter value.toNat)
    else if "aAeEfFgG".toList.contains letter then
      let (value, printing) := printing.takeFloating rules.numbers
      printing.print (conversion.floating rules.numbers letter value)
    else { printing with fault := some (.invalidDirective directive), stopped := true }

/-- Prints a format once, or what is left of it. -/
def run (rules : PrintRules) : Nat → Text → Printing → Printing
  | 0, _, printing => printing
  | _, [], printing => printing
  | fuel + 1, '\\' :: rest, printing =>
    let (shown, after) := escape rules rest
    run rules fuel after (printing.print shown)
  | fuel + 1, '%' :: '%' :: rest, printing => run rules fuel rest (printing.print ['%'])
  | fuel + 1, '%' :: rest, printing =>
    let (conversion, after, printing) := printing.takeConversion rest
    match after with
    | [] => { printing with fault := some .missingCharacter, stopped := true }
    | letter :: later =>
      let directive := '%' :: rest.take (rest.length - later.length)
      let printing := printing.convert rules conversion letter directive
      if printing.stopped then printing else run rules fuel later printing
  | fuel + 1, char :: rest, printing => run rules fuel rest (printing.print [char])

/-- Prints a format until no argument is left. It is given up if it does not use up any. -/
def runAll (rules : PrintRules) (format : Text) : Nat → Printing → Printing
  | 0, printing => printing
  | fuel + 1, printing =>
    let after := printing.run rules (format.length + 1) format
    if after.stopped || after.arguments.isEmpty || after.arguments.length = printing.arguments.length then
      after
    else runAll rules format fuel after

end Printing

/-- What comes of printing arguments under a format. -/
def printFormat (rules : PrintRules) (format : Text) (arguments : List Text) : Printing :=
  Printing.runAll rules format (arguments.length + 1) { arguments }

end Pipework.Shell
