import Pipework.Shell.Printing
import Pipework.Tool.Input
import Pipework.Tool.Option

set_option autoImplicit false

/-!
Printing under a format. The format is used again and again until no argument is left; what is wrong with an
argument is said where it is used.
-/

namespace Pipework.Tool

namespace Format

/-- The numbers with a fraction that formats deal with. -/
def numbers : BinaryFormat := .extended

def isHexDigit (char : Char) : Bool := (BinaryFormat.hexDigit? char).isSome

/-- The value of hexadecimal digits. -/
def hexValue (digits : Text) : Nat :=
  digits.foldl (fun value char => value * 16 + (BinaryFormat.hexDigit? char).getD 0) 0

/-- Letters behind a backslash that stand for a character. -/
def escapeLetters : List (Char × Char) := controlLetters.map (fun (char, letter) => (letter, char)) ++
  [('\x22', '\x22'), ('\\', '\\'), ('e', '\x1b')]

/-- A character that is given by its number. Only some can be shown; the others stay numbers. -/
def putCodePoint (letter : Char) (value : Nat) : Work Unit := do
  let digits (least : Nat) : Text :=
    let digits := Nat.toDigits 16 value
    List.replicate (least - digits.length) '0' ++ digits
  let shown := digits (if letter = 'u' then 4 else 8)
  let isBasic := value ≤ 0x9f && !([0x24, 0x40, 0x60].contains value)
  if isBasic || (0xd800 ≤ value && value ≤ 0xdfff) then
    Work.fail ("invalid universal character name \\".toList ++ letter :: shown)
  else if value < 128 then Work.put [Char.ofNat value]
  else
    let capital := (digits (if value < 0x10000 then 4 else 8)).map Char.toUpper
    Work.put ('\\' :: (if value < 0x10000 then 'u' else 'U') :: capital)

/-- Prints what an escape stands for, given the text behind the backslash. Gives the text behind the escape. In
arguments a zero may stand before octal digits. -/
def putEscape (inArgument : Bool) (text : Text) : Work Text := do
  let missing {α : Type} : Work α := Work.fail "missing hexadecimal number in escape".toList
  match text with
  | [] => do
    Work.put ['\\']
    return []
  | 'c' :: _ => Work.leaveWith 0
  | 'x' :: rest => do
    let digits := (rest.take 2).takeWhile isHexDigit
    if digits.isEmpty then missing
    Work.put [Char.ofNat (hexValue digits)]
    return rest.drop digits.length
  | letter :: rest => do
    if '0' ≤ letter && letter ≤ '7' then
      let (value, after) := Shell.octal 3 (if inArgument && letter = '0' then rest else text)
      Work.put [Shell.byteChar value]
      return after
    else
      match escapeLetters.lookup letter with
      | some char => do
        Work.put [char]
        return rest
      | none =>
        if letter = 'u' || letter = 'U' then do
          let count := if letter = 'u' then 4 else 8
          let digits := (rest.take count).takeWhile isHexDigit
          if digits.length < count then missing
          putCodePoint letter (hexValue digits)
          return rest.drop count
        else do
          Work.put ['\\', letter]
          return rest

/-- Prints an argument with its escapes replaced. -/
def putEscaped : Nat → Text → Work Unit
  | 0, _ | _, [] => return ()
  | fuel + 1, '\\' :: rest => do putEscaped fuel (← putEscape true rest)
  | fuel + 1, char :: rest => do
    Work.put [char]
    putEscaped fuel rest

/-- Complains about what is left of an argument of which a number was read. -/
def checkNumber (argument rest : Text) (inRange : Bool) : Work Unit := do
  if !inRange then Work.report (quoted argument ++ ": Numerical result out of range".toList)
  else if rest.isEmpty then return ()
  else if rest.length = argument.length then
    Work.report (quoted argument ++ ": expected a numeric value".toList)
  else Work.report (quoted argument ++ ": value not completely converted".toList)

/-- The number of the character behind a quote, if an argument holds one. -/
def quotedCharacter? (argument : Text) : Work (Option Nat) := do
  match argument with
  | quote :: char :: rest => do
    if quote = '\x27' || quote = '\x22' then do
      if !rest.isEmpty then
        Work.complain ("warning: ".toList ++ rest ++
          ": character(s) following character constant have been ignored".toList)
      return some char.toNat
    else return none
  | _ => return none

/-- The whole number in an argument, within the bounds of 64 bits. -/
def integerOf (signed : Bool) (argument : Text) : Work Int := do
  match ← quotedCharacter? argument with
  | some value => return value
  | none => do
    let (value, rest) := Shell.Printing.readInteger argument
    let size : Int := Shell.Printing.wordSize
    let (found, inRange) : Int × Bool :=
      if signed then
        let bounded := max (-(size / 2)) (min (size / 2 - 1) value)
        (bounded, bounded = value)
      else if size ≤ value.natAbs then (size - 1, false)
      else (value.emod size, true)
    checkNumber argument rest inRange
    return found

/-- The number with a fraction in an argument. -/
def floatingOf (argument : Text) : Work Floating := do
  match ← quotedCharacter? argument with
  | some value => return numbers.ofNat value
  | none => do
    let (value, rest, inRange) := (numbers.read? (argument.dropWhile isSpace)).getD (.zero, argument, true)
    checkNumber argument rest inRange
    return value

/-- Which letters may follow flags. -/
def allowedLetters (flags : Text) (hasPrecision : Bool) : Text :=
  let without (letters : String) (known : Text) : Text := known.filter fun letter => !letters.toList.contains letter
  flags.foldl (fun letters flag =>
    if flag = '\x27' || flag = 'I' then without "aAceEosxX" letters
    else if flag = '#' then without "cdisu" letters
    else if flag = '0' then without "cs" letters
    else letters) (if hasPrecision then "aAdeEfFgGiosuxX".toList else "aAcdeEfFgGiosuxX".toList)

/-- The largest width. -/
def sizeLimit : Int := 2147483647

/-- Reads a width or a precision, which an asterisk takes from the arguments. Gives what follows in the format and
the arguments that are left. -/
def takeSize (fault : String) (isValid : Int → Bool) (format : Text) (arguments : List Text) :
    Work (Option Int × Text × List Text) := do
  match format, arguments with
  | '*' :: rest, [] => return (some 0, rest, [])
  | '*' :: rest, argument :: later => do
    let value ← integerOf true argument
    if !isValid value then Work.fail (fault.toList ++ ": ".toList ++ quoted argument)
    return (some value, rest, later)
  | _, _ =>
    let digits := format.takeWhile isDigit
    return (if digits.isEmpty then none else some (digitsValue digits : Int), format.drop digits.length, arguments)

/-- Prints an argument under a conversion. -/
def putConverted (conversion : Conversion) (letter : Char) (argument : Text) : Work Unit := do
  match letter with
  | 's' => Work.put (conversion.text argument)
  | 'c' => Work.put (conversion.pad [argument.headD '\x00'])
  | _ =>
    if letter = 'd' || letter = 'i' then do
      let value ← integerOf true argument
      Work.put (conversion.integer value)
    else if "ouxX".toList.contains letter then do
      let value ← integerOf false argument
      Work.put (conversion.natural letter value.toNat)
    else do
      let value ← floatingOf argument
      Work.put (conversion.floating numbers letter value)

/-- Prints what a directive stands for, given the text behind the percent sign. Gives the text behind the directive
and the arguments that are left. -/
def putDirective (text : Text) (arguments : List Text) : Work (Text × List Text) := do
  match text with
  | '%' :: rest => do
    Work.put ['%']
    return (rest, arguments)
  | 'b' :: rest => do
    arguments.head?.forM fun argument => putEscaped (argument.length + 1) argument
    return (rest, arguments.tail)
  | 'q' :: rest => do
    arguments.head?.forM fun argument => Work.put (shellWord argument)
    return (rest, arguments.tail)
  | _ => do
    let flags := text.takeWhile fun char => Conversion.isFlag char || char = '\x27' || char = 'I'
    let (width, afterWidth, arguments) ←
      takeSize "invalid field width" (fun value => value.natAbs ≤ sizeLimit.natAbs) (text.drop flags.length) arguments
    let (precision, afterPrecision, arguments) ← match afterWidth with
      | '.' :: rest => do
        let (precision, rest, arguments) ← takeSize "invalid precision" (· ≤ sizeLimit) rest arguments
        pure (some (precision.getD 0), rest, arguments)
      | _ => pure ((none : Option Int), afterWidth, arguments)
    let rest := afterPrecision.dropWhile ("lLhjtz".toList.contains ·)
    let invalid {α : Type} (after : Text) : Work α :=
      Work.fail ('%' :: text.take (text.length - after.length) ++ ": invalid conversion specification".toList)
    match rest with
    | [] => invalid []
    | letter :: rest => do
      if !(allowedLetters flags precision.isSome).contains letter then invalid rest
      let width := width.getD 0
      let conversion := flags.foldl Conversion.addFlag { width := width.natAbs }
      putConverted
        { conversion with
          leftAligned := conversion.leftAligned || width < 0
          precision := (precision.filter (0 ≤ ·)).map Int.toNat }
        letter (arguments.headD [])
      return (rest, arguments.tail)

/-- Prints a format once, or what is left of it. Gives the arguments that are left. -/
def putOnce : Nat → Text → List Text → Work (List Text)
  | 0, _, arguments | _, [], arguments => return arguments
  | fuel + 1, '\\' :: rest, arguments => do putOnce fuel (← putEscape false rest) arguments
  | fuel + 1, '%' :: rest, arguments => do
    let (rest, arguments) ← putDirective rest arguments
    putOnce fuel rest arguments
  | fuel + 1, char :: rest, arguments => do
    Work.put [char]
    putOnce fuel rest arguments

/-- Prints a format until no argument is left, or until it does not use any. Gives those that are left. -/
def putAll (format : Text) : Nat → List Text → Work (List Text)
  | 0, arguments => return arguments
  | fuel + 1, arguments => do
    let left ← putOnce (format.length + 1) format arguments
    if left.isEmpty || left.length = arguments.length then return left
    else putAll format fuel left

end Format

/-- Prints arguments under a format. -/
def printf (arguments : List Text) : Work Unit := do
  match if arguments.head? = some ['-', '-'] then arguments.tail else arguments with
  | [] => Work.failUsage "missing operand".toList
  | format :: arguments => do
    match ← Format.putAll format (arguments.length + 1) arguments with
    | [] => return ()
    | argument :: _ =>
      Work.complain ("warning: ignoring excess arguments, starting with ".toList ++ quoted argument)

end Pipework.Tool
