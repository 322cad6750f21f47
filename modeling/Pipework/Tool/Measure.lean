import Pipework.Text.Conversion
import Pipework.Tool.Cut
import Pipework.Tool.Option
import Pipework.Tool.Quantity

set_option autoImplicit false

/-!
Numbers with units: they are read with a letter behind them that stands for a power, and written with one, rounded and
padded. The computation is that of a machine with mantissas of 64 bits.
-/

namespace Pipework.Tool.Measure

/-- What letters behind numbers mean. -/
inductive Scale where
  | none
  /-- Powers of 1024 if an `i` follows, of a thousand otherwise. -/
  | auto
  | thousand
  | binary
  /-- Powers of 1024 that have to be followed by an `i`. -/
  | markedBinary
  deriving DecidableEq, Repr

def Scale.base : Scale → Nat
  | binary | markedBinary => 1024
  | _ => 1000

def scaleWords : List (String × Scale) :=
  [("none", .none), ("auto", .auto), ("si", .thousand), ("iec", .binary), ("iec-i", .markedBinary)]

/-- Where a number goes that lies between two others. -/
inductive Direction where
  | up
  | down
  | away
  | toZero
  | nearest
  deriving DecidableEq, Repr

def directionWords : List (String × Direction) :=
  [("up", .up), ("down", .down), ("from-zero", .away), ("towards-zero", .toZero), ("nearest", .nearest)]

/-- What happens at a text that is no number. -/
inductive Invalid where
  | stop
  | fail
  | warn
  | ignore
  deriving DecidableEq, Repr

def invalidWords : List (String × Invalid) :=
  [("abort", .stop), ("fail", .fail), ("warn", .warn), ("ignore", .ignore)]

/-- The numbers that are computed with. -/
def format : BinaryFormat := .extended

namespace Machine

def ofNat (value : Nat) : Floating := format.ofNat value

/-- A power, multiplied together one by one. -/
def power (base : Nat) : Nat → Floating
  | 0 => ofNat 1
  | 1 => ofNat base
  | exponent + 1 => format.multiply (power base exponent) (ofNat base)

/-- Whether the size of a number reaches a bound. -/
def reaches (value : Floating) (bound : Nat) : Bool :=
  let fraction := value.toFraction
  bound * fraction.denominator ≤ fraction.numerator

/-- Divides by a base until the size is below it. Gives how often. -/
def normalize (base : Nat) : Nat → Floating → Floating × Nat
  | 0, value => (value, 0)
  | fuel + 1, value =>
    if reaches value base then
      let (rest, count) := normalize base fuel (format.divide value (ofNat base))
      (rest, count + 1)
    else (value, 0)

/-- The whole part, without a sign. -/
def truncate (value : Floating) : Nat :=
  let fraction := value.toFraction
  fraction.numerator / fraction.denominator

def ofInt (negative : Bool) (size : Nat) : Floating := (ofNat size).withSign negative

/-- The largest whole number of a machine. -/
def wordLimit : Nat := 9223372036854775807

/-- A number without its fraction. -/
def roundSmall (direction : Direction) (value : Floating) : Floating :=
  let fraction := value.toFraction
  let negative := fraction.negative && fraction.numerator ≠ 0
  let whole := truncate value
  let isWhole : Bool := fraction.numerator % fraction.denominator = 0
  let grows : Bool := match direction with
    | .up => !negative
    | .down => negative
    | .away => true
    | .toZero | .nearest => false
  let size := match direction with
    | .nearest =>
      let half : Floating := format.divide (ofNat 1) (ofNat 2)
      truncate (format.add (value.withSign false) half)
    | _ => if grows && !isWhole then whole + 1 else whole
  ofInt (negative && size ≠ 0) size

/-- A number without its fraction; what is beyond whole numbers of the machine is set aside meanwhile. -/
def round (direction : Direction) (value : Floating) : Floating :=
  let limit := ofNat wordLimit
  let times := truncate (format.divide value limit)
  let aside := format.multiply limit (ofInt value.isNegative times)
  let rest := if times = 0 then value else format.add value (aside.withSign (!aside.isNegative))
  if times = 0 then roundSmall direction rest else format.add aside (roundSmall direction rest)

end Machine

open Machine

/-- What is wrong with a number. -/
inductive Fault where
  | tooLarge
  | noNumber
  | forbiddenLetter
  | unknownLetter
  | missingMark
  deriving DecidableEq, Repr

def Fault.message (fault : Fault) (text : Text) : Text :=
  match fault with
  | tooLarge => "value too large to be converted: ".toList ++ quoted text
  | noNumber => "invalid number: ".toList ++ quoted text
  | forbiddenLetter => "rejecting suffix in input: ".toList ++ quoted text ++ " (consider using --from)".toList
  | unknownLetter => "invalid suffix in input: ".toList ++ quoted text
  | missingMark => "missing 'i' suffix in input: ".toList ++ quoted text ++ " (e.g Ki/Mi/Gi)".toList

/-- A number that was read. -/
structure Reading where
  value : Floating
  /-- How many digits stood behind the point. -/
  places : Nat := 0
  /-- Whether there were more digits than can be kept. -/
  isRough : Bool := false
  rest : Text := []

/-- How many digits are kept for certain, and how many there can be. -/
def exactDigits : Nat := 18
def mostDigits : Nat := 27

/-- Reads digits, of which there may be none only in front of a point. -/
def readWhole (text : Text) : Except Fault Reading :=
  let digits := text.takeWhile isDigit
  let rest := text.drop digits.length
  let significant := (digits.dropWhile (· = '0')).length
  if mostDigits < significant then .error .tooLarge
  else if digits.isEmpty && rest.head? ≠ some '.' then .error .noNumber
  else
    let value := digits.foldl (fun value digit =>
      format.add (format.multiply value (ofNat 10)) (ofNat (digitsValue [digit]))) (ofNat 0)
    .ok { value, isRough := exactDigits < significant, rest }

/-- Reads a number with a sign and a fraction. -/
def readDecimal (text : Text) : Except Fault Reading := do
  let negative : Bool := text.head? = some '-'
  let whole ← readWhole (if negative then text.tail else text)
  let signed (value : Floating) : Floating := value.withSign negative
  match whole.rest with
  | '.' :: rest => do
    let isNegative : Bool := rest.head? = some '-'
    let part ← readWhole (if isNegative then rest.tail else rest)
    if isNegative then throw .noNumber
    let places := rest.length - part.rest.length
    let fraction := format.divide part.value (power 10 places)
    let value := format.add (signed whole.value) (signed fraction)
    return { value, places, isRough := whole.isRough || part.isRough, rest := part.rest }
  | _ => return { whole with value := signed whole.value }

/-- The letters of powers. -/
def powerLetters : Text := "KMGTPEZY".toList

/-- Reads a number with a letter. -/
def readScaled (scale : Scale) (text : Text) : Except Fault Reading := do
  let reading ← readDecimal text
  if reading.rest.isEmpty then
    if scale = .markedBinary then throw .missingMark else return reading
  let rest := reading.rest.dropWhile isBlank
  let known : Option Nat := match rest with
    | [] => some 0
    | letter :: _ => (powerLetters.findIdx? (· = letter)).map (· + 1)
  match known with
  | none => throw .unknownLetter
  | some exponent =>
    if scale = .none then throw .forbiddenLetter
    let behind := rest.tail
    let (base, behind) : Nat × Text :=
      match scale, behind with
      | .auto, 'i' :: behind => (1024, behind)
      | _, _ => (scale.base, behind)
    let behind ← (match scale, behind with
      | .markedBinary, 'i' :: behind => .ok behind
      | .markedBinary, _ => .error .missingMark
      | _, behind => .ok behind : Except Fault Text)
    return { reading with
      value := format.multiply reading.value (power base exponent), places := 0, rest := behind }

/-- How numbers are read and written. -/
structure Style where
  fromScale : Scale := .none
  toScale : Scale := .none
  fromUnit : Nat := 1
  toUnit : Nat := 1
  direction : Direction := .away
  grouping : Bool := false
  width : Nat := 0
  leftAligned : Bool := false
  zeroWidth : Nat := 0
  /-- How many places stand behind the point. -/
  places : Option Nat := none
  ahead : Text := []
  behind : Text := []
  suffix : Text := []
  fields : Option (List PlaceRange) := none
  delimiter : Option Char := none
  last : Char := '\n'
  header : Nat := 0
  invalid : Invalid := .stop
  debugs : Bool := false
  formatText : Option Text := none

/-- The longest number that is written. -/
def lengthLimit : Nat := 127

namespace Style

/-- A finite number with a point and so many places. -/
def decimal (style : Style) (value : Floating) (places : Nat) : Text :=
  let conversion : Conversion :=
    { precision := some places, zeroFilled := style.zeroWidth ≠ 0, width := style.zeroWidth }
  conversion.floating format 'f' value

/-- Rounds a number to so many places. -/
def roundTo (style : Style) (value : Floating) (places : Nat) : Floating :=
  if places = 0 then Machine.round style.direction value
  else
    let factor := power 10 places
    format.divide (Machine.round style.direction (format.multiply value factor)) factor

/-- A number as it is written. -/
def write (style : Style) (value : Floating) (places : Nat) : Text :=
  if style.toScale = .none then style.decimal (style.roundTo value places) places
  else
    let base := style.toScale.base
    let (value, exponent) := normalize base 5000 value
    let adjusted := match style.places with
      | some places => min (exponent * 3) places
      | none => if reaches value 10 then 0 else 1
    let value := style.roundTo value adjusted
    let (value, exponent) : Floating × Nat :=
      if reaches value base then (format.divide value (ofNat base), exponent + 1) else (value, exponent)
    let showsPoint : Bool := !value.isZero && !reaches value 10 && 0 < exponent
    let shown := style.decimal value (style.places.getD (if showsPoint then 1 else 0))
    let letter := if exponent = 0 then [] else (powerLetters[exponent - 1]?).toList
    shown ++ letter ++ (if style.toScale = .markedBinary && 0 < exponent then ['i'] else [])

/-- Complains about a number, unless that is not wanted. -/
def complain (style : Style) (message : Text) : Work Unit := do
  match style.invalid with
  | .ignore => return ()
  | .stop => do
    Work.complain message
    Work.leaveWith 2
  | _ => Work.complain message

/-- A number in full for diagnostics. -/
def shownValue (value : Floating) : Text := ({} : Conversion).floating format 'g' value

/-- What a number looks like in the end, if it can be written. -/
def print? (style : Style) (width : Nat) (reading : Reading) : Work (Option Text) := do
  let places := style.places.getD reading.places
  let (_, digits) := normalize 10 5000 reading.value
  let shown := '\x27' :: shownValue reading.value
  if style.toScale = .none && exactDigits < digits + places then
    style.complain <|
      if places = 0 then
        "value too large to be printed: ".toList ++ shown ++ "' (consider using --to)".toList
      else
        "value/precision too large to be printed: ".toList ++ shown ++ '/' :: number places ++
          "' (consider using --to)".toList
    return none
  else if mostDigits - 1 < digits then
    style.complain ("value too large to be printed: ".toList ++ shown ++ "' (cannot handle values > 999Y)".toList)
    return none
  else
    let written := style.write reading.value places
    if lengthLimit < written.length then
      Work.fail ("failed to prepare value '".toList ++
        ({} : Conversion).floating format 'f' reading.value ++ "' for printing".toList)
    let written := (written ++ style.suffix).take lengthLimit
    return some (if style.leftAligned then padRight width written else padLeft width written)

/-- Converts a field. Gives what is put out for it, whether it was a number, and the width of what is written. -/
def convert (style : Style) (place width : Nat) (field : Text) : Work (Text × Bool × Nat) := do
  let field :=
    if style.suffix.length < field.length && style.suffix.isSuffixOf field then
      field.take (field.length - style.suffix.length)
    else field
  let text := field.dropWhile isBlank
  let adapts : Bool := style.width = 0 && style.delimiter.isNone
  let width := if !adapts then width else if text.length < field.length || 1 < place then field.length else 0
  let refuse (message : Text) : Work (Text × Bool × Nat) := do
    style.complain message
    return (field, false, width)
  match readScaled style.fromScale text with
  | .error fault => refuse (fault.message text)
  | .ok reading =>
    if !reading.rest.isEmpty then
      refuse ("invalid suffix in input ".toList ++ quoted text ++ ": ".toList ++ quoted reading.rest)
    else do
      if style.debugs && reading.isRough then
        Work.complain ("large input value ".toList ++ quoted text ++ ": possible precision loss".toList)
      let value :=
        if style.fromUnit = 1 && style.toUnit = 1 then reading.value
        else format.divide (format.multiply reading.value (ofNat style.fromUnit)) (ofNat style.toUnit)
      match ← style.print? width { reading with value } with
      | some shown => return (style.ahead ++ shown ++ style.behind, true, width)
      | none => return (field, false, width)

/-- Whether a field is converted. -/
def wants (style : Style) (place : Nat) : Bool :=
  match style.fields with
  | none => place = 1
  | some ranges => ranges.any (·.contains place)

/-- The first field of a line, and what follows it with the delimiter. -/
def takeField (style : Style) (line : Text) : Text × Text :=
  match style.delimiter with
  | some delimiter =>
    let field := line.takeWhile (· ≠ delimiter)
    (field, line.drop field.length)
  | none =>
    let separates (char : Char) : Bool := isBlank char || char = '\n'
    let blanks := line.takeWhile separates
    let word := (line.drop blanks.length).takeWhile (!separates ·)
    (blanks ++ word, line.drop (blanks.length + word.length))

/-- Converts the fields of a line. Gives whether all were numbers, and the width for the next one. -/
def convertLine (style : Style) : Nat → (place width : Nat) → Text → Work (Bool × Nat)
  | 0, _, width, _ => return (true, width)
  | fuel + 1, place, width, line => do
    let (field, rest) := style.takeField line
    let (shown, isNumber, width) ←
      if style.wants place then style.convert place width field else pure (field, true, width)
    Work.put shown
    match rest with
    | [] => return (isNumber, width)
    | _ :: rest => do
      Work.put [style.delimiter.getD ' ']
      let (others, width) ← style.convertLine fuel (place + 1) width rest
      return (isNumber && others, width)

/-- Converts lines. Gives whether all their fields were numbers. -/
def convertLines (style : Style) (lines : List (Text × Bool)) : Work Bool := do
  let (allNumbers, _) ← lines.foldlM (fun (state : Bool × Nat) (line, ends) => do
    let (isNumber, width) ← style.convertLine (line.length + 1) 1 state.2 line
    if ends then Work.put [style.last]
    return (state.1 && isNumber, width)) (true, style.width)
  return allNumbers

end Style

/-- What a format says. -/
structure FormatReading where
  ahead : Text := []
  behind : Text := []
  groups : Bool := false
  fillsZeros : Bool := false
  width : Option Int := none
  places : Option Nat := none

/-- Where a format has its directive, counted in characters and in steps. -/
def findDirective : Nat → Nat → Nat → Text → Option (Nat × Nat)
  | 0, _, _, _ => none
  | fuel + 1, place, steps, text =>
    match text with
    | [] => none
    | '%' :: '%' :: rest => findDirective fuel (place + 2) (steps + 1) rest
    | '%' :: _ => some (place, steps)
    | _ :: rest => findDirective fuel (place + 1) (steps + 1) rest

/-- The largest width that a number of a machine can tell. -/
def widthLimit : Nat := 9223372036854775807

/-- The whole number that a text begins with, and the text behind it. -/
def takeInteger (text : Text) : Option (Int × Text) :=
  let signed := text.dropWhile isSpace
  let (negative, unsigned) : Bool × Text :=
    match signed with
    | '-' :: rest => (true, rest)
    | '+' :: rest => (false, rest)
    | rest => (false, rest)
  let digits := unsigned.takeWhile isDigit
  if digits.isEmpty then none
  else
    let value : Int := digitsValue digits
    some (if negative then -value else value, unsigned.drop digits.length)

/-- Reads a format such as `%'10.2f`. -/
def readFormat (text : Text) : Work FormatReading := do
  let refuse {α : Type} (ahead behind : String) : Work α :=
    Work.fail (ahead.toList ++ quoted text ++ behind.toList)
  match findDirective (text.length + 1) 0 0 text with
  | none => refuse "format " " has no % directive"
  | some (place, steps) => do
    let rest := text.drop (place + 1)
    let flags := rest.takeWhile fun char => char = ' ' || char = '\x27' || char = '0'
    let rest := rest.drop flags.length
    let (width, rest) : Option Int × Text :=
      match takeInteger rest with
      | some (width, rest) => (some width, rest)
      | none => (none, rest)
    if width.any fun width => (widthLimit : Int) < width || width < -(widthLimit : Int) then
      refuse "invalid format " " (width overflow)"
    if rest.isEmpty then refuse "format " " ends in %"
    let (places, rest) ← match rest with
      | '.' :: rest =>
        match takeInteger rest with
        | some (places, behind) =>
          if places < 0 || (widthLimit : Int) < places || rest.head?.any (fun char => isBlank char || char = '+') then
            refuse "invalid precision in format " ""
          else pure (some places.toNat, behind)
        | none =>
          if rest.head?.any fun char => isBlank char || char = '+' then refuse "invalid precision in format " ""
          else pure (some 0, rest)
      | rest => pure (none, rest)
    match rest with
    | 'f' :: behind => do
      if (findDirective (behind.length + 1) 0 0 behind).isSome then refuse "format " " has too many % directives"
      return {
        ahead := text.take steps
        behind
        groups := flags.contains '\x27'
        fillsZeros := flags.contains '0'
        width
        places }
    | _ => refuse "invalid format " ", directive must be %[0]['][-][N][.][N]f"

/-- The size of a unit. -/
def readUnit (text : Text) : Work Nat := do
  let marked := text.getLast?.any fun char => !isDigit char
  let isBinary : Bool :=
    text.getLast? = some 'i' && 2 ≤ text.length && (text[text.length - 2]?).any fun char => !isDigit char
  let (given, letters) : Text × QuantityLetters :=
    if !marked then (text, { letters := "KMGTPEZY" })
    else if isBinary then (text.dropLast, { letters := "KMGTPEZY" })
    else (text ++ ['B'], { letters := "KMGTPEZY", hasBases := true })
  match readQuantity? letters given with
  | some reading =>
    if reading.rest.isEmpty && !reading.overflows && reading.value ≠ 0 then return reading.value
    else Work.fail ("invalid unit size: ".toList ++ quoted text)
  | none => Work.fail ("invalid unit size: ".toList ++ quoted text)

namespace Style

/-- Reads an option. -/
def noteOption (option : Given) : StateT Style Work Unit := do
  let text := option.argument.getD []
  let choose {α : Type} [DecidableEq α] (name : String) (words : List (String × α)) : StateT Style Work α :=
    liftM (chooseFrom name words text)
  match option.letter with
  | '\x01' => set { ← get with fromScale := ← choose "--from" scaleWords }
  | '\x02' => set { ← get with fromUnit := ← readUnit text }
  | '\x03' => set { ← get with toScale := ← choose "--to" (scaleWords.filter (·.1 ≠ "auto")) }
  | '\x04' => set { ← get with toUnit := ← readUnit text }
  | '\x05' => set { ← get with direction := ← choose "--round" directionWords }
  | '\x06' =>
    match takeInteger text with
    | some (width, []) =>
      if width = 0 || widthLimit < width.natAbs then
        liftM (Work.fail ("invalid padding value ".toList ++ quoted text) : Work Unit)
      else modify fun style =>
        { style with width := width.natAbs, leftAligned := style.leftAligned || width < 0 }
    | _ => liftM (Work.fail ("invalid padding value ".toList ++ quoted text) : Work Unit)
  | '\x07' => modify ({ · with suffix := text })
  | '\x08' => modify ({ · with grouping := true })
  | 'd' =>
    if 1 < text.length then
      liftM (Work.fail "the delimiter must be a single character".toList : Work Unit)
    else modify ({ · with delimiter := some (text.headD '\x00') })
  | '\x0b' =>
    if (← get).fields.isSome then
      liftM (Work.fail "multiple field specifications".toList : Work Unit)
    else if text = ['-'] then modify ({ · with fields := some [{ first := 1, last := none }] })
    else set { ← get with fields := some (← (PlaceKind.readRanges { isField := true } text : Work _)) }
  | '\x0c' | '\x0e' => modify ({ · with debugs := true })
  | '\x0f' =>
    match option.argument with
    | none => modify ({ · with header := 1 })
    | some text =>
      match readQuantity? {} text with
      | some reading =>
        if reading.rest.isEmpty && !reading.overflows && reading.value ≠ 0 then
          modify ({ · with header := reading.value })
        else liftM (Work.fail ("invalid header value ".toList ++ quoted text) : Work Unit)
      | none => liftM (Work.fail ("invalid header value ".toList ++ quoted text) : Work Unit)
  | '\x10' => modify ({ · with formatText := some text })
  | '\x11' => set { ← get with invalid := ← choose "--invalid" invalidWords }
  | 'z' => modify ({ · with last := '\x00' })
  | _ => return ()

/-- Takes on what a format says. -/
def addFormat (style : Style) (reading : FormatReading) : Work Style := do
  let style :=
    { style with
      ahead := reading.ahead, behind := reading.behind, places := reading.places
      grouping := style.grouping || reading.groups }
  match reading.width with
  | none | some 0 => return style
  | some width => do
    if style.debugs && style.width ≠ 0 && !(reading.fillsZeros && 0 < width) then
      Work.complain "--format padding overriding --padding".toList
    return if width < 0 then { style with leftAligned := true, width := width.natAbs }
      else if reading.fillsZeros then { style with zeroWidth := width.natAbs }
      else { style with width := width.natAbs }

end Style

/-- The options about numbers with units. -/
def options : OptionTable where
  letters := "d:z\x01:\x02:\x03:\x04:\x05:\x06:\x07:\x08\x0b:\x0c\x0e\x0f::\x10:\x11:"
  names :=
    [("from", '\x01'), ("from-unit", '\x02'), ("to", '\x03'), ("to-unit", '\x04'), ("round", '\x05'),
      ("padding", '\x06'), ("suffix", '\x07'), ("grouping", '\x08'), ("delimiter", 'd'), ("field", '\x0b'),
      ("debug", '\x0c'), ("-debug", '\x0e'), ("header", '\x0f'), ("format", '\x10'), ("invalid", '\x11'),
      ("zero-terminated", 'z')]

end Pipework.Tool.Measure

namespace Pipework.Tool

open Measure in
/-- Converts numbers with units. -/
def numfmt (arguments : List Text) : Work Unit := do
  let reading : StateT Style Work (List Given × List Text) := readOptionsWith Style.noteOption options arguments
  let ((_, operands), style) ← reading.run {}
  if style.formatText.isSome && style.grouping then
    Work.fail "--grouping cannot be combined with --format".toList
  let isIdle : Bool :=
    style.fromScale = .none && style.toScale = .none && !style.grouping && style.width = 0 &&
      style.formatText.isNone
  if style.debugs && isIdle then Work.complain "no conversion option specified".toList
  let style ← match style.formatText with
    | some text => do style.addFormat (← readFormat text)
    | none => pure style
  if style.grouping then
    if style.toScale ≠ .none then Work.fail "grouping cannot be combined with --to".toList
    if style.debugs then Work.complain "grouping has no effect in this locale".toList
  if style.debugs && style.header ≠ 0 && !operands.isEmpty then
    Work.complain "--header ignored with command-line input".toList
  let allNumbers ←
    if !operands.isEmpty then style.convertLines (operands.map fun operand => (operand, true))
    else
      match ← Work.readInput with
      | .ok text => do
        let lines := splitAfter style.last text
        (lines.take style.header).forM Work.put
        style.convertLines ((lines.drop style.header).map fun line =>
          (chompOf style.last line, line.getLast? = some style.last))
      | .error fault => do
        Work.complain (because "error reading input".toList fault.errno)
        pure true
  if style.debugs && !allNumbers then
    Work.complain "failed to convert some of the input numbers".toList
  if !allNumbers && style.invalid ≠ .warn && style.invalid ≠ .ignore then Work.leaveWith 2

end Pipework.Tool
