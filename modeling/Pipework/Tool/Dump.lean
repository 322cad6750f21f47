import Pipework.Text.Conversion
import Pipework.Tool.Option
import Pipework.Tool.Quantity

set_option autoImplicit false

/-!
Data shown in columns of numbers or characters. A block of bytes is shown in one line for each format that was
asked for, behind the place where it begins.
-/

namespace Pipework.Tool

open Kernel

/-- How a unit of data is shown. -/
inductive UnitStyle where
  | octal
  | hexadecimal
  | unsigned
  | signed
  /-- Characters, or backslashes and letters or octal digits for them. -/
  | character
  /-- Names of characters. -/
  | named
  | floating
  deriving DecidableEq, Repr

/-- A format in which data is shown. -/
structure UnitFormat where
  style : UnitStyle
  /-- How many bytes a unit has. -/
  size : Nat
  /-- Whether the bytes follow as characters. -/
  showsText : Bool := false
  deriving DecidableEq, Repr

namespace UnitFormat

/-- The width that is enough for all units. -/
def width (format : UnitFormat) : Nat :=
  match format.style with
  | .octal => (8 * format.size + 2) / 3
  | .hexadecimal => 2 * format.size
  | .unsigned => (toString (1 <<< (8 * format.size) - 1 : Nat)).length
  | .signed => (toString (1 <<< (8 * format.size - 1) : Nat)).length + 1
  | .character | .named => 3
  | .floating => if format.size = 4 then 15 else if format.size = 8 then 24 else 29

/-- The names of characters that cannot be seen. -/
def lowNames : List String :=
  ["nul", "soh", "stx", "etx", "eot", "enq", "ack", "bel", "bs", "ht", "nl", "vt", "ff", "cr", "so", "si",
    "dle", "dc1", "dc2", "dc3", "dc4", "nak", "syn", "etb", "can", "em", "sub", "esc", "fs", "gs", "rs",
    "us", "sp"]

/-- Digits to some base, filled up with zeros. -/
def digits (base width value : Nat) : Text :=
  let digits := Nat.toDigits base value
  List.replicate (width - digits.length) '0' ++ digits

/-- How floating numbers of so many bytes are stored: their format, how many bits their exponents have, whether the
highest bit of a mantissa is left out, and how many bytes count. -/
def storage (size : Nat) : BinaryFormat × Nat × Bool × Nat :=
  if size = 4 then (.single, 8, true, 4) else if size = 8 then (.double, 11, true, 8) else (.extended, 15, false, 10)

/-- The number of digits from which the shortest text of a number is searched on, and the number that is always
enough. -/
def digitRange (format : BinaryFormat) (value : Floating) : Nat × Nat :=
  let most := format.bits * 1000 / 3321 + 2
  match value with
  | .finite _ mantissa _ => (if mantissa < 1 <<< (format.bits - 1) then 1 else (format.bits - 1) * 1000 / 3322, most)
  | _ => (1, 1)

/-- The shortest text from which a number is read back, of at least so many digits. -/
def shortest (format : BinaryFormat) (value : Floating) : Nat → Nat → Text
  | 0, digits => Conversion.floating { precision := some digits } format 'g' value
  | fuel + 1, digits =>
    let shown := Conversion.floating { precision := some digits } format 'g' value
    match format.read? shown with
    | some (read, _, _) => if read.isEqual value then shown else shortest format value fuel (digits + 1)
    | none => shown

/-- The text of a floating number that is stored in some bytes, given as a whole number. -/
def spellFloating (size value : Nat) : Text :=
  let (format, exponentBits, hidesHighest, bytes) := storage size
  let found := format.ofBits exponentBits hidesHighest (value % (1 <<< (8 * bytes)))
  let (least, most) := digitRange format found
  shortest format found (most - least) least

/-- A unit, given its bytes with the lowest first. -/
def spell (format : UnitFormat) (unit : Text) : Text :=
  let value := unit.foldr (fun char value => char.toNat + 256 * value) 0
  match format.style with
  | .octal => digits 8 format.width value
  | .hexadecimal => digits 16 format.width value
  | .unsigned => number value
  | .signed =>
    if value < 1 <<< (8 * format.size - 1) then number value
    else '-' :: number (1 <<< (8 * format.size) - value)
  | .character =>
    let char := Char.ofNat value
    match [('\x00', '0'), ('\x07', 'a'), ('\x08', 'b'), ('\x0c', 'f'), ('\n', 'n'), ('\r', 'r'), ('\t', 't'),
      ('\x0b', 'v')].lookup char with
    | some letter => ['\\', letter]
    | none => if 32 ≤ value && value < 127 then [char] else digits 8 3 value
  | .floating => spellFloating format.size value
  | .named =>
    let code := value % 128
    if code = 127 then "del".toList
    else ((lowNames[code]?).map String.toList).getD [Char.ofNat code]

end UnitFormat

/-- How the places of data are shown. -/
inductive PlaceStyle where
  | hidden
  /-- In a base, with at least so many digits. -/
  | plain (base width : Nat)
  /-- In parentheses, moved so that the first one is a given number. -/
  | label (first skipped : Nat)
  /-- Plainly, and then moved. -/
  | both (base width first skipped : Nat)
  deriving DecidableEq, Repr

namespace PlaceStyle

/-- The width of places that are filled up with zeros. -/
def width : PlaceStyle → Nat
  | hidden => 0
  | plain _ width | both _ width _ _ => width
  | label _ _ => 7

/-- A place that is moved. -/
def moved (base width first skipped place : Nat) : Text :=
  '(' :: UnitFormat.digits base width ((first + place) - skipped) ++ [')']

/-- A place, with something behind it. -/
def render (style : PlaceStyle) (place : Nat) (after : Text) : Text :=
  match style with
  | hidden => []
  | plain base width => UnitFormat.digits base width place ++ after
  | label first skipped => moved 8 7 first skipped place ++ after
  | both base width first skipped =>
    UnitFormat.digits base width place ++ ' ' :: moved base width first skipped place ++ after

/-- The style in which places are moved as well. -/
def withLabel (first skipped : Nat) : PlaceStyle → PlaceStyle
  | plain base width => both base width first skipped
  | _ => label first skipped

end PlaceStyle

/-- How a dump is laid out. -/
structure DumpStyle where
  formats : List UnitFormat
  /-- How many bytes there are in a line. -/
  blockSize : Nat
  places : PlaceStyle
  /-- Whether repeated lines are shown. -/
  showsRepeated : Bool
  /-- Whether units begin with their highest bytes. -/
  highestFirst : Bool := false

namespace DumpStyle

/-- The least number of bytes that all units divide. -/
def unitSize (style : DumpStyle) : Nat := style.formats.foldl (fun size format => Nat.lcm size format.size) 1

/-- How many units of a format there are in a line. -/
def unitCount (style : DumpStyle) (format : UnitFormat) : Nat := style.blockSize / format.size

/-- The width of all units of a line, so that the formats stand below each other. -/
def lineWidth (style : DumpStyle) : Nat :=
  style.formats.foldl (fun width format => max width ((format.width + 1) * style.unitCount format)) 0

/-- The blanks that a format has to spend in a line. -/
def spareBlanks (style : DumpStyle) (format : UnitFormat) : Nat :=
  style.lineWidth - format.width * style.unitCount format

/-- Units with the blanks in front of each, down to a number of units that are left out. The blanks that are left are
counted down. -/
def showUnits (style : DumpStyle) (format : UnitFormat) (leftOut spare : Nat) : Nat → Text → Text
  | 0, _ => []
  | left + 1, text =>
    if left < leftOut then []
    else
      let unit := text.take format.size
      let unit := if style.highestFirst then unit.reverse else unit
      let nextSpare := style.spareBlanks format * left / style.unitCount format
      padLeft (spare - nextSpare + format.width) (format.spell unit) ++
        showUnits style format leftOut nextSpare left (text.drop format.size)

/-- The bytes of a line as characters, behind what the missing units would take. -/
def showText (style : DumpStyle) (format : UnitFormat) (leftOut : Nat) (block : Text) : Text :=
  let blanks := leftOut * format.width + style.spareBlanks format * leftOut / style.unitCount format
  let shown := block.map fun char => if ' ' ≤ char && char ≤ '~' then char else '.'
  List.replicate blanks ' ' ++ "  >".toList ++ shown ++ ['<']

/-- The lines for a block. A block that breaks off is filled up with zeros to whole units. -/
def showBlock (style : DumpStyle) (place : Nat) (block : Text) : Text :=
  let size := style.unitSize
  let missing := (size - block.length % size) % size
  let filled := block ++ List.replicate missing '\x00'
  (style.formats.zipIdx).flatMap fun (format, index) =>
    let leftOut := (style.blockSize - block.length) / format.size
    (if index = 0 then style.places.render place [] else List.replicate style.places.width ' ') ++
      style.showUnits format leftOut (style.spareBlanks format) (style.unitCount format) filled ++
      (if format.showsText then style.showText format leftOut block else []) ++ ['\n']

end DumpStyle

/-- The style of a letter in a format. -/
def unitStyle? : Char → Option UnitStyle
  | 'o' => some .octal
  | 'x' => some .hexadecimal
  | 'u' => some .unsigned
  | 'd' => some .signed
  | 'f' => some .floating
  | _ => none

/-- The sizes that letters stand for, and the one that stands without any. -/
def unitSizes (style : UnitStyle) : List (Char × Nat) × Nat :=
  if style = .floating then ([('F', 4), ('D', 8), ('L', 16)], 8) else ([('C', 1), ('S', 2), ('I', 4), ('L', 8)], 4)

/-- Reads the size behind a letter of a format. -/
def readUnitSize (whole : Text) (style : UnitStyle) (text : Text) : Except Text (Nat × Text) :=
  let (letters, usual) := unitSizes style
  match text.head?.bind (letters.lookup ·) with
  | some size => .ok (size, text.tail)
  | none =>
    let given := text.takeWhile isDigit
    let invalid := "invalid type string ".toList ++ quoted whole
    match natural? given with
    | none => .ok (usual, text)
    | some size =>
      if quantityLimit < size then .error invalid
      else if (letters.map Prod.snd).contains size then .ok (size, text.drop given.length)
      else
        let kind := if style = .floating then "floating point" else "integral"
        .error (invalid ++ ";\nthis system doesn't provide a ".toList ++ number size ++
          ("-byte " ++ kind ++ " type").toList)

/-- Reads formats such as `x1c`. -/
def readFormats (whole : Text) : Nat → Text → Except Text (List UnitFormat)
  | 0, _ => .ok []
  | _, [] => .ok []
  | fuel + 1, letter :: rest => do
    let finish (style : UnitStyle) (size : Nat) (rest : Text) : Except Text (List UnitFormat) := do
      let showsText := rest.head? = some 'z'
      let later ← readFormats whole fuel (if showsText then rest.tail else rest)
      return { style, size, showsText } :: later
    match letter, unitStyle? letter with
    | 'c', _ => finish .character 1 rest
    | 'a', _ => finish .named 1 rest
    | _, some style =>
      let (size, rest) ← readUnitSize whole style rest
      finish style size rest
    | _, none =>
      .error ("invalid character '".toList ++ letter :: "' in type string ".toList ++ quoted whole)

/-- The formats that single letters stand for. -/
def formatLetters : List (Char × UnitFormat) :=
  [('a', ⟨.named, 1, false⟩), ('b', ⟨.octal, 1, false⟩), ('c', ⟨.character, 1, false⟩),
    ('d', ⟨.unsigned, 2, false⟩), ('D', ⟨.unsigned, 4, false⟩), ('e', ⟨.floating, 8, false⟩),
    ('f', ⟨.floating, 4, false⟩), ('F', ⟨.floating, 8, false⟩), ('h', ⟨.hexadecimal, 2, false⟩),
    ('H', ⟨.hexadecimal, 4, false⟩), ('i', ⟨.signed, 4, false⟩), ('I', ⟨.signed, 8, false⟩),
    ('l', ⟨.signed, 8, false⟩), ('L', ⟨.signed, 8, false⟩), ('o', ⟨.octal, 2, false⟩),
    ('O', ⟨.octal, 4, false⟩), ('B', ⟨.octal, 2, false⟩), ('s', ⟨.signed, 2, false⟩),
    ('x', ⟨.hexadecimal, 2, false⟩), ('X', ⟨.hexadecimal, 4, false⟩)]

/-- The formats that an option asks for. -/
def formatsOf (option : Given) : Except Text (List UnitFormat) :=
  match option.letter, option.argument with
  | 't', some text => readFormats text (text.length + 1) text
  | letter, _ => .ok ((formatLetters.lookup letter).toList)

/-- How places are shown. -/
def placesOf (given : List Given) : PlaceStyle :=
  match ((argumentOf? given 'A').bind List.head?).getD 'o' with
  | 'd' => .plain 10 7
  | 'x' => .plain 16 6
  | 'n' => .hidden
  | _ => .plain 8 7

/-- The letters behind counts of bytes, which may be written to any base. -/
def dumpLetters : QuantityLetters where
  letters := "bEGKkMmPTYZ"
  hasBases := true
  readsPrefixes := true

/-- Which of two ends of a unit comes first, by its name. -/
def byteOrders : List (String × Bool) := [("little", false), ("big", true)]

/-- The number that an option gives. -/
def countArgument (given : List Given) (letter : Char) : Option Nat :=
  ((argumentOf? given letter).bind (readQuantity? dumpLetters)).map QuantityReading.value

/-- The fewest characters of a string, if no number is given. -/
def usualStringSize : Nat := 3

/-- The bytes of a line that is to be wide. -/
def wideBlockSize : Nat := 32

def odNames : List (String × Char) :=
  [("skip-bytes", 'j'), ("address-radix", 'A'), ("read-bytes", 'N'), ("format", 't'), ("output-duplicates", 'v'),
    ("strings", '\x01'), ("traditional", '\x02'), ("width", 'w'), ("endian", '\x03')]

def odOptions : OptionTable where
  letters := "A:aBbcDdeFfHhIij:LlN:OoS:st:vw::Xx\x01::\x02\x03:"
  names := odNames

/-- Makes sure of an option by itself. A format that cannot be read is no reason to stop at once. -/
def checkDumpOption (option : Given) : Work Unit := do
  let checkCount (shown : String) (known : QuantityLetters) (text : Text) : Work Unit :=
    match readQuantity? known text with
    | some { overflows := false, rest := [], .. } => return ()
    | reading => failQuantity shown.toList reading text
  match option.letter, option.argument with
  | 'A', some radix =>
    if !(radix.head?.any "doxn".toList.contains) then
      Work.fail ("invalid output address radix '".toList ++ [radix.headD '\x00'] ++
        "'; it must be one character from [doxn]".toList)
  | 'j', some text => checkCount "-j" dumpLetters text
  | 'N', some text => checkCount "-N" dumpLetters text
  | 'S', some text => checkCount "-S" dumpLetters text
  | '\x01', some text => checkCount "--strings" dumpLetters text
  | 'w', some text => checkCount "-w" {} text
  | '\x03', some text =>
    let _ ← chooseFrom "--endian" byteOrders text
  | _, _ =>
    match formatsOf option with
    | .ok _ => return ()
    | .error complaint => Work.report complaint

/-- An offset as it stands behind operands: an octal number, unless it begins like a hexadecimal one. -/
def oldOffset? (text : Text) : Option Nat :=
  let text := if text.head? = some '+' then text.tail else text
  let (base, digits) : Nat × Text :=
    match text with
    | '0' :: mark :: rest => if mark = 'x' || mark = 'X' then (16, rest) else (8, text)
    | _ => (8, text)
  let isDigit (char : Char) : Bool := ((BinaryFormat.hexDigit? char).getD 16) < base
  let given := digits.takeWhile isDigit
  if given.isEmpty then none
  else
    let value := given.foldl (fun value char => value * base + (BinaryFormat.hexDigit? char).getD 0) 0
    match digits.drop given.length with
    | [] => some value
    | ['b'] => some (value * 512)
    | ['B'] => some (value * 1024)
    | _ => none

/-- What operands say: the files, how many bytes are skipped, and the number of the first place that is shown. -/
structure DumpOperands where
  files : List Text
  skipped : Option Nat := none
  label : Option Nat := none

/-- Takes offsets from the operands. -/
def dumpOperands (inOldStyle : Bool) (operands : List Text) : DumpOperands :=
  let isOffset (text : Text) (orDigit : Bool) : Bool :=
    inOldStyle || text.head? = some '+' || (orDigit && text.head?.any isDigit)
  match operands with
  | [first] =>
    match oldOffset? first, isOffset first false with
    | some offset, true => { files := [], skipped := some offset }
    | _, _ => { files := operands }
  | [first, second] =>
    match oldOffset? second, isOffset second true with
    | some offset, true =>
      match oldOffset? first, inOldStyle with
      | some skipped, true => { files := [], skipped := some skipped, label := some offset }
      | _, _ => { files := [first], skipped := some offset }
    | _, _ => { files := operands }
  | [first, second, third] =>
    match oldOffset? second, oldOffset? third, inOldStyle with
    | some skipped, some label, true => { files := [first], skipped := some skipped, label := some label }
    | _, _, _ => { files := operands }
  | _ => { files := operands }

/-- What is left to read: the file that is open, with its name, and the operands behind it. -/
structure DumpInput where
  current : Option (Nat × Text) := none
  operands : List Text
  /-- What was read and is not used yet. -/
  pending : Text := []
  /-- Whether no more is read than is used. -/
  exact : Bool

namespace DumpInput

/-- Goes on to the next operand that can be opened. -/
def advance (input : DumpInput) : List Text → Work DumpInput
  | [] => return { input with current := none, operands := [] }
  | operand :: later => do
    if operand = inputOperand then
      modify ({ · with usesInput := true })
      return { input with current := some (0, "standard input".toList), operands := later }
    else
      match ← Work.openAside operand .read with
      | .ok descriptor => return { input with current := some (descriptor, operand), operands := later }
      | .error errno => do
        Work.report (because (shownName operand) errno)
        advance input later

/-- Gives up the file that is open, and goes on to the next one. -/
def next (input : DumpInput) : Work DumpInput := do
  input.current.forM fun (descriptor, _) => if descriptor ≠ 0 then Work.tell (.close descriptor) else return ()
  input.advance input.operands

/-- Reads until so many bytes are there, or nothing is left. -/
def gather (needed : Nat) : Nat → DumpInput → Work DumpInput
  | 0, input => return input
  | fuel + 1, input => do
    let missing := needed - input.pending.length
    match input.current with
    | none => return input
    | some (descriptor, name) =>
      if missing = 0 then return input
      else
        match ← Work.ask (.read descriptor (if input.exact then missing else readSize)) with
        | .data (byte :: bytes) =>
          gather needed fuel { input with pending := input.pending ++ Bytes.toChars (byte :: bytes) }
        | .failed .interrupted => gather needed fuel input
        | .failed errno => do
          Work.report (because (shownName name) errno)
          gather needed fuel (← input.next)
        | _ => do gather needed fuel (← input.next)

/-- Takes up to so many bytes. -/
def take (input : DumpInput) (count : Nat) : Work (Text × DumpInput) := do
  let input ← input.gather count stepLimit
  return (input.pending.take count, { input with pending := input.pending.drop count })

/-- Passes over bytes. Where it makes no difference what is read, that needs no reading. Gives whether there were
enough of them. -/
def skip (input : DumpInput) (count : Nat) : Work (Bool × DumpInput) := do
  let kind : Option FileKind ← match input.current with
    | none => pure none
    | some (descriptor, _) =>
      match ← Work.ask (.query (.descriptor descriptor)) with
      | .facts facts => pure (some facts.kind)
      | _ => pure none
  if kind = some .directory || kind = some .device then return (true, input)
  else
    let (passed, input) ← input.take count
    return (passed.length = count, input)

end DumpInput

/-- Shows blocks up to the end of the input, or up to a given number of bytes. A block that equals the one before it is
left out, with a mark for one or several of them. -/
def DumpStyle.putBlocks (style : DumpStyle) :
    Nat → (place : Nat) → (left : Option Nat) → (before : Option Text) → (marked : Bool) → DumpInput → Work Unit
  | 0, _, _, _, _, _ => return ()
  | fuel + 1, place, left, before, marked, input => do
    let (block, input) ← input.take (min style.blockSize (left.getD style.blockSize))
    let next := place + block.length
    let isWhole : Bool := block.length = style.blockSize
    let repeated := !style.showsRepeated && isWhole && before = some block
    if repeated then
      if !marked then Work.put ['*', '\n']
    else if !block.isEmpty then Work.put (style.showBlock place block)
    if isWhole then
      putBlocks style fuel next (left.map (· - block.length)) (some block) repeated input
    else Work.put (style.places.render next ['\n'])

/-- A string, with escapes for characters that cannot be seen. -/
def shownString (text : Text) : Text :=
  text.flatMap fun char =>
    match controlLetters.lookup char with
    | some letter => ['\\', letter]
    | none => [char]

/-- Shows strings of at least so many characters that can be seen and a zero byte behind them. `found` holds the
characters that came last, the latest first, and `left` says how many bytes may still be read. -/
def DumpStyle.putStrings (style : DumpStyle) (least : Nat) :
    Nat → (place : Nat) → (left : Option Nat) → (found : Text) → DumpInput → Work Unit
  | 0, _, _, _, _ => return ()
  | fuel + 1, place, left, found, input => do
    let print (start : Nat) : Work Unit :=
      Work.put (style.places.render start [' '] ++ shownString found.reverse ++ ['\n'])
    if found.isEmpty && left.any (· ≤ least) then return ()
    else if least ≤ found.length && left = some 0 then print (place - found.length - 1)
    else
      let (bytes, input) ← input.take 1
      match bytes with
      | [] => return ()
      | char :: _ =>
        let left := left.map (· - 1)
        if ' ' ≤ char && char ≤ '~' then putStrings style least fuel (place + 1) left (char :: found) input
        else do
          if char = '\x00' && least ≤ found.length then print (place - found.length)
          putStrings style least fuel (place + 1) left [] input

/-- How many bytes a line has if nothing is said about it. -/
def usualBlockSize (unitSize : Nat) : Nat := if unitSize < 16 then unitSize * (16 / unitSize) else unitSize

/-- Shows data in columns. -/
def od (arguments : List Text) : Work Unit := do
  let (given, operands) ← readOptionsWith checkDumpOption odOptions arguments
  if (← get).status ≠ 0 then Work.leave
  let formats := given.flatMap fun option => (formatsOf option).toOption.getD []
  let strings := lastOf? given ['S', '\x01']
  if strings.isSome && !formats.isEmpty then
    Work.fail "no type may be specified when dumping strings".toList
  let isModern := given.any fun option => "AjNStvw\x01".toList.contains option.letter
  let inOldStyle := hasLetter given '\x02'
  let described : DumpOperands :=
    if isModern && !inOldStyle then { files := operands } else dumpOperands inOldStyle operands
  match described.files with
  | _ :: extra :: _ =>
    if inOldStyle then
      Work.complain ("extra operand ".toList ++ quoted extra)
      Work.failUsage "compatibility mode supports at most one file".toList
  | _ => pure ()
  let skipped := described.skipped.getD ((countArgument given 'j').getD 0)
  let limit := countArgument given 'N'
  if limit.any fun limit => quantityLimit < skipped + limit then
    Work.fail "skip-bytes + read-bytes is too large".toList
  let formats := if formats.isEmpty then [⟨.octal, 2, false⟩] else formats
  let places := placesOf given
  let style : DumpStyle :=
    { formats, blockSize := 0
      places := match described.label with
        | some first => places.withLabel first skipped
        | none => places
      showsRepeated := hasLetter given 'v'
      highestFirst := ((argumentOf? given '\x03').map fun text => meaningsOf byteOrders text) = some [true] }
  let input : DumpInput := { operands := [], exact := limit.isSome && strings.isNone }
  let input ← input.advance (if described.files.isEmpty then [inputOperand] else described.files)
  if input.current.isSome then
    let (passed, input) ← input.skip skipped
    if !passed then Work.fail "cannot skip past end of combined input".toList
    let size := style.unitSize
    let wanted := if hasLetter given 'w' then
        some (((argumentOf? given 'w').bind (readQuantity? {})).map QuantityReading.value |>.getD wideBlockSize)
      else none
    let width ← match wanted with
      | none => pure (usualBlockSize size)
      | some width =>
        if width ≠ 0 && width % size = 0 then pure width
        else do
          Work.complain ("warning: invalid width ".toList ++ number width ++ "; using ".toList ++ number size ++
            " instead".toList)
          pure size
    let style := { style with blockSize := width }
    match strings with
    | none => style.putBlocks stepLimit skipped limit none false input
    | some letter =>
      style.putStrings ((countArgument given letter).getD usualStringSize) stepLimit skipped limit [] input
  Work.closeInput "standard input"

end Pipework.Tool
