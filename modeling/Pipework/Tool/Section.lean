import Pipework.Regex.Syntax
import Pipework.Text.Conversion
import Pipework.Tool.Option
import Pipework.Tool.Path
import Pipework.Tool.Quantity

set_option autoImplicit false

/-!
The division of a file into sections, which end before lines with given numbers or before lines that match.
-/

namespace Pipework.Tool

open Kernel

namespace Section

/-- Before which line a section ends. -/
inductive Mark where
  | line (number : Nat)
  /-- The line at some distance from one that matches. What is skipped becomes no section. -/
  | found (regex : Regex) (offset : Int) (skips : Bool)

/-- A mark, as often as it is wanted. -/
structure Step where
  argument : Text
  mark : Mark
  /-- How often the mark is used again; without an end if this is missing. -/
  repeats : Option Nat := some 0

/-- Reads a mark that is a regular expression between delimiters, with an offset behind them. -/
def readFound (delimiter : Char) (argument : Text) : Work Mark := do
  let body := argument.tail
  let behind := (body.reverse.takeWhile (· ≠ delimiter)).reverse
  if behind.length = body.length then
    Work.fail (argument ++ ": closing delimiter '".toList ++ delimiter :: "' missing".toList)
  match Regex.read false (body.take (body.length - behind.length - 1)) with
  | .error fault =>
    Work.fail (quoted argument ++ ": invalid regular expression: ".toList ++ fault.message.toList)
  | .ok (regex, _) => do
    let found (offset : Int) : Mark := .found regex offset (delimiter = '%')
    if behind.isEmpty then return found 0
    else
      match signed? behind with
      | some offset => return found offset
      | none => Work.fail (quoted argument ++ ": integer expected after delimiter".toList)

/-- Reads a mark that is the number of a line; the numbers may not fall. -/
def readLine (last : Nat) (argument : Text) : Work Nat := do
  match readQuantity? {} argument with
  | some { value, overflows := false, rest := [] } => do
    if value = 0 then Work.fail (argument ++ ": line number must be greater than zero".toList)
    if value < last then
      Work.fail ("line number ".toList ++ quoted argument ++ " is smaller than preceding line number, ".toList ++
        number last)
    if value = last then
      Work.complain ("warning: line number ".toList ++ quoted argument ++
        " is the same as preceding line number".toList)
    return value
  | _ => Work.fail (quoted argument ++ ": invalid pattern".toList)

/-- Reads how often a mark is used again. -/
def readRepeats (argument : Text) : Work (Option Nat) := do
  if argument.getLast? ≠ some '\x7d' then
    Work.fail (quoted argument ++ ": '\x7d' is required in repeat count".toList)
  let inside := argument.tail.dropLast
  if inside = ['*'] then return none
  else
    match readQuantity? {} inside with
    | some { value, overflows := false, rest := [] } => return some value
    | _ => Work.fail (quoted argument.dropLast ++ "\x7d: integer required between '\x7b' and '\x7d'".toList)

/-- Reads a mark. Also gives the number of the last line that was told. -/
def readMark (last : Nat) (argument : Text) : Work (Mark × Nat) := do
  match argument with
  | '/' :: _ | '%' :: _ => return (← readFound (argument.headD '/') argument, last)
  | _ => do
    let value ← readLine last argument
    return (.line value, value)

/-- Reads marks. -/
def readSteps : (last : Nat) → List Text → Work (List Step)
  | _, [] => return []
  | last, argument :: ('\x7b' :: count) :: later => do
    let (mark, last) ← readMark last argument
    let repeats ← readRepeats ('\x7b' :: count)
    return { argument, mark, repeats } :: (← readSteps last later)
  | last, argument :: later => do
    let (mark, last) ← readMark last argument
    return { argument, mark } :: (← readSteps last later)

/-- Gives up at a suffix that is no format for one number. -/
def failSuffix {α : Type} (what : Text) : Work α := Work.fail (what ++ " in suffix".toList)

/-- A suffix around a number. -/
structure Suffix where
  before : Text := []
  conversion : Conversion := { zeroFilled := true, width := 2 }
  letter : Char := 'd'
  after : Text := []

/-- The suffix for a number. -/
def Suffix.render (suffix : Suffix) (index : Nat) : Text :=
  suffix.before ++ suffix.conversion.natural suffix.letter index ++ suffix.after

/-- Text in which two percent signs stand for one, and what follows from a single one on. -/
def untilConversion : Text → Text × Text
  | '%' :: '%' :: later => ((untilConversion later).map ('%' :: ·) id)
  | '%' :: later => ([], '%' :: later)
  | char :: later => ((untilConversion later).map (char :: ·) id)
  | [] => ([], [])

/-- Reads a format for suffixes. -/
def readSuffix (format : Text) : Work Suffix := do
  let (before, rest) := untilConversion format
  if rest.isEmpty then failSuffix "missing % conversion specification".toList
  let isFlag (char : Char) : Bool := "-0'#".toList.contains char
  let flags := rest.tail.takeWhile isFlag
  let rest := rest.tail.drop flags.length
  let width := rest.takeWhile isDigit
  let rest := rest.drop width.length
  let (precision, rest) : Option Nat × Text :=
    match rest with
    | '.' :: digits => (some (digitsValue (digits.takeWhile isDigit)), digits.dropWhile isDigit)
    | _ => (none, rest)
  match rest with
  | [] => failSuffix "missing conversion specifier".toList
  | letter :: after => do
    if !"diuoxX".toList.contains letter then
      let shown : Text :=
        if isShowable letter then [letter]
        else '\\' :: { zeroFilled := true, width := 3 : Conversion }.natural 'o' letter.toNat
      Work.fail ("invalid conversion specifier in suffix: ".toList ++ shown)
    let isDecimal : Bool := "diu".toList.contains letter
    let refused := if isDecimal then '#' else '\x27'
    if flags.contains refused then
      Work.fail ("invalid flags in conversion specification: %".toList ++ [refused, letter])
    let (after, further) := untilConversion after
    if !further.isEmpty then failSuffix "too many % conversion specifications".toList
    return {
      before, after, letter
      conversion := { flags.foldl Conversion.addFlag {} with width := digitsValue width, precision } }

/-- What the options say. -/
structure Wish where
  start : Text := ['x', 'x']
  suffix : Suffix := {}
  keeps : Bool := false
  isQuiet : Bool := false
  omitsEmpty : Bool := false
  /-- Whether the lines at which sections end are left out. -/
  omitsMarks : Bool := false

/-- How far a division has come. -/
structure Course where
  lines : Array Text
  /-- Why there are no further lines, if reading has failed. -/
  failure : Option Errno := none
  /-- How many lines were taken. -/
  taken : Nat := 0
  /-- The number of the line that was looked at last. -/
  current : Nat := 0
  /-- How many sections there are. -/
  count : Nat := 0
  /-- The section that is being written, with its descriptor. -/
  written : Option (Nat × List Text) := none

/-- The work of a division. -/
abbrev Division := ReaderT Wish (StateT Course Work)

/-- The name of a section. -/
def nameOf (wish : Wish) (index : Nat) : Text := wish.start ++ wish.suffix.render index

/-- Ends a section. -/
def close : Division Unit := do
  let wish ← read
  match (← get).written with
  | none => return ()
  | some (descriptor, lines) => do
    let text := lines.reverse.flatten
    let name := nameOf wish ((← get).count - 1)
    modify ({ · with written := none })
    match ← (Work.writeAll descriptor (text.length + 1) (Bytes.ofChars text) : Work _) with
    | some errno => (Work.report (because (shownName name) errno) : Work Unit)
    | none => pure ()
    (Work.tell (.close descriptor) : Work Unit)
    if text.isEmpty && wish.omitsEmpty then
      let _ ← (Work.edit (.remove (Bytes.ofChars name)) : Work _)
      modify fun course => { course with count := course.count - 1 }
    else if !wish.isQuiet then (Work.putLine (number text.length) : Work Unit)

/-- Removes all sections, unless they are kept. -/
def discard : Division Unit := do
  let wish ← read
  if !wish.keeps then
    (List.range (← get).count).forM fun index => do
      match ← (Work.edit (.remove (Bytes.ofChars (nameOf wish index))) : Work _) with
      | some errno => (Work.report (because (shownName (nameOf wish index)) errno) : Work Unit)
      | none => pure ()

/-- Gives up. -/
def abandon {α : Type} (message : Text) : Division α := do
  (Work.report message : Work Unit)
  close
  discard
  (Work.leave : Work α)

/-- Gives up if the input could not be read any further. -/
def needInput : Division Unit := do
  match (← get).failure with
  | some errno => abandon (because "read error".toList errno)
  | none => return ()

/-- The line with a number, if there are so many. -/
def lineAt? (index : Nat) : Division (Option Text) := do
  match (← get).lines[index - 1]? with
  | some line => return some line
  | none => do
    needInput
    return none

/-- Takes a line. -/
def takeLine? : Division (Option Text) := do
  let course ← get
  match ← lineAt? (course.taken + 1) with
  | none => return none
  | some line => do
    let taken := course.taken + 1
    set { course with taken, current := max course.current taken }
    return some line

/-- Begins a section. -/
def start : Division Unit := do
  let course ← get
  let name := nameOf (← read) course.count
  match ← (Work.openAside name .replace : Work _) with
  | .error errno => abandon (because (shownName name) errno)
  | .ok descriptor => set { course with count := course.count + 1, written := some (descriptor, []) }

/-- Adds a line to a section. -/
def save (line : Text) : Division Unit :=
  modify fun course =>
    { course with written := course.written.map fun (descriptor, lines) => (descriptor, line :: lines) }

/-- Adds all lines that are left to a section. -/
def saveRest : Division Unit := do
  needInput
  let course ← get
  let rest := course.lines.toList.drop course.taken
  set { course with
    taken := course.lines.size
    current := max course.current course.lines.size
    written := course.written.map fun (descriptor, lines) => (descriptor, rest.reverse ++ lines) }

/-- Where a fault was met among the uses of a mark. -/
def atUse (use : Nat) : Text := if use = 0 then [] else " on repetition ".toList ++ number use

/-- Takes lines as long as their numbers are below a limit. -/
def saveUntil (refuse : Division Unit) (limit : Nat) (saves : Bool) : Nat → Nat → Division Unit
  | 0, _ => return ()
  | fuel + 1, next => do
    if next < limit then
      match ← takeLine? with
      | none => refuse
      | some line => do
        if saves then save line
        saveUntil refuse limit saves fuel (next + 1)

/-- The number of the first line that is left. -/
def firstLeft : Division Nat := do
  let course ← get
  if (← lineAt? (course.taken + 1)).isNone then (Work.fail "input disappeared".toList : Work Unit)
  return course.taken + 1

/-- A section that ends before the line with some number, or a multiple of it. -/
def endAtLine (line use : Nat) : Division Unit := do
  let wish ← read
  let outside : Division Unit :=
    abandon (quoted (number line) ++ ": line number out of range".toList ++ atUse use)
  let isOver : Division Bool := do return (← lineAt? ((← get).current + 1)).isNone
  start
  if wish.omitsMarks then
    if ← isOver then outside
  let first ← firstLeft
  saveUntil outside (line * (use + 1)) true ((← get).lines.size + 1) first
  close
  if wish.omitsMarks then
    let _ ← takeLine?
  else if ← isOver then outside

/-- Goes on to a line that matches. Lines on the way are taken if they need not be kept. Tells whether there is such
a line. -/
def seek (regex : Regex) (takes saves : Bool) : Nat → Division Bool
  | 0 => return false
  | fuel + 1 => do
    modify fun course => { course with current := course.current + 1 }
    match ← lineAt? (← get).current with
    | none => return false
    | some line => do
      if regex.occursIn {} (chomp line) then return true
      else
        if takes then
          match ← takeLine? with
          | some line => if saves then save line
          | none => pure ()
        seek regex takes saves fuel

/-- A section that ends at some distance from a line that matches. Tells whether the mark can be used again. -/
def endAtFound (step : Step) (regex : Regex) (offset : Int) (skips : Bool) (use : Nat) : Division Unit := do
  let wish ← read
  let outside : Division Unit := abandon (quoted step.argument ++ ": line number out of range".toList)
  if !skips then start
  if ← seek regex (0 ≤ offset) (!skips) ((← get).lines.size + 1) then
    let goal := ((← get).current : Int) + offset
    let first ← firstLeft
    if goal < first then outside
    saveUntil outside goal.toNat (!skips) ((← get).lines.size + 1) first
    if !skips then close
    if 0 < offset then modify ({ · with current := goal.toNat })
    if wish.omitsMarks then
      let _ ← takeLine?
  else
    if step.repeats.isSome then
      (Work.report (quoted step.argument ++ ": match not found".toList ++ atUse use) : Work Unit)
    if !skips then
      saveRest
      close
    if step.repeats.isSome then discard
    (Work.leave : Work Unit)

/-- Uses a mark as often as is wanted; every use takes lines or is the last one. -/
def useStep (step : Step) : Nat → Nat → Division Unit
  | 0, _ => return ()
  | fuel + 1, use => do
    match step.mark with
    | .line line => endAtLine line use
    | .found regex offset skips => endAtFound step regex offset skips use
    if step.repeats.all (use < ·) then useStep step fuel (use + 1)

/-- Divides all of the input. -/
def run (steps : List Step) : Division Unit := do
  steps.forM fun step => useStep step stepLimit 0
  start
  saveRest
  close

end Section

open Section

/-- The options of a division into sections. -/
def csplitOptions : OptionTable where
  letters := "f:b:kn:sqz\x01"
  names :=
    [("digits", 'n'), ("quiet", 'q'), ("silent", 's'), ("keep-files", 'k'), ("elide-empty-files", 'z'),
      ("prefix", 'f'), ("suffix-format", 'b'), ("suppress-matched", '\x01')]

/-- Divides a file into sections. -/
def csplit (arguments : List Text) : Work Unit := do
  let check (option : Given) : StateT Suffix Work Unit := do
    if option.letter = 'n' then
      let width ← (integerOf "invalid number".toList 0 2147483647 (option.argument.getD []) : Work Int)
      set { conversion := { zeroFilled := true, width := width.toNat } : Suffix }
  let ((given, operands), digits) ← (readOptionsWith check csplitOptions arguments).run {}
  match operands with
  | [] => Work.failUsage "missing operand".toList
  | [operand] => Work.failUsage ("missing operand after ".toList ++ quoted operand)
  | operand :: marks => do
    let suffix ← match argumentOf? given 'b' with
      | some format => readSuffix format
      | none => pure digits
    let wish : Wish :=
      { suffix
        start := (argumentOf? given 'f').getD ['x', 'x']
        keeps := hasLetter given 'k'
        isQuiet := hasLetter given 's' || hasLetter given 'q'
        omitsEmpty := hasLetter given 'z'
        omitsMarks := hasLetter given '\x01' }
    let descriptor ← if operand = inputOperand then pure 0 else
      match ← Work.openAside operand .read with
      | .ok descriptor => pure descriptor
      | .error errno => Work.fail (because ("cannot open ".toList ++ inQuotes operand ++ " for reading".toList) errno)
    let steps ← readSteps 0 marks
    let course : Section.Course ← match ← Work.readToEnd descriptor stepLimit [] with
      | .ok text => pure { lines := (lines text).toArray }
      | .error errno => pure { lines := #[], failure := some errno }
    let _ ← ((run steps).run wish).run course
    return ()

end Pipework.Tool
