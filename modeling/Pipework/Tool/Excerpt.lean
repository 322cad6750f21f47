import Pipework.Tool.Input
import Pipework.Tool.Option

set_option autoImplicit false

/-!
Tools that print the first or the last part of what they read. The first part is taken without reading much more;
what was read too much of a file is given back.
-/

namespace Pipework.Tool

open Kernel

/-- In what a part is measured. -/
inductive ExcerptUnit where
  | lines
  | bytes
  deriving DecidableEq, Repr

namespace ExcerptUnit

def noun : ExcerptUnit → String
  | lines => "lines"
  | bytes => "bytes"

/-- The units of a text. -/
def split (unit : ExcerptUnit) (last : Char) (text : Text) : List Text :=
  match unit with
  | lines => splitAfter last text
  | bytes => text.map ([·])

end ExcerptUnit

/-- How many units are wanted, or how many are not. -/
structure ExcerptSize where
  unit : ExcerptUnit := .lines
  count : Nat := 10
  /-- Whether the count is about the other part. -/
  inverted : Bool := false
  deriving DecidableEq, Repr

/-- How parts of several files are printed. -/
structure ExcerptStyle where
  size : ExcerptSize := {}
  /-- Whether the name of each file is shown. -/
  headers : Bool := false
  /-- The character that ends lines. -/
  last : Char := '\n'

/-- How an operand is called. -/
def excerptName (operand : Text) : Text :=
  if operand = inputOperand then "standard input".toList else operand

/-- Puts out the name of a file, after an empty line unless it is the first. -/
def putHeader (isFirst : Bool) (operand : Text) : Work Unit := do
  if !isFirst then Work.put ['\n']
  Work.putLine ("==> ".toList ++ excerptName operand ++ " <==".toList)

/-- Reads the number of an option; `marks` are the signs that may stand in front. -/
def readExcerptSize (unit : ExcerptUnit) (invertedBy : Char) (text : Text) : Work ExcerptSize := do
  let (inverted, digits) : Bool × Text :=
    match text with
    | '-' :: digits => ('-' = invertedBy, digits)
    | '+' :: digits => ('+' = invertedBy, digits)
    | digits => (false, digits)
  match size? digits with
  | some count => return { unit, count, inverted }
  | none =>
    Work.fail ("invalid number of ".toList ++ unit.noun.toList ++ ": ".toList ++ quoted text)

def excerptOptions : OptionTable where
  letters := "c:n:qvzfFs:"
  names :=
    [("bytes", 'c'), ("lines", 'n'), ("quiet", 'q'), ("silent", 'q'), ("verbose", 'v'),
      ("zero-terminated", 'z'), ("follow", 'f')]

/-- Reads how much is wanted and how it is shown. -/
def excerptStyle (invertedBy : Char) (arguments : List Text) : Work (ExcerptStyle × List Text) := do
  let (given, operands) ← readOptions excerptOptions arguments
  let sizes ← given.filterMapM fun option => do
    match option.letter, option.argument with
    | 'c', some text => return some (← readExcerptSize .bytes invertedBy text)
    | 'n', some text => return some (← readExcerptSize .lines invertedBy text)
    | _, _ => return none
  let headers :=
    match lastOf? given ['q', 'v'] with
    | some letter => letter = 'v'
    | none => 1 < operands.length
  return ({ size := sizes.getLastD {}, headers, last := if hasLetter given 'z' then '\x00' else '\n' },
    operands)

/-- Turns an old way to give a number, such as `-5`, into the present one. -/
def modernise (sign : Char → Bool) (arguments : List Text) : List Text :=
  match arguments with
  | (mark :: digit :: rest) :: later =>
    if sign mark && isDigit digit then
      let digits := (digit :: rest).takeWhile isDigit
      let count := if mark = '+' then '+' :: digits else digits
      match (digit :: rest).drop digits.length with
      | [] | ['l'] => ['-', 'n'] :: count :: later
      | ['c'] => ['-', 'c'] :: count :: later
      | _ => arguments
    else arguments
  | _ => arguments

/-- Copies units until there are enough, and gives back what was read too much. -/
def copyFirst (last : Char) (unit : ExcerptUnit) (descriptor : Nat) : Nat → Nat → Work (Option Errno)
  | 0, _ => return none
  | _, 0 => return none
  | fuel + 1, count => do
    match ← Work.ask (.read descriptor (if unit = .bytes then min 8192 count else 8192)) with
    | .data (byte :: bytes) => do
      let text := Bytes.toChars (byte :: bytes)
      match unit with
      | .bytes => do
        Work.put text
        copyFirst last unit descriptor fuel (count - text.length)
      | .lines => do
        let taken := ((splitAfter last text).take count).flatten
        let found := taken.count last
        Work.put taken
        if found = count then
          if taken.length < text.length then
            Work.tell (.seek descriptor (-((text.length - taken.length : Nat) : Int)))
          return none
        else copyFirst last unit descriptor fuel (count - found)
    | .failed .interrupted => copyFirst last unit descriptor fuel count
    | .failed errno => return some errno
    | _ => return none

/-- Copies all but the last units, and gives those back. -/
def copyAllBut (last : Char) (size : ExcerptSize) (descriptor : Nat) : Work (Option Errno) := do
  match ← Work.readToEnd descriptor stepLimit [] with
  | .error errno => return some errno
  | .ok text => do
    let units := size.unit.split last text
    let taken := (units.take (units.length - size.count)).flatten
    Work.put taken
    if taken.length < text.length then
      Work.tell (.seek descriptor (-((text.length - taken.length : Nat) : Int)))
    return none

/-- Prints the first part of what an operand stands for. -/
def headOperand (style : ExcerptStyle) (isFirst : Bool) (operand : Text) : Work Bool := do
  let isInput := operand = inputOperand
  let opened : Except Errno Nat ←
    if isInput then do
      modify ({ · with usesInput := true })
      pure (.ok 0)
    else Work.openAside operand .read
  match opened with
  | .error errno => do
    Work.report (because ("cannot open ".toList ++ inQuotes operand ++ " for reading".toList) errno)
    return isFirst
  | .ok descriptor => do
    if style.headers then putHeader isFirst operand
    let size := style.size
    let failure ←
      if size.inverted then copyAllBut style.last size descriptor
      else copyFirst style.last size.unit descriptor stepLimit size.count
    match failure with
    | some errno =>
      Work.report (because ("error reading ".toList ++ inQuotes (excerptName operand)) errno)
    | none => pure ()
    if !isInput then Work.tell (.close descriptor)
    return false

/-- Prints parts of what operands stand for. -/
def eachExcerpt (print : Bool → Text → Work Bool) : Bool → List Text → Work Unit
  | _, [] => return ()
  | isFirst, operand :: later => do
    eachExcerpt print (← print isFirst operand) later

/-- What is said of output that cannot be written, by how much of it there is. -/
def excerptComplaint : OutputComplaint := fun overflow errno =>
  [because (if overflow then "error writing 'standard output'" else "write error").toList errno]

/-- Prints the first lines. -/
def head (arguments : List Text) : Work Unit := do
  let (style, operands) ← excerptStyle '-' (modernise (· = '-') arguments)
  eachExcerpt (headOperand style) true (if operands.isEmpty then [inputOperand] else operands)
  Work.closeInput "-"

/-- The last units of a text, or those from a place on. -/
def lastPart (last : Char) (size : ExcerptSize) (text : Text) : Text :=
  let units := size.unit.split last text
  if size.inverted then (units.drop (size.count - 1)).flatten
  else (units.drop (units.length - size.count)).flatten

/-- Prints the last part of what an operand stands for. -/
def tailOperand (style : ExcerptStyle) (isFirst : Bool) (operand : Text) : Work Bool := do
  match ← Work.readOperand operand with
  | .ok text => do
    if style.headers then putHeader isFirst operand
    Work.put (lastPart style.last style.size text)
    return false
  | .error (.unopened errno) => do
    Work.report (because ("cannot open ".toList ++ inQuotes operand ++ " for reading".toList) errno)
    return isFirst
  | .error (.unread errno) => do
    let verb := if errno = .badDescriptor then "cannot fstat " else "error reading "
    if style.headers && errno ≠ .badDescriptor then putHeader isFirst operand
    Work.report (because (verb.toList ++ inQuotes (excerptName operand)) errno)
    if style.size.unit = .bytes && errno ≠ .badDescriptor then Work.leave
    return false

/-- Prints the last lines. -/
def tail (arguments : List Text) : Work Unit := do
  let (style, operands) ←
    excerptStyle '+' (modernise (fun mark => mark = '-' || mark = '+') arguments)
  eachExcerpt (tailOperand style) true (if operands.isEmpty then [inputOperand] else operands)
  Work.closeInput "-"

end Pipework.Tool
