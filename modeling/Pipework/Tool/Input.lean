import Pipework.Tool.Name
import Pipework.Tool.Work

set_option autoImplicit false

/-!
What tools read: files that operands name, or the input, for which a hyphen stands. Text is taken apart into
lines here, too.
-/

namespace Pipework.Tool

open Kernel

/-- Why there is nothing to read. -/
inductive InputFault where
  | unopened (errno : Errno)
  | unread (errno : Errno)
  deriving DecidableEq, Repr

def InputFault.errno : InputFault → Errno
  | unopened errno | unread errno => errno

/-- The operand that stands for the input. -/
def inputOperand : Text := ['-']

/-- How much is read at once. -/
def readSize : Nat := 65536

namespace Work

/-- Reads a descriptor to its end. -/
def readToEnd (descriptor : Nat) : Nat → List Bytes → Work (Except Errno Text)
  | 0, collected => return .ok (Bytes.toChars collected.reverse.flatten)
  | fuel + 1, collected => do
    match ← ask (.read descriptor readSize) with
    | .data (byte :: bytes) => readToEnd descriptor fuel ((byte :: bytes) :: collected)
    | .failed .interrupted => readToEnd descriptor fuel collected
    | .failed errno => return .error errno
    | _ => return .ok (Bytes.toChars collected.reverse.flatten)

/-- Opens a file to read it, under a number that is not one of the standard streams. -/
def openAside (path : Text) (access : Access) : Work (Except Errno Nat) := do
  match ← ask (.openFile (Bytes.ofChars path) access) with
  | .number descriptor =>
    if descriptor < 3 then do
      let aside ← ask (.duplicateFrom descriptor 3)
      tell (.close descriptor)
      match aside with
      | .number descriptor => return .ok descriptor
      | .failed errno => return .error errno
      | _ => return .error .badDescriptor
    else return .ok descriptor
  | .failed errno => return .error errno
  | _ => return .error .noEntry

/-- Reads a file. -/
def readFile (path : Text) : Work (Except InputFault Text) := do
  match ← openAside path .read with
  | .error errno => return .error (.unopened errno)
  | .ok descriptor => do
    let content ← readToEnd descriptor stepLimit []
    tell (.close descriptor)
    match content with
    | .ok text => return .ok text
    | .error errno => return .error (.unread errno)

/-- Reads the input. -/
def readInput : Work (Except InputFault Text) := do
  modify ({ · with usesInput := true })
  match ← readToEnd 0 stepLimit [] with
  | .ok text => return .ok text
  | .error errno => return .error (.unread errno)

/-- Reads what an operand stands for. -/
def readOperand (operand : Text) : Work (Except InputFault Text) :=
  if operand = inputOperand then readInput else readFile operand

/-- Gives up the input, if it was used. Complains if there was none. -/
def closeInput (subject : String) : Work Unit := do
  if (← get).usesInput then
    match ← ask (.close 0) with
    | .failed errno => report (because subject.toList errno)
    | _ => return ()

/-- Goes back in the input by what was read too much, if that is possible. -/
def giveBack (count : Nat) : Work Unit := do
  if count ≠ 0 then tell (.seek 0 (-(count : Int)))

end Work

/-- What is said of an operand that cannot be read. -/
abbrev InputComplaint := (operand : Text) → InputFault → Text

/-- The usual complaint about an operand that cannot be read. -/
def inputComplaint : InputComplaint := fun operand fault => because (shownName operand) fault.errno

/-- Uses what operands stand for one after the other, or the input if there is none, and hands on what has come of
it. -/
def foldInputs {σ : Type} (complaint : InputComplaint) (operands : List Text) (use : σ → Text → Text → Work σ)
    (start : σ) : Work σ :=
  (if operands.isEmpty then [inputOperand] else operands).foldlM (fun state operand => do
    match ← Work.readOperand operand with
    | .ok content => use state operand content
    | .error fault => do
      Work.report (complaint operand fault)
      return state) start

/-- Uses what operands stand for one after the other, or the input if there is none. -/
def forEachInput (complaint : InputComplaint) (operands : List Text) (use : Text → Text → Work Unit) :
    Work Unit :=
  (if operands.isEmpty then [inputOperand] else operands).forM fun operand => do
    match ← Work.readOperand operand with
    | .ok content => use operand content
    | .error fault => Work.report (complaint operand fault)

/-- Cuts a text behind each occurrence of a character. The piece at hand and the pieces before it are given in
reverse order. -/
def cutAfter (last : Char) : (piece : Text) → (pieces : List Text) → Text → List Text
  | [], pieces, [] => pieces.reverse
  | piece, pieces, [] => (piece.reverse :: pieces).reverse
  | piece, pieces, char :: rest =>
    if char = last then cutAfter last [] ((char :: piece).reverse :: pieces) rest
    else cutAfter last (char :: piece) pieces rest

/-- Pieces of a text, each with the character that ends it; the last may lack one. -/
def splitAfter (last : Char) (text : Text) : List Text := cutAfter last [] [] text

/-- Lines with the line feeds that end them; the last may lack one. -/
def lines (text : Text) : List Text := splitAfter '\n' text

/-- A piece without the character that ends it. -/
def chompOf (last : Char) (piece : Text) : Text :=
  if piece.getLast? = some last then piece.dropLast else piece

/-- A line without the line feed that ends it. -/
def chomp (line : Text) : Text := chompOf '\n' line

/-- Lines without what ends them. -/
def plainLines (text : Text) : List Text := (lines text).map chomp

def isDigit (char : Char) : Bool := '0' ≤ char && char ≤ '9'

def isBlank (char : Char) : Bool := char = ' ' || char = '\t'

def isSpace (char : Char) : Bool := char = ' ' || ('\t' ≤ char && char ≤ '\r')

/-- The value of decimal digits. -/
def digitsValue (text : Text) : Nat :=
  text.foldl (fun value char => value * 10 + (char.toNat - '0'.toNat)) 0

/-- The number that a text of decimal digits stands for. -/
def natural? (text : Text) : Option Nat :=
  if text.isEmpty || !text.all isDigit then none else some (digitsValue text)

/-- Decimal digits. -/
def number (value : Nat) : Text := (toString value).toList

/-- Text that is filled up with blanks in front. -/
def padLeft (width : Nat) (text : Text) : Text := List.replicate (width - text.length) ' ' ++ text

/-- Text that is filled up with blanks behind. -/
def padRight (width : Nat) (text : Text) : Text := text ++ List.replicate (width - text.length) ' '

/-- Factors that letters behind a number stand for. -/
def sizeSuffixes : List (String × Nat) :=
  [("b", 512), ("kB", 1000), ("k", 1024), ("K", 1024), ("KiB", 1024), ("MB", 1000000), ("M", 1048576),
    ("m", 1048576), ("MiB", 1048576), ("GB", 1000000000), ("G", 1073741824), ("GiB", 1073741824),
    ("T", 1099511627776), ("P", 1125899906842624)]

/-- The number that digits with a factor behind them stand for. -/
def size? (text : Text) : Option Nat :=
  let digits := text.takeWhile isDigit
  match natural? digits, text.drop digits.length with
  | none, _ => none
  | some value, [] => some value
  | some value, suffix => (sizeSuffixes.lookup (String.ofList suffix)).map (value * ·)

end Pipework.Tool
