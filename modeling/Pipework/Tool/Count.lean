import Pipework.Tool.Input
import Pipework.Tool.Option

set_option autoImplicit false

/-!
Counts of lines, words and bytes, in columns that are wide enough for what can be counted.
-/

namespace Pipework.Tool

open Kernel

/-- What can be counted. -/
structure Counts where
  lines : Nat := 0
  words : Nat := 0
  bytes : Nat := 0
  /-- The width of the widest line. -/
  widest : Nat := 0
  deriving DecidableEq, Repr

namespace Counts

/-- Whether a character can be seen. -/
def isVisible (char : Char) : Bool := '!' ≤ char && char ≤ '~'

/-- How many words there are. A word begins with a character that can be seen and ends with a space; other
characters do neither. -/
def wordsOf (text : Text) : Nat :=
  (text.foldl (fun (count, inside) char =>
    if isSpace char then (count, false)
    else if isVisible char && !inside then (count + 1, true)
    else (count, inside)) ((0, false) : Nat × Bool)).1

/-- The width of the widest line; a tab goes on to the next multiple of eight. -/
def widestOf (text : Text) : Nat :=
  let (widest, width) := text.foldl (fun (widest, width) char =>
    if char = '\n' || char = '\r' || char = '\x0c' then (max widest width, 0)
    else if char = '\t' then (widest, width + 8 - width % 8)
    else if char = ' ' || isVisible char then (widest, width + 1)
    else (widest, width)) ((0, 0) : Nat × Nat)
  max widest width

def ofText (text : Text) : Counts where
  lines := text.count '\n'
  words := wordsOf text
  bytes := text.length
  widest := widestOf text

def add (left right : Counts) : Counts where
  lines := left.lines + right.lines
  words := left.words + right.words
  bytes := left.bytes + right.bytes
  widest := max left.widest right.widest

/-- The counts that are wanted, in their order. -/
def columns (counts : Counts) (wanted : List Char) : List Nat :=
  [('l', counts.lines), ('w', counts.words), ('m', counts.bytes), ('c', counts.bytes),
    ('L', counts.widest)].filterMap fun (letter, count) =>
      if wanted.contains letter then some count else none

/-- Puts out counts, with a name unless it is empty. -/
def print (counts : Counts) (wanted : List Char) (width : Nat) (name : Text) : Work Unit := do
  let shown := List.intercalate [' '] ((counts.columns wanted).map fun count => padLeft width (number count))
  Work.putLine (shown ++ (if name.isEmpty then [] else ' ' :: name))

end Counts

/-- What can be learnt of an operand, if it can be found. -/
def operandFacts (operand : Text) : Work (Option FileFacts) := do
  let query : Query :=
    if operand = inputOperand then .descriptor 0 else .file (Bytes.ofChars operand) true
  match ← Work.ask (.query query) with
  | .facts facts => return some facts
  | _ => return none

/-- How wide the columns are. -/
def countWidth (operands : List Text) (single : Bool) : Work Nat := do
  if single && operands.length ≤ 1 then return 1
  else
    let facts ← (if operands.isEmpty then [inputOperand] else operands).mapM operandFacts
    let found := facts.filterMap id
    let (regular, others) := found.partition fun facts => facts.kind = .regular
    let total := regular.foldl (fun total facts => total + facts.size) 0
    return max (toString total).length (if others.isEmpty then 1 else 7)

/-- The size of the blocks of files. -/
def blockSize : Nat := 4096

/-- How many bytes are left to be read, if that is known without reading. It is not believed of files whose size
is a multiple of the size of blocks. -/
def knownRest (descriptor : Nat) : Work (Option Nat) := do
  match ← Work.ask (.query (.descriptor descriptor)) with
  | .facts facts =>
    if facts.kind = .regular && facts.size % blockSize ≠ 0 then
      match ← Work.ask (.seek descriptor 0) with
      | .number place => return some (facts.size - place)
      | _ => return none
    else return none
  | _ => return none

/-- Counts what an operand stands for, and gives the counts and the reason why reading ended early. -/
def countOperand (wanted : List Char) (operand : Text) : Work (Except InputFault (Counts × Option Errno)) := do
  let isInput := operand = inputOperand
  let opened : Except Errno Nat ←
    if isInput then do
      modify ({ · with usesInput := true })
      pure (.ok 0)
    else Work.openAside operand .read
  match opened with
  | .error errno => return .error (.unopened errno)
  | .ok descriptor => do
    let known ← if wanted = ['c'] then knownRest descriptor else pure none
    let result ← match known with
      | some rest => pure (({ bytes := rest } : Counts), none)
      | none => do
        match ← Work.readToEnd descriptor stepLimit [] with
        | .ok text => pure (Counts.ofText text, none)
        | .error errno => pure ({}, some errno)
    if !isInput then Work.tell (.close descriptor)
    return .ok result

def wcOptions : OptionTable where
  letters := "clLmw\x01:"
  names :=
    [("bytes", 'c'), ("chars", 'm'), ("lines", 'l'), ("words", 'w'), ("max-line-length", 'L'),
      ("total", '\x01')]

/-- Prints counts. -/
def wc (arguments : List Text) : Work Unit := do
  let (given, operands) ← readOptions wcOptions arguments
  let letters := ((given.map Given.letter).filter (· ≠ '\x01')).eraseDups
  let total : Bool ← match (argumentOf? given '\x01').map String.ofList with
    | none | some "auto" => pure (decide (1 < operands.length))
    | some "always" | some "only" => pure true
    | some "never" => pure false
    | some text =>
      Work.failUsage ("invalid argument ".toList ++ quoted text.toList ++ (" for '--total'\n" ++
        "Valid arguments are:\n  - 'auto'\n  - 'always'\n  - 'only'\n  - 'never'").toList)
  let onlyTotal := argumentOf? given '\x01' = some "only".toList
  let wanted := if letters.isEmpty then ['l', 'w', 'c'] else letters
  let width ← if onlyTotal then pure 1 else countWidth operands (wanted.length = 1)
  let counted ← (if operands.isEmpty then [inputOperand] else operands).mapM fun operand => do
    let name : Text := if operands.isEmpty then [] else operand
    if !operands.isEmpty && operand.isEmpty then
      Work.report "invalid zero-length file name".toList
      return ({} : Counts)
    match ← countOperand wanted operand with
    | .error fault => do
      Work.report (because (shownName operand) fault.errno)
      return ({} : Counts)
    | .ok (counts, failure) => do
      match failure with
      | some errno =>
        Work.report (because (if name.isEmpty then "'standard input'".toList else shownName name) errno)
      | none => pure ()
      if !onlyTotal then counts.print wanted width name
      return counts
  if total then
    (counted.foldl Counts.add {}).print wanted width (if onlyTotal then [] else "total".toList)
  Work.closeInput "-"

end Pipework.Tool
