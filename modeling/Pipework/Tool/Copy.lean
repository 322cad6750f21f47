import Pipework.Tool.Input
import Pipework.Tool.Option

set_option autoImplicit false

/-!
Tools that copy their input as it comes, to one output or to several, and one that repeats itself.
-/

namespace Pipework.Tool

open Kernel

/-- How characters are shown in a copy. -/
structure CopyStyle where
  showEnds : Bool := false
  showTabs : Bool := false
  /-- Whether characters are shown that cannot be seen. -/
  showHidden : Bool := false
  numbers : Bool := false
  /-- Whether empty lines have no numbers. -/
  skipEmpty : Bool := false
  /-- Whether only one of several empty lines is kept. -/
  squeeze : Bool := false
  deriving DecidableEq, Repr

/-- How far a copy has come. -/
structure CopyState where
  /-- How many lines have been numbered. -/
  line : Nat := 0
  /-- How many empty lines come right before this place; none inside of a line. -/
  emptyLines : Option Nat := some 0
  /-- Whether a carriage return was read that may belong to the end of a line. -/
  pendingReturn : Bool := false
  deriving DecidableEq, Repr

namespace CopyStyle

def isPlain (style : CopyStyle) : Bool := style = {}

/-- A character below 128, shown. -/
def showLow (code : Nat) : Text :=
  if code < 32 then ['^', Char.ofNat (code + 64)]
  else if code = 127 then ['^', '?']
  else [Char.ofNat code]

def showChar (style : CopyStyle) (char : Char) : Text :=
  if char = '\t' then if style.showTabs then ['^', 'I'] else [char]
  else if !style.showHidden then [char]
  else if char.toNat < 128 then showLow char.toNat
  else 'M' :: '-' :: showLow (char.toNat - 128)

/-- The number of a line. -/
def numberText (line : Nat) : Text := padLeft 6 (number line) ++ ['\t']

/-- Puts the number of a new line in front of a text. -/
def begin (style : CopyStyle) (state : CopyState) (text : Text) : CopyState × Text :=
  if style.numbers && state.emptyLines.isSome then
    ({ state with line := state.line + 1, emptyLines := none }, numberText (state.line + 1) ++ text)
  else ({ state with emptyLines := none }, text)

/-- Copies one character. -/
def step (style : CopyStyle) (state : CopyState) (char : Char) : CopyState × Text :=
  if char = '\n' then
    let ending : Text :=
      (if state.pendingReturn then ['^', 'M'] else []) ++ (if style.showEnds then ['$'] else []) ++ ['\n']
    let state := { state with pendingReturn := false }
    match state.emptyLines with
    | none => ({ state with emptyLines := some 0 }, ending)
    | some count =>
      let after := { state with emptyLines := some (min 2 (count + 1)) }
      if style.squeeze && 1 ≤ count then (after, [])
      else if style.numbers && !style.skipEmpty then
        ({ after with line := state.line + 1 }, numberText (state.line + 1) ++ ending)
      else (after, ending)
  else
    let owed : Text := if state.pendingReturn then ['\r'] else []
    let state := { state with pendingReturn := false }
    if char = '\r' && style.showEnds && !style.showHidden then
      let (state, text) := style.begin state owed
      ({ state with pendingReturn := true }, text)
    else style.begin state (owed ++ style.showChar char)

/-- Copies a text. -/
def copy (style : CopyStyle) (state : CopyState) (text : Text) : CopyState × Text :=
  let (state, parts) := text.foldl (fun (state, parts) char =>
    let (state, part) := style.step state char
    (state, part :: parts)) ((state, []) : CopyState × List Text)
  (state, parts.reverse.flatten)

end CopyStyle

/-- Copies a descriptor to the output. -/
def copyFrom (style : CopyStyle) (operand : Text) (descriptor : Nat) : Nat → CopyState → Work CopyState
  | 0, state => return state
  | fuel + 1, state => do
    match ← Work.ask (.read descriptor 131072) with
    | .data (byte :: bytes) => do
      if style.isPlain then
        match ← Work.writeAll 1 (bytes.length + 2) (byte :: bytes) with
        | some errno => Work.fail (because "write error".toList errno)
        | none => copyFrom style operand descriptor fuel state
      else
        let (state, text) := style.copy state (Bytes.toChars (byte :: bytes))
        Work.put text
        copyFrom style operand descriptor fuel state
    | .failed .interrupted => copyFrom style operand descriptor fuel state
    | .failed errno => do
      Work.report (because (shownName operand) errno)
      return state
    | _ => return state

/-- Whether a descriptor reads the file to which the output goes, and there is something to be read. -/
def readsOutput (descriptor : Nat) : Work Bool := do
  match ← Work.ask (.query (.descriptor descriptor)), ← Work.ask (.query (.descriptor 1)) with
  | .facts source, .facts target =>
    if source.kind = .regular && target.kind = .regular && source.number = target.number then
      match ← Work.ask (.seek descriptor 0) with
      | .number place => return place < target.size
      | _ => return false
    else return false
  | _, _ => return false

/-- Copies what operands stand for one after the other. -/
def copyOperands (style : CopyStyle) : List Text → CopyState → Work CopyState
  | [], state => return state
  | operand :: later, state => do
    let copyOpened (descriptor : Nat) : Work CopyState := do
      if ← readsOutput descriptor then
        Work.report (shownName operand ++ ": input file is output file".toList)
        return state
      else copyFrom style operand descriptor stepLimit state
    if operand = inputOperand then
      modify ({ · with usesInput := true })
      let state ← copyOpened 0
      copyOperands style later state
    else
      match ← Work.openAside operand .read with
      | .ok descriptor => do
        let state ← copyOpened descriptor
        Work.tell (.close descriptor)
        Work.flush
        copyOperands style later state
      | .error errno => do
        Work.report (because (shownName operand) errno)
        copyOperands style later state

/-- Takes on an option of how to copy. -/
def CopyStyle.addOption (style : CopyStyle) (option : Given) : CopyStyle :=
  match option.letter with
  | 'A' => { style with showHidden := true, showEnds := true, showTabs := true }
  | 'b' => { style with numbers := true, skipEmpty := true }
  | 'e' => { style with showHidden := true, showEnds := true }
  | 'E' => { style with showEnds := true }
  | 'n' => { style with numbers := true }
  | 's' => { style with squeeze := true }
  | 't' => { style with showHidden := true, showTabs := true }
  | 'T' => { style with showTabs := true }
  | 'v' => { style with showHidden := true }
  | _ => style

def catOptions : OptionTable where
  letters := "benstuvAET"
  names :=
    [("number-nonblank", 'b'), ("number", 'n'), ("squeeze-blank", 's'), ("show-nonprinting", 'v'),
      ("show-ends", 'E'), ("show-tabs", 'T'), ("show-all", 'A')]

/-- Copies files to the output one after the other. -/
def cat (arguments : List Text) : Work Unit := do
  let (given, operands) ← readOptions catOptions arguments
  match ← Work.ask (.query (.descriptor 1)) with
  | .failed errno => Work.fail (because "standard output".toList errno)
  | _ => do
    let style := given.foldl CopyStyle.addOption {}
    let state ← copyOperands style (if operands.isEmpty then [inputOperand] else operands) {}
    if state.pendingReturn then Work.put ['\r']
    Work.flush
    Work.closeInput "closing standard input"

/-- Where the copies of an input go. -/
structure CopyTargets where
  files : List (Text × Nat)
  /-- Whether the output takes copies, too. -/
  output : Bool := true

/-- Writes the same data to files. Gives the files that took it. -/
def writeToFiles (data : Bytes) : List (Text × Nat) → Work (List (Text × Nat))
  | [] => return []
  | (path, descriptor) :: later => do
    match ← Work.writeAll descriptor (data.length + 1) data with
    | some errno => do
      Work.report (because (shownName path) errno)
      writeToFiles data later
    | none => return (path, descriptor) :: (← writeToFiles data later)

/-- Copies the input to all targets. An output that nobody reads any more is given up silently. -/
def copyToAll : Nat → CopyTargets → Work Unit
  | 0, _ => return ()
  | fuel + 1, targets => do
    if targets.files.isEmpty && !targets.output then return ()
    else
      match ← Work.ask (.read 0 readSize) with
      | .data (byte :: bytes) => do
        let data := byte :: bytes
        match ← if targets.output then Work.writeAll 1 (data.length + 1) data else pure none with
        | none => copyToAll fuel { targets with files := ← writeToFiles data targets.files }
        | some .brokenPipe =>
          copyToAll fuel { files := ← writeToFiles data targets.files, output := false }
        | some errno => do
          Work.report (because "'standard output'".toList errno)
          copyToAll fuel { files := ← writeToFiles data targets.files, output := false }
      | .failed .interrupted => copyToAll fuel targets
      | .failed errno => Work.report (because "read error".toList errno)
      | _ => return ()

/-- Opens files for writing. -/
def openTargets (access : Access) : List Text → Work (List (Text × Nat))
  | [] => return []
  | path :: later => do
    match ← Work.openAside path access with
    | .ok descriptor => return (path, descriptor) :: (← openTargets access later)
    | .error errno => do
      Work.report (because (shownName path) errno)
      openTargets access later

/-- Copies the input to the output and to files. -/
def tee (arguments : List Text) : Work Unit := do
  let table : OptionTable :=
    { letters := "aip", names := [("append", 'a'), ("ignore-interrupts", 'i'), ("output-error", 'p')] }
  let (given, operands) ← readOptions table arguments
  let files ← openTargets (if hasLetter given 'a' then .append else .replace) operands
  modify ({ · with usesInput := true })
  copyToAll stepLimit { files }
  Work.closeInput "standard input"

/-- Writes the same data again and again, until that fails. -/
def repeatForever (data : Bytes) : Nat → Work Unit
  | 0 => return ()
  | fuel + 1 => do
    match ← Work.ask (.write 1 data) with
    | .failed errno => Work.fail (because "standard output".toList errno)
    | _ => repeatForever data fuel

/-- Prints a line again and again. -/
def yes (arguments : List Text) : Work Unit := do
  let (_, operands) ← readOptions { letters := "", inOrder := true } arguments
  let words := if operands.isEmpty then [['y']] else operands
  let line := Bytes.ofChars (List.intercalate [' '] words ++ ['\n'])
  repeatForever (List.replicate (max 1 (8192 / line.length)) line).flatten stepLimit

end Pipework.Tool
