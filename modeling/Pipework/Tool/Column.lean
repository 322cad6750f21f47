import Pipework.Tool.Input
import Pipework.Tool.Option
import Pipework.Tool.Quantity

set_option autoImplicit false

/-!
Columns on a screen, counted from zero: lines are broken at a width, and tabs become blanks, or blanks become tabs. A
backspace goes back by one column. Lines go on from one input to the next if the first of them does not end with a line
feed.
-/

namespace Pipework.Tool

/-- The column after a character; a tab goes on to the next multiple of eight. -/
def advanceColumn (countBytes : Bool) (column : Nat) (char : Char) : Nat :=
  if countBytes then column + 1
  else if char = '\x08' then column - 1
  else if char = '\r' then 0
  else if char = '\t' then column + 8 - column % 8
  else column + 1

/-- How lines are broken. -/
structure FoldStyle where
  width : Nat := 80
  countBytes : Bool := false
  /-- Whether lines are broken behind blanks if there are any. -/
  atBlanks : Bool := false

namespace FoldStyle

/-- The column behind a text. -/
def columnAfter (style : FoldStyle) (text : Text) : Nat :=
  text.foldl (advanceColumn style.countBytes) 0

/-- Breaks a line. What is collected of the present piece is given in reverse order, with its width. -/
def breakLine (style : FoldStyle) : Nat → Text → Nat → Text → List Text
  | 0, _, _, _ => []
  | _ + 1, collected, _, [] => if collected.isEmpty then [] else [collected.reverse]
  | fuel + 1, collected, column, char :: rest =>
    let next := advanceColumn style.countBytes column char
    if next ≤ style.width || collected.isEmpty then
      breakLine style fuel (char :: collected) next rest
    else
      let tail := collected.takeWhile fun char => !isBlank char
      if style.atBlanks && tail.length < collected.length then
        let head := collected.drop tail.length
        head.reverse :: breakLine style fuel tail (style.columnAfter tail.reverse) (char :: rest)
      else collected.reverse :: breakLine style fuel [] 0 (char :: rest)

/-- A line with line feeds where it is broken. -/
def foldLine (style : FoldStyle) (line : Text) : Text :=
  let content := chomp line
  let pieces := style.breakLine (2 * content.length + 2) [] 0 content
  List.intercalate ['\n'] pieces ++ (if content.length < line.length then ['\n'] else [])

end FoldStyle

/-- The letters of options that are digits, each of which may have more digits behind it. -/
def digitLetters : String := "0::1::2::3::4::5::6::7::8::9::"

/-- The argument of an option; that of an option that is a digit begins with the digit. -/
def Given.digitArgument (option : Given) : Text :=
  (if isDigit option.letter then [option.letter] else []) ++ option.argument.getD []

/-- The widest line: the column behind a tab has to have a number, too. -/
def foldLimit : Nat := quantityLimit - 9

/-- Reads an option about how lines are broken. -/
def FoldStyle.noteOption (option : Given) : StateT FoldStyle Work Unit :=
  match option.letter with
  | 'b' => modify ({ · with countBytes := true })
  | 's' => modify ({ · with atBlanks := true })
  | _ => do
    let width ← quantityOf "invalid number of columns".toList {} 1 foldLimit option.digitArgument
    modify ({ · with width })

/-- Breaks lines at a width. -/
def fold (arguments : List Text) : Work Unit := do
  let table : OptionTable :=
    { letters := "bsw:" ++ digitLetters, names := [("bytes", 'b'), ("spaces", 's'), ("width", 'w')] }
  let options : StateT FoldStyle Work (List Given × List Text) :=
    readOptionsWith FoldStyle.noteOption table arguments
  let ((_, operands), style) ← options.run {}
  forEachInput inputComplaint operands fun _ text => (lines text).forM (Work.put ∘ style.foldLine)
  Work.closeInput "-"

/-- Where tabs lead to: to given columns, and from the last of them on to columns at regular distances. -/
structure TabStops where
  /-- Columns in the order in which they are given. -/
  columns : List Nat := []
  /-- From the last column on, the multiples of this number are stops; zero if it was not given. -/
  multiple : Nat := 0
  /-- From the last column on, there is a stop after each such distance; zero if it was not given. -/
  distance : Nat := 0
  deriving DecidableEq, Repr

namespace TabStops

/-- The size of all tabs if they have the same, from the start of a line on. -/
def size? (stops : TabStops) : Option Nat :=
  match stops.columns with
  | [] =>
    some (if stops.multiple ≠ 0 then stops.multiple else if stops.distance ≠ 0 then stops.distance else 8)
  | [column] => if stops.multiple = 0 && stops.distance = 0 then some column else none
  | _ => none

/-- The column of the next stop behind a column, if there is one. -/
def next? (stops : TabStops) (column : Nat) : Option Nat :=
  match stops.size? with
  | some size => some (column + (size - column % size))
  | none =>
    match stops.columns.find? (column < ·) with
    | some stop => some stop
    | none =>
      if stops.multiple ≠ 0 then some (column + (stops.multiple - column % stops.multiple))
      else if stops.distance ≠ 0 then
        some (column + (stops.distance - (column - stops.columns.getLastD 0) % stops.distance))
      else none

end TabStops

/-- The sign in front of a tab stop. -/
inductive StopSign where
  | none
  | slash
  | plus
  deriving DecidableEq, Repr

/-- How far a list of tab stops is read. -/
structure StopReading where
  stops : TabStops
  /-- The number that is read, if there is one. -/
  number : Option Text := none
  sign : StopSign := .none
  failed : Bool := false

namespace StopReading

/-- Whether a number is that of a column. -/
def fits (digits : Text) : Bool := digitsValue digits ≤ quantityLimit

/-- Takes in the number that was read. Tells whether it may stand where it does. -/
def store (reading : StopReading) : Work (StopReading × Bool) := do
  match reading.number with
  | none => return (reading, true)
  | some digits =>
    let value := digitsValue digits
    let stops := reading.stops
    let onlyLast (sign : String) : Work Unit :=
      Work.complain ("'".toList ++ sign.toList ++ "' specifier only allowed with the last value".toList)
    match reading.sign with
    | .none =>
      return ({ reading with stops := { stops with columns := stops.columns ++ [value] }, number := none }, true)
    | .slash => do
      if stops.multiple ≠ 0 then onlyLast "/"
      return ({ reading with stops := { stops with multiple := value }, number := none }, stops.multiple = 0)
    | .plus => do
      if stops.distance ≠ 0 then onlyLast "+"
      return ({ reading with stops := { stops with distance := value }, number := none }, stops.distance = 0)

/-- Takes in a sign, with the text that begins with it. -/
def takeSign (reading : StopReading) (sign : StopSign) (text : Text) : Work StopReading := do
  if reading.number.isSome then
    Work.complain ("'".toList ++ text.take 1 ++ "' specifier not at start of number: ".toList ++ quoted text)
    return { reading with sign, failed := true }
  else return { reading with sign }

/-- Reads a list of tab stops. A sign holds until another one is given. -/
def run : Text → StopReading → Work StopReading
  | [], reading => do
    if reading.failed then return reading
    else
      let (reading, isAllowed) ← reading.store
      return { reading with failed := !isAllowed }
  | char :: rest, reading => do
    if char = ',' || isBlank char then
      let (reading, isAllowed) ← reading.store
      if isAllowed then run rest reading else return { reading with failed := true }
    else if char = '/' then run rest (← reading.takeSign .slash (char :: rest))
    else if char = '+' then run rest (← reading.takeSign .plus (char :: rest))
    else if isDigit char then
      let before := reading.number.getD []
      let digits := before ++ [char]
      if fits digits then run rest { reading with number := some digits }
      else if !fits before then run rest reading
      else
        let whole := digits ++ rest.takeWhile isDigit
        Work.complain ("tab stop is too large ".toList ++ quoted whole)
        run rest { reading with number := some whole, failed := true }
    else
      Work.complain ("tab size contains invalid character(s): ".toList ++ quoted (char :: rest))
      return { reading with failed := true }

end StopReading

/-- Adds the tab stops of a list. -/
def TabStops.add (stops : TabStops) (text : Text) : Work TabStops := do
  let reading ← StopReading.run text { stops }
  if reading.failed then
    Work.noteFailure
    Work.leave
  else return reading.stops

/-- Makes sure that tab stops ascend, and that there is one way to go on behind the last. -/
def TabStops.check (stops : TabStops) : Work Unit := do
  let rec ascend : Nat → List Nat → Work Unit
    | _, [] => return ()
    | last, column :: columns => do
      if column = 0 then Work.fail "tab size cannot be 0".toList
      if column ≤ last then Work.fail "tab sizes must be ascending".toList
      ascend column columns
  ascend 0 stops.columns
  if stops.multiple ≠ 0 && stops.distance ≠ 0 then
    Work.fail "'/' specifier is mutually exclusive with '+'".toList

/-- How far tabs are replaced in a line. -/
structure ExpandState where
  column : Nat := 0
  /-- Whether tabs are still replaced. -/
  active : Bool := true

/-- Takes in a character. Gives what is put out for it. -/
def ExpandState.step (stops : TabStops) (onlyInitial : Bool) (state : ExpandState) (char : Char) :
    ExpandState × Text :=
  if char = '\n' then ({}, [char])
  else if !state.active then (state, [char])
  else
    let active := !onlyInitial || isBlank char
    if char = '\t' then
      let next := (stops.next? state.column).getD (state.column + 1)
      ({ column := next, active }, List.replicate (next - state.column) ' ')
    else if char = '\x08' then ({ column := state.column - 1, active }, [char])
    else ({ column := state.column + 1, active }, [char])

/-- Puts out a text, each character as a step shows it. Gives the state behind it. -/
def putInSteps {σ : Type} (step : σ → Char → σ × Text) (state : σ) (text : Text) : Work σ := do
  let go (passed : σ × List Text) (char : Char) : σ × List Text :=
    let (state, shown) := step passed.1 char
    (state, shown :: passed.2)
  let (state, parts) := text.foldl go (state, [])
  Work.put parts.reverse.flatten
  return state

/-- Replaces tabs by blanks. -/
def expand (arguments : List Text) : Work Unit := do
  let table : OptionTable :=
    { letters := "it:" ++ digitLetters, names := [("initial", 'i'), ("tabs", 't')] }
  let check (option : Given) : StateT TabStops Work Unit := do
    if option.letter ≠ 'i' then set (← (← get).add option.digitArgument : TabStops)
  let options : StateT TabStops Work (List Given × List Text) := readOptionsWith check table arguments
  let ((given, operands), stops) ← options.run {}
  stops.check
  let _ ← foldInputs inputComplaint operands (fun state _ text =>
    putInSteps (ExpandState.step stops (hasLetter given 'i')) state text) {}
  Work.closeInput "-"

/-- How far the replacement of blanks by tabs has come in a line. -/
structure UnexpandState where
  /-- Whether blanks are still replaced. -/
  active : Bool := true
  column : Nat := 0
  /-- Blanks that may be replaced by a tab, the latest first. -/
  pending : Text := []
  /-- Whether the first of them is a single blank before a stop. -/
  blankBeforeStop : Bool := false
  afterBlank : Bool := true

namespace UnexpandState

/-- The blanks that are pending, as they are put out. -/
def shownPending (state : UnexpandState) : Text :=
  let pending := state.pending.reverse
  if 1 < pending.length && state.blankBeforeStop then '\t' :: pending.tail else pending

/-- Puts out the blanks that are pending, and a character. -/
def release (state : UnexpandState) (char : Char) : UnexpandState × Text :=
  ({ state with
      pending := []
      blankBeforeStop := state.pending.isEmpty && state.blankBeforeStop },
    state.shownPending ++ [char])

/-- The pending blanks, the first of which becomes a tab. -/
def startedByTab (pending : Text) : Text := pending.dropLast ++ ['\t']

/-- Takes in a character of a line. -/
def step (stops : TabStops) (wholeLine : Bool) (state : UnexpandState) (char : Char) : UnexpandState × Text :=
  if char = '\n' then ({}, state.shownPending ++ [char])
  else if !state.active then (state, [char])
  else
    let goOn (state : UnexpandState) (char : Char) : UnexpandState × Text :=
      { state with afterBlank := isBlank char, active := state.active && (wholeLine || isBlank char) }.release char
    if !isBlank char then
      goOn { state with column := if char = '\x08' then state.column - 1 else state.column + 1 } char
    else
      match stops.next? state.column with
      | none => goOn { state with active := false } char
      | some next =>
        let kept (pending : Text) : Text :=
          if state.blankBeforeStop then pending.drop (pending.length - 1) else []
        if char = '\t' then
          let pending := if state.pending.isEmpty then [] else startedByTab state.pending
          goOn { state with column := next, pending := kept pending } '\t'
        else
          let column := state.column + 1
          if state.afterBlank && column = next then
            goOn { state with column, pending := kept (startedByTab state.pending) } '\t'
          else
            ({ state with
                column
                blankBeforeStop := state.blankBeforeStop || column = next
                pending := char :: state.pending
                afterBlank := true }, [])

end UnexpandState

/-- What the options of the replacement of blanks say. -/
structure UnexpandOptions where
  stops : TabStops := {}
  /-- Whether all blanks are replaced, not only those at the start of a line. -/
  wholeLine : Bool := false
  onlyInitial : Bool := false
  /-- The column whose digits are given as options. -/
  number : Option Nat := none

namespace UnexpandOptions

/-- Takes in the column that options have given. -/
def store (options : UnexpandOptions) : UnexpandOptions :=
  match options.number with
  | none => options
  | some column =>
    { options with number := none, stops := { options.stops with columns := options.stops.columns ++ [column] } }

/-- Reads an option. -/
def noteOption (option : Given) : StateT UnexpandOptions Work Unit := do
  match option.letter with
  | 'a' => modify ({ · with wholeLine := true })
  | 't' =>
    let stops ← (← get).stops.add option.digitArgument
    modify ({ · with stops, wholeLine := true })
  | ',' => modify store
  | '\x01' => modify ({ · with onlyInitial := true })
  | digit =>
    let value := (← get).number.getD 0 * 10 + digitsValue [digit]
    if quantityLimit < value then (Work.fail "tab stop value is too large".toList : Work Unit)
    modify ({ · with number := some value })

end UnexpandOptions

/-- Replaces blanks by tabs. -/
def unexpand (arguments : List Text) : Work Unit := do
  let table : OptionTable :=
    { letters := ",0123456789at:", names := [("all", 'a'), ("tabs", 't'), ("first-only", '\x01')] }
  let options : StateT UnexpandOptions Work (List Given × List Text) :=
    readOptionsWith UnexpandOptions.noteOption table arguments
  let ((_, operands), options) ← options.run {}
  let options := options.store
  options.stops.check
  let state ← foldInputs inputComplaint operands (fun state _ text =>
    putInSteps (UnexpandState.step options.stops (options.wholeLine && !options.onlyInitial)) state text) {}
  Work.put state.shownPending
  Work.closeInput "-"

end Pipework.Tool
