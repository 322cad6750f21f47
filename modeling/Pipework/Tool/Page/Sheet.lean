import Pipework.Errno
import Pipework.Tool.Name
import Pipework.Tool.Page.Layout

set_option autoImplicit false

/-!
The writing of pages: lines come from one file or from several, and are put into columns.
-/

namespace Pipework.Tool

namespace Page

/-- What a column can do. -/
inductive Readiness where
  | ready
  /-- It waits for the next page. -/
  | waiting
  /-- A form feed was read while the page was stored. -/
  | fed
  | ended
  deriving DecidableEq, Repr

/-- A column of a page. -/
structure Column where
  /-- The index of the input. -/
  source : Nat
  state : Readiness := .ready
  /-- Whether the last page was full, so that a form feed behind it tells nothing new. -/
  wasFull : Bool := false
  /-- How many lines are still to be written on the page. -/
  left : Int := 0
  stored : Nat := 0
  /-- The index of the next stored line. -/
  next : Nat := 0
  isNumbered : Bool := false
  start : Nat := 0

/-- An input, and why it ends if reading it has failed. -/
structure Source where
  name : Text
  rest : Text
  failure : Option Errno := none

/-- What is known while pages are written. -/
structure Sheet where
  layout : Layout
  sources : Array Source
  columns : Array Column
  /-- What was written, the last character first. -/
  written : List Char := []
  /-- The lines that are stored, with their widths. -/
  lines : Array (Text × Nat) := #[]
  /-- The characters of a line that is being stored, the last one first. -/
  held : Option (List Char) := none
  date : Text := []
  title : Text := []
  page : Nat := 1
  lineNumber : Int := 1
  lineCount : Int := 1
  /-- The place in the line that is written. -/
  position : Int := 0
  /-- The place in the line that is read. -/
  inputPosition : Nat := 0
  /-- Blanks that are not written yet. -/
  blanks : Int := 0
  /-- Separators that are not written yet. -/
  separators : Nat := 0
  /-- Where the next column has to start. -/
  padding : Nat := 0
  /-- Whether something was written that needs a line end. -/
  hasText : Bool := false
  alignsEmpty : Bool := false
  isEmptyLine : Bool := true
  onlyFed : Bool := false
  owesFormFeed : Bool := false
  owesHeader : Bool := false
  isLastLine : Bool := false
  /-- How many inputs can be read. -/
  ready : Int := 0

/-- The writing of pages. It ends at an input that cannot be read. -/
abbrev Writing := ExceptT (Text × Errno) (StateM Sheet)

def put (char : Char) : Writing Unit := modify fun sheet => { sheet with written := char :: sheet.written }

def putText (text : Text) : Writing Unit := text.forM put

/-- The next character of an input. -/
def readChar? (source : Nat) : Writing (Option Char) := do
  let sheet ← get
  match sheet.sources[source]? with
  | none => return none
  | some input =>
    match input.rest with
    | [] => return none
    | char :: rest => do
      set { sheet with sources := sheet.sources.setIfInBounds source { input with rest } }
      return some char

/-- Passes over a line end. -/
def skipLineEnd (source : Nat) : Writing Unit := do
  let sheet ← get
  match sheet.sources[source]? with
  | some input =>
    if input.rest.head? = some '\n' then
      set { sheet with sources := sheet.sources.setIfInBounds source { input with rest := input.rest.tail } }
  | none => return ()

def columnAt (index : Nat) : Writing Column := do return ((← get).columns[index]?).getD { source := 0 }

def changeColumn (index : Nat) (change : Column → Column) : Writing Unit :=
  modify fun sheet => { sheet with columns := sheet.columns.modify index change }

def changeColumns (change : Column → Column) : Writing Unit :=
  modify fun sheet => { sheet with columns := sheet.columns.map change }

/-- Notes that the input of a column has ended. -/
def close (index : Nat) : Writing Unit := do
  let column ← columnAt index
  if column.state = .ended then return ()
  match ((← get).sources[column.source]?).bind fun input => input.failure.map fun errno => (input.name, errno) with
  | some fault => throw fault
  | none => pure ()
  if (← get).layout.isParallel then changeColumn index ({ · with state := .ended, left := 0 })
  else
    changeColumns fun column =>
      { column with state := .ended, left := if column.stored = 0 then 0 else column.left }
  modify fun sheet => { sheet with ready := sheet.ready - 1 }

/-- Makes a column wait for the next page. -/
def hold (index : Nat) : Writing Unit := do
  let layout := (← get).layout
  if layout.isParallel then changeColumn index ({ · with state := .waiting })
  else changeColumns ({ · with state := if layout.stores then .fed else .waiting })
  changeColumn index ({ · with left := 0 })
  modify fun sheet => { sheet with ready := sheet.ready - 1 }

/-- Makes columns ready for the next page. -/
def release : Writing Unit := do
  let sheet ← get
  let waiting := (sheet.columns.filter (·.state = .waiting)).size
  let columns := sheet.columns.map fun column =>
    if column.state = .waiting then { column with state := .ready } else column
  let ready : Int :=
    if sheet.layout.stores then (if (columns[0]?).any (·.state ≠ .ended) then 1 else 0) else sheet.ready + waiting
  set { sheet with columns, ready }

/-- How many columns have something to be written. -/
def readyColumns : Writing Nat := do
  let sheet ← get
  return (sheet.columns.filter fun column =>
    column.state = .ready || column.state = .fed ||
      (sheet.layout.stores && 0 < column.stored && 0 < column.left)).size

/-- How many tabs fit between two places, and where the last one leads. -/
def tabsTo (width : Nat) (goal : Int) : Nat → Nat → Nat × Nat
  | 0, place => (0, place)
  | fuel + 1, place =>
    let next := place + tabDistance width place
    if (place : Int) + 1 < goal && (next : Int) ≤ goal then
      let (count, last) := tabsTo width goal fuel next
      (count + 1, last)
    else (0, place)

/-- Writes blanks that are due, with tabs where they fit. -/
def writeBlanks : Writing Unit := do
  let sheet ← get
  let goal := sheet.position + sheet.blanks
  let wish := sheet.layout.wish
  let (count, place) := tabsTo (max 1 wish.outputTabWidth) goal sheet.blanks.toNat sheet.position.toNat
  putText (List.replicate count wish.outputTab)
  putText (List.replicate (goal - place).toNat ' ')
  modify fun sheet => { sheet with position := goal, blanks := 0 }

/-- Writes a character, or stores it. -/
def showChar (char : Char) : Writing Unit := do
  let sheet ← get
  match sheet.held with
  | some held => set { sheet with held := some (char :: held) }
  | none => writeChar sheet.layout char
where
  writeChar (layout : Layout) (char : Char) : Writing Unit := do
    if !layout.makesTabs then put char
    else if char = ' ' then modify fun sheet => { sheet with blanks := sheet.blanks + 1 }
    else do
      if 0 < (← get).blanks then writeBlanks
      let step : Int := if isShowable char then 1 else if char = '\x08' then -1 else 0
      modify fun sheet => { sheet with position := sheet.position + step }
      put char

/-- Goes on to a place in the line. -/
def padTo (place : Int) : Writing Unit := do
  let sheet ← get
  if sheet.layout.makesTabs then set { sheet with blanks := place - sheet.position }
  else
    putText (List.replicate (place - sheet.position).toNat ' ')
    modify fun sheet => { sheet with position := place }

/-- Writes the separators that are due. -/
def writeSeparators : Writing Unit := do
  let sheet ← get
  if sheet.separators = 0 then
    if 0 < sheet.blanks then writeBlanks
  else
    sheet.layout.separator.forM fun char => do
      if char = ' ' then modify fun sheet => { sheet with blanks := sheet.blanks + 1 }
      else
        if 0 < (← get).blanks then writeBlanks
        put char
        modify fun sheet => { sheet with position := sheet.position + 1 }
    if 0 < (← get).blanks then writeBlanks
    modify fun sheet => { sheet with separators := 0 }

/-- Goes on to where the next column starts. -/
def padToColumn : Writing Unit := do
  let sheet ← get
  let size := sheet.layout.separator.length
  if size < sheet.padding then
    padTo (sheet.padding - size : Nat)
    modify fun sheet => { sheet with padding := 0 }
  if sheet.layout.usesSeparator then writeSeparators

/-- Writes the number of a line. -/
def writeNumber : Writing Unit := do
  let sheet ← get
  let wish := sheet.layout.wish
  let digits := (toString sheet.lineNumber).toList
  let shown := padLeft wish.numberLength digits
  modify fun sheet => { sheet with lineNumber := sheet.lineNumber + 1 }
  (shown.drop (shown.length - wish.numberLength)).forM showChar
  if 1 < sheet.columns.size then
    if wish.numberSeparator = '\t' then
      (List.replicate (sheet.layout.numberWidth - wish.numberLength) ' ').forM showChar
    else showChar wish.numberSeparator
  else
    showChar wish.numberSeparator
    if wish.numberSeparator = '\t' then
      modify fun sheet =>
        { sheet with
          position := sheet.position + tabDistance (max 1 wish.outputTabWidth) sheet.position.toNat }
  if sheet.layout.truncates && !sheet.layout.isParallel then
    modify fun sheet => { sheet with inputPosition := sheet.inputPosition + sheet.layout.numberWidth }

/-- Goes on over an empty column. -/
def alignColumn (index : Nat) : Writing Unit := do
  let column ← columnAt index
  modify ({ · with padding := column.start })
  padToColumn
  if column.isNumbered then writeNumber

/-- How wide a text in a header is. -/
def shownWidth (text : Text) : Nat := (text.filter fun char => ' ' ≤ char && char ≠ '\x7f').length

/-- Writes the head of a page. -/
def writeHeader : Writing Unit := do
  modify ({ · with position := 0 })
  padTo (← get).layout.wish.margin
  writeBlanks
  let sheet ← get
  let pageText := "Page ".toList ++ number sheet.page
  let room := sheet.layout.wish.width - shownWidth sheet.date - shownWidth sheet.title - pageText.length
  let blanks (count : Nat) : Text := List.replicate (max 1 count) ' '
  putText (['\n', '\n'] ++ List.replicate sheet.layout.wish.margin ' ' ++ sheet.date ++ blanks (room / 2) ++
    sheet.title ++ blanks (room - room / 2) ++ pageText ++ ['\n', '\n', '\n'])
  modify ({ · with owesHeader := false, position := 0 })

/-- What is shown for a character, and how far it moves in the line. -/
def clumpOf (layout : Layout) (position : Nat) (char : Char) : Text × Int :=
  let octal : Text := '\\' :: (padLeft 3 (Nat.toDigits 8 char.toNat)).map fun digit => if digit = ' ' then '0' else digit
  if char = layout.wish.inputTab || char = '\t' then
    let width := tabDistance (if char = layout.wish.inputTab then layout.wish.inputTabWidth else 8) position
    (if layout.expandsTabs then List.replicate width ' ' else [char], width)
  else if isShowable char then ([char], 1)
  else if layout.wish.usesOctal then (octal, 4)
  else if layout.wish.usesCarets then
    if char.toNat < 128 then (['^', Char.ofNat (char.toNat ^^^ 64)], 2) else (octal, 4)
  else if char = '\x08' then (if position = 0 then [] else [char], -1)
  else ([char], 0)

/-- Takes a character into the line that is read. Gives what is shown for it, unless the line is full. -/
def takeClump (char : Char) : Writing (Option Text) := do
  let sheet ← get
  let (text, width) := clumpOf sheet.layout sheet.inputPosition char
  let position := ((sheet.inputPosition : Int) + width).toNat
  if sheet.layout.truncates && sheet.layout.columnWidth < position then return none
  set { sheet with inputPosition := position }
  return some text

/-- Passes over what is left of a line. -/
def skipLine (index : Nat) : Nat → Writing Unit
  | 0 => return ()
  | fuel + 1 => do
    let source := (← columnAt index).source
    match ← readChar? source with
    | none => close index
    | some '\n' => return ()
    | some '\x0c' => do
      skipLineEnd source
      if (← get).layout.keepsFormFeeds then modify ({ · with owesFormFeed := true })
      hold index
    | some _ => skipLine index fuel

/-- How many characters are left of all inputs. -/
def restSize : Writing Nat := do
  return (← get).sources.foldl (fun size source => size + source.rest.length) 1

/-- The first character of a line. A form feed behind a full page is passed over. -/
def readFirst? (index : Nat) : Writing (Option Char) := do
  let column ← columnAt index
  let first ← readChar? column.source
  let first ←
    if first = some '\x0c' && column.wasFull then do
      match ← readChar? column.source with
      | some '\n' => readChar? column.source
      | next => pure next
    else pure first
  changeColumn index ({ · with wasFull := false })
  return first

/-- Shows the rest of a line. Gives whether all of it was read. -/
def showRest (index : Nat) : Nat → Writing Bool
  | 0 => return true
  | fuel + 1 => do
    let source := (← columnAt index).source
    match ← readChar? source with
    | none => do
      close index
      return true
    | some '\n' => return true
    | some '\x0c' => do
      skipLineEnd source
      if (← get).layout.keepsFormFeeds then modify ({ · with owesFormFeed := true })
      hold index
      return true
    | some char =>
      match ← takeClump char with
      | none => return false
      | some text => do
        text.forM showChar
        showRest index fuel

/-- Goes on over empty columns at the start of a line. -/
def alignEmptyColumns (index : Nat) : Writing Unit := do
  let passed := (← get).separators
  modify ({ · with separators := 0 })
  (List.range passed).forM fun place => do
    alignColumn place
    modify fun sheet => { sheet with separators := sheet.separators + 1 }
  let start := (← columnAt index).start
  modify fun sheet =>
    { sheet with
      padding := start, alignsEmpty := false
      blanks := if sheet.layout.truncates then sheet.layout.columnWidth else 0 }

/-- Reads a line into a column. Gives whether all of it was read. -/
def showLine (index : Nat) : Writing Bool := do
  let first ← readFirst? index
  let column ← columnAt index
  match first with
  | none => do
    close index
    return true
  | some '\x0c' => do
    skipLineEnd column.source
    let sheet ← get
    set { sheet with onlyFed := true }
    if sheet.owesHeader && !sheet.layout.stores then
      modify ({ · with hasText := true })
      writeHeader
    else if sheet.layout.keepsFormFeeds then modify ({ · with owesFormFeed := true })
    hold index
    return true
  | some char => do
    let text? ← if char = '\n' then pure (some []) else takeClump char
    match text? with
    | none => return false
    | some text => do
      let sheet ← get
      if sheet.held.isNone then
        modify ({ · with hasText := true })
        if sheet.owesHeader && !sheet.layout.stores then writeHeader
        if sheet.layout.isParallel && sheet.alignsEmpty then alignEmptyColumns index
        padToColumn
      if column.isNumbered then writeNumber
      modify ({ · with isEmptyLine := false })
      if char = '\n' then return true
      else
        text.forM showChar
        showRest index (← restSize)

/-- Stores the lines of a page. -/
def storePage : Writing Unit := do
  changeColumns ({ · with stored := 0 })
  modify ({ · with lines := #[] })
  let sheet ← get
  (List.range sheet.columns.size).forM fun index => do
    (List.range sheet.layout.body).forM fun _ => do
      let isOpen : Bool := (← columnAt index).state = .ready
      if 0 < (← get).ready && isOpen then
        modify ({ · with inputPosition := 0, held := some [] })
        if !(← showLine index) then skipLine index (← restSize)
        let sheet ← get
        let text := (sheet.held.getD []).reverse
        let stillOpen : Bool := (← columnAt index).state = .ready
        if stillOpen || !text.isEmpty then
          modify fun sheet => { sheet with lines := sheet.lines.push (text, sheet.inputPosition) }
  modify ({ · with held := none })
  let total := (← get).lines.size
  let count := max 1 (← get).columns.size
  (List.range count).forM fun index => do
    let size (index : Nat) : Nat := total / count + (if index < total % count then 1 else 0)
    let next := (List.range index).foldl (fun sum index => sum + size index) 0
    changeColumn index ({ · with stored := size index, next })

/-- Makes a page ready. -/
def startPage : Writing Unit := do
  let layout := (← get).layout
  if layout.stores then
    storePage
    changeColumns fun column => { column with left := column.stored }
  else
    changeColumns fun column => { column with left := if column.state = .ready then layout.body else 0 }

/-- Writes a line that was stored. -/
def showStored (index : Nat) : Writing Unit := do
  let column ← columnAt index
  changeColumn index ({ · with next := column.next + 1 })
  modify ({ · with hasText := true })
  if (← get).owesHeader then writeHeader
  if column.state = .fed then
    changeColumns ({ · with state := .waiting })
    if (← columnAt 0).left ≤ 0 then
      if !(← get).layout.hasEnds then modify ({ · with hasText := false })
      return ()
  padToColumn
  let (text, width) := ((← get).lines[column.next]?).getD ([], 0)
  text.forM showChar
  let sheet ← get
  if sheet.blanks = 0 then
    let size := sheet.layout.separator.length
    let place : Int := (column.start : Int) + width
    let isFirst : Bool := (column.start : Int) - size = sheet.layout.wish.margin
    set { sheet with position := if isFirst then place - size else place }

/-- Writes a column of a line. Gives whether the line goes on. -/
def showColumn (sum : Bool) (index : Nat) : Writing (Bool × Bool) := do
  modify ({ · with inputPosition := 0 })
  let column ← columnAt index
  let layout := (← get).layout
  let countSeparator : Writing Unit := do
    if layout.usesSeparator then modify fun sheet => { sheet with separators := sheet.separators + 1 }
  let align (isDue : Bool) : Writing Unit := do
    if (← get).isEmptyLine then modify ({ · with alignsEmpty := true })
    else if isDue then alignColumn index
  if 0 < column.left || column.state = .fed then
    modify ({ · with onlyFed := false, padding := column.start })
    if layout.stores then showStored index
    else if !(← showLine index) then skipLine index (← restSize)
    let sum := sum || (← get).hasText
    changeColumn index fun column => { column with left := column.left - 1 }
    let column ← columnAt index
    let isOver : Bool ← if column.left ≤ 0 then pure ((← readyColumns) = 0 : Bool) else pure false
    if isOver then return (sum, false)
    if layout.isParallel && column.state ≠ .ready then
      align (column.state = .ended || (column.state = .waiting && (← get).onlyFed))
    countSeparator
    return (sum, true)
  else
    if layout.isParallel then align true
    countSeparator
    return (sum, true)

/-- Writes columns of a line until there is nothing more. -/
def showColumns : Bool → List Nat → Writing Bool
  | sum, [] => return sum
  | sum, index :: later => do
    let (sum, goesOn) ← showColumn sum index
    if goesOn then showColumns sum later else return sum

/-- Writes the lines of a page. Gives how many are left, and whether something was written. -/
def showLines : Nat → (left : Int) → (sum : Bool) → Writing (Int × Bool)
  | 0, left, sum => return (left, sum)
  | fuel + 1, left, sum => do
    if left ≤ 0 || (← readyColumns) = 0 then return (left, sum)
    else
      modify ({ · with
        position := 0, blanks := 0, separators := 0, hasText := false, alignsEmpty := false, isEmptyLine := true })
      let sum ← showColumns sum (List.range (← get).columns.size)
      let sheet ← get
      if sheet.hasText then put '\n'
      let left := if sheet.hasText then left - 1 else left
      if (← readyColumns) = 0 && !sheet.layout.hasEnds then return (left, sum)
      else if sheet.layout.wish.doubleSpaced && sum then
        put '\n'
        showLines fuel (left - 1) sum
      else showLines fuel left sum

/-- Writes a page. Gives whether there may be another one. -/
def showPage : Writing Bool := do
  startPage
  if (← readyColumns) = 0 then return false
  let layout := (← get).layout
  if layout.hasEnds then modify ({ · with owesHeader := true })
  modify ({ · with hasText := false })
  let lines : Nat := if layout.wish.doubleSpaced then 2 * layout.body else layout.body
  let (left, sum) ← showLines (lines + (← restSize) + 2) lines false
  if left = 0 then
    changeColumns fun column => if column.state = .ready then { column with wasFull := true } else column
  modify ({ · with hasText := sum })
  if sum && layout.hasEnds then
    putText (if layout.wish.usesFormFeed then ['\x0c'] else List.replicate (left + endLength).toNat '\n')
  else if layout.keepsFormFeeds && (← get).owesFormFeed then
    put '\x0c'
    modify ({ · with owesFormFeed := false })
  modify fun sheet => { sheet with page := sheet.page + 1 }
  if layout.wish.lastPage < (← get).page then return false
  release
  return true

/-- Passes over a line. -/
def passLine (index : Nat) : Writing Unit := do
  let first ← readFirst? index
  let sheet ← get
  if sheet.isLastLine then changeColumn index ({ · with wasFull := true })
  let isFed : Bool := first = some '\x0c'
  pass (← restSize) first
  let wish := sheet.layout.wish
  if wish.countsSkipped && (!sheet.layout.isParallel || index = 0) && !isFed then
    modify fun sheet => { sheet with lineCount := sheet.lineCount + 1 }
where
  pass : Nat → Option Char → Writing Unit
    | 0, _ => return ()
    | _, some '\n' => return ()
    | _, none => close index
    | _, some '\x0c' => do
      let sheet ← get
      if sheet.isLastLine then
        if sheet.layout.isParallel then changeColumn index ({ · with wasFull := false })
        else changeColumns ({ · with wasFull := false })
      skipLineEnd (← columnAt index).source
      hold index
    | fuel + 1, some _ => do pass fuel (← readChar? (← columnAt index).source)

/-- Passes over pages. Gives the number of the page at which there were none left. -/
def passPages (goal : Nat) : Nat → Nat → Writing (Option Nat)
  | 0, _ => return none
  | fuel + 1, page => do
    if goal ≤ page then return none
    else
      let layout := (← get).layout
      let passRow : Writing Unit := do
        (List.range (← get).columns.size).forM fun index => do
          if (← columnAt index).state = .ready then passLine index
      (List.range (layout.body - 1)).forM fun _ => passRow
      modify ({ · with isLastLine := true })
      passRow
      if layout.stores then
        changeColumns fun column => if column.state = .ended then column else { column with state := .waiting }
      release
      modify ({ · with isLastLine := false })
      if (← get).ready < 1 then return some page else passPages goal fuel (page + 1)

/-- Where columns start, and which of them have line numbers. -/
def placeColumns : Writing Unit := do
  let sheet ← get
  let layout := sheet.layout
  let size := layout.separator.length
  let extra := if layout.isParallel && layout.wish.isNumbered then layout.numberWidth else 0
  let startOf (index : Nat) : Nat :=
    if index = 0 then layout.wish.margin + size
    else if !layout.truncates then 0
    else layout.wish.margin + extra + index * (layout.columnWidth + size)
  let columns := sheet.columns.mapIdx fun index column =>
    { column with
      start := startOf index
      isNumbered := layout.wish.isNumbered && (!layout.isParallel || index = 0) }
  set { sheet with columns }

/-- Writes pages until there are none. -/
def showPages : Nat → Writing Unit
  | 0 => return ()
  | fuel + 1 => do
    if ← showPage then showPages fuel

/-- Writes all pages, or from some page on. Gives the number of pages if there are too few. -/
def showAll : Writing (Option Nat) := do
  let sheet ← get
  if sheet.layout.wish.isNumbered then set { sheet with lineCount := sheet.layout.wish.startNumber }
  let first := sheet.layout.wish.firstPage.getD 1
  let missing ← if 1 < first then passPages first (first + 1) 1 else pure none
  if 1 < first && (← get).ready < 1 then return missing
  modify ({ · with page := first })
  placeColumns
  modify fun sheet => { sheet with lineNumber := sheet.lineCount }
  showPages ((← restSize) + 2)
  return missing

end Page

end Pipework.Tool
