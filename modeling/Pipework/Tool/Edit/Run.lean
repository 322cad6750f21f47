import Pipework.Tool.Edit.Input
import Pipework.Tool.Edit.Reading
import Pipework.Tool.Edit.Script
import Pipework.Tool.Running

set_option autoImplicit false

/-!
How an editing script is carried out: its commands are applied to each line of the input, and what they have made
of it is put out, or put in the place of the file that it came from.
-/

namespace Pipework.Tool.Edit

open Kernel

/-- What a range of lines has come to. -/
inductive RangeState where
  | outside
  /-- Inside of the range, which ends at a line if that is known. -/
  | inside (last : Option Nat)
  | closed
  deriving DecidableEq, Repr

/-- How a script is carried out. -/
structure Style where
  commands : Array Command
  /-- Whether only what is asked for is put out. -/
  quiet : Bool := false
  /-- Whether the lines of each file are counted anew. -/
  separate : Bool := false
  /-- Whether files are replaced by what comes of them, and what is added to the names of the old ones. -/
  inPlace : Option Text := none
  /-- Whether only what is standard is done. -/
  strict : Bool := false
  listWidth : Nat := 70
  /-- The place at which faults are reported that show up late. -/
  place : ScriptPlace

/-- A file to which commands write. -/
structure Output where
  name : Text
  /-- The descriptor; none for the output of the editor. -/
  descriptor : Option Nat
  /-- Whether the end of a line is owed to it. -/
  owesEnd : Bool := false

/-- The state of the editor. -/
structure State where
  sources : Sources
  pattern : Text := []
  held : Text := []
  line : Nat := 0
  /-- Whether the present line was ended. -/
  ended : Bool := true
  /-- Whether the line that is held was ended. -/
  heldEnded : Bool := true
  /-- Whether the end of a line is owed to the output. -/
  owesEnd : Bool := false
  /-- Whether something was replaced since the last line was read or the last jump was taken. -/
  replaced : Bool := false
  lastPattern : Option EditPattern := none
  ranges : Array RangeState
  /-- What comes out after the present line, the latest part first. -/
  queued : List (Text ⊕ Text) := []
  /-- What is left of the files that are put out line by line. -/
  readers : List (Text × Text) := []
  outputs : List Output
  /-- What comes of the file at hand if it is to be replaced, the latest part first, and the mode of the file. -/
  edited : Option (List Text × Nat) := none

/-- What the editor does. -/
abbrev Run := ReaderT Style (StateT State Work)

/-- What follows when the commands have been carried out for a line. -/
inductive Outcome where
  /-- The line is put out, and another one is read. -/
  | finished
  /-- Another line is read. -/
  | dropped
  /-- The commands are carried out again. -/
  | again
  | quit (status : Nat)
  deriving DecidableEq, Repr

/-- The status after something that the editor cannot do without has failed. -/
def failureStatus : Nat := 4

/-- The ranges before the first line. One that begins before it is entered already. -/
def firstRanges (commands : Array Command) : Array RangeState :=
  commands.map fun command =>
    match command.first, command.second with
    | some (.line 0), some _ => .inside none
    | _, _ => .outside

namespace Run

def work {α : Type} (work : Work α) : Run α := liftM work

/-- Puts out text as it is. -/
def putRaw (text : Text) : Run Unit := do
  match (← get).edited with
  | some (parts, mode) => modify ({ · with edited := some (text :: parts, mode) })
  | none => work (Work.put text)

/-- The character that ends lines. -/
def last : Run Char := do return (← get).sources.last

/-- Puts out text behind what is owed. -/
def put (text : Text) : Run Unit := do
  if (← get).owesEnd then
    putRaw [← last]
    modify ({ · with owesEnd := false })
  putRaw text

/-- Puts out a line; its end is left out where the line that was read has none. -/
def putLine (text : Text) : Run Unit := do
  if (← get).ended then put (text ++ [← last])
  else
    put text
    modify ({ · with owesEnd := true })

/-- Puts out the text of a command. -/
def putText (text : Text) : Run Unit := do
  let last ← last
  put (if text.isEmpty then [] else text.dropLast ++ [last])

/-- Writes a line to a file, with or without its end. -/
def writeTo (path text : Text) (ended : Bool) : Run Unit := do
  match (← get).outputs.find? fun output => output.name = path with
  | none => return ()
  | some output => do
    let last ← last
    let text := (if output.owesEnd then [last] else []) ++ text ++ (if ended then [last] else [])
    match output.descriptor with
    | none => work (Work.put text)
    | some descriptor => do
      let _ ← work (Work.writeAll descriptor (text.length + 1) (Bytes.ofChars text))
    modify fun state =>
      { state with
        outputs := state.outputs.map fun output =>
          if output.name = path then { output with owesEnd := !ended } else output }

/-- Puts out what a file holds. -/
def putFile (path : Text) : Run Unit := do
  put []
  match ← work (Work.readFile path) with
  | .ok content => putRaw content
  | .error (.unread errno) => do
    work (Work.complain (because ("read error on ".toList ++ path) errno))
    work (Work.leaveWith failureStatus)
  | .error _ => return ()

/-- Puts out what comes after the present line. -/
def putQueued : Run Unit := do
  let queued := (← get).queued.reverse
  modify ({ · with queued := [] })
  queued.forM fun part =>
    match part with
    | .inl text => put text
    | .inr path => putFile path

/-- The name of the file that keeps the old content, given the name of the file and what is added to it. A star
stands for the last part of the name. -/
def backupName (suffix path : Text) : Text :=
  let name := (path.reverse.takeWhile (· ≠ '/')).reverse
  let folder := path.take (path.length - name.length)
  let backup :=
    if suffix.contains '*' then suffix.flatMap fun char => if char = '*' then name else [char]
    else name ++ suffix
  if backup.contains '/' then backup else folder ++ backup

/-- Puts what has come of a file in its place. -/
def replaceFile (suffix path content : Text) (mode : Nat) : Work Unit := do
  let name := Bytes.ofChars path
  if suffix.isEmpty then Work.tell (.edit (.remove name))
  else Work.tell (.edit (.rename name (Bytes.ofChars (backupName suffix path))))
  match ← Work.openAside path .replace with
  | .ok descriptor => do
    let _ ← Work.writeAll descriptor (content.length + 1) (Bytes.ofChars content)
    Work.tell (.close descriptor)
    Work.tell (.edit (.setMode name mode))
  | .error errno => Work.report (because ("couldn't open file ".toList ++ path) errno)

/-- Closes the file at hand, and replaces it if that is asked for. -/
def finishFile : Run Unit := do
  let sources ← work (← get).sources.close
  match (← read).inPlace, (← get).edited with
  | some suffix, some (parts, mode) => do
    work (replaceFile suffix sources.name parts.reverse.flatten mode)
    modify ({ · with edited := none, owesEnd := false })
  | _, _ => pure ()
  modify ({ · with sources })

/-- Prepares for a file that was turned to. -/
def startFile (isFirst : Bool) : Run Unit := do
  let style ← read
  if style.separate && !isFirst then
    modify fun state =>
      { state with
        line := 0, held := [], heldEnded := true
        ranges := firstRanges style.commands
        readers := [] }
    if (← get).owesEnd && style.inPlace.isNone && !style.strict then put []
  let sources := (← get).sources
  if style.inPlace.isSome && sources.current.isSome then
    match ← work (Work.ask (.query (.file (Bytes.ofChars sources.name) true))) with
    | .facts facts =>
      if facts.kind = .regular then modify ({ · with edited := some ([], facts.mode) })
      else
        work (Work.complain ("couldn't edit ".toList ++ sources.name ++ ": not a regular file".toList))
        work (modify ({ · with status := failureStatus }))
        modify ({ · with sources := { ← sources.close with current := none } })
    | _ => return ()

/-- Whether there is no line left; where files count by themselves, in the file at hand. -/
def isAtEnd : Run Bool := do
  let sources := (← get).sources
  let (more, sources) ←
    if (← read).separate then work sources.hasLine else work (sources.settle (2 * sources.later.length + 3))
  modify ({ · with sources })
  return !more

/-- Reads the next line, if there is one. -/
def readLine : Run (Option Text) := do
  putQueued
  modify ({ · with replaced := false })
  seek (2 * (← get).sources.later.length + 3)
where
  /-- Takes a line of the file at hand, or of the files that follow it. -/
  seek : Nat → Run (Option Text)
    | 0 => return none
    | fuel + 1 => do
      let (more, sources) ← work (← get).sources.hasLine
      modify ({ · with sources })
      if more then
        let ((text, ended), sources) := sources.takeLine
        modify fun state => { state with sources, line := state.line + 1, ended }
        return some text
      else
        let isFirst := sources.name = inputOperand && sources.current.isNone && (← get).line = 0
        finishFile
        let (isThere, sources) ← work (← get).sources.openNext
        modify ({ · with sources })
        if isThere then
          startFile isFirst
          seek fuel
        else return none

/-- Gives up for a fault of the script that has shown up late. -/
def failLate {α : Type} (message : String) : Run α := do
  work (Work.complain ((← read).place.shown ++ ": ".toList ++ message.toList))
  work (Work.leaveWith 1)

/-- The pattern with its regular expression, for a pattern that may stand for the one before. -/
def resolve (pattern : EditPattern) : Run (Option (Regex × EditPattern)) := do
  match pattern.regex with
  | some regex => do
    modify ({ · with lastPattern := some pattern })
    return some (regex, pattern)
  | none =>
    match (← get).lastPattern with
    | some before => return before.regex.map fun regex => (regex, before)
    | none => failLate "no previous regular expression"

/-- Whether an address is the present line. -/
def isHere (address : Address) : Run Bool := do
  let state ← get
  match address with
  | .line number => return state.line = max number 1
  | .every first step =>
    if step = 0 then return state.line = first
    else return first ≤ state.line && (state.line - first) % step = 0
  | .last => isAtEnd
  | .matching pattern => do
    match ← resolve pattern with
    | some (regex, pattern) => return regex.occursIn pattern.matching (← get).pattern
    | none => return false

/-- What comes of a range that begins at a line, if this can be told from the number of the line. -/
def rangeFrom (line : Nat) : RangeEnd → RangeState
  | .at (.line last) => if last ≤ line then .closed else .inside none
  | .at _ => .inside none
  | .after count => if count = 0 then .closed else .inside (some (line + count))
  | .multiple count => if count = 0 then .closed else .inside (some ((line / count + 1) * count))

/-- Whether a command is for the present line, but for its negation. -/
def isAddressed (index : Nat) (command : Command) : Run Bool := do
  match command.first, command.second with
  | none, _ => return true
  | some address, none => isHere address
  | some address, some rangeEnd => do
    let line := (← get).line
    let set (range : RangeState) : Run Unit :=
      modify fun state => { state with ranges := state.ranges.setIfInBounds index range }
    match (← get).ranges.getD index .outside with
    | .inside (some last) => do
      if last ≤ line then set .closed
      return true
    | .inside none =>
      match rangeEnd with
      | .at (.line last) => do
        if last ≤ line then set .closed
        return line ≤ last
      | .at endAddress => do
        if ← isHere endAddress then set .closed
        return true
      | _ => return true
    | range => do
      let begins : Run Bool :=
        match address with
        | .line number => return range ≠ .closed && number ≤ line
        | address => isHere address
      if !(← begins) then return false
      match rangeEnd with
      | .at (.every _ _) | .at .last => do
        let ends ←
          match rangeEnd with
          | .at address => isHere address
          | _ => pure false
        set (if ends then .closed else .inside none)
        return true
      | rangeEnd => do
        set (rangeFrom line rangeEnd)
        match address, rangeEnd with
        | .line number, .at (.line last) => return line = number || line ≤ last
        | _, _ => return true

/-- Runs the shell for a command, and takes what it puts out for the line. -/
def takeOutput (command : Text) : Run Unit := do
  let output ← work (captureOutput command)
  modify fun state => { state with pattern := chompOf state.sources.last output }

/-- Carries out a replacement. -/
def substitute (substitution : Substitution) : Run Unit := do
  match ← resolve substitution.pattern with
  | none => return ()
  | some (regex, before) => do
    let highest := highestGroup substitution.replacement
    if before.groups < highest && !(← read).strict then failLate (groupFault highest)
    let text := (← get).pattern
    let (pattern, replaced) :=
      replaceIn substitution regex before.matching (2 * text.length + 2) 0 none false text
    if replaced then
      modify ({ · with pattern, replaced := true })
      if substitution.runs then
        if substitution.printsFirst then putLine pattern
        takeOutput pattern
      let pattern := (← get).pattern
      if substitution.prints || (substitution.printsFirst && !substitution.runs) then putLine pattern
      match substitution.file with
      | some path => writeTo path pattern (← get).ended
      | none => return ()

/-- Takes the next line of a file that is put out line by line. -/
def takeLineOf (path : Text) : Run Text := do
  let rest ← match (← get).readers.lookup path with
    | some rest => pure rest
    | none => do
      match ← work (Work.readFile path) with
      | .ok content => pure content
      | .error (.unread errno) => do
        work (Work.complain (because ("read error on ".toList ++ path) errno))
        work (Work.leaveWith failureStatus)
      | .error _ => pure []
  let line := (splitAfter (← get).sources.last rest).headD []
  modify fun state =>
    { state with
      readers := (path, rest.drop line.length) :: state.readers.filter fun reader => reader.1 ≠ path }
  return line

/-- Runs a command of the shell, or the line itself if the command is empty. -/
def runShell (command : Text) : Run Unit := do
  if command.isEmpty then
    takeOutput (← get).pattern
    modify ({ · with ended := true })
  else
    let output ← work (captureOutput (chomp command))
    if !output.isEmpty then put output

/-- The place behind the block that a command opens. -/
def behindBlock (commands : Array Command) : Nat → Nat → Nat → Nat
  | 0, index, _ => index
  | fuel + 1, index, depth =>
    match (commands[index]?).map Command.action with
    | none => index
    | some .openBlock => behindBlock commands fuel (index + 1) (depth + 1)
    | some .closeBlock =>
      if depth ≤ 1 then index + 1 else behindBlock commands fuel (index + 1) (depth - 1)
    | some _ => behindBlock commands fuel (index + 1) depth

/-- The place of a label; an empty one stands for the end of the script. Of two labels of one name, the latter
counts. -/
def labelPlace (commands : Array Command) (label : Text) : Nat :=
  if label.isEmpty then commands.size
  else
    match commands.reverse.findIdx? fun command => command.action = .label label with
    | some index => commands.size - 1 - index
    | none => commands.size

/-- What comes before the first end of a line, and what comes after it if there is one. -/
def splitLine (last : Char) (text : Text) : Text × Option Text :=
  let line := text.takeWhile (· ≠ last)
  (line, if line.length < text.length then some (text.drop (line.length + 1)) else none)

/-- Carries out the commands from a place on. -/
def carryOut : Nat → Nat → Run Outcome
  | 0, _ => return .finished
  | fuel + 1, index => do
    let style ← read
    match style.commands[index]? with
    | none => return .finished
    | some command => do
      let goOn : Run Outcome := carryOut fuel (index + 1)
      let wanted := (← isAddressed index command) != command.negated
      let jumpTo (label : Text) : Run Outcome := carryOut fuel (labelPlace style.commands label)
      if !wanted then
        match command.action with
        | .openBlock => carryOut fuel (behindBlock style.commands (style.commands.size + 1) index 0)
        | _ => goOn
      else
        let state ← get
        let last := state.sources.last
        let edit (change : State → State) : Run Outcome := do
          modify change
          goOn
        match command.action with
        | .openBlock | .closeBlock | .label _ => goOn
        | .append text => edit fun state => { state with queued := .inl text :: state.queued }
        | .readFile path =>
          if command.first = some (.line 0) then
            putFile path
            goOn
          else edit fun state => { state with queued := .inr path :: state.queued }
        | .readLine path => do
          let line ← takeLineOf path
          edit fun state => { state with queued := if line.isEmpty then state.queued else .inl line :: state.queued }
        | .run command => do
          runShell command
          goOn
        | .insert text => do
          putText text
          goOn
        | .change text => do
          let inRange :=
            match state.ranges.getD index .outside with
            | .inside _ => command.second.isSome && !command.negated
            | _ => false
          if !inRange then putText text
          return .dropped
        | .delete => return .dropped
        | .deleteFirst =>
          match splitLine last state.pattern with
          | (_, none) => return .dropped
          | (_, some pattern) => do
            modify ({ · with pattern })
            return .again
        | .printName => do
          put (state.sources.name ++ [last])
          goOn
        | .takeHeld => edit fun state => { state with pattern := state.held, ended := state.heldEnded }
        | .takeHeldToo =>
          edit fun state =>
            { state with pattern := state.pattern ++ last :: state.held, ended := state.heldEnded }
        | .hold => edit fun state => { state with held := state.pattern, heldEnded := state.ended }
        | .holdToo =>
          edit fun state =>
            { state with held := state.held ++ last :: state.pattern, heldEnded := state.ended }
        | .exchange =>
          edit fun state =>
            { state with
              pattern := state.held
              held := state.pattern
              ended := state.heldEnded
              heldEnded := state.ended }
        | .clear => edit fun state => { state with pattern := [] }
        | .list width => do
          put (listed (width.getD style.listWidth) last state.pattern)
          goOn
        | .print => do
          putLine state.pattern
          goOn
        | .printFirst => do
          match splitLine last state.pattern with
          | (line, none) => putLine line
          | (line, some _) => put (line ++ [last])
          goOn
        | .printNumber => do
          put (number state.line ++ [last])
          goOn
        | .next => do
          if ← isAtEnd then return .finished
          else
            if !style.quiet then putLine state.pattern
            let line ← readLine
            modify ({ · with pattern := line.getD [] })
            goOn
        | .nextToo => do
          if ← isAtEnd then return (if style.strict then .dropped else .finished)
          else
            let line ← readLine
            modify fun state => { state with pattern := state.pattern ++ last :: line.getD [] }
            goOn
        | .quit status => do
          if !style.quiet then putLine state.pattern
          putQueued
          return .quit status
        | .quitSilently status => return .quit status
        | .writeFile path => do
          writeTo path state.pattern state.ended
          goOn
        | .writeFirst path => do
          let (line, later) := splitLine last state.pattern
          writeTo path line (later.isSome || state.ended)
          goOn
        | .substitute substitution => do
          Run.substitute substitution
          goOn
        | .translate sources targets =>
          let replace (char : Char) : Char := ((sources.zip targets).reverse.lookup char).getD char
          edit fun state => { state with pattern := state.pattern.map replace }
        | .withdrawn letter => do
          work (Work.complain ("INTERNAL ERROR: Bad cmd ".toList ++ [letter]))
          work (Work.leaveWith failureStatus)
        | .jump label => jumpTo label
        | .jumpIfReplaced label =>
          if state.replaced then
            modify ({ · with replaced := false })
            jumpTo label
          else goOn
        | .jumpUnlessReplaced label =>
          if state.replaced then
            modify ({ · with replaced := false })
            goOn
          else jumpTo label

/-- Edits line by line. Gives the status if a command ends the editor. -/
def editLines : Nat → (reread : Bool) → Run (Option Nat)
  | 0, _ => return none
  | fuel + 1, reread => do
    let line ← if reread then pure (some (← get).pattern) else readLine
    match line with
    | none => do
      putQueued
      return none
    | some pattern => do
      modify ({ · with pattern })
      match ← carryOut stepLimit 0 with
      | .finished => do
        if !(← read).quiet then putLine (← get).pattern
        putQueued
        editLines fuel false
      | .dropped => do
        putQueued
        editLines fuel false
      | .again => do
        putQueued
        editLines fuel true
      | .quit status => return some status

end Run

end Pipework.Tool.Edit
