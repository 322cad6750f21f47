import Pipework.Shell.Builtin
import Pipework.Shell.Glob
import Pipework.Shell.Redirection

set_option autoImplicit false

/-!
The running of shell scripts. `Shell.evaluate` turns a command into the work of a shell: it makes processes for
programs, subshells and the parts of a pipeline, moves descriptors for redirections, and waits for what it
started. A command that is the last thing that a process does needs no process of its own.
-/

namespace Pipework.Shell

open Kernel

/-- How a command is carried out. -/
structure Manner where
  /-- Whether its failure is looked at, and so is no reason to exit. -/
  checked : Bool := false
  /-- Whether the process does nothing after it. -/
  last : Bool := false
  deriving DecidableEq, Repr

/-- The manner of a part of a command that is not the end of it. -/
def Manner.inner (manner : Manner) : Manner := { checked := manner.checked }

def Manner.tested : Manner := { checked := true }

/-- The options of `command` in front of a name: the other search path and the rest, if nothing but the
carrying out of the rest is asked for. -/
def commandOptions? : List Text → Option (Option Text × List Text)
  | [] => none
  | ['-', '-'] :: name :: later => some (none, name :: later)
  | argument :: later =>
    match argument with
    | '-' :: letter :: letters =>
      if (letter :: letters).all (· = 'p') then
        (commandOptions? later).map fun (_, rest) => (some standardSearchPath, rest)
      else none
    | _ => some (none, argument :: later)

/-- What the words of a command say about how its name is looked up. -/
structure CommandWords where
  fields : List Text
  /-- Whether the name is no function and no special builtin command. -/
  plain : Bool := false
  /-- Where programs are looked for instead of the usual places. -/
  otherPath : Option Text := none

/-- Takes `command` off the front of the words of a command. -/
def stripCommand (isFunction : Text → Bool) : Nat → CommandWords → CommandWords
  | 0, words => words
  | fuel + 1, words =>
    match words.fields with
    | name :: arguments =>
      if name == "command".toList && (words.plain || !isFunction name) then
        match commandOptions? arguments with
        | some (otherPath, rest) =>
          stripCommand isFunction fuel
            { fields := rest, plain := true, otherPath := otherPath <|> words.otherPath }
        | none => words
      else words
    | [] => words

/-- Builtin commands whose arguments may be assignments. -/
def declares (words : CommandWords) : Bool :=
  match words.fields with
  | name :: _ => ["export", "readonly", "local"].contains (String.ofList name)
  | [] => false

/-- Expands the words of a command; those before are given. -/
def expandCommandWords (run : OutputOf) : List Word → List Text → Work (List Text)
  | [], fields => return fields
  | word :: later, fields => do
    let shell ← get
    let isFunction (name : Text) : Bool := (shell.functions.lookup name).isSome
    let words := stripCommand isFunction (fields.length + 1) { fields }
    match if declares words then assignment? word else none with
    | some (name, value) => do
      let text ← expandText run .value value
      expandCommandWords run later (fields ++ [name ++ '=' :: text])
    | none => do
      let found ← (← expandFields run word).mapM expandPaths
      expandCommandWords run later (fields ++ found.flatten)

/-- Expands words, each into any number of fields. -/
def expandWords (run : OutputOf) : List Word → Work (List Text)
  | [] => return []
  | word :: later => do
    let found ← (← expandFields run word).mapM expandPaths
    return found.flatten ++ (← expandWords run later)

/-- Makes assignments; `wrap` prepares each variable. Gives the assignments as they are shown. -/
def assignAll (run : OutputOf) (isLocal isExported : Bool) : List (Text × Word) → Work (List Text)
  | [] => return []
  | (name, word) :: later => do
    let value ← expandText run .value word
    if isLocal && isName name then modify (·.makeLocal name)
    Work.assign name value
    if isExported then
      modify fun shell => shell.putVariable name { (shell.binding? name).getD {} with exported := true }
    return (name ++ '=' :: value) :: (← assignAll run isLocal isExported later)

/-- Shows a command before it is carried out. -/
def showCommand (diagnostics : Nat) (words : List Text) : Work Unit := do
  let shell ← get
  if shell.hasOption "xtrace" then
    let mark := (shell.variableValue? "PS4".toList).getD []
    let line := mark ++ List.intercalate [' '] words ++ ['\n']
    Work.tell (.write diagnostics (Bytes.ofChars line))

/-- Carries out a builtin command and writes what it has printed. -/
def underCommand (name : Text) (body : Work Nat) : Work Unit :=
  Work.restoring (fun before after => { after with command := before.command }) do
    modify ({ · with command := some name })
    let result : Except Escape Nat ←
      tryCatch (do return .ok (← body)) fun escape => return .error escape
    modify ({ · with command := some name })
    let worked ← Work.writeOutput
    if !worked then Work.warn (name ++ ": I/O error".toList)
    match result with
    | .ok status => Work.setStatus (if worked then status else status ||| 1)
    | .error escape => throw escape

/-- Makes a shell forget what only concerns the process from which it was made. -/
def beginSubshell : Work Unit := do
  let (kept, dropped) := (← get).traps.partition fun trap => trap.2.isEmpty
  let fixed := (← get).fixed
  dropped.forM fun trap => do
    if trap.1 ≠ 0 && !fixed.contains trap.1 then Work.tell (.configure (.signal trap.1 .usual))
  modify ({ · with traps := kept, jobs := [], arrived := [] })

/-- Prepares a process that is not waited for at once. -/
def beginBackground (readsNothing : Bool) : Work Unit := do
  Work.tell (.configure (.signal Signal.interrupt .ignore))
  Work.tell (.configure (.signal Signal.quit .ignore))
  if readsNothing then
    Work.tell (.close 0)
    Work.tell (.openFile (Bytes.ofString "/dev/null") .read)

/-- Reads a descriptor to its end. -/
def readToEnd (descriptor : Nat) : Nat → List Bytes → Work Text
  | 0, collected => return Bytes.toChars collected.reverse.flatten
  | fuel + 1, collected => do
    match ← Work.ask (.read descriptor 4096) with
    | .data [] => return Bytes.toChars collected.reverse.flatten
    | .data bytes => readToEnd descriptor fuel (bytes :: collected)
    | .failed .interrupted => readToEnd descriptor fuel collected
    | _ => return Bytes.toChars collected.reverse.flatten

/-- The output of a process that does something, whose ending is noted. -/
def outputOf (part : Shell → Task Nat) : Work Text := do
  match ← Work.ask .pipe with
  | .ends read write => do
    let process ← inNewProcess fun shell => do
      let _ ← Task.ask (.close read)
      if write = 1 then
        let _ ← Task.ask (.keepOnExec write)
      else
        let _ ← Task.ask (.duplicate write 1)
        let _ ← Task.ask (.close write)
      part shell
    Work.tell (.close write)
    let output ← readToEnd read workLimit []
    Work.tell (.close read)
    let processes := process.toList
    let endings ← awaitEndings processes workLimit []
    modify ({ · with outputStatus := statusOfLast processes endings })
    return output
  | _ => Work.fail "Pipe call failed".toList

/-- How a part of a loop ended. -/
inductive Turn where
  | done
  | skipped
  | left
  deriving DecidableEq, Repr

/-- Carries out a part of a loop. -/
def takeTurn (part : Work Unit) : Work Turn :=
  Work.restoring (fun before after => { after with loops := before.loops }) do
    modify fun shell => { shell with loops := shell.loops + 1 }
    tryCatch
      (do
        part
        return .done)
      fun
        | .breakLoops count => if count ≤ 1 then return .left else throw (.breakLoops (count - 1))
        | .nextTurn count => if count ≤ 1 then return .skipped else throw (.nextTurn (count - 1))
        | escape => throw escape

/-- Starts the parts of a pipeline, and gives their processes. The first of them may read nothing. -/
def startParts (begin : Bool → Work Unit) (runPart : Command → Work Unit → Shell → Task Nat)
    (isFirst : Bool) (incoming : Option Nat) : List Command → Work (List Nat)
  | [] => return []
  | part :: later => do
    let ends : Option (Nat × Nat) ←
      if later.isEmpty then pure none
      else
        match ← Work.ask .pipe with
        | .ends read write => pure (some (read, write))
        | _ => Work.fail "Pipe call failed".toList
    let process ← inNewProcess (runPart part do
      begin isFirst
      match ends with
      | some (read, _) => Work.tell (.close read)
      | none => pure ()
      match incoming with
      | some read => moveDescriptor read 0
      | none => pure ()
      match ends with
      | some (_, write) => moveDescriptor write 1
      | none => pure ())
    match incoming with
    | some read => Work.tell (.close read)
    | none => pure ()
    match ends with
    | some (read, write) => do
      Work.tell (.close write)
      let processes ← startParts begin runPart false (some read) later
      return process.toList ++ processes
    | none => return process.toList

/-- Remembers where the program of a part of a pipeline is found. -/
def trackPart (part : Command) : Work Unit := do
  match part with
  | .simple _ _ (word :: _) _ =>
    match plainText? word with
    | some name =>
      if isName name && !isBuiltin name && ((← get).functions.lookup name).isNone then
        let _ ← findProgram name none
    | none => pure ()
  | _ => pure ()

/-- Where more of a script is read, and how much at once. -/
def scriptBlock : Nat := 8192

/-- The file of a script: a path as it is, or a name that is looked for along the search path. -/
def findScript (name : Text) : Work Text := do
  if name.contains '/' then return name
  else
    let places := splitAt ':' (searchPath (← get))
    let rec search : List Text → Work Text
      | [] => Work.fail (name ++ ": not found".toList)
      | place :: later => do
        let path := if place.isEmpty then name else place ++ '/' :: name
        if ← isRegularFile path then return path else search later
    search places

/-- Shows what was read of a script, if that is wanted. A text that was given as such is not shown. -/
def showRead (descriptor : Option Nat) (read : Text) : Work Unit := do
  if descriptor.isSome && (← get).hasOption "verbose" then Work.writeError read

/-- The first lines of a text. -/
def firstLines : Nat → Text → Text
  | 0, _ => []
  | count + 1, text =>
    let line := text.takeWhile (· ≠ '\n')
    match text.drop line.length with
    | [] => line
    | _ :: rest => line ++ '\n' :: firstLines count rest

/-- Opens a script. Its descriptor is kept away from those that commands use. -/
def openScript (path : Text) : Work Nat := do
  match ← Work.ask (.openFile (Bytes.ofChars path) .read) with
  | .number opened => do
    match ← Work.ask (.duplicateFrom opened copiesFrom) with
    | .number kept => do
      Work.tell (.close opened)
      return kept
    | _ => return opened
  | .failed errno => Work.fail (openFault path .read errno)
  | _ => Work.fail (openFault path .read .noEntry)

mutual

/-- Carries out a command. -/
def evaluate : Nat → Manner → Command → Work Unit
  | 0, _, _ => throw .exit
  | fuel + 1, manner, command => do
    if (← get).hasOption "noexec" then return ()
    match command with
    | .nothing => return ()
    | .simple line assignments words redirections => do
      evaluateSimple fuel manner line assignments words redirections
      afterCommand fuel manner
    | .redirected line body redirections => do
      modify ({ · with line })
      let rewirings ← redirections.mapM (resolveRedirection (scriptOutput fuel))
      underRewirings rewirings fun worked _ =>
        if worked then evaluate fuel manner.inner body else Work.setStatus 2
    | .subshell line body redirections => do
      modify ({ · with line })
      let rewirings ← redirections.mapM (resolveRedirection (scriptOutput fuel))
      let inside : Work Unit := do
        beginSubshell
        if ← rewireAll rewirings then evaluate fuel { manner with last := true } body
        else Work.setStatus 2
      if manner.last && !hasTraps (← get) then
        inside
        throw .exit
      else
        let process ← inNewProcess (runToExit fuel inside)
        await process.toList
        afterCommand fuel manner
    | .sequence first second => do
      evaluate fuel manner.inner first
      evaluate fuel manner second
    | .both first second => do
      evaluate fuel .tested first
      if (← get).status = 0 then evaluate fuel manner second
    | .either first second => do
      evaluate fuel .tested first
      if (← get).status ≠ 0 then evaluate fuel manner second
    | .negated body => do
      evaluate fuel .tested body
      modify fun shell => { shell with status := if shell.status = 0 then 1 else 0 }
    | .pipeline parts => do
      parts.forM trackPart
      let processes ← startParts (fun _ => beginSubshell) (runPart fuel manner) true none parts
      await processes
      afterCommand fuel manner
    | .background (.pipeline parts) => do
      let begin (isFirst : Bool) : Work Unit := do
        beginSubshell
        beginBackground isFirst
      let processes ← startParts begin (runPart fuel manner) true none parts
      modify (addJob processes)
      Work.setStatus 0
      afterCommand fuel manner
    | .background body => do
      let process ← inNewProcess (runPart fuel {} body do
        beginSubshell
        beginBackground true)
      modify (addJob process.toList)
      Work.setStatus 0
      afterCommand fuel manner
    | .branch condition whenTrue whenFalse => do
      evaluate fuel .tested condition
      if (← get).status = 0 then evaluate fuel manner whenTrue
      else
        match whenFalse with
        | .nothing => Work.setStatus 0
        | whenFalse => evaluate fuel manner whenFalse
    | .repeatWhile holds condition body => evaluateLoop fuel manner.inner holds condition body 0
    | .forEach line name words body => do
      modify ({ · with line })
      let fields ← expandWords (scriptOutput fuel) words
      if fields.isEmpty then Work.setStatus 0 else evaluateEach fuel manner.inner name body fields
    | .choose line subject branches => do
      modify ({ · with line })
      let text ← expandText (scriptOutput fuel) .single subject
      evaluateChoice fuel manner text branches
    | .define name body => do
      modify fun shell =>
        { shell with functions := putEntry name body shell.functions }
      Work.setStatus 0

/-- What is done after a command: traps are looked after, and a failure may be a reason to exit. -/
def afterCommand : Nat → Manner → Work Unit
  | 0, _ => return ()
  | fuel + 1, manner => do
    let status := (← get).status
    runTraps fuel
    if (← get).hasOption "errexit" && !manner.checked && status ≠ 0 then throw .exit

/-- Carries out a simple command. -/
def evaluateSimple :
    Nat → Manner → Nat → List (Text × Word) → List Word → List Redirection → Work Unit
  | 0, _, _, _, _, _ => throw .exit
  | fuel + 1, manner, line, assignments, words, redirections => do
    modify ({ · with line, outputStatus := 0 })
    let run := scriptOutput fuel
    let fields ← expandCommandWords run words []
    let shell ← get
    let isFunction (name : Text) : Bool := (shell.functions.lookup name).isSome
    let stripped := stripCommand isFunction (fields.length + 1) { fields }
    let name := stripped.fields.headD []
    let function := if stripped.plain then none else shell.functions.lookup name
    let isSpecial := !stripped.plain && function.isNone && isSpecialBuiltin name
    let rewirings ← redirections.mapM (resolveRedirection run)
    let carryOut (worked : Bool) (diagnostics : Nat) : Work Unit := do
      if !worked then
        Work.setStatus 2
        if isSpecial then throw .fault
      else if stripped.fields.isEmpty then
        let shown ← assignAll run false false assignments
        if !shown.isEmpty then showCommand diagnostics shown
        modify fun shell => { shell with status := shell.outputStatus }
      else if isSpecial then
        let isExported := name == "exec".toList && 1 < stripped.fields.length
        let shown ← assignAll run false isExported assignments
        showCommand diagnostics (shown ++ fields)
        runBuiltin fuel manner name stripped.fields.tail
      else
        let body : Work Unit := do
          let shown ← assignAll run true true assignments
          showCommand diagnostics (shown ++ fields)
          match function with
          | some body => callFunction fuel manner body stripped.fields.tail
          | none =>
            if isBuiltin name then
              tryCatch (runBuiltin fuel manner name stripped.fields.tail) fun
                | .fault => Work.setStatus 2
                | escape => throw escape
            else runProgram fuel manner stripped
        if assignments.isEmpty then body
        else
          Work.restoring (fun _ after => after.closeFrame) do
            modify Shell.openFrame
            body
    if name == "exec".toList && function.isNone then carryOut (← rewireAll rewirings) 2
    else underRewirings rewirings carryOut

/-- Runs a program. -/
def runProgram : Nat → Manner → CommandWords → Work Unit
  | 0, _, _ => throw .exit
  | fuel + 1, manner, words => do
    let name := words.fields.headD []
    match ← findProgram name words.otherPath with
    | .error errno => do
      Work.warn (name ++ ": ".toList ++ searchFault errno)
      Work.setStatus 127
    | .ok path => do
      if manner.last && !hasTraps (← get) then becomeProgram path words.fields
      else
        let process ← inNewProcess (runToExit fuel do
          modify ({ · with traps := [] })
          becomeProgram path words.fields)
        await process.toList

/-- Calls a function. -/
def callFunction : Nat → Manner → Command → List Text → Work Unit
  | 0, _, _, _ => throw .exit
  | fuel + 1, manner, body, arguments =>
    let restore (before after : Shell) : Shell :=
      { after.closeFrame with
        parameters := before.parameters
        optionPlace := before.optionPlace
        loops := before.loops }
    Work.restoring restore do
      modify fun shell =>
        { shell.openFrame with
          parameters := arguments, optionPlace := {}, loops := 0 }
      tryCatch (evaluate fuel manner.inner body) fun
        | .returned => return ()
        | escape => throw escape

/-- Carries out a builtin command. -/
def runBuiltin : Nat → Manner → Text → List Text → Work Unit
  | 0, _, _, _ => throw .exit
  | fuel + 1, manner, name, arguments =>
    underCommand name do
      match String.ofList name with
      | "eval" => do
        runText fuel { checked := manner.checked } (List.intercalate [' '] arguments)
        return (← get).status
      | "." =>
        match arguments with
        | [] => return 0
        | script :: _ => do
          let path ← findScript script
          let descriptor ← openScript path
          Work.ensuring
            (Work.restoring (fun before after => { after with command := before.command }) do
              modify ({ · with command := some path })
              tryCatch (runSource fuel {} (some descriptor) { rest := [], complete := false }) fun
                | .returned => return ()
                | escape => throw escape)
            (Work.tell (.close descriptor))
          return (← get).status
      | "exec" => do
        let (_, operands) ← readOptions "" arguments
        match operands with
        | [] => return 0
        | program :: _ => do
          match ← findProgram program none with
          | .ok path => becomeProgram path operands
          | .error errno => do
            Work.warn (program ++ ": ".toList ++ searchFault errno)
            Work.setStatus (loadStatus errno)
            throw .exit
      | "command" => Builtin.describeCommand arguments
      | other =>
        match Builtin.table.lookup other with
        | some builtin => builtin arguments
        | none => return 127

/-- Carries out a body as long as a condition says so; `status` is that of the last time. -/
def evaluateLoop : Nat → Manner → Bool → Command → Command → Nat → Work Unit
  | 0, _, _, _, _, _ => throw .exit
  | fuel + 1, manner, holds, condition, body, status => do
    Work.tell .pause
    match ← takeTurn (evaluate fuel .tested condition) with
    | .left => Work.setStatus status
    | .skipped => evaluateLoop fuel manner holds condition body status
    | .done =>
      if ((← get).status = 0) = holds then
        match ← takeTurn (evaluate fuel manner body) with
        | .left => return ()
        | _ => evaluateLoop fuel manner holds condition body (← get).status
      else Work.setStatus status

/-- Carries out a body for each of some fields. -/
def evaluateEach : Nat → Manner → Text → Command → List Text → Work Unit
  | 0, _, _, _, _ => throw .exit
  | _ + 1, _, _, _, [] => return ()
  | fuel + 1, manner, name, body, field :: later => do
    Work.assign name field
    match ← takeTurn (evaluate fuel manner body) with
    | .left => return ()
    | _ => evaluateEach fuel manner name body later

/-- Carries out the first branch with a pattern that matches a text. -/
def evaluateChoice : Nat → Manner → Text → List (List Word × Command) → Work Unit
  | 0, _, _, _ => throw .exit
  | _ + 1, _, _, [] => Work.setStatus 0
  | fuel + 1, manner, text, (patterns, body) :: later => do
    let matched ← patterns.anyM fun pattern => do
      let marked ← expandMarked (scriptOutput fuel) .single pattern
      return Pattern.matchesAll (Pattern.ofText marked) text
    if !matched then evaluateChoice fuel manner text later
    else
      match body with
      | .nothing => Work.setStatus 0
      | body => evaluate fuel manner body

/-- Prints what a script within a word prints. -/
def scriptOutput : Nat → Command → Work Text
  | 0, _ => throw .exit
  | fuel + 1, script =>
    match script with
    | .nothing => do
      modify fun shell => { shell with outputStatus := shell.status }
      return []
    | script => outputOf (runToExit fuel do
      beginSubshell
      evaluate fuel { last := true } script)

/-- Carries out a command as all that a process does, once that is prepared. -/
def runPart : Nat → Manner → Command → Work Unit → Shell → Task Nat
  | 0, _, _, _, _ => return 2
  | fuel + 1, manner, command, prepare, shell =>
    runToExit fuel (do
      prepare
      evaluate fuel { manner with last := true } command) shell

/-- Runs the traps of the signals that have arrived. -/
def runTraps : Nat → Work Unit
  | 0 => return ()
  | fuel + 1 => do
    noteSignals
    let shell ← get
    match shell.arrived.min? with
    | none => return ()
    | some signal => do
      modify fun shell => { shell with arrived := shell.arrived.filter (· ≠ signal) }
      match shell.traps.lookup signal with
      | some (char :: action) => do
        let (status, before) := (shell.status, shell.statusBeforeTrap)
        modify ({ · with statusBeforeTrap := some status })
        Work.restoring (fun _ after => { after with statusBeforeTrap := before }) do
          runText fuel {} (char :: action)
        Work.setStatus status
        runTraps fuel
      | _ => runTraps fuel

/-- Does some work up to its end, runs the trap for the exit, and gives the status. -/
def runToExit : Nat → Work Unit → Shell → Task Nat
  | 0, _, _ => return 2
  | fuel + 1, work, shell => do
    let (_, after) ← work.run.run shell
    match after.traps.lookup 0 with
    | some (char :: action) => do
      let traps := after.traps.filter fun trap => trap.1 ≠ 0
      let shell := { after with traps, statusBeforeTrap := some after.status, loops := 0 }
      let (result, final) ← (runText fuel {} (char :: action)).run.run shell
      match result with
      | .error .exit | .error .fault => return final.status
      | _ => return after.status
    | _ => return after.status

/-- Runs a text as a script. -/
def runText : Nat → Manner → Text → Work Unit
  | 0, _, _ => throw .exit
  | fuel + 1, manner, text => runSource fuel manner none { rest := text }

/-- Reads and carries out the commands of a script. If it is not complete, more of it is read from a
descriptor. -/
def runSource : Nat → Manner → Option Nat → Source → Work Unit
  | 0, _, _, _ => throw .exit
  | fuel + 1, manner, descriptor, source => do
    let shell ← get
    let source := { source with aliases := shell.aliases, nextDocument := shell.nextDocument, documents := [] }
    match nextCommand source with
    | .ended => if !source.begun then Work.setStatus 0
    | .fault line message => do
      showRead descriptor (firstLines (line + 1 - source.line) source.rest)
      modify ({ · with line })
      Work.fail message.toList
    | .incomplete =>
      match ← Work.ask (.read (descriptor.getD 0) scriptBlock) with
      | .data (byte :: bytes) =>
        let more := (Bytes.toChars (byte :: bytes)).filter (· != '\x00')
        runSource fuel manner descriptor { source with rest := source.rest ++ more }
      | _ => runSource fuel manner descriptor { source with complete := true }
    | .command command after => do
      showRead descriptor (source.rest.take (source.rest.length - after.rest.length))
      modify fun shell =>
        { shell with
          documents := after.documents ++ shell.documents
          nextDocument := after.nextDocument
          readUpTo := after.line }
      let isLast :=
        match after.pushed with
        | some .ended => true
        | _ => false
      evaluate fuel { manner with last := manner.last && isLast } command
      if isLast then return () else runSource fuel manner descriptor { after with begun := true }

end

end Pipework.Shell
