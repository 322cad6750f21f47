import Pipework.Shell.Builtin.Argument
import Pipework.Shell.Field

set_option autoImplicit false

/-!
The builtin commands about variables, parameters and the options of the shell.
-/

namespace Pipework.Shell.Builtin

/-- The name in `name=value`, and the value if there is one. -/
def splitAssignment (argument : Text) : Text × Option Text :=
  let name := argument.takeWhile (· ≠ '=')
  match argument.drop name.length with
  | _ :: value => (name, some value)
  | [] => (name, none)

/-- Variables with their values, as they can be read back. -/
def bindingLines (command : Text) (bindings : List (Text × Variable)) : Text :=
  let sorted := bindings.mergeSort fun left right => !decide (right.1 < left.1)
  sorted.flatMap fun (name, binding) =>
    let value : Text :=
      match binding.value with
      | some value => '=' :: quoteText value
      | none => []
    command ++ name ++ value ++ ['\n']

/-- Changes what is noted about a variable besides its value. -/
def markVariable (mark : Variable → Variable) (argument : Text) : Work Unit := do
  let (name, value) := splitAssignment argument
  let shell ← get
  match value with
  | some value => do
    Work.assign name value
    modify fun shell => shell.putVariable name (mark ((shell.binding? name).getD {}))
  | none =>
    if !isName name then Work.fail (name ++ ": bad variable name".toList)
    else set (shell.putVariable name (mark ((shell.binding? name).getD {})))

/-- Marks variables, or shows those that are marked. -/
def markAll (command : String) (mark : Variable → Variable) (isMarked : Variable → Bool) : Builtin :=
  fun arguments => do
    let (given, operands) ← readOptions "p" arguments
    if given.isEmpty && !operands.isEmpty then operands.forM (markVariable mark)
    else
      Work.print (bindingLines (command.toList ++ [' '])
        ((← get).bindings.filter fun entry => isMarked entry.2))
    return 0

def exportNames : Builtin := markAll "export" ({ · with exported := true }) Variable.exported

def protectNames : Builtin := markAll "readonly" ({ · with readOnly := true }) Variable.readOnly

def unsetVariable (name : Text) : Work Unit := do
  let shell ← get
  if !isName name then Work.fail (name ++ ": bad variable name".toList)
  else if (shell.binding? name).any Variable.readOnly then Work.fail (name ++ ": is read only".toList)
  else set (shell.restore name none)

def unset : Builtin := fun arguments => do
  let (given, names) ← readOptions "vf" arguments
  if (given.getLast?.map Prod.fst) = some 'f' then
    names.forM fun name => modify fun shell =>
      { shell with functions := dropEntry name shell.functions }
  else names.forM unsetVariable
  return 0

/-- Makes variables, or the options, local to the function that is being carried out. -/
def makeLocal : Builtin := fun arguments => do
  if (← get).frames.isEmpty then Work.fail "not in a function".toList
  else
    arguments.forM fun argument => do
      let (name, value) := splitAssignment argument
      if argument = ['-'] then modify (·.makeOptionsLocal)
      else
        if !isName name then Work.fail (name ++ ": bad variable name".toList)
        modify (·.makeLocal name)
        match value with
        | some value => Work.assign name value
        | none => pure ()
    return 0

def shift : Builtin := fun arguments => do
  let count ← match arguments with
    | [] => pure 1
    | argument :: _ => naturalArgument argument
  let shell ← get
  if shell.parameters.length < count then Work.fail "can't shift that many".toList
  else
    set { shell with parameters := shell.parameters.drop count, optionPlace := {} }
    return 0

/-- The names of options with their states. -/
def optionLines (asCommands : Bool) (shell : Shell) : Text :=
  optionLetters.flatMap fun (name, _) =>
    let isSet := shell.hasOption name
    if asCommands then
      "set ".toList ++ (if isSet then "-o " else "+o ").toList ++ name.toList ++ ['\n']
    else
      name.toList ++ List.replicate (16 - name.length) ' ' ++ (if isSet then "on" else "off").toList ++
        ['\n']

/-- Sets or clears the option of a letter. -/
def setLetter (isSet : Bool) (letter : Char) : Work Unit := do
  match optionLetters.find? fun entry => entry.2 = some letter with
  | some (name, _) => do
    modify (·.setOption name isSet)
    if isSet && letter = 'V' then modify (·.setOption "emacs" false)
    if isSet && letter = 'E' then modify (·.setOption "vi" false)
  | none => Work.fail ("Illegal option -".toList ++ [letter])

/-- Sets or clears an option by its name, or shows all options. -/
def setNamed (isSet : Bool) : List Text → Work (List Text)
  | [] => do
    let shell ← get
    Work.print (if isSet then "Current option settings\n".toList ++ optionLines false shell
      else optionLines true shell)
    return []
  | name :: later => do
    if optionLetters.any (·.1.toList = name) then
      modify (·.setOption (String.ofList name) isSet)
      return later
    else Work.fail ("Illegal option -o ".toList ++ name)

/-- Takes on the letters of one argument. Gives the arguments that follow. -/
def setLetters (isSet : Bool) : Text → List Text → Work (List Text)
  | [], later => return later
  | 'o' :: letters, later => do
    let later ← setNamed isSet later
    setLetters isSet letters later
  | letter :: letters, later => do
    setLetter isSet letter
    setLetters isSet letters later

/-- Takes on the options in front of parameters. Gives the parameters, if there are any to be set. -/
def setOptions : Nat → List Text → Work (Option (List Text))
  | 0, _ => return none
  | fuel + 1, arguments => do
    match arguments with
    | [] => return none
    | ['-'] :: later => do
      modify fun shell => (shell.setOption "xtrace" false).setOption "verbose" false
      return if later.isEmpty then none else some later
    | ['-', '-'] :: later => return some later
    | ('-' :: letters) :: later => do
      let later ← setLetters true letters later
      setOptions fuel later
    | ('+' :: letters) :: later => do
      let later ← setLetters false letters later
      setOptions fuel later
    | parameters => return some parameters

/-- Control of jobs needs a terminal that belongs to the shell, and there is none. A shell that was split off from
another does not look for one. -/
def giveUpMonitor : Work Unit := do
  let shell ← get
  if shell.hasOption "monitor" then
    match ← Work.ask (.query .ownNumber) with
    | .number process =>
      if process = shell.process then
        Work.warn "can't access tty; job control turned off".toList
        modify (·.setOption "monitor" false)
    | _ => return ()

def setShell : Builtin := fun arguments => do
  if arguments.isEmpty then
    let shell ← get
    Work.print (bindingLines [] (shell.bindings.filter fun entry => entry.2.value.isSome))
  else
    let parameters ← setOptions (arguments.length + 1) arguments
    giveUpMonitor
    match parameters with
    | some parameters => modify fun shell => { shell with parameters, optionPlace := {} }
    | none => pure ()
  return 0

/-- Reads a line byte by byte. Characters behind a backslash are marked as quoted. Also says whether the line
was ended. -/
def readLine (raw : Bool) : Nat → Bool → List (Char × Bool) → Work (List (Char × Bool) × Bool)
  | 0, _, taken => return (taken.reverse, false)
  | fuel + 1, escaped, taken => do
    match ← Work.ask (.read 0 1) with
    | .data [byte] =>
      let char := Char.ofNat byte.toNat
      if char = '\x00' then readLine raw fuel escaped taken
      else if escaped then
        readLine raw fuel false (if char = '\n' then taken else (char, true) :: taken)
      else if !raw && char = '\\' then readLine raw fuel true taken
      else if char = '\n' then return (taken.reverse, true)
      else readLine raw fuel false ((char, false) :: taken)
    | .failed .interrupted =>
      if (← get).traps.isEmpty then readLine raw fuel escaped taken else return (taken.reverse, false)
    | _ => return (taken.reverse, false)

/-- Runs of characters that are all quoted or all not quoted. -/
def linePieces (line : List (Char × Bool)) : List Piece :=
  (line.splitBy fun left right => left.2 = right.2).map fun run =>
    if run.any Prod.snd then .text (run.map Prod.fst) true else .loose (run.map Prod.fst)

/-- Gives the fields of a line to variables. -/
def assignFields : List Text → List Text → Work Unit
  | [], _ => return ()
  | name :: names, fields => do
    Work.assign name (fields.headD [])
    assignFields names fields.tail

def read : Builtin := fun arguments => do
  let (given, names) ← readOptions "p:r" arguments
  if names.isEmpty then Work.fail "arg count".toList
  else
    let (line, ended) ← readLine (given.any (·.1 = 'r')) workLimit false []
    let fields := Piece.fields (← get).separators (some names.length) (linePieces line)
    assignFields names (fields.map (·.map Prod.fst))
    return if ended then 0 else 1

/-- What `getopts` has found. -/
structure FoundOption where
  letter : Char
  argument : Option Text
  place : OptionPlace
  finished : Bool := false

/-- Looks for the next option. -/
def nextOption (specification : Text) (arguments : List Text) (place : OptionPlace) :
    FoundOption × Option Text :=
  let isSilent := specification.head? = some ':'
  let left : Text :=
    match place.offset with
    | some offset => (arguments.getD (place.index - 2) []).drop offset
    | none => []
  let (word, index) : Text × Nat :=
    if left.isEmpty then
      match arguments[place.index - 1]? with
      | some ('-' :: letter :: letters) => (letter :: letters, place.index + 1)
      | _ => ([], place.index)
    else (left, place.index)
  match word with
  | [] => ({ letter := '?', argument := none, place := { index }, finished := true }, none)
  | letter :: rest =>
    if left.isEmpty && word = ['-'] then
      ({ letter := '?', argument := none, place := { index }, finished := true }, none)
    else
      let size := (arguments.getD (index - 2) []).length
      let place : OptionPlace := { index, offset := some (size - rest.length) }
      match optionKind? letter (specification.drop (if isSilent then 1 else 0)) with
      | none =>
        ({ letter := '?', argument := if isSilent then some [letter] else none, place },
          if isSilent then none else some ("Illegal option -".toList ++ [letter]))
      | some false => ({ letter, argument := some [], place }, none)
      | some true =>
        if !rest.isEmpty then ({ letter, argument := some rest, place := { index } }, none)
        else
          match arguments[index - 1]? with
          | some argument =>
            ({ letter, argument := some argument, place := { index := index + 1 } }, none)
          | none =>
            if isSilent then ({ letter := ':', argument := some [letter], place }, none)
            else
              ({ letter := '?', argument := none, place },
                some ("No arg for -".toList ++ [letter] ++ " option".toList))

def getOptions : Builtin := fun arguments => do
  let (_, operands) ← readOptions "" arguments
  match operands with
  | specification :: name :: given => do
    let shell ← get
    let parameters := if given.isEmpty then shell.parameters else given
    let (found, complaint) := nextOption specification parameters shell.optionPlace
    match complaint with
    | some complaint => Work.writeError (complaint ++ ['\n'])
    | none => pure ()
    match found.argument, found.finished with
    | some argument, _ => Work.assign "OPTARG".toList argument
    | none, false => unsetVariable "OPTARG".toList
    | none, true => pure ()
    Work.assign "OPTIND".toList (number found.place.index)
    Work.assign name [found.letter]
    modify ({ · with optionPlace := found.place })
    return if found.finished then 1 else 0
  | _ => Work.fail "Usage: getopts optstring var [arg...]".toList

end Pipework.Shell.Builtin
