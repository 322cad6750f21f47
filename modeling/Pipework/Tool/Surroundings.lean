import Pipework.Tool.Input
import Pipework.Tool.Option
import Pipework.Tool.Running
import Pipework.Tool.Words

set_option autoImplicit false

/-!
Tools about what surrounds a program, and tools that run other programs. A program has an environment and a working
directory; it runs on a system and for a user, and there is a single one, the superuser.
-/

namespace Pipework.Tool

open Kernel

/-- The working directory, by the path from which it was reached if that is known and wanted. -/
def pwd (environment : Variables) (arguments : List Text) : Work Unit := do
  let table : OptionTable := { letters := "LP", names := [("logical", 'L'), ("physical", 'P')] }
  let (given, operands) ← readOptions table arguments
  if !operands.isEmpty then Work.complain "ignoring non-option arguments".toList
  match ← Work.ask (.query .workingDirectory) with
  | .data path => do
    let logical := (environment.lookup "PWD".toList).getD []
    let isWanted := lastOf? given ['L', 'P'] = some 'L' && logical.head? = some '/'
    let isSame : Bool ← if isWanted then do
        match ← Work.ask (.query (.file (Bytes.ofChars logical) true)),
            ← Work.ask (.query (.file (Bytes.ofString ".") true)) with
        | .facts left, .facts right => pure (left.number = right.number)
        | _, _ => pure false
      else pure false
    Work.putLine (if isSame then logical else Bytes.toChars path)
  | _ => Work.report "couldn't find directory entry in '..' with matching i-node".toList

/-- Prints the values of variables, or all of them. -/
def printenv (environment : Variables) (arguments : List Text) : Work Unit := do
  let (given, operands) ← readOptions { letters := "0", names := [("null", '0')], inOrder := true } arguments
  let ending := if hasLetter given '0' then '\x00' else '\n'
  if operands.isEmpty then
    environment.forM fun (name, value) => Work.put (name ++ '=' :: value ++ [ending])
  else
    operands.forM fun name =>
      match environment.lookup name with
      | some value => Work.put (value ++ [ending])
      | none => modify ({ · with status := 1 })

/-- Puts the entry of a name in place of the one before, or adds one at the end. -/
def putVariable (name value : Text) : Variables → Variables
  | [] => [(name, value)]
  | entry :: later =>
    if entry.1 = name then (name, value) :: later else entry :: putVariable name value later

/-- Takes assignments off the front of arguments. -/
def takeAssignments : Variables → List Text → Variables × List Text
  | environment, argument :: later =>
    let name := argument.takeWhile (· ≠ '=')
    if name.length < argument.length && !name.isEmpty then
      takeAssignments (putVariable name (argument.drop (name.length + 1)) environment) later
    else (environment, argument :: later)
  | environment, [] => (environment, [])

/-- The status that tells of a failure of the tool itself. -/
def runnerFailure : Nat := 125

/-- Runs a program in another environment, or prints the environment. -/
def env (environment : Variables) (arguments : List Text) : Work Unit := do
  let table : OptionTable :=
    { letters := "iu:0C:"
      names := [("ignore-environment", 'i'), ("unset", 'u'), ("null", '0'), ("chdir", 'C')]
      inOrder := true }
  let (given, operands) ← readOptions table arguments
  let (startsEmpty, operands) : Bool × List Text :=
    match operands with
    | ['-'] :: later => (true, later)
    | operands => (hasLetter given 'i', operands)
  let kept := if startsEmpty then [] else environment
  let kept := given.foldl (fun (kept : Variables) option =>
    match option.letter, option.argument with
    | 'u', some name => kept.filter (·.1 != name)
    | _, _ => kept) kept
  let (environment, command) := takeAssignments kept operands
  match argumentOf? given 'C' with
  | some path =>
    match ← Work.ask (.configure (.workingDirectory (Bytes.ofChars path))) with
    | .failed errno => Work.fail (because ("cannot change directory to ".toList ++ inQuotes path) errno)
    | _ => pure ()
  | none => pure ()
  match command with
  | [] =>
    let ending := if hasLetter given '0' then '\x00' else '\n'
    environment.forM fun (name, value) => Work.put (name ++ '=' :: value ++ [ending])
  | name :: _ => do
    let errno ← become environment command
    Work.complain (because (inQuotes name) errno)
    Work.leaveWith (loadFailure errno)

/-- Reads the items of an input: words with quotes and backslashes, or pieces that end with a character. -/
def readItems : Nat → Option Text → Text → Except String (List Text)
  | 0, _, _ => .ok []
  | _ + 1, collected, [] => .ok ((collected.map List.reverse).toList)
  | fuel + 1, collected, char :: rest =>
    let more (text : Text) (rest : Text) : Except String (List Text) :=
      readItems fuel (some (text.reverse ++ collected.getD [])) rest
    if isSpace char then
      match collected with
      | none => readItems fuel none rest
      | some text => (readItems fuel none rest).map (text.reverse :: ·)
    else
      match char with
      | '\\' =>
        match rest with
        | next :: rest => more [next] rest
        | [] => more [] []
      | '\x27' | '\x22' =>
        let inside := rest.takeWhile fun next => next ≠ char && next ≠ '\n'
        match rest.drop inside.length with
        | next :: after =>
          if next = char then more inside after
          else .error (if char = '\x27' then "unmatched single quote" else "unmatched double quote")
        | [] => .error (if char = '\x27' then "unmatched single quote" else "unmatched double quote")
      | char => more [char] rest

/-- Groups of at most so many items. -/
def groupsOf {α : Type} (size : Nat) : Nat → List α → List (List α)
  | 0, _ => []
  | _, [] => []
  | fuel + 1, items => items.take size :: groupsOf size fuel (items.drop size)

/-- Puts a text in place of each occurrence of a mark. -/
def replaceMark (mark text : Text) : Nat → Text → Text
  | 0, rest => rest
  | _, [] => []
  | fuel + 1, char :: rest =>
    if !mark.isEmpty && mark.isPrefixOf (char :: rest) then
      text ++ replaceMark mark text fuel ((char :: rest).drop mark.length)
    else char :: replaceMark mark text fuel rest

/-- Runs commands one after the other, up to one that ends in a way that ends all. -/
def runAll (environment : Variables) (shows : Bool) : List (List Text) → Work Unit
  | [] => return ()
  | command :: later => do
    if shows then
      Work.tell (.write 2 (Bytes.ofChars (List.intercalate [' '] (command.map shownName) ++ ['\n'])))
    let name := command.headD []
    match ← runCommand environment command with
    | some (.exited 0) => runAll environment shows later
    | some (.exited 255) => do
      Work.complain (name ++ ": exited with status 255; aborting".toList)
      Work.leaveWith 124
    | some (.exited 126) => Work.leaveWith 126
    | some (.exited 127) => Work.leaveWith 127
    | some (.exited _) => do
      modify ({ · with status := 123 })
      runAll environment shows later
    | some (.signaled signal) => do
      Work.complain (name ++ ": terminated by signal ".toList ++ number signal)
      Work.leaveWith 125
    | none => Work.leaveWith 1

/-- Runs a command with items of the input as arguments. -/
def xargs (environment : Variables) (arguments : List Text) : Work Unit := do
  let table : OptionTable :=
    { letters := "0d:I:L:n:rts:P:x"
      names :=
        [("null", '0'), ("delimiter", 'd'), ("replace", 'I'), ("max-lines", 'L'), ("max-args", 'n'),
          ("no-run-if-empty", 'r'), ("verbose", 't')]
      inOrder := true }
  let (given, operands) ← readOptions table arguments
  let command := if operands.isEmpty then ["echo".toList] else operands
  let text ← match ← Work.readInput with
    | .ok text => pure text
    | .error _ => pure []
  let separator : Option Char :=
    if hasLetter given '0' then some '\x00'
    else (argumentOf? given 'd').map fun text => if text = "\\n".toList then '\n' else text.headD '\n'
  let split (text : Text) : Work (List Text) :=
    match separator with
    | some char => return (splitAfter char text).map (chompOf char)
    | none =>
      match readItems (text.length + 1) none text with
      | .ok items => return items
      | .error message => Work.fail (message.toList ++
          "; by default quotes are special to xargs unless you use the -0 option".toList)
  match argumentOf? given 'I' with
  | some mark => do
    let items := (plainLines text).filterMap fun line =>
      let line := line.dropWhile isBlank
      if line.isEmpty then none else some line
    runAll environment (hasLetter given 't')
      (items.map fun item => command.map fun word => replaceMark mark item (word.length + 1) word)
  | none => do
    let groups ← match (argumentOf? given 'L').bind natural? with
      | some count => do
        let lines := (plainLines text).filter fun line => !line.all isBlank
        (groupsOf (max 1 count) (lines.length + 1) lines).mapM fun group =>
          split (List.intercalate [' '] group)
      | none => do
        let items ← split text
        match (argumentOf? given 'n').bind natural? with
        | some count => pure (groupsOf (max 1 count) (items.length + 1) items)
        | none => pure (if items.isEmpty then [] else [items])
    let groups := if groups.isEmpty && !hasLetter given 'r' then [[]] else groups
    runAll environment (hasLetter given 't') (groups.map (command ++ ·))

/-- Says that the input is no terminal, or where it is. -/
def tty (arguments : List Text) : Work Unit := do
  let (given, operands) ← readOptions { letters := "s", names := [("silent", 's'), ("quiet", 's')] } arguments
  match operands with
  | extra :: _ => failExtra extra
  | [] => pure ()
  let isTerminal : Bool ← match ← Work.ask (.query (.descriptor 0)) with
    | .facts facts => pure (facts.kind = .terminal)
    | _ => pure false
  if !hasLetter given 's' then
    Work.putLine (if isTerminal then "/dev/pts/0".toList else "not a tty".toList)
  if !isTerminal then modify ({ · with status := 1 })

/-- The name of the only user, and of the group to which it belongs. -/
def userName : Text := "root".toList

/-- The kind of processor. -/
def machineName : Text := "x86_64".toList

/-- Gives up if there is an operand. -/
def failOperands (operands : List Text) : Work Unit := do
  match operands with
  | extra :: _ => failExtra extra
  | [] => return ()

/-- Prints the name of the user. -/
def whoami (arguments : List Text) : Work Unit := do
  let (_, operands) ← readOptions { letters := "" } arguments
  failOperands operands
  Work.putLine userName

/-- Prints the kind of processor. -/
def arch (arguments : List Text) : Work Unit := do
  let (_, operands) ← readOptions { letters := "" } arguments
  failOperands operands
  Work.putLine machineName

/-- Nobody has logged in. -/
def logname (arguments : List Text) : Work Unit := do
  let (_, operands) ← readOptions { letters := "" } arguments
  failOperands operands
  Work.fail "no login name".toList

/-- Prints the groups of users. -/
def groups (arguments : List Text) : Work Unit := do
  let (_, operands) ← readOptions { letters := "" } arguments
  if operands.isEmpty then Work.putLine userName
  else
    operands.forM fun user => do
      if user = userName then Work.putLine (user ++ " : ".toList ++ userName)
      else Work.report (quoted user ++ ": no such user".toList)

/-- Prints the numbers and names of the user. -/
def userIdentity (arguments : List Text) : Work Unit := do
  let (given, operands) ← readOptions
    { letters := "ugGnrz"
      names := [("user", 'u'), ("group", 'g'), ("groups", 'G'), ("name", 'n'), ("real", 'r'), ("zero", 'z')] }
    arguments
  let has (letter : Char) : Bool := hasLetter given letter
  if 1 < (['u', 'g', 'G'].filter has).length then
    Work.fail "cannot print \x22only\x22 of more than one choice".toList
  let chosen := has 'u' || has 'g' || has 'G'
  if !chosen && (has 'n' || has 'r') then
    Work.fail "cannot print only names or real IDs in default format".toList
  let ending := if has 'z' then '\x00' else '\n'
  (if operands.isEmpty then [userName] else operands).forM fun user => do
    if user ≠ userName then Work.report (quoted user ++ ": no such user".toList)
    else if !chosen then Work.putLine "uid=0(root) gid=0(root) groups=0(root)".toList
    else Work.put ((if has 'n' then userName else ['0']) ++ [ending])

/-- Prints what the system is called. -/
def uname (arguments : List Text) : Work Unit := do
  let (given, operands) ← readOptions
    { letters := "snrvmpioa"
      names :=
        [("kernel-name", 's'), ("nodename", 'n'), ("kernel-release", 'r'), ("kernel-version", 'v'),
          ("machine", 'm'), ("processor", 'p'), ("hardware-platform", 'i'), ("operating-system", 'o'),
          ("all", 'a')] } arguments
  failOperands operands
  let wanted (letter : Char) : Bool := hasLetter given letter || hasLetter given 'a'
  let parts : List (Char × String) :=
    [('s', "Linux"), ('m', "x86_64"), ('p', "unknown"), ('i', "unknown"), ('o', "GNU/Linux")]
  let shown := parts.filter fun (letter, name) =>
    wanted letter && !(hasLetter given 'a' && name = "unknown")
  let shown := if given.isEmpty then parts.take 1 else shown
  Work.putLine (List.intercalate [' '] (shown.map fun (_, name) => name.toList))

end Pipework.Tool
