import Pipework.Kernel.Call
import Pipework.Kernel.Descriptor
import Pipework.Kernel.Pipe

set_option autoImplicit false

/-!
The kernel. A `System` holds processes with their descriptor tables, the pipes between them and the
files. A process runs a program whose state has some type `σ`; a `Behaviour` says which call a state makes
and how it goes on with the answer. `System.step` lets one process make one move, or says that it is
blocked; it is the only way in which a system changes, apart from the passing of time.

Whether an end of a pipe is held is never stored: it is read off the tables of the processes.
-/

namespace Pipework.Kernel

/-- The variables of a process. -/
abbrev Environment := List (Bytes × Bytes)

/-- A process. -/
structure Process (σ : Type) where
  program : σ
  parent : Option Nat := none
  descriptors : DescriptorTable := Std.ExtTreeMap.empty
  /-- Descriptors are numbered below this. -/
  limit : Nat := 256
  environment : Environment := []
  /-- How the process ended, if it has. -/
  ending : Option Termination := none
  /-- How much of the data of the present write has been taken. -/
  written : Nat := 0
  /-- When the present rest is over. -/
  deadline : Option Nat := none
  /-- The descriptor of a pipe that is being opened by name, and how often its other end had been opened before. -/
  opening : Option (Nat × Nat) := none
  /-- The directory in which paths without a leading slash begin. -/
  working : Nat := Files.root
  /-- Which permissions are taken from new files. -/
  mask : Nat := 0o022
  /-- Whether the process was stopped, until it is continued. -/
  stopped : Bool := false
  ignored : List Signal := []
  handled : List Signal := []
  /-- The handled signals that have arrived and were not taken, the first one first. -/
  arrived : List Signal := []
  /-- Whether a handled signal has arrived since the last answer. -/
  interrupted : Bool := false

/-- A machine with its processes. -/
structure System (σ : Type) where
  processes : Std.ExtTreeMap Nat (Process σ)
  nextProcess : Nat
  pipes : Std.ExtTreeMap Nat Pipe
  nextPipe : Nat
  files : Files
  shape : PipeShape
  /-- Milliseconds since the start of 1970. -/
  clock : Nat
  /-- How many programs have been loaded. -/
  loaded : Nat := 0

/-- How programs act. -/
structure Behaviour (σ : Type) where
  /-- The call that a program makes next, unless it has come to rest. -/
  next : σ → Option Call
  /-- How a program goes on with an answer. -/
  resume : σ → Reply → σ
  /-- The program found under a name by a process with a working directory, at its start. -/
  load : Files → Nat → Environment → Bytes → List Bytes → Except Errno σ

/-- What comes of a call. -/
inductive Effect (σ : Type) where
  | answer (reply : Reply) (system : System σ)
  /-- The system has changed, but there is no answer, or none yet. -/
  | moved (system : System σ)
  | blocked

namespace System

variable {σ : Type}

/-- Replaces a process. -/
def put (system : System σ) (number : Nat) (process : Process σ) : System σ :=
  { system with processes := system.processes.insert number process }

/-- Replaces a pipe. -/
def putPipe (system : System σ) (number : Nat) (pipe : Pipe) : System σ :=
  { system with pipes := system.pipes.insert number pipe }

/-- The present moment. Programs that are loaded one after the other see different ones. -/
def now (system : System σ) : Moment := (system.clock : Int) * 1000000 + system.loaded

/-- Whether some process holds the object. -/
def holds (system : System σ) (object : Object) : Bool :=
  system.processes.toList.any fun entry => entry.2.descriptors.refersTo object

/-- Whether there is such a process and it has not ended. -/
def isRunning (system : System σ) (number : Nat) : Bool :=
  (system.processes[number]?).any fun process => process.ending.isNone

/-- A process that has been told of a signal, if it handles it. -/
def told (signal : Signal) (process : Process σ) : Process σ :=
  if process.handled.contains signal && process.ending.isNone then
    { process with interrupted := true, arrived := process.arrived ++ [signal] }
  else process

/-- Ends a process. Its descriptors are released, its children have no parent from then on, and its own parent
is told. -/
def finish (system : System σ) (number : Nat) (how : Termination) : System σ :=
  let parent := (system.processes[number]?).bind Process.parent
  let orphaned := system.processes.map fun other process =>
    let process := if some other = parent then told Signal.child process else process
    if process.parent = some number then { process with parent := none } else process
  match orphaned[number]? with
  | none => system
  | some process =>
    { system with
      processes := orphaned.insert number
        { process with ending := some how, descriptors := Std.ExtTreeMap.empty } }

/-- Sends a signal to a process. -/
def deliver (system : System σ) (number : Nat) (signal : Signal) : System σ :=
  match system.processes[number]? with
  | none => system
  | some process =>
    if process.ending.isSome then system
    else if signal = Signal.kill then system.finish number (.signaled signal)
    else if signal = Signal.stop then system.put number { process with stopped := true }
    else
      let process := { process with stopped := process.stopped && signal != Signal.continued }
      let system := system.put number process
      if process.ignored.contains signal then system
      else if process.handled.contains signal then system.put number (told signal process)
      else if signal.isHarmless then system
      else if signal.isStop then system.put number { process with stopped := true }
      else system.finish number (.signaled signal)

/-- The children of a process. -/
def childrenOf (system : System σ) (number : Nat) : List (Nat × Process σ) :=
  system.processes.toList.filter fun entry => entry.2.parent = some number

/-- The ended child with the lowest number. -/
def endedChild? (system : System σ) (number : Nat) : Option (Nat × Termination) :=
  (system.childrenOf number).findSome? fun entry => entry.2.ending.map (entry.1, ·)

/-- Lets a process have another descriptor table. -/
def putTable (system : System σ) (number : Nat) (process : Process σ) (table : DescriptorTable) :
    System σ :=
  system.put number { process with descriptors := table }

/-- The answer to a call that changes the table of the caller. -/
def tableAnswer (system : System σ) (number : Nat) (process : Process σ) :
    Except Errno DescriptorTable → Effect σ
  | .error errno => .answer (.failed errno) system
  | .ok table => .answer .done (system.putTable number process table)

/-- The answer to a call that gives a number to a descriptor of the caller. -/
def numberAnswer (system : System σ) (number : Nat) (process : Process σ) :
    Except Errno (Nat × DescriptorTable) → Effect σ
  | .error errno => .answer (.failed errno) system
  | .ok (value, table) => .answer (.number value) (system.putTable number process table)

/-- Makes a pipe. Its read end takes the lowest free number, its write end the next. -/
def makePipe (system : System σ) (number : Nat) (process : Process σ) : Effect σ :=
  let made := system.nextPipe
  match process.descriptors.allocate process.limit 0 ⟨.readEnd made, true⟩ with
  | .error errno => .answer (.failed errno) system
  | .ok (readNumber, table) =>
    match table.allocate process.limit 0 ⟨.writeEnd made, true⟩ with
    | .error errno => .answer (.failed errno) system
    | .ok (writeNumber, table) =>
      .answer (.ends readNumber writeNumber)
        { system.putTable number process table with
          pipes := system.pipes.insert made {}
          nextPipe := made + 1 }

/-- Reads from a pipe. An empty pipe answers with no data once nobody can write to it. -/
def readPipe (system : System σ) (number limit : Nat) : Effect σ :=
  match system.pipes[number]? with
  | none => .answer (.failed .badDescriptor) system
  | some pipe =>
    if limit = 0 then .answer (.data []) system
    else if pipe.pages.isEmpty then
      if !system.holds (.writeEnd number) then .answer (.data []) system
      else if pipe.readsAtOnce then .answer (.failed .again) system
      else .blocked
    else
      let (data, pipe) := pipe.take limit
      .answer (.data data) (system.putPipe number pipe)

/-- Writes to a pipe, or goes on with a write of which `process.written` bytes have been taken. A write is
answered when all its data has been taken, unless the pipe answers at once or can no longer be read. -/
def writePipe (system : System σ) (caller : Nat) (process : Process σ) (number : Nat)
    (data : Bytes) : Effect σ :=
  match system.pipes[number]? with
  | none => .answer (.failed .badDescriptor) system
  | some pipe =>
    if data.isEmpty then .answer (.number 0) system
    else if !system.holds (.readEnd number) then
      if 0 < process.written then .answer (.number process.written) system
      else if process.ignored.contains Signal.pipe then .answer (.failed .brokenPipe) system
      else .moved (system.finish caller (.signaled Signal.pipe))
    else
      let (pipe, rest) :=
        if process.written = 0 then pipe.accept system.shape data
        else pipe.extend system.shape (data.drop process.written)
      let written := data.length - rest.length
      if rest.isEmpty then .answer (.number data.length) (system.putPipe number pipe)
      else if pipe.writesAtOnce then
        if written = 0 then .answer (.failed .again) system
        else .answer (.number written) (system.putPipe number pipe)
      else if written = process.written then .blocked
      else .moved ((system.putPipe number pipe).put caller { process with written })

/-- Marks an end of a pipe as one that answers at once. -/
def setAnswerAtOnce (system : System σ) (object : Object) : System σ :=
  match object with
  | .readEnd number | .bothEnds number =>
    { system with pipes := system.pipes.modify number fun pipe => { pipe with readsAtOnce := true } }
  | .writeEnd number =>
    { system with pipes := system.pipes.modify number fun pipe => { pipe with writesAtOnce := true } }
  | .file _ => system

/-- What can be learnt about an object. -/
def factsOf (system : System σ) : Object → FileFacts
  | .readEnd pipe | .writeEnd pipe | .bothEnds pipe => { kind := .pipe, number := pipe }
  | .file opening =>
    match system.files.openings[opening]? with
    | none => { kind := .device }
    | some opening => system.files.facts opening.file

/-- What a path names that is no file of the tree: a process, the descriptors of one, or one of them. -/
inductive ProcessPath where
  | process
  | table (owner : Nat)
  | descriptor (owner descriptor : Nat)
  deriving DecidableEq, Repr

/-- What a path names for a process, if that is no file of the tree. -/
def processPath? (system : System σ) (caller : Nat) (path : Bytes) : Option ProcessPath :=
  let numeral (name : Bytes) : Option Nat :=
    if name.all fun byte => 48 ≤ byte && byte ≤ 57 then (String.ofList (Bytes.toChars name)).toNat? else none
  let inTable (owner : Nat) : List Bytes → Option ProcessPath
    | [] => some (.table owner)
    | [name] => (numeral name).map (.descriptor owner)
    | _ => none
  if path.head? ≠ some Files.slash then none
  else
    match ((path.splitAtByte Files.slash).filter fun name => !name.isEmpty).map fun name =>
        (name, String.ofList (Bytes.toChars name)) with
    | [(_, "dev"), (_, "stdin")] => some (.descriptor caller 0)
    | [(_, "dev"), (_, "stdout")] => some (.descriptor caller 1)
    | [(_, "dev"), (_, "stderr")] => some (.descriptor caller 2)
    | (_, "dev") :: (_, "fd") :: rest => inTable caller (rest.map Prod.fst)
    | (_, "proc") :: (name, text) :: rest =>
      let owner := if text = "self" then some caller else numeral name
      match owner.filter system.processes.contains, rest with
      | some _, [] => some .process
      | some owner, (_, "fd") :: rest => inTable owner (rest.map Prod.fst)
      | _, _ => none
    | _ => none

/-- The descriptors of a process. -/
def tableOf (system : System σ) (number : Nat) : DescriptorTable :=
  ((system.processes[number]?).map Process.descriptors).getD Std.ExtTreeMap.empty

/-- What can be learnt about the file at a path. -/
def inspect (system : System σ) (number : Nat) (process : Process σ) (path : Bytes) (followLast : Bool) :
    Except Errno FileFacts :=
  match system.processPath? number path with
  | some .process | some (.table _) => .ok { kind := .directory, mode := 0o555 }
  | some (.descriptor owner descriptor) =>
    match (system.tableOf owner)[descriptor]? with
    | none => .error .noEntry
    | some descriptor =>
      .ok (if followLast then system.factsOf descriptor.object else { kind := .link, mode := 0o777 })
  | none => (system.files.lookUp followLast process.working path).map system.files.facts

/-- The names in the directory at a path. Who looks at its own descriptors sees the one through which it looks. -/
def namesAt (system : System σ) (number : Nat) (process : Process σ) (path : Bytes) :
    Except Errno (List Bytes) :=
  match system.processPath? number path with
  | some (.table owner) =>
    let numbers := (system.tableOf owner).toList.map Prod.fst
    let looking :=
      if owner = number then ((List.range (numbers.length + 1)).find? fun free => !numbers.contains free).toList
      else []
    .ok ((numbers ++ looking).map fun descriptor => Bytes.ofString (toString descriptor))
  | _ => system.files.namesAt process.working path

/-- The answer to a question. -/
def reply (system : System σ) (number : Nat) (process : Process σ) : Query → Reply
  | .file path followLast =>
    match system.inspect number process path followLast with
    | .ok facts => .facts facts
    | .error errno => .failed errno
  | .descriptor descriptor =>
    match process.descriptors[descriptor]? with
    | none => .failed .badDescriptor
    | some entry => .facts (system.factsOf entry.object)
  | .linkTarget path =>
    match system.files.linkAt process.working path with
    | .ok target => .data target
    | .error errno => .failed errno
  | .names path =>
    match system.namesAt number process path with
    | .ok names => .names names
    | .error errno => .failed errno
  | .workingDirectory =>
    if system.files.isAttached process.working then
      .data (system.files.pathOf Files.depthLimit process.working [])
    else .failed .noEntry
  | .mask => .number process.mask
  | .ignores signal => .number (if process.ignored.contains signal then 1 else 0)
  | .ownNumber => .number number
  | .parentNumber => .number (process.parent.getD 1)
  | .clock => .number system.clock
  | .now => .number system.now.toNat

/-- The answer to a call that changes the files. -/
def filesAnswer (system : System σ) : Except Errno Files → Effect σ
  | .error errno => .answer (.failed errno) system
  | .ok files => .answer .done { system with files }

/-- A process with a changed setting. -/
def configured (system : System σ) (process : Process σ) : Setting → Except Errno (Process σ)
  | .environment environment => .ok { process with environment }
  | .workingDirectory path =>
    match system.files.find process.working path with
    | .error errno => .error errno
    | .ok working =>
      match system.files.table[working]? with
      | none => .error .noEntry
      | some file =>
        if !system.files.isDirectory working then .error .notDirectory
        else if file.allows .execute then .ok { process with working }
        else .error .accessDenied
  | .mask mask => .ok { process with mask }
  | .signal signal action =>
    let ignored := process.ignored.filter (· != signal)
    let handled := process.handled.filter (· != signal)
    .ok (match action with
      | .usual => { process with ignored, handled }
      | .ignore => { process with ignored := signal :: ignored, handled }
      | .handle => { process with ignored, handled := signal :: handled })

/-- What is held of a pipe that is opened in some way. -/
def endFor (access : Access) (pipe : Nat) : Object :=
  match access with
  | .read => .readEnd pipe
  | .update => .bothEnds pipe
  | _ => .writeEnd pipe

/-- How often the end of a pipe was opened that somebody has to hold who opens the other one. -/
def otherOpenings (access : Access) (pipe : Pipe) : Nat :=
  if access = .read then pipe.writeOpenings else pipe.readOpenings

/-- Opens a pipe by its name. Who opens one end waits until the other one is opened, too. What is left in a pipe
that nobody held is lost. -/
def openQueue (system : System σ) (number : Nat) (process : Process σ) (pipe : Nat) (access : Access) :
    Effect σ :=
  match process.descriptors.allocate process.limit 0 ⟨endFor access pipe, false⟩ with
  | .error errno => .answer (.failed errno) system
  | .ok (descriptor, table) =>
    let isHeld := system.holds (.readEnd pipe) || system.holds (.writeEnd pipe)
    let isComplete : Bool :=
      access = .update || system.holds (if access = .read then .writeEnd pipe else .readEnd pipe)
    let found := (system.pipes[pipe]?).getD {}
    let opened : Pipe :=
      { found with
        pages := if isHeld then found.pages else []
        readOpenings := found.readOpenings + (if access.reads then 1 else 0)
        writeOpenings := found.writeOpenings + (if access.writes then 1 else 0) }
    let system := (system.putPipe pipe opened).putTable number process table
    if isComplete then .answer (.number descriptor) system
    else
      .moved (system.put number
        { process with descriptors := table, opening := some (descriptor, otherOpenings access found) })

/-- Goes on with the opening of a pipe by its name. -/
def awaitPartner (system : System σ) (process : Process σ) (descriptor before : Nat) : Effect σ :=
  match (process.descriptors[descriptor]?).map Descriptor.object with
  | some (.readEnd pipe) =>
    if ((system.pipes[pipe]?).map Pipe.writeOpenings).getD 0 = before then .blocked
    else .answer (.number descriptor) system
  | some (.writeEnd pipe) =>
    if ((system.pipes[pipe]?).map Pipe.readOpenings).getD 0 = before then .blocked
    else .answer (.number descriptor) system
  | _ => .answer (.number descriptor) system

/-- Opens the file at a path. The path of a descriptor of the caller opens what it refers to once more. -/
def openFile (system : System σ) (number : Nat) (process : Process σ) (path : Bytes) (access : Access) :
    Effect σ :=
  let give (system : System σ) (object : Object) : Effect σ :=
    system.numberAnswer number process
      (process.descriptors.allocate process.limit 0 ⟨object, false⟩)
  let openNumber (file : Nat) : Except Errno (Nat × Files) → Effect σ
    | .error errno => .answer (.failed errno) system
    | .ok (opening, files) =>
      match (files.table[file]?).map File.node with
      | some (.queue pipe) => system.openQueue number process pipe access
      | _ => give { system with files } (.file opening)
  match process.opening, system.processPath? number path with
  | some (descriptor, before), _ => system.awaitPartner process descriptor before
  | none, some (.descriptor owner descriptor) =>
    match ((system.tableOf owner)[descriptor]?).map Descriptor.object with
    | none => .answer (.failed .noEntry) system
    | some (.readEnd pipe) | some (.writeEnd pipe) | some (.bothEnds pipe) => give system (endFor access pipe)
    | some (.file opening) =>
      match system.files.openings[opening]? with
      | none => .answer (.failed .noEntry) system
      | some opening => openNumber opening.file (system.files.reopen system.now opening.file access)
  | none, _ =>
    let opened := system.files.openPath system.now process.working process.mask path access
    match opened with
    | .error errno => .answer (.failed errno) system
    | .ok (opening, files) => openNumber (((files.openings[opening]?).map Opening.file).getD 0) opened

/-- Waits for the end of some child. -/
def waitAny (system : System σ) (number : Nat) : Effect σ :=
  match system.endedChild? number with
  | some (child, how) =>
    .answer (.ended child how) { system with processes := system.processes.erase child }
  | none =>
    if (system.childrenOf number).isEmpty then .answer (.failed .noChild) system else .blocked

/-- Waits for the end of a given child. -/
def waitFor (system : System σ) (number child : Nat) : Effect σ :=
  match system.processes[child]? with
  | none => .answer (.failed .noChild) system
  | some process =>
    if process.parent ≠ some number then .answer (.failed .noChild) system
    else
      match process.ending with
      | none => .blocked
      | some how =>
        .answer (.ended child how) { system with processes := system.processes.erase child }

/-- What comes of a call that starts no program. -/
def perform (system : System σ) (number : Nat) (process : Process σ) (call : Call) : Effect σ :=
  let withObject (descriptor : Nat) (act : Object → Effect σ) : Effect σ :=
    match process.descriptors[descriptor]? with
    | none => .answer (.failed .badDescriptor) system
    | some entry => act entry.object
  match call with
  | .pipe => system.makePipe number process
  | .close descriptor =>
    system.tableAnswer number process (process.descriptors.close descriptor)
  | .duplicate source target =>
    system.tableAnswer number process (process.descriptors.duplicate process.limit source target)
  | .duplicateFrom source least =>
    system.numberAnswer number process
      (process.descriptors.duplicateFrom process.limit source least)
  | .keepOnExec descriptor =>
    system.tableAnswer number process (process.descriptors.keepOnExec descriptor)
  | .answerAtOnce descriptor =>
    withObject descriptor fun object => .answer .done (system.setAnswerAtOnce object)
  | .read descriptor limit =>
    withObject descriptor fun
      | .readEnd pipe | .bothEnds pipe => system.readPipe pipe limit
      | .writeEnd _ => .answer (.failed .badDescriptor) system
      | .file opening =>
        match system.files.read opening limit with
        | .error errno => .answer (.failed errno) system
        | .ok (data, files) => .answer (.data data) { system with files }
  | .write descriptor data =>
    withObject descriptor fun
      | .readEnd _ => .answer (.failed .badDescriptor) system
      | .writeEnd pipe | .bothEnds pipe => system.writePipe number process pipe data
      | .file opening =>
        match system.files.write system.now opening data with
        | .error errno => .answer (.failed errno) system
        | .ok files => .answer (.number data.length) { system with files }
  | .seek descriptor distance =>
    withObject descriptor fun
      | .readEnd _ | .writeEnd _ | .bothEnds _ => .answer (.failed .illegalSeek) system
      | .file opening =>
        match system.files.seek opening distance with
        | .error errno => .answer (.failed errno) system
        | .ok (place, files) => .answer (.number place) { system with files }
  | .openFile path access => system.openFile number process path access
  | .query query => .answer (system.reply number process query) system
  | .makeQueue path mode =>
    let made := system.nextPipe
    let system := { system with pipes := system.pipes.insert made {}, nextPipe := made + 1 }
    system.filesAnswer (system.files.edit system.now process.working (.makeQueue path mode made))
  | .edit edit => system.filesAnswer (system.files.edit system.now process.working edit)
  | .configure setting =>
    match system.configured process setting with
    | .error errno => .answer (.failed errno) system
    | .ok process => .answer .done (system.put number process)
  | .wait => system.waitAny number
  | .waitFor child => system.waitFor number child
  | .kill target signal =>
    match system.processes[target]? with
    | none => .answer (.failed .noProcess) system
    | some _ =>
      let system := if signal = 0 then system else system.deliver target signal
      if system.isRunning number then .answer .done system else .moved system
  | .takeSignals =>
    .answer (.signals process.arrived) (system.put number { process with arrived := [] })
  | .sleep duration =>
    match process.deadline with
    | none => .moved (system.put number { process with deadline := some (system.clock + duration) })
    | some deadline => if deadline ≤ system.clock then .answer .done system else .blocked
  | .exit code => .moved (system.finish number (.exited (code % 256)))
  | .pause => .answer .done system
  | .fork | .load _ _ => .answer (.failed .invalidArgument) system

/-- Makes a call in the name of a process, from outside its program. A call that would wait fails instead. -/
def request (system : System σ) (number : Nat) (call : Call) : Reply × System σ :=
  match system.processes[number]? with
  | none => (.failed .noProcess, system)
  | some process =>
    match system.perform number process call with
    | .answer reply system => (reply, system)
    | .moved system => (.failed .again, system)
    | .blocked => (.failed .again, system)

/-- Gives a process an answer to its call. -/
def answer (behaviour : Behaviour σ) (system : System σ) (number : Nat) (reply : Reply) : System σ :=
  match system.processes[number]? with
  | none => system
  | some process =>
    system.put number
      { process with
        program := behaviour.resume process.program reply
        written := 0
        deadline := none
        opening := none
        interrupted := false }

/-- Makes a second process that differs from the caller in its answer alone. -/
def fork (behaviour : Behaviour σ) (system : System σ) (number : Nat) (process : Process σ) :
    System σ :=
  let made := system.nextProcess
  let child : Process σ :=
    { process with
      parent := some number
      program := behaviour.resume process.program .child
      arrived := []
      interrupted := false }
  answer behaviour { system.put made child with nextProcess := made + 1 } number (.number made)

/-- Replaces the program of a process. The descriptors marked so are dropped, and signals that were
handled have their usual effect again. -/
def load (behaviour : Behaviour σ) (system : System σ) (number : Nat) (process : Process σ)
    (program : Bytes) (arguments : List Bytes) : System σ :=
  match behaviour.load system.files process.working process.environment program arguments with
  | .error errno => system.answer behaviour number (.failed errno)
  | .ok image =>
    { system with loaded := system.loaded + 1 }.put number
      { process with
        program := image
        descriptors := process.descriptors.afterLoad
        handled := []
        arrived := []
        interrupted := false }

/-- The answer of a blocked call to a signal that is handled. -/
def interruption (process : Process σ) : Reply :=
  if process.written = 0 then .failed .interrupted else .number process.written

/-- A process that has given up what it was opening. -/
def withoutOpening (process : Process σ) : Process σ :=
  match process.opening with
  | none => process
  | some (descriptor, _) => { process with descriptors := process.descriptors.erase descriptor, opening := none }

/-- Lets a process make one move. There is none if it has ended or come to rest, or if it is stopped or
blocked. -/
def step (behaviour : Behaviour σ) (system : System σ) (number : Nat) : Option (System σ) :=
  match system.processes[number]? with
  | none => none
  | some process =>
    if process.ending.isSome || process.stopped then none
    else
      match behaviour.next process.program with
      | none => none
      | some .fork => some (system.fork behaviour number process)
      | some (.load program arguments) =>
        some (system.load behaviour number process program arguments)
      | some call =>
        match system.perform number process call with
        | .answer reply system => some (system.answer behaviour number reply)
        | .moved system => some system
        | .blocked =>
          if process.interrupted then
            some ((system.put number (withoutOpening process)).answer behaviour number (interruption process))
          else none

/-- The first moment at which some rest is over. -/
def nextDeadline? (system : System σ) : Option Nat :=
  (system.processes.toList.filterMap fun entry =>
    if entry.2.ending.isSome then none else entry.2.deadline).min?

/-- Lets time pass until the next rest is over. -/
def passTime (system : System σ) : Option (System σ) :=
  match system.nextDeadline? with
  | none => none
  | some deadline => if system.clock < deadline then some { system with clock := deadline } else none

end System

end Pipework.Kernel
