import Pipework.Task

set_option autoImplicit false

/-!
The work of a tool: the calls that it makes, the output that it has collected, and the status that it will end
with. Input comes from descriptor 0, output goes to 1 and diagnostics to 2.
-/

namespace Pipework.Tool

open Kernel

/-- How a tool was started. -/
structure Invocation where
  name : Text
  arguments : List Text
  environment : List (Bytes × Bytes) := []

/-- A reason as diagnostics show it, behind what it is about. -/
def because (subject : Text) (errno : Errno) : Text := subject ++ ": ".toList ++ errno.text.toList

/-- What a tool says when its output cannot be written; nothing, if it does not mind. `overflow` holds if there
is more of it than is collected. -/
abbrev OutputComplaint := (overflow : Bool) → Errno → List Text

/-- The usual complaint about output. -/
def writeComplaint : OutputComplaint := fun _ errno => [because "write error".toList errno]

/-- A complaint about output that is written before the end. The reason is forgotten by then, unless there
is no output at all. -/
def lateComplaint : OutputComplaint := fun _ errno =>
  [if errno = .badDescriptor then because "write error".toList errno else "write error".toList]

/-- What is peculiar to a tool. -/
structure Habits where
  /-- The status that tells of a failure. -/
  failure : Nat := 1
  unwritten : OutputComplaint := writeComplaint
  /-- How much output is collected before it is written. -/
  bufferSize : Nat := 4096
  /-- Whether output is written before a diagnostic that comes after it. -/
  inOrder : Bool := true
  /-- The status that tells of a wrong use; otherwise that of a failure. -/
  misuse : Option Nat := none
  /-- What is said of how the tool is used, given its name. -/
  usage : Text → Text := fun name => "Try '".toList ++ name ++ " --help' for more information.\n".toList

/-- A tool at work. -/
structure Progress where
  name : Text
  habits : Habits
  status : Nat := 0
  /-- Output that is not written yet, the latest part first. -/
  collected : List Text := []
  collectedSize : Nat := 0
  /-- Why output could not be written before a diagnostic. -/
  lost : Option Errno := none
  /-- Whether the tool has turned to its input. -/
  usesInput : Bool := false
  /-- Answers that were read and not used. -/
  answers : Text := []

/-- What a tool does. It may end before its time. -/
abbrev Work := ExceptT Unit (StateT Progress Task)

/-- More steps than any tool makes that ends. -/
def stepLimit : Nat := 1 <<< 40

namespace Work

variable {α : Type}

/-- Makes a system call. -/
def ask (call : Call) : Work Reply := ExceptT.lift (StateT.lift (Task.ask call))

/-- Makes a system call whose answer does not matter. -/
def tell (call : Call) : Work Unit := do
  let _ ← ask call
  return ()

/-- Writes all of some data. Gives the reason if that fails. -/
def writeAll (descriptor : Nat) : Nat → Bytes → Work (Option Errno)
  | 0, _ => return none
  | fuel + 1, data => do
    if data.isEmpty then return none
    else
      match ← ask (.write descriptor data) with
      | .failed errno => return some errno
      | .number count => writeAll descriptor fuel (data.drop count)
      | _ => return none

/-- Writes the output that was collected. Gives how much it was, and the reason if that fails. -/
def writeCollected : Work (Nat × Option Errno) := do
  let progress ← get
  if progress.collectedSize = 0 then return (0, none)
  else
    set { progress with collected := [], collectedSize := 0 }
    let data := Bytes.ofChars progress.collected.reverse.flatten
    return (data.length, ← writeAll 1 (data.length + 1) data)

/-- Writes a diagnostic that begins with the name of the tool. -/
def complain (message : Text) : Work Unit := do
  if (← get).habits.inOrder then
    match (← writeCollected).2 with
    | some errno => modify ({ · with lost := some errno })
    | none => pure ()
  tell (.write 2 (Bytes.ofChars ((← get).name ++ ": ".toList ++ message ++ ['\n'])))

/-- Ends the tool. -/
def leave : Work α := throw ()

/-- Ends the tool with a status. -/
def leaveWith (status : Nat) : Work α := do
  modify ({ · with status })
  leave

/-- Notes that something has failed. -/
def noteFailure : Work Unit := modify fun progress => { progress with status := progress.habits.failure }

/-- Complains about something that has failed, and goes on. -/
def report (message : Text) : Work Unit := do
  complain message
  noteFailure

/-- Complains about something that has failed, and ends the tool. -/
def fail (message : Text) : Work α := do
  report message
  leave

/-- Says how the tool is used, and ends it. -/
def leaveMisused : Work α := do
  let progress ← get
  tell (.write 2 (Bytes.ofChars (progress.habits.usage progress.name)))
  leaveWith (progress.habits.misuse.getD progress.habits.failure)

/-- Complains about how the tool was started, and ends it. -/
def failUsage (message : Text) : Work α := do
  complain message
  leaveMisused

/-- Writes the output that was collected. If that fails, the tool ends. -/
def flush : Work Unit := do
  match ← writeCollected with
  | (_, none) => return ()
  | (size, some errno) => do
    let habits := (← get).habits
    (habits.unwritten (habits.bufferSize < size) errno).forM report
    leave

/-- Complains if output could not be written before a diagnostic. -/
def reportLost : Work Unit := do
  match (← get).lost with
  | some errno => (lateComplaint false errno).forM report
  | none => return ()

/-- Collects output, and writes it if there is much of it. -/
def put (text : Text) : Work Unit := do
  modify fun progress =>
    { progress with
      collected := text :: progress.collected
      collectedSize := progress.collectedSize + text.length }
  let progress ← get
  if progress.habits.bufferSize < progress.collectedSize then flush

/-- Puts out a line. -/
def putLine (text : Text) : Work Unit := put (text ++ ['\n'])

/-- Goes back in the input to where answers were not used, if that is possible. -/
def returnAnswers : Work Unit := do
  let answers := (← get).answers
  if !answers.isEmpty then tell (.seek 0 (-(answers.length : Int)))

/-- Does the work to its end, and writes the output that is left. Gives the status. -/
def perform (habits : Habits) (work : Work Unit) (name : Text) : Task Nat := do
  let (_, progress) ← work.run.run { name, habits }
  let (_, progress) ← (do
    flush
    reportLost
    returnAnswers : Work Unit).run.run progress
  return progress.status

end Work

/-- A tool as a program. -/
abbrev Tool := Invocation → Task Nat

/-- A tool with habits, given by what it does with its arguments. -/
def Tool.of (habits : Habits) (work : List Text → Work Unit) : Tool := fun invocation =>
  (work invocation.arguments).perform habits invocation.name

/-!
Questions that tools ask before they do harm. A line of the input that begins with the letter y is consent; what
was read of later lines waits for the next question.
-/

/-- How much of the input is read at once for answers. -/
def answerSize : Nat := 4096

namespace Work

/-- Reads a line of the input, behind what was read before. -/
def readAnswer : Nat → Text → Work Text
  | 0, read => return read
  | fuel + 1, read => do
    let line := read.takeWhile (· ≠ '\n')
    if line.length < read.length then
      modify ({ · with answers := read.drop (line.length + 1) })
      return line
    else
      match ← ask (.read 0 answerSize) with
      | .data (byte :: bytes) => readAnswer fuel (read ++ Bytes.toChars (byte :: bytes))
      | .failed .interrupted => readAnswer fuel read
      | _ => do
        modify ({ · with answers := [] })
        return read

/-- Asks a question behind the name of the tool. Gives whether the answer is yes. -/
def confirm (question : Text) : Work Bool := do
  tell (.write 2 (Bytes.ofChars ((← get).name ++ ": ".toList ++ question ++ "? ".toList)))
  let answer ← readAnswer stepLimit (← get).answers
  return answer.head? = some 'y' || answer.head? = some 'Y'

end Work

end Pipework.Tool
