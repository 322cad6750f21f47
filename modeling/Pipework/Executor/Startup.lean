import Pipework.Kernel.Call
import Pipework.Stage

set_option autoImplicit false

/-!
The start of a stage. A process that is to become a stage closes the endpoint that it has no use for,
moves its own endpoints onto the standard streams, and loads its program. `Startup` is the state of such a
process, call by call: it ends in the program, or in a diagnostic and an exit.
-/

namespace Pipework

open Kernel (Call Reply)

/-- The endpoints of one stage. A stream without an endpoint is inherited. -/
structure Streams where
  stdin : Option Nat := none
  stdout : Option Nat := none
  deriving DecidableEq, Repr

namespace Startup

/-- With what a process exits that could not set up its streams. -/
def rewireFailure : Nat := 126

/-- With what a process exits that could not load its program. -/
def loadFailure : Nat := 127

/-- Which call comes next. -/
inductive Control where
  | closingUnused (unused : Nat) (streams : Streams)
  /-- The standard output sits on 0, where the standard input belongs; it has to be moved first. -/
  | movingStdout (stdin : Nat)
  | redirecting (endpoint target : Nat) (later : List (Nat × Nat))
  | closingEndpoint (endpoint : Nat) (later : List (Nat × Nat))
  | loading
  | complaining (part : Bytes) (parts : List Bytes) (code : Nat)
  | exiting (code : Nat)
  deriving DecidableEq, Repr

end Startup

/-- A process that is to become a stage. -/
structure Startup where
  program : Bytes
  arguments : List Bytes
  control : Startup.Control
  deriving DecidableEq, Repr

namespace Startup

/-- Redirects endpoints one after the other, and loads the program when none is left. -/
def Control.redirect : List (Nat × Nat) → Control
  | [] => loading
  | (endpoint, target) :: later => redirecting endpoint target later

/-- Puts the endpoints in place. -/
def Control.wire (streams : Streams) : Control :=
  match streams.stdin, streams.stdout with
  | some stdin, some 0 => movingStdout stdin
  | stdin, stdout =>
    redirect ((stdin.map fun endpoint => (endpoint, 0)).toList ++
      (stdout.map fun endpoint => (endpoint, 1)).toList)

/-- Reports a failure and exits. -/
def Control.fail (what : Bytes) (errno : Errno) (code : Nat) : Control :=
  complaining what [Bytes.ofString ": ", Bytes.ofString errno.description, Bytes.ofString "\n"] code

/-- A process that is to become this stage, at its start. -/
def begin (stage : Stage) (streams : Streams) (unused : Option Nat) : Startup where
  program := stage.name
  arguments := stage.arguments
  control := match unused with
    | some unused => .closingUnused unused streams
    | none => .wire streams

/-- The number of the stream on which failures are reported. -/
def diagnostics : Nat := 2

/-- The call that comes next. An endpoint that is in place already need only survive the loading. -/
def next (startup : Startup) : Call :=
  match startup.control with
  | .closingUnused unused _ => .close unused
  | .movingStdout _ => .duplicateFrom 0 (diagnostics + 1)
  | .redirecting endpoint target _ =>
    if endpoint = target then .keepOnExec endpoint else .duplicate endpoint target
  | .closingEndpoint endpoint _ => .close endpoint
  | .loading => .load startup.program startup.arguments
  | .complaining part _ _ => .write diagnostics part
  | .exiting code => .exit code

/-- What comes after an answer. -/
def Control.after (program : Bytes) : Control → Reply → Control
  | closingUnused _ _, .failed errno => fail (Bytes.ofString "close") errno rewireFailure
  | closingUnused _ streams, _ => wire streams
  | movingStdout _, .failed errno => fail (Bytes.ofString "fcntl") errno rewireFailure
  | movingStdout stdin, .number moved => redirect [(stdin, 0), (moved, 1)]
  | movingStdout stdin, _ => redirect [(stdin, 0)]
  | redirecting endpoint target later, .failed errno =>
    if endpoint = target then fail (Bytes.ofString "fcntl") errno rewireFailure
    else if errno = .interrupted then redirecting endpoint target later
    else fail (Bytes.ofString "dup2") errno rewireFailure
  | redirecting endpoint target later, _ =>
    if endpoint = target then redirect later else closingEndpoint endpoint later
  | closingEndpoint _ _, .failed errno => fail (Bytes.ofString "close") errno rewireFailure
  | closingEndpoint _ later, _ => redirect later
  | loading, .failed errno => fail program errno loadFailure
  | loading, _ => loading
  | complaining _ [] code, _ => exiting code
  | complaining _ (part :: parts) code, _ => complaining part parts code
  | exiting code, _ => exiting code

/-- How the process goes on with an answer. -/
def resume (startup : Startup) (reply : Reply) : Startup :=
  { startup with control := startup.control.after startup.program reply }

end Startup

end Pipework
