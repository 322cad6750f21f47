import Pipework.Kernel.FileEdit
import Pipework.Signal

set_option autoImplicit false

/-!
System calls and their answers.
-/

namespace Pipework.Kernel

/-- What a process asks without changing anything. -/
inductive Query where
  /-- About the file at a path, or about a link at its end. -/
  | file (path : Bytes) (followLast : Bool)
  | descriptor (descriptor : Nat)
  | linkTarget (path : Bytes)
  | names (path : Bytes)
  | workingDirectory
  | mask
  /-- Whether a signal has no effect, as 1 or 0. -/
  | ignores (signal : Signal)
  | ownNumber
  | parentNumber
  /-- Milliseconds since the start of 1970. -/
  | clock
  /-- The moment, which is later for a program that is loaded later. -/
  | now
  deriving DecidableEq, Repr

/-- What becomes of a signal. -/
inductive SignalAction where
  | usual
  | ignore
  | handle
  deriving DecidableEq, Repr

/-- What a process changes about itself. -/
inductive Setting where
  | environment (environment : List (Bytes × Bytes))
  | workingDirectory (path : Bytes)
  /-- Which permissions are taken from new files. -/
  | mask (mask : Nat)
  | signal (signal : Signal) (action : SignalAction)
  deriving DecidableEq, Repr

/-- What a process asks of the kernel. -/
inductive Call where
  /-- A new pipe, with both descriptors to be dropped when an image is loaded. -/
  | pipe
  | close (descriptor : Nat)
  | duplicate (source target : Nat)
  | duplicateFrom (source least : Nat)
  | keepOnExec (descriptor : Nat)
  | answerAtOnce (descriptor : Nat)
  | read (descriptor limit : Nat)
  | write (descriptor : Nat) (data : Bytes)
  /-- Moves the place in an open file. -/
  | seek (descriptor : Nat) (distance : Int)
  | openFile (path : Bytes) (access : Access)
  | query (query : Query)
  | edit (edit : FileEdit)
  /-- Makes a pipe with a name. -/
  | makeQueue (path : Bytes) (mode : Nat)
  | configure (setting : Setting)
  /-- A second process that goes on from here. -/
  | fork
  /-- Another program in place of the caller. -/
  | load (program : Bytes) (arguments : List Bytes)
  /-- The end of any child. -/
  | wait
  | waitFor (child : Nat)
  | kill (target : Nat) (signal : Signal)
  /-- The handled signals that have arrived. -/
  | takeSignals
  /-- Rests for some milliseconds. -/
  | sleep (duration : Nat)
  | exit (code : Nat)
  /-- Asks for nothing. -/
  | pause
  deriving DecidableEq, Repr

/-- What the kernel answers. -/
inductive Reply where
  | done
  | number (value : Nat)
  | ends (read write : Nat)
  | data (bytes : Bytes)
  | facts (facts : FileFacts)
  | names (names : List Bytes)
  | signals (signals : List Signal)
  /-- The answer to `fork` in the new process. -/
  | child
  | ended (process : Nat) (how : Termination)
  | failed (errno : Errno)
  deriving DecidableEq, Repr

end Pipework.Kernel
