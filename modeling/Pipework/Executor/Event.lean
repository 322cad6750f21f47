import Pipework.Signal

set_option autoImplicit false

/-!
The phases through which an executor goes, and events: what it records of its work.
-/

namespace Pipework

/-- Where an executor is in the processing of one line. -/
inductive Phase where
  | idle
  | parsing
  /-- Creating the process of the stage with this index. -/
  | spawning (index : Nat)
  | reaping
  deriving DecidableEq, Inhabited, Repr

namespace Phase

/-- A new executor is idle. -/
theorem default_eq : (default : Phase) = idle := rfl

def display : Phase → String
  | idle => "idle"
  | parsing => "parsing"
  | spawning index => s!"spawning stage {index}"
  | reaping => "reaping"

end Phase

/-- The two ends of a channel. -/
inductive Side where
  | read
  | write
  deriving DecidableEq, Repr

/-- One entry of a record. -/
inductive Event where
  | phase (old new : Phase)
  /-- A line was split into this many stages. -/
  | parsed (stages : Nat)
  /-- A channel was opened, with these descriptors. -/
  | opened (read write : Nat)
  /-- An end of a channel is about to be closed. -/
  | closing (side : Side) (endpoint : Nat)
  | spawned (process position : Nat) (program : String)
  /-- A process was made outside any pipeline. -/
  | forked (process : Nat)
  | reaped (status : Status)
  | finished (stages channels reaped : Nat)
  | endOfInput
  deriving DecidableEq, Repr

def Side.display : Side → String
  | read => "ReadEnd"
  | write => "WriteEnd"

/-- An event on one line, given how processes are shown. -/
def Event.display (showProcess : Nat → String) : Event → String
  | phase old new => "phase " ++ old.display ++ " -> " ++ new.display
  | parsed stages => "parsed " ++ toString stages
  | opened _ _ => "open"
  | closing side _ => "close " ++ side.display
  | spawned process position program =>
    "spawned " ++ showProcess process ++ " " ++ toString position ++ " " ++ program
  | forked process => "forked " ++ showProcess process
  | reaped status => "reaped " ++ status.display showProcess
  | finished stages channels collected =>
    "finished stages=" ++ toString stages ++ " channels=" ++ toString channels ++ " reaped=" ++
      toString collected
  | endOfInput => "end of input"

end Pipework
