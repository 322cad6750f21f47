import Pipework.Executor.Run
import Pipework.Executor.Trial
import Pipework.Kernel.System

set_option autoImplicit false

/-!
Programs. A process of this machine is an executor at work, or is to become a stage, or makes a single
process, or runs an image that was loaded; how images act is given by a behaviour of their own.
`Program.behaviour` puts these together: the process that an executor makes is to become the stage for
which it was made.
-/

namespace Pipework

open Kernel

/-- What a process does; `τ` is the state of a loaded image. -/
inductive Program (τ : Type) where
  | executor (run : Run)
  | startup (child : Startup)
  | trial (task : Task TrialEnd)
  | image (state : τ)

namespace Program

variable {τ : Type}

/-- A trial in the process that was made ends by becoming a stage. -/
def ofTrial : Task TrialEnd → Program τ
  | .done (.become child) => startup child
  | task => trial task

/-- How programs act when images act in a given way. -/
def behaviour (images : Behaviour τ) : Behaviour (Program τ) where
  next
    | executor run => run.next
    | startup child => some child.next
    | trial task => task.next
    | image state => images.next state
  resume
    | executor run, reply =>
      match reply, run.startup? with
      | .child, some child => startup child
      | _, _ => executor (run.resume reply)
    | startup child, reply => startup (child.resume reply)
    | trial task, reply => ofTrial (task.resume reply)
    | image state, reply => image (images.resume state reply)
  load files working environment program arguments :=
    (images.load files working environment program arguments).map image

end Program

end Pipework
