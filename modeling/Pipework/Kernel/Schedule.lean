import Pipework.Kernel.System

set_option autoImplicit false

/-!
A schedule. `System.Moves` is the relation between a system and what it can become, whichever process
moves; `System.advance` picks one of these moves: the process that moved last goes on until it is
blocked, then the next one in the order of their numbers has its turn, and time passes when none can move.
-/

namespace Pipework.Kernel.System

variable {σ : Type}

/-- A system becomes another by a move of some process or by the passing of time. -/
inductive Moves (behaviour : Behaviour σ) (system after : System σ) : Prop where
  | step (number : Nat) (moved : system.step behaviour number = some after)
  | time (passed : system.passTime = some after)

/-- The process with the turn, those behind it, and those before it. -/
def turns (system : System σ) (turn : Nat) : List Nat :=
  let (before, others) := system.processes.keys.partition (· < turn)
  others ++ before

/-- One move of the system, and the process that has the next turn. -/
def advance (behaviour : Behaviour σ) (turn : Nat) (system : System σ) : Option (Nat × System σ) :=
  match system.step behaviour turn with
  | some after => some (turn, after)
  | none =>
    match (system.turns turn).findSome? fun number =>
        (system.step behaviour number).map (number, ·) with
    | some move => some move
    | none => system.passTime.map (turn, ·)

/-- Whether a process has ended or come to rest. -/
def atRest (behaviour : Behaviour σ) (number : Nat) (system : System σ) : Bool :=
  match system.processes[number]? with
  | none => true
  | some process => process.ending.isSome || (behaviour.next process.program).isNone

/-- Advances the system until a process is at rest or nothing can move, for at most so many moves. -/
def advanceUntilRest (behaviour : Behaviour σ) (number : Nat) : Nat → Nat → System σ → System σ
  | 0, _, system => system
  | moves + 1, turn, system =>
    if system.atRest behaviour number then system
    else
      match system.advance behaviour turn with
      | none => system
      | some (turn, after) => advanceUntilRest behaviour number moves turn after

/-- More moves than any run makes that ends. -/
def moveLimit : Nat := 1 <<< 48

/-- Lets a process run to its rest, together with all others; it has the first turn. -/
def settle (behaviour : Behaviour σ) (number : Nat) (system : System σ) : System σ :=
  advanceUntilRest behaviour number moveLimit number system

/-- Advances the system for at most so many moves, until nothing can move. -/
def advanceAll (behaviour : Behaviour σ) : Nat → Nat → System σ → System σ
  | 0, _, system => system
  | moves + 1, turn, system =>
    match system.advance behaviour turn with
    | none => system
    | some (turn, after) => advanceAll behaviour moves turn after

/-- Lets all processes run until none can move. -/
def exhaust (behaviour : Behaviour σ) (system : System σ) : System σ :=
  advanceAll behaviour moveLimit 0 system

end Pipework.Kernel.System
