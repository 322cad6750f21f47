set_option autoImplicit false

/-!
Signals, and the ways in which a process ends. `Termination.status?` turns an ending into the status that
an executor can report; an ending by a signal without a name has none.
-/

namespace Pipework

/-- The number of a signal, from 1 to 64. -/
abbrev Signal := Nat

namespace Signal

/-- The signals with names, in the order of their numbers from 1 to 31. -/
def names : List String :=
  ["HUP", "INT", "QUIT", "ILL", "TRAP", "ABRT", "BUS", "FPE", "KILL", "USR1", "SEGV", "USR2", "PIPE",
    "ALRM", "TERM", "STKFLT", "CHLD", "CONT", "STOP", "TSTP", "TTIN", "TTOU", "URG", "XCPU", "XFSZ",
    "VTALRM", "PROF", "WINCH", "IO", "PWR", "SYS"]

/-- The name of a signal; those above 31 are for real-time use and have none. -/
def name? (signal : Signal) : Option String :=
  if signal = 0 then none else (names[signal - 1]?).map ("SIG" ++ ·)

/-- The signal with this name, given without its first three letters. -/
def ofName? (name : String) : Option Signal :=
  (names.findIdx? (· == name)).map (· + 1)

def interrupt : Signal := 2
def quit : Signal := 3
def floatingPoint : Signal := 8
def kill : Signal := 9
def user1 : Signal := 10
def pipe : Signal := 13
def child : Signal := 17
def continued : Signal := 18
def stop : Signal := 19

/-- Signals that a process which neither ignores nor handles them does not notice. -/
def isHarmless (signal : Signal) : Bool := [17, 18, 23, 28].contains signal

/-- Signals that stop a process which neither ignores nor handles them. -/
def isStop (signal : Signal) : Bool := [20, 21, 22].contains signal

end Signal

/-- How a process ended. -/
inductive Termination where
  | exited (code : Nat)
  | signaled (signal : Signal)
  deriving DecidableEq, Repr

/-- What an executor reports of an ended child. -/
inductive Status where
  | exited (process : Nat) (code : Nat)
  | signaled (process : Nat) (name : String) (coreDumped : Bool)
  deriving DecidableEq, Repr

/-- The status of a child that ended in this way; there is none for a signal without a name. -/
def Termination.status? (process : Nat) : Termination → Option Status
  | exited code => some (.exited process code)
  | signaled signal => (Signal.name? signal).map (.signaled process · false)

namespace Status

/-- The child that ended. -/
def process : Status → Nat
  | exited process _ => process
  | signaled process _ _ => process

/-- A status as diagnostics show it, given how they show a process. -/
def display (showProcess : Nat → String) : Status → String
  | exited process code => "Exited(" ++ showProcess process ++ ", " ++ toString code ++ ")"
  | signaled process name coreDumped =>
    "Signaled(" ++ showProcess process ++ ", " ++ name ++ ", " ++
      (if coreDumped then "true" else "false") ++ ")"

end Status

end Pipework
