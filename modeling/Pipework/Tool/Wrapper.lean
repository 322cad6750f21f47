import Pipework.Tool.Option
import Pipework.Tool.Running
import Pipework.Tool.Surroundings
import Pipework.Tool.Words

set_option autoImplicit false

/-!
Tools that run a program under other circumstances: with less claim to the processor, without ends by a hangup,
with other buffers, or for a limited time.
-/

namespace Pipework.Tool

open Kernel

/-- Becomes a program whose name and arguments are given, or says why that fails, behind some words. -/
def becomeCommand (environment : Variables) (words : String) (command : List Text) : Work Unit := do
  let errno ← become environment command
  Work.complain (because (words.toList ++ inQuotes (command.headD [])) errno)
  Work.leaveWith (loadFailure errno)

/-- Reads how much a claim is lowered, in the ways in which `nice` takes it. -/
def niceArguments : List Text → List Text
  | ('-' :: digit :: digits) :: later =>
    if (digit :: digits).all isDigit then ['-', 'n'] :: (digit :: digits) :: later
    else ('-' :: digit :: digits) :: later
  | arguments => arguments

/-- Runs a program with less claim to the processor. All have the same claim here. -/
def nice (environment : Variables) (arguments : List Text) : Work Unit := do
  let (given, command) ←
    readOptions { letters := "n:", names := [("adjustment", 'n')], inOrder := true } (niceArguments arguments)
  match argumentOf? given 'n' with
  | some text =>
    let digits := if text.head? = some '-' || text.head? = some '+' then text.tail else text
    if (natural? digits).isNone then Work.fail ("invalid adjustment ".toList ++ quoted text)
    if command.isEmpty then Work.failUsage "a command must be given with an adjustment".toList
  | none => pure ()
  if command.isEmpty then Work.putLine ['0'] else becomeCommand environment "" command

/-- Runs a program that does not end when its terminal does. -/
def nohup (environment : Variables) (arguments : List Text) : Work Unit := do
  let (_, command) ← readOptions { letters := "", inOrder := true } arguments
  needOperand command
  Work.tell (.configure (.signal 1 .ignore))
  becomeCommand environment "failed to run command " command

/-- Runs a program whose output is collected in another way, which makes no difference to what comes out. -/
def stdbuf (environment : Variables) (arguments : List Text) : Work Unit := do
  let (given, command) ← readOptions
    { letters := "i:o:e:", names := [("input", 'i'), ("output", 'o'), ("error", 'e')], inOrder := true } arguments
  needOperand command
  if given.isEmpty then Work.failUsage "you must specify a buffering mode option".toList
  becomeCommand environment "failed to run command " command

/-- The signal that a name or a number stands for. -/
def signalNamed? (text : Text) : Option Signal :=
  match natural? text with
  | some signal => if signal ≤ 64 then some signal else none
  | none =>
    let upper := text.map Char.toUpper
    Signal.ofName? (String.ofList (if "SIG".toList.isPrefixOf upper then upper.drop 3 else upper))

/-- Milliseconds since some point of time. -/
def clock : Work Nat := do
  match ← Work.ask (.query .clock) with
  | .number time => return time
  | _ => return 0

/-- Ends the tool by a signal. -/
def leaveBySignal (signal : Signal) : Work Unit := do
  match ← Work.ask (.query .ownNumber) with
  | .number own => do
    Work.tell (.configure (.signal signal .usual))
    Work.tell (.kill own signal)
  | _ => pure ()
  Work.leaveWith (128 + signal)

/-- Runs a program, but not longer than for a given time. -/
def timeout (environment : Variables) (arguments : List Text) : Work Unit := do
  let (given, operands) ← readOptions
    { letters := "s:k:v\x01\x02"
      names :=
        [("signal", 's'), ("kill-after", 'k'), ("verbose", 'v'), ("preserve-status", '\x01'),
          ("foreground", '\x02')]
      inOrder := true } arguments
  match operands with
  | [] | [_] => Work.leaveMisused
  | limit :: command => do
    let signal ← match argumentOf? given 's' with
      | none => pure (15 : Signal)
      | some text =>
        match signalNamed? text with
        | some signal => pure signal
        | none => Work.failUsage (quoted text ++ ": invalid signal".toList)
    match duration? limit with
    | none => Work.failUsage ("invalid time interval ".toList ++ quoted limit)
    | some duration => do
      let start ← clock
      match ← runAside (becomeCommand environment "failed to run command " command) with
      | none => Work.leaveWith runnerFailure
      | some worker => do
        let watch : Work Unit := do
          Work.tell (.sleep duration)
          if hasLetter given 'v' then
            let name := ((Signal.name? signal).getD "").toList.drop 3
            Work.complain ("sending signal ".toList ++ name ++ " to command ".toList ++
              inQuotes (command.headD []))
          Work.tell (.kill worker signal)
        let watcher ← if duration = 0 then pure none else runAside watch
        let ending ← endOf worker
        let late := duration ≠ 0 && start + duration ≤ (← clock)
        match watcher with
        | some watcher => do
          Work.tell (.kill watcher Signal.kill)
          let _ ← endOf watcher
        | none => pure ()
        match ending with
        | none => Work.leaveWith runnerFailure
        | some (.exited code) => Work.leaveWith (if late && !hasLetter given '\x01' then 124 else code)
        | some (.signaled ending) =>
          if ending = Signal.kill || !late then leaveBySignal ending
          else Work.leaveWith (if hasLetter given '\x01' then 128 + ending else 124)

end Pipework.Tool
