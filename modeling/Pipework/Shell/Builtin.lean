import Pipework.Shell.Builtin.Name
import Pipework.Shell.Builtin.Place
import Pipework.Shell.Builtin.Process
import Pipework.Shell.Builtin.Variable
import Pipework.Shell.Condition
import Pipework.Shell.Printing

set_option autoImplicit false

/-!
The builtin commands by name, but for those that carry out other commands.
-/

namespace Pipework.Shell.Builtin

def succeed : Builtin := fun _ => return 0

def echoWords : Builtin := fun arguments => do
  Work.print (echo arguments)
  return 0

/-- What is said of an argument that should be a number. -/
def numberComplaint : NumberFault → String
  | .notNumeric => "expected numeric value"
  | .notConverted => "not completely converted"
  | .outOfRange => "Numerical result out of range"

def printFormatted : Builtin := fun arguments => do
  let (_, operands) ← readOptions "" arguments
  match operands with
  | [] => Work.fail "usage: printf format [arg ...]".toList
  | format :: arguments => do
    let printing := printFormat {} format arguments
    Work.print printing.printed.reverse.flatten
    printing.complaints.reverse.forM fun (argument, fault) =>
      Work.warn (argument ++ ": ".toList ++ (numberComplaint fault).toList)
    match printing.fault with
    | some .missingCharacter => Work.fail "missing format character".toList
    | some (.invalidDirective directive) => Work.fail (directive ++ ": invalid directive".toList)
    | none => return if printing.complaints.isEmpty then 0 else 1

def test : Builtin := fun arguments => do
  let holds ← Condition.evaluate (arguments.length + 1) arguments
  return if holds then 0 else 1

def testInBrackets : Builtin := fun arguments => do
  if arguments.getLast? = some [']'] then test arguments.dropLast
  else Work.fail "missing ]".toList

/-- The status that an argument gives, or else that of the last command, before the present trap. -/
def leavingStatus (arguments : List Text) : Work Nat := do
  let shell ← get
  match arguments with
  | [] => return shell.statusBeforeTrap.getD shell.status
  | argument :: _ => naturalArgument argument

def exit : Builtin := fun arguments => do
  Work.setStatus (← leavingStatus arguments)
  throw .exit

def returnFrom : Builtin := fun arguments => do
  Work.setStatus (← leavingStatus arguments)
  throw .returned

/-- Leaves loops, but no more than there are. -/
def leaveLoops (escape : Nat → Escape) : Builtin := fun arguments => do
  let count ← match arguments with
    | [] => pure 1
    | argument :: _ => do
      let count ← naturalArgument argument
      if count = 0 then failNumber argument else pure count
  match min count (← get).loops with
  | 0 => return 0
  | count => do
    Work.setStatus 0
    throw (escape count)

/-- The builtin commands by name. -/
def table : List (String × Builtin) :=
  [(":", succeed), ("true", succeed), ("false", fun _ => return 1), ("[", testInBrackets),
    ("alias", defineAlias), ("bg", moveJob), ("break", leaveLoops .breakLoops), ("cd", changeDirectory),
    ("chdir", changeDirectory), ("continue", leaveLoops .nextTurn), ("echo", echoWords), ("exit", exit),
    ("export", exportNames), ("fg", moveJob), ("getopts", getOptions), ("hash", hash),
    ("jobs", showJobs), ("kill", kill), ("local", makeLocal), ("printf", printFormatted),
    ("pwd", printDirectory), ("read", read), ("readonly", protectNames), ("return", returnFrom),
    ("set", setShell), ("shift", shift), ("test", test), ("times", showTimes), ("trap", trap),
    ("type", typeOf), ("ulimit", showLimit), ("umask", setMask), ("unalias", unalias), ("unset", unset),
    ("wait", wait)]

end Pipework.Shell.Builtin
