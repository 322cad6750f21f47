import Pipework.Shell.Expansion
import Pipework.Shell.Job

set_option autoImplicit false

/-!
Redirections. What they name is found out first; then they are carried out one after the other, and undone
when the command has ended. Copies of the descriptors that they change are kept from ten on.
-/

namespace Pipework.Shell

open Kernel

/-- A redirection with the words in it expanded. -/
inductive Rewiring where
  | file (descriptor : Nat) (kind : OpenKind) (path : Text)
  | share (descriptor source : Nat)
  | close (descriptor : Nat)
  | document (descriptor : Nat) (text : Text)

def Rewiring.descriptor : Rewiring → Nat
  | file descriptor _ _ | share descriptor _ | close descriptor | document descriptor _ => descriptor

/-- Gives up at a text that names no descriptor. This counts as a fault of the script as it was read. -/
def failBadDescriptor {α : Type} : Work α := do
  modify fun shell => { shell with line := shell.readUpTo }
  Work.fail "Syntax error: Bad fd number".toList

/-- Expands the words in a redirection. -/
def resolveRedirection (run : OutputOf) : Redirection → Work Rewiring
  | .file descriptor kind target => return .file descriptor kind (← expandText run .single target)
  | .share descriptor target => do
    match ← expandText run .single target with
    | ['-'] => return .close descriptor
    | [digit] =>
      if digit.isDigit then return .share descriptor (digit.toNat - '0'.toNat)
      else failBadDescriptor
    | _ => failBadDescriptor
  | .document descriptor number => do
    let word := ((← get).documents.lookup number).getD []
    return .document descriptor (← expandText run .single word)

/-- Moves a descriptor to a number. -/
def moveDescriptor (source target : Nat) : Work Unit := do
  if source = target then Work.tell (.keepOnExec source)
  else
    Work.tell (.duplicate source target)
    Work.tell (.close source)

/-- How much of a document is written before somebody reads it. -/
def documentSize : Nat := 4096

/-- Lets a descriptor read a document. -/
def openDocument (descriptor : Nat) (text : Text) : Work Bool := do
  match ← Work.ask .pipe with
  | .ends read write => do
    if text.length ≤ documentSize then Work.tell (.write write (Bytes.ofChars text))
    else
      let _ ← inNewProcess fun _ => do
        let _ ← Task.ask (.close read)
        let _ ← Task.ask (.write write (Bytes.ofChars text))
        return 0
    Work.tell (.close write)
    moveDescriptor read descriptor
    return true
  | _ => do
    Work.warn "Pipe call failed".toList
    return false

/-- Why a file could not be opened. -/
def openFault (path : Text) (access : Access) (errno : Errno) : Text :=
  let isMissing := errno = .noEntry || errno = .notDirectory
  let (verb, missing) :=
    if access = .read then ("cannot open ", "No such file")
    else ("cannot create ", "Directory nonexistent")
  verb.toList ++ path ++ ": ".toList ++ (if isMissing then missing else errno.text).toList

/-- Lets a descriptor refer to a file. -/
def openAs (descriptor : Nat) (path : Text) (access : Access) : Work Bool := do
  match ← Work.ask (.openFile (Bytes.ofChars path) access) with
  | .number opened => do
    moveDescriptor opened descriptor
    return true
  | .failed errno => do
    Work.warn (openFault path access errno)
    return false
  | _ => return false

/-- Whether there is a regular file at a path. -/
def isRegularFile (path : Text) : Work Bool := do
  match ← Work.ask (.query (.file (Bytes.ofChars path) true)) with
  | .facts facts => return facts.kind = .regular
  | _ => return false

/-- Carries out a redirection. Gives whether that worked. -/
def rewire : Rewiring → Work Bool
  | .file descriptor kind path =>
    match kind with
    | .read => openAs descriptor path .read
    | .append => openAs descriptor path .append
    | .update => openAs descriptor path .update
    | .force => openAs descriptor path .replace
    | .replace => do
      if (← get).hasOption "noclobber" && (← isRegularFile path) then
        Work.warn (openFault path .replace .alreadyExists)
        return false
      else openAs descriptor path .replace
  | .close descriptor => do
    Work.tell (.close descriptor)
    return true
  | .share descriptor source => do
    match ← Work.ask (.duplicate source descriptor) with
    | .failed errno => do
      Work.warn (number source ++ ": ".toList ++ errno.text.toList)
      return false
    | _ => return true
  | .document descriptor text => openDocument descriptor text

/-- Carries out redirections up to the first that fails. -/
def rewireAll : List Rewiring → Work Bool
  | [] => return true
  | rewiring :: later => do
    if ← rewire rewiring then rewireAll later else return false

/-- Where copies of descriptors are kept. -/
def copiesFrom : Nat := 10

/-- Copies of descriptors that are about to change; none for one that is not open. -/
def saveDescriptors : List Nat → Work (List (Nat × Option Nat))
  | [] => return []
  | descriptor :: later => do
    let reply ← Work.ask (.duplicateFrom descriptor copiesFrom)
    let saved ← saveDescriptors later
    match reply with
    | .number copy => return (descriptor, some copy) :: saved
    | _ => return (descriptor, none) :: saved

/-- Puts descriptors back in place. -/
def restoreDescriptors : List (Nat × Option Nat) → Work Unit
  | [] => return ()
  | (descriptor, some copy) :: later => do
    moveDescriptor copy descriptor
    restoreDescriptors later
  | (descriptor, none) :: later => do
    Work.tell (.close descriptor)
    restoreDescriptors later

/-- Does something under redirections and undoes them. What is done learns whether they could be carried
out, and where diagnostics went before. -/
def underRewirings (rewirings : List Rewiring) (work : (worked : Bool) → (diagnostics : Nat) → Work Unit) :
    Work Unit := do
  if rewirings.isEmpty then work true 2
  else
    let saved ← saveDescriptors (rewirings.map Rewiring.descriptor).eraseDups
    let diagnostics := ((saved.lookup 2).getD none).getD 2
    Work.ensuring (do work (← rewireAll rewirings) diagnostics) (restoreDescriptors saved)

end Pipework.Shell
