import Pipework.Tool.Option
import Pipework.Tool.Path

set_option autoImplicit false

/-!
Tools that take files away.
-/

namespace Pipework.Tool

open Kernel

/-- What a removal takes away, and what it says. -/
structure RemovalStyle where
  /-- Whether files that are missing do not matter. -/
  force : Bool := false
  recursive : Bool := false
  /-- Whether empty directories are removed. -/
  directories : Bool := false
  verbose : Bool := false
  deriving DecidableEq, Repr

namespace RemovalStyle

def complain (path : Text) (errno : Errno) : Work Unit :=
  Work.report (because ("cannot remove ".toList ++ inQuotes path) errno)

/-- Says what was removed. -/
def announce (style : RemovalStyle) (what : String) (path : Text) : Work Unit := do
  if style.verbose then Work.putLine (what.toList ++ inQuotes path)

/-- Removes an empty directory. -/
def removeEmpty (style : RemovalStyle) (path : Text) : Work Unit := do
  match ← Work.edit (.removeDirectory (Bytes.ofChars path)) with
  | some errno => complain path errno
  | none => style.announce "removed directory " path

/-- Removes a file, or a directory with all that is in it down to a given depth. -/
def remove (style : RemovalStyle) : Nat → Text → Work Unit
  | 0, _ => return ()
  | depth + 1, path => do
    match ← Work.facts path false with
    | .error errno =>
      if style.force && (errno = .noEntry || errno = .notDirectory) then return ()
      else complain path errno
    | .ok facts =>
      if facts.kind ≠ .directory then
        match ← Work.edit (.remove (Bytes.ofChars path)) with
        | some errno => complain path errno
        | none => style.announce "removed " path
      else if style.recursive then
        if isDotPath path then
          Work.report ("refusing to remove '.' or '..' directory: skipping ".toList ++ inQuotes path)
        else if path.all (· = '/') then do
          Work.report ("it is dangerous to operate recursively on ".toList ++ inQuotes path)
          Work.report "use --no-preserve-root to override this failsafe".toList
        else do
          match ← Work.names path with
          | .error errno => complain path errno
          | .ok names => do
            names.forM fun name => remove style depth (joinPath path name)
            style.removeEmpty path
      else if style.directories then style.removeEmpty path
      else complain path .isDirectory

end RemovalStyle

/-- Removes files. -/
def rm (arguments : List Text) : Work Unit := do
  let table : OptionTable :=
    { letters := "dfirvIR"
      names := [("force", 'f'), ("recursive", 'r'), ("dir", 'd'), ("verbose", 'v'), ("interactive", 'i')] }
  let (given, operands) ← readOptions table arguments
  let style : RemovalStyle :=
    { force := hasLetter given 'f'
      recursive := hasLetter given 'r' || hasLetter given 'R'
      directories := hasLetter given 'd'
      verbose := hasLetter given 'v' }
  if !style.force then needOperand operands
  operands.forM (style.remove Files.depthLimit)

/-- The directories that a path goes through, from the innermost outward. -/
def outerDirectories : Nat → Text → List Text
  | 0, _ => []
  | fuel + 1, path =>
    let trimmed := trimSlashes path
    if trimmed.contains '/' then
      let outer := trimSlashes ((trimmed.reverse.dropWhile (· ≠ '/')).reverse)
      if outer.isEmpty then [] else outer :: outerDirectories fuel outer
    else []

/-- Removes empty directories. -/
def rmdir (arguments : List Text) : Work Unit := do
  let table : OptionTable :=
    { letters := "pv", names := [("ignore-fail-on-non-empty", 'I'), ("parents", 'p'), ("verbose", 'v')] }
  let (given, operands) ← readOptions table arguments
  needOperand operands
  let removeOne (opening : String) (path : Text) : Work Bool := do
    if hasLetter given 'v' then Work.putLine ("rmdir: removing directory, ".toList ++ inQuotes path)
    match ← Work.edit (.removeDirectory (Bytes.ofChars path)) with
    | none => return true
    | some errno => do
      if !(hasLetter given 'I' && errno = .directoryNotEmpty) then
        Work.report (because (opening.toList ++ inQuotes path) errno)
      return false
  operands.forM fun path => do
    let removed ← removeOne "failed to remove " path
    if removed && hasLetter given 'p' then
      let _ ← (outerDirectories (path.length + 1) path).foldlM (fun goesOn outer =>
        if goesOn then removeOne "failed to remove directory " outer else return false) true

/-- Removes one name. -/
def unlink (arguments : List Text) : Work Unit := do
  let (_, operands) ← readOptions { letters := "" } arguments
  needOperand operands
  match operands with
  | path :: [] =>
    match ← Work.edit (.remove (Bytes.ofChars path)) with
    | some errno => Work.report (because ("cannot unlink ".toList ++ inQuotes path) errno)
    | none => return ()
  | _ :: extra :: _ => failExtra extra
  | [] => return ()

end Pipework.Tool
