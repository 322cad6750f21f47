import Pipework.Tool.Work

set_option autoImplicit false

/-!
Paths as tools take them apart and put them together, and what can be learnt about the files there.
-/

namespace Pipework.Tool

open Kernel

/-- A path without the slashes at its end. -/
def trimSlashes (path : Text) : Text := (path.reverse.dropWhile (· = '/')).reverse

/-- The last component of a path. -/
def baseName (path : Text) : Text :=
  let trimmed := trimSlashes path
  if trimmed.isEmpty then path.take 1
  else (trimmed.reverse.takeWhile (· ≠ '/')).reverse

/-- A name without a suffix, unless nothing would be left. -/
def dropSuffix (suffix name : Text) : Text :=
  if suffix.length < name.length && suffix.isSuffixOf name then name.take (name.length - suffix.length)
  else name

/-- The path of the directory in which a path ends. -/
def directoryName (path : Text) : Text :=
  let trimmed := trimSlashes path
  let before := (trimmed.reverse.dropWhile (· ≠ '/')).reverse
  let directory := trimSlashes before
  if !directory.isEmpty then directory
  else if path.head? = some '/' then ['/']
  else ['.']

/-- The path of a name in a directory. -/
def joinPath (directory name : Text) : Text :=
  if directory.isEmpty then name else trimSlashes directory ++ '/' :: name

/-- Whether a path leads to a directory itself or to the one above it. -/
def isDotPath (path : Text) : Bool := baseName path = ['.'] || baseName path = ['.', '.']

namespace Work

/-- What can be learnt about the file at a path, or about a link at its end. -/
def facts (path : Text) (followLast : Bool) : Work (Except Errno FileFacts) := do
  match ← ask (.query (.file (Bytes.ofChars path) followLast)) with
  | .facts facts => return .ok facts
  | .failed errno => return .error errno
  | _ => return .error .noEntry

/-- The facts about an open file. -/
def factsOf (descriptor : Nat) : Work (Option FileFacts) := do
  match ← ask (.query (.descriptor descriptor)) with
  | .facts facts => return some facts
  | _ => return none

/-- Whether there is a directory at a path. -/
def isDirectory (path : Text) : Work Bool := do
  match ← facts path true with
  | .ok facts => return facts.kind = .directory
  | .error _ => return false

/-- Changes files. Gives the reason if that fails. -/
def edit (edit : FileEdit) : Work (Option Errno) := do
  match ← ask (.edit edit) with
  | .failed errno => return some errno
  | _ => return none

/-- The names in a directory. -/
def names (path : Text) : Work (Except Errno (List Text)) := do
  match ← ask (.query (.names (Bytes.ofChars path))) with
  | .names names => return .ok (names.map Bytes.toChars)
  | .failed errno => return .error errno
  | _ => return .error .notDirectory

end Work

/-- Which permissions are taken from new files. -/
def fileMask : Work Nat := do
  match ← Work.ask (.query .mask) with
  | .number mask => return mask
  | _ => return 0

end Pipework.Tool
