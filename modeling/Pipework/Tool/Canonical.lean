import Pipework.Tool.Option
import Pipework.Tool.Path

set_option autoImplicit false

/-!
Paths in their canonical form: from the root on, and without links, dots and superfluous slashes.
-/

namespace Pipework.Tool

open Kernel
open Files (slash)

/-- How much of a path has to exist. -/
inductive Existence where
  | all
  | allButLast
  | nothing
  deriving DecidableEq, Repr

/-- How a path is followed. -/
structure Following where
  existence : Existence := .allButLast
  /-- Whether links stay in the path. -/
  keepsLinks : Bool := false
  deriving DecidableEq, Repr

/-- How many links are followed before the search for a circle begins. -/
def linkPatience : Nat := 20

/-- The path above a path that begins at the root. -/
def pathAbove (path : Text) : Text :=
  let above := trimSlashes ((trimSlashes path).reverse.dropWhile (· ≠ '/')).reverse
  if above.isEmpty then ['/'] else above

/-- Whether what follows a name can only stand behind that of a directory: slashes at the end, or dots. -/
def needsDirectory : Nat → Text → Bool
  | 0, _ => false
  | fuel + 1, text =>
    if text.head? ≠ some '/' then false
    else
      match text.dropWhile (· = '/') with
      | [] => true
      | ['.'] | ['.', '.'] => true
      | '.' :: '.' :: '/' :: _ => true
      | '.' :: '/' :: rest => needsDirectory fuel ('/' :: rest)
      | _ => false

namespace Following

/-- Why a name that is no link cannot stand where it does, if something follows it. -/
def fault (following : Following) (path rest : Text) (unlinked : Option Errno) : Work (Option Errno) := do
  let isAccepted (errno : Errno) : Bool :=
    following.existence = .nothing ||
      (following.existence = .allButLast && errno = .noEntry && rest.all (· = '/'))
  let refuse (errno : Errno) : Option Errno := if isAccepted errno then none else some errno
  let look (path : Text) : Work (Option Errno) := do
    match ← Work.facts path true with
    | .ok _ => return none
    | .error errno => return refuse errno
  if following.existence = .nothing then return none
  else if needsDirectory (rest.length + 1) rest then look (path ++ ['/'])
  else
    match unlinked with
    | some .invalidArgument => return none
    | some errno => return refuse errno
    | none => if rest.isEmpty then look path else return none

/-- Follows the rest of a path from a directory on. The links that were followed late are kept, each with the
directory in which it lies. -/
def run (following : Following) :
    Nat → (links : Nat) → (seen : List (Text × Text)) → (current rest : Text) → Work (Except Errno Text)
  | 0, _, _, _, _ => return .error .tooManyLinks
  | fuel + 1, links, seen, current, text => do
    let text := text.dropWhile (· = '/')
    let name := text.takeWhile (· ≠ '/')
    let rest := text.drop name.length
    if name.isEmpty then return .ok current
    else if name = ['.'] then following.run fuel links seen current rest
    else if name = ['.', '.'] then following.run fuel links seen (pathAbove current) rest
    else
      let path := joinPath current name
      let answer ←
        if following.keepsLinks then pure none
        else
          match ← Work.ask (.query (.linkTarget (Bytes.ofChars path))) with
          | .data target => pure (some (Except.ok (Bytes.toChars target)))
          | .failed errno => pure (some (Except.error errno))
          | _ => pure (some (Except.error .invalidArgument))
      match answer with
      | some (.ok target) =>
        let isLate : Bool := linkPatience ≤ links
        if isLate && seen.contains (current, text) then
          if following.existence = .nothing then following.run fuel links seen path rest
          else return .error .tooManyLinks
        else
          let seen := if isLate then (current, text) :: seen else seen
          let start : Text := if target.head? = some '/' then ['/'] else current
          following.run fuel (links + 1) seen start (target ++ rest)
      | unlinked =>
        let errno : Option Errno := match unlinked with
          | some (.error errno) => some errno
          | _ => none
        match ← following.fault path rest errno with
        | some errno => return .error errno
        | none => following.run fuel links seen path rest

end Following

/-- The longest path, links included, that is followed. -/
def followLimit : Nat := 100000

/-- The canonical form of a path. -/
def canonicalPath (following : Following) (path : Text) : Work (Except Errno Text) := do
  if path.isEmpty then return .error .noEntry
  else if path.head? = some '/' then following.run followLimit 0 [] ['/'] path
  else
    match ← Work.ask (.query .workingDirectory) with
    | .data working => following.run followLimit 0 [] (Bytes.toChars working) path
    | .failed errno => return .error errno
    | _ => return .error .noEntry

/-- Prints where links lead. -/
def readlink (arguments : List Text) : Work Unit := do
  let table : OptionTable :=
    { letters := "efmnqsvz"
      names :=
        [("canonicalize", 'f'), ("canonicalize-existing", 'e'), ("canonicalize-missing", 'm'),
          ("no-newline", 'n'), ("quiet", 'q'), ("silent", 's'), ("verbose", 'v'), ("zero", 'z')] }
  let (given, operands) ← readOptions table arguments
  needOperand operands
  let leavesOut := hasLetter given 'n'
  if leavesOut && 1 < operands.length then
    Work.complain "ignoring --no-newline with multiple arguments".toList
  let ending : Text :=
    if leavesOut && operands.length = 1 then [] else if hasLetter given 'z' then ['\x00'] else ['\n']
  operands.forM fun path => do
    let result : Except Errno Text ← match lastOf? given ['e', 'f', 'm'] with
      | some 'e' => canonicalPath { existence := .all } path
      | some 'f' => canonicalPath { existence := .allButLast } path
      | some _ => canonicalPath { existence := .nothing } path
      | none => do
        match ← Work.ask (.query (.linkTarget (Bytes.ofChars path))) with
        | .data target => pure (.ok (Bytes.toChars target))
        | .failed errno => pure (.error errno)
        | _ => pure (.error .invalidArgument)
    match result with
    | .ok target => Work.put (target ++ ending)
    | .error errno =>
      if lastOf? given ['q', 's', 'v'] = some 'v' then Work.report (because (shownName path) errno)
      else Work.noteFailure

/-- The components of a canonical path. -/
def componentsOf (path : Text) : List Text := (path.splitOn '/').filter (!·.isEmpty)

/-- Whether a path leads to a directory or to something below it. -/
def isBelow (directory path : Text) : Bool := (componentsOf directory).isPrefixOf (componentsOf path)

/-- The way from a directory to a path: up to where they have the same components, and down from there. -/
def relativePath (directory path : Text) : Text :=
  let start := componentsOf directory
  let goal := componentsOf path
  let shared := ((start.zip goal).takeWhile fun (left, right) => left = right).length
  let steps := List.replicate (start.length - shared) ['.', '.'] ++ goal.drop shared
  if steps.isEmpty then ['.'] else List.intercalate ['/'] steps

/-- How canonical paths are wanted. -/
structure PathWish where
  following : Following := {}
  /-- Whether links are followed only when everything else is done. -/
  linksLast : Bool := false

namespace PathWish

/-- The canonical form of a path. -/
def apply (wish : PathWish) (path : Text) : Work (Except Errno Text) := do
  match ← canonicalPath wish.following path with
  | .ok found =>
    if wish.linksLast then canonicalPath { wish.following with keepsLinks := false } found else return .ok found
  | .error errno => return .error errno

/-- The canonical form of a directory, without which the tool gives up. -/
def directory (wish : PathWish) (path : Text) : Work Text := do
  match ← wish.apply path with
  | .error errno => Work.fail (because (shownName path) errno)
  | .ok found =>
    if wish.following.existence = .all && !(← Work.isDirectory found) then
      Work.fail (because (shownName path) .notDirectory)
    else return found

/-- Takes on an option. -/
def add (wish : PathWish) (option : Given) : PathWish :=
  match option.letter with
  | 'e' => { wish with following := { wish.following with existence := .all } }
  | 'm' => { wish with following := { wish.following with existence := .nothing } }
  | 'L' => { wish with following := { wish.following with keepsLinks := true }, linksLast := true }
  | 's' => { wish with following := { wish.following with keepsLinks := true }, linksLast := false }
  | 'P' => { wish with following := { wish.following with keepsLinks := false }, linksLast := false }
  | _ => wish

end PathWish

/-- Prints canonical paths. -/
def realpath (arguments : List Text) : Work Unit := do
  let table : OptionTable :=
    { letters := "eLmPqsz\x01:\x02:"
      names :=
        [("canonicalize-existing", 'e'), ("canonicalize-missing", 'm'), ("relative-to", '\x01'),
          ("relative-base", '\x02'), ("quiet", 'q'), ("strip", 's'), ("no-symlinks", 's'), ("zero", 'z'),
          ("logical", 'L'), ("physical", 'P')] }
  let (given, operands) ← readOptions table arguments
  needOperand operands
  let wish := given.foldl PathWish.add {}
  let baseOption := argumentOf? given '\x02'
  let start ← ((argumentOf? given '\x01').orElse fun _ => baseOption).mapM wish.directory
  let (start, base) ← match argumentOf? given '\x01', baseOption with
    | some _, some path => do
      let base ← wish.directory path
      pure (if start.any (isBelow base) then (start, some base) else (none, start))
    | none, some _ => pure (start, start)
    | _, none => pure (start, none)
  operands.forM fun path => do
    match ← wish.apply path with
    | .error errno =>
      if hasLetter given 'q' then Work.noteFailure else Work.report (because (shownName path) errno)
    | .ok found =>
      let shown := match start with
        | some start => if base.all (isBelow · found) then relativePath start found else found
        | none => found
      Work.put (shown ++ [if hasLetter given 'z' then '\x00' else '\n'])

end Pipework.Tool
