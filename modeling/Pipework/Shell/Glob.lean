import Pipework.Shell.Field
import Pipework.Shell.Work

set_option autoImplicit false

/-!
Paths that match a pattern. A pattern is matched part by part between its slashes; a dot at the start of a name
must be written out.
-/

namespace Pipework.Shell

open Kernel

/-- The parts of a pattern between its slashes. -/
def splitAtSlashes : MarkedText → List MarkedText
  | [] => [[]]
  | entry :: rest =>
    if entry.1 = '/' then [] :: splitAtSlashes rest
    else
      match splitAtSlashes rest with
      | [] => [[entry]]
      | part :: parts => (entry :: part) :: parts

/-- The text of a pattern that stands for itself; a backslash that is not quoted quotes the next character. -/
def literalText : MarkedText → Text
  | [] => []
  | ('\\', false) :: entry :: rest => entry.1 :: literalText rest
  | entry :: rest => entry.1 :: literalText rest

/-- The names in a directory, in order. -/
def namesIn (path : Text) : Work (List Text) := do
  let directory := if path.isEmpty then ['.'] else path
  match ← Work.ask (.query (.names (Bytes.ofChars directory))) with
  | .names names =>
    let names := [['.'], ['.', '.']] ++ names.map Bytes.toChars
    return names.mergeSort fun left right => !decide (right < left)
  | _ => return []

/-- Whether there is something at a path. -/
def pathExists (path : Text) : Work Bool := do
  match ← Work.ask (.query (.file (Bytes.ofChars path) false)) with
  | .facts _ => return true
  | _ => return false

/-- The paths that match what is left of a pattern, behind paths that match what comes before. -/
def matchParts : List MarkedText → List Text → Work (List Text)
  | [], paths => return paths
  | [part], paths => matchLast part paths
  | part :: later, paths => do
    if Pattern.isActive part then
      let found ← matchLast part paths
      let folders ← found.filterM fun path => pathExists (path ++ ['/', '.'])
      matchParts later (folders.map (· ++ ['/']))
    else matchParts later (paths.map (· ++ literalText part ++ ['/']))
where
  /-- The paths that match one part. -/
  matchLast (part : MarkedText) (paths : List Text) : Work (List Text) := do
    if Pattern.isActive part then
      let pattern := Pattern.ofText part
      let showsHidden := part.head?.any fun entry => entry.1 = '.'
      let found ← paths.mapM fun path => do
        let names ← namesIn path
        let fitting := names.filter fun name =>
          (showsHidden || name.head? ≠ some '.') && Pattern.matchesAll pattern name
        return fitting.map (path ++ ·)
      return found.flatten
    else (paths.map (· ++ literalText part)).filterM pathExists

/-- The paths that a field stands for, or the field as it is if there is none. -/
def expandPaths (field : MarkedText) : Work (List Text) := do
  let itself := field.map Prod.fst
  if (← get).hasOption "noglob" || !Pattern.isActive field then return [itself]
  else
    match ← matchParts (splitAtSlashes field) [[]] with
    | [] => return [itself]
    | paths => return paths.mergeSort fun left right => !decide (right < left)

end Pipework.Shell
