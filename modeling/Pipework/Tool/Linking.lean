import Pipework.Tool.Moving

set_option autoImplicit false

/-!
Tools that give files more names, or make links that lead to them.
-/

namespace Pipework.Tool

open Kernel

/-- How links are made. -/
structure LinkStyle where
  symbolic : Bool := false
  /-- Whether links lead to their goals from where they lie. -/
  relative : Bool := false
  /-- Whether links are followed that are to get another name. -/
  follows : Bool := false
  /-- Whether names of directories may be made. -/
  takesDirectories : Bool := false
  /-- Whether what is in the way is removed, and whether that is asked about. -/
  replacing : Option Replacing := none
  backup : Backup := {}
  verbose : Bool := false
  /-- Whether names are kept in mind that were made. -/
  tracksPlaces : Bool := false

namespace LinkStyle

/-- Tries to make a link. Gives nothing if it has to be thought about first. -/
def attempt (style : LinkStyle) (source place : Text) : Work (Option (Option Errno)) := do
  if style.symbolic then
    if style.relative then return none
    else return some (← Work.edit (.makeLink (Bytes.ofChars source) (Bytes.ofChars place)))
  else
    let origin ← if style.follows then canonicalPath { existence := .all } source else pure (.ok source)
    match origin with
    | .ok origin => return some (← Work.edit (.link (Bytes.ofChars origin) (Bytes.ofChars place)))
    | .error errno => return some (some errno)

/-- The way from the directory in which a link lies to where it leads. -/
def relativeGoal (source place : Text) : Work Text := do
  let find := canonicalPath { existence := .nothing }
  match ← find (directoryName place), ← find source with
  | .ok directory, .ok goal => return relativePath directory goal
  | _, _ => return source

/-- Whether the way to a link is free, and under which name is kept what was there. -/
inductive Space where
  | refused
  | declined
  | free (replaces : Bool) (backup : Option Text)

/-- Makes room for a link. -/
def makeRoom (style : LinkStyle) (source place name : Text) (facts : Option FileFacts) (tried : Option Errno) :
    Replicating Space := do
  let refuse (message : Text) : Replicating Space := do
    Work.report message
    return .refused
  if style.replacing.isNone && style.backup.kind = .absent then return .free false none
  else
    match ← Work.facts place false with
    | .error .noEntry => return .free false none
    | .error errno => refuse (because ("failed to access ".toList ++ inQuotes place) errno)
    | .ok other =>
      if other.kind = .directory then refuse (shownName place ++ ": cannot overwrite directory".toList)
      else if style.tracksPlaces && (← get).places.contains (name, other.number) then
        refuse (aboutTwo "will not overwrite just-created " place " with " source "")
      else
        let goal ← if style.symbolic then Work.factsIfAny source true else pure facts
        let isSame : Bool ← match goal with
          | some goal =>
            if style.backup.kind ≠ .absent && style.symbolic || goal.number ≠ other.number then pure false
            else if goal.names = 1 then pure true
            else (Work.sameEntry source place : Work _)
          | none => pure false
        if isSame then refuse (aboutTwo "" source " and " place " are the same file")
        else if tried.any (· ≠ .alreadyExists) then return .free true none
        else if !(← mayReplace) then return .declined
        else if style.backup.kind = .absent then return .free true none
        else
          let backup ← style.backup.placeFor place
          match ← Work.edit (.rename (Bytes.ofChars place) (Bytes.ofChars backup)) with
          | none => return .free true (some backup)
          | some .noEntry => return .free false none
          | some errno => refuse (because ("cannot backup ".toList ++ inQuotes place) errno)
where
  mayReplace : Work Bool :=
    if style.replacing = some .ask then Work.confirm ("replace ".toList ++ inQuotes place) else return true

/-- What is said of a link that cannot be made. -/
def complaint (style : LinkStyle) (source place : Text) (errno : Errno) : Text :=
  let failed := "failed to create ".toList
  if style.symbolic then
    failed ++ "symbolic link ".toList ++ inQuotes place ++
      (if errno ≠ .nameTooLong && !source.isEmpty then [] else " -> ".toList ++ inQuotes source)
  else
    failed ++ "hard link ".toList ++ inQuotes place ++
      (if errno = .alreadyExists || errno = .noSpace then [] else " => ".toList ++ inQuotes source)

/-- Tells of a link. -/
def announce (style : LinkStyle) (source place : Text) (backup : Option Text) : Work Unit := do
  if style.verbose then
    let kept := match backup with
      | some backup => inQuotes backup ++ " ~ ".toList
      | none => []
    Work.putLine (kept ++ aboutTwo "" place (if style.symbolic then " -> " else " => ") source "")

/-- Makes a link at a place, where that was perhaps tried before. -/
def make (style : LinkStyle) (source place name : Text) (tried : Option (Option Errno)) :
    Replicating Unit := do
  let tried ← match tried with
    | some result => pure (some result)
    | none => (style.attempt source place : Work _)
  let isSettled : Bool := tried = some none
  let needsFacts : Bool := (!isSettled || style.tracksPlaces) && !style.symbolic
  match ← if needsFacts then Work.facts source style.follows else pure (.ok {kind := .regular}) with
  | .error errno => Work.report (because ("failed to access ".toList ++ inQuotes source) errno)
  | .ok facts =>
    if isSettled then succeed source facts none
    else if !style.symbolic && !style.takesDirectories && facts.kind = .directory then
      Work.report (shownName source ++ ": hard link not allowed for directory".toList)
    else
      let goal ← if style.relative then relativeGoal source place else pure source
      match ← style.makeRoom goal place name (if style.symbolic then none else some facts) (tried.bind id) with
      | .refused | .declined => return ()
      | .free replaces backup =>
        match ← again goal replaces (tried.bind id) with
        | none => succeed goal facts backup
        | some errno => do
          Work.report (because (style.complaint goal place errno) errno)
          match backup with
          | none => return ()
          | some backup =>
            match ← Work.edit (.rename (Bytes.ofChars backup) (Bytes.ofChars place)) with
            | some errno => Work.report (because ("cannot un-backup ".toList ++ inQuotes place) errno)
            | none => return ()
where
  /-- Tries once more, when there is room. -/
  again (goal : Text) (replaces : Bool) (failure : Option Errno) : Work (Option Errno) := do
    let direct := { style with relative := false }
    match failure with
    | none =>
      match ← direct.attempt goal place with
      | some (some .alreadyExists) => if replaces then replace direct goal else return some .alreadyExists
      | result => return result.bind id
    | some .alreadyExists => if replaces then replace direct goal else return some .alreadyExists
    | failure => return failure
  /-- Removes what is in the way. -/
  replace (direct : LinkStyle) (goal : Text) : Work (Option Errno) := do
    match ← Work.edit (.remove (Bytes.ofChars place)) with
    | none | some .noEntry => return (← direct.attempt goal place).bind id
    | some errno => return some errno
  succeed (goal : Text) (facts : FileFacts) (backup : Option Text) : Replicating Unit := do
    if style.tracksPlaces then
      modify fun state => { state with places := (name, facts.number) :: state.places }
    style.announce goal place backup

end LinkStyle

/-- The options of links. -/
def linkOptions : OptionTable where
  letters := "dFfiLnPrst:Tv" ++ backupLetters
  names :=
    backupNames ++
      [("directory", 'F'), ("no-dereference", 'n'), ("no-target-directory", 'T'), ("force", 'f'),
        ("interactive", 'i'), ("logical", 'L'), ("physical", 'P'), ("relative", 'r'), ("symbolic", 's'),
        ("target-directory", 't'), ("verbose", 'v')]

/-- Makes links. -/
def ln (settings : Variables) (arguments : List Text) : Work Unit := do
  let check (option : Given) : StateT (Option Text) Work Unit := do
    match option.letter, option.argument with
    | 't', some path => do
      if (← get).isSome then Work.fail "multiple target directories specified".toList
      match ← Work.facts path true with
      | .error errno => Work.fail (because ("failed to access ".toList ++ inQuotes path) errno)
      | .ok facts =>
        if facts.kind ≠ .directory then
          Work.fail ("target ".toList ++ inQuotes path ++ " is not a directory".toList)
      set (some path)
    | _, _ => return ()
  let ((given, operands), target) ← (readOptionsWith check linkOptions arguments).run none
  if operands.isEmpty then Work.failUsage "missing file operand".toList
  let style : LinkStyle :=
    { symbolic := hasLetter given 's'
      relative := hasLetter given 'r'
      follows := lastOf? given ['L', 'P'] = some 'L'
      takesDirectories := hasLetter given 'd' || hasLetter given 'F'
      replacing := (lastOf? given ['f', 'i']).map fun letter => if letter = 'f' then .always else .ask
      verbose := hasLetter given 'v' }
  if style.relative && !style.symbolic then Work.fail "cannot do --relative without --symbolic".toList
  if hasLetter given 'T' then
    if target.isSome then
      Work.fail "cannot combine --target-directory and --no-target-directory".toList
    match operands with
    | [only] => Work.failUsage ("missing destination file operand after ".toList ++ inQuotes only)
    | _ :: _ :: extra :: _ => Work.failUsage ("extra operand ".toList ++ inQuotes extra)
    | _ => pure ()
    let style := { style with backup := ← Backup.read settings given }
    let place := operands.getLastD []
    let _ ← (style.make (operands.headD []) place place none).run {}
  else
    let (directory, sources, tried) ← findTarget style (!hasLetter given 'n') target operands
    let style := { style with backup := ← Backup.read settings given }
    match directory with
    | none =>
      let place := operands.getLastD []
      let _ ← (style.make (operands.headD []) place place tried).run {}
    | some directory => do
      let tracksPlaces : Bool := 2 ≤ sources.length && style.replacing = some .always && !style.symbolic &&
        style.backup.kind ≠ .numbered
      let style := { style with tracksPlaces }
      let makeAll : Replicating Unit := sources.forM fun source => do
        let name := baseName source
        style.make source (joinPath directory name) name none
      let _ ← makeAll.run {}
where
  /-- The directory for links, if it is one, and what has to be linked. A single link is tried first. -/
  findTarget (style : LinkStyle) (followsLast : Bool) (target : Option Text) (operands : List Text) :
      Work (Option Text × List Text × Option (Option Errno)) := do
    match operands, target with
    | [only], none => return (some ['.'], [only], none)
    | operands, target => do
      let tried ← match operands, target with
        | [source, place], none => style.attempt source place
        | _, _ => pure none
      let mayBeDirectory : Bool := match tried with
        | none | some (some .alreadyExists) | some (some .notDirectory) | some (some .invalidArgument) => true
        | _ => false
      if !mayBeDirectory then return (none, operands, tried)
      else
        let directory := target.getD (operands.getLastD [])
        let fault ← match ← Work.facts directory followsLast with
          | .error errno => pure (some errno)
          | .ok facts => pure (if facts.kind = .directory then none else some .notDirectory)
        match fault with
        | none => return (some directory, if target.isSome then operands else operands.dropLast, none)
        | some errno =>
          if 2 < operands.length || target.isSome then
            Work.fail (because ("target ".toList ++ inQuotes directory) errno)
          else return (none, operands, tried)

/-- Gives a file one more name. -/
def link (arguments : List Text) : Work Unit := do
  let (_, operands) ← readOptions { letters := "" } arguments
  match operands with
  | [source, place] =>
    match ← Work.edit (.link (Bytes.ofChars source) (Bytes.ofChars place)) with
    | some errno =>
      Work.report (because (aboutTwo "cannot create link " place " to " source "") errno)
    | none => return ()
  | [] => needOperand []
  | [only] => Work.failUsage ("missing operand after ".toList ++ quoted only)
  | _ :: _ :: extra :: _ => failExtra extra

end Pipework.Tool
