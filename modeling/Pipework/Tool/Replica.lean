import Pipework.Permission
import Pipework.Tool.Backup
import Pipework.Tool.Canonical
import Pipework.Tool.Input
import Pipework.Tool.Work

set_option autoImplicit false

/-!
Replicas of files in other places: copies, links, and the files themselves under other names. What was in such a
place before makes room only if nothing is lost that should be kept.
-/

namespace Pipework.Tool

open Kernel

/-- Which links stand for the files to which they lead. -/
inductive LinkReading where
  | never
  /-- Those that operands name. -/
  | operands
  | always
  deriving DecidableEq, Repr

/-- Whether a file may take the place of another. -/
inductive Replacing where
  | always
  | ask
  | never
  deriving DecidableEq, Repr

/-- How replicas are made. -/
structure ReplicaRules where
  /-- Whether files are moved. -/
  moves : Bool := false
  recursive : Bool := false
  links : LinkReading := .always
  /-- Whether pipes and devices are read like regular files. -/
  readsAll : Bool := true
  hardLinks : Bool := false
  symbolicLinks : Bool := false
  replacing : Replacing := .always
  /-- Whether only files are replaced that were changed earlier. -/
  onlyOlder : Bool := false
  /-- Whether what is in the way is removed first. -/
  removesFirst : Bool := false
  /-- Whether it is removed if it cannot be written to. -/
  removesLocked : Bool := false
  backup : Backup := {}
  copiesContent : Bool := true
  keepsMode : Bool := false
  keepsTimes : Bool := false
  /-- Whether several names of a file become several names of its copy. -/
  keepsNames : Bool := false
  /-- Whether new files get the usual permissions. -/
  dropsMode : Bool := false
  /-- The permissions of all new files. -/
  mode : Option Nat := none
  /-- Whether a file is made where a link leads to nothing. -/
  fillsLinks : Bool := false
  /-- Whether copies have to share their content with what they are made from. -/
  shares : Bool := false
  verbose : Bool := false
  /-- What is said of a directory that is left out. -/
  omission : String := "-r not specified; omitting directory "
  /-- Whether the same source may come again. -/
  tracksSources : Bool := false
  /-- Whether the same place may come again. -/
  tracksPlaces : Bool := false
  mask : Nat := 0
  deriving Repr

/-- What was replicated so far. -/
structure Replication where
  /-- Files by their numbers, with the places of their copies. -/
  copies : List (Nat × Text) := []
  sources : List (Text × Nat) := []
  places : List (Text × Nat) := []

/-- Work that replicates files. -/
abbrev Replicating := StateT Replication Work

/-- One file to replicate. -/
structure Errand where
  source : Text
  place : Text
  /-- The end of the place, below the directory that was asked for. -/
  name : Text := place
  /-- The operand and its place. -/
  top : Text × Text := (source, place)
  isOperand : Bool := true
  /-- The directories in which the source lies. -/
  ancestors : List Nat := []
  /-- Whether a directory was made for the operand. -/
  madeFirst : Bool := false

/-- What has come of an errand. -/
structure Outcome where
  succeeded : Bool
  intoItself : Bool := false
  madeFirst : Bool := false
  deriving DecidableEq, Repr

/-- What a file has to do with the one in its place. -/
inductive Sameness where
  | different
  /-- They are the same, and nothing has to be done. -/
  | fine
  | same
  deriving DecidableEq, Repr

/-- Whether a place is free. -/
inductive Way where
  /-- There is nothing left to do. -/
  | settled (succeeded : Bool)
  /-- The file may be put there. A new one has to be made, or another one is still there. -/
  | clear (isNew : Bool) (backup : Option Text)
  deriving DecidableEq, Repr

/-- A sentence about two names. -/
def aboutTwo (start : String) (first : Text) (middle : String) (second : Text) (ending : String) : Text :=
  start.toList ++ inQuotes first ++ middle.toList ++ inQuotes second ++ ending.toList

namespace Work

/-- Whether two paths name the same entry of a directory. -/
def sameEntry (first second : Text) : Work Bool := do
  if baseName first ≠ baseName second then return false
  else
    match ← facts (directoryName first) true, ← facts (directoryName second) true with
    | .ok first, .ok second => return first.number = second.number
    | _, _ => return false

/-- The facts about a file unless there are none. -/
def factsIfAny (path : Text) (followLast : Bool) : Work (Option FileFacts) := do
  match ← facts path followLast with
  | .ok facts => return some facts
  | .error _ => return none

/-- Gives a file another name if that is not in use. -/
def renameIfFree (source place : Text) : Work (Option Errno) := do
  match ← facts source false, ← facts place false with
  | .ok _, .ok _ => return some .alreadyExists
  | _, _ => edit (.rename (Bytes.ofChars source) (Bytes.ofChars place))

/-- Gives a file one more name, or what a link leads to. -/
def linkHard (source place : Text) (replaces follows tells : Bool) : Work Bool := do
  let origin ← if follows then do
      match ← canonicalPath { existence := .all } source with
      | .ok path => pure path
      | .error _ => pure source
    else pure source
  let link := edit (.link (Bytes.ofChars origin) (Bytes.ofChars place))
  let complain (errno : Errno) : Work Bool := do
    report (because (aboutTwo "cannot create hard link " place " to " source "") errno)
    return false
  match ← link, replaces with
  | none, _ => return true
  | some .alreadyExists, true => do
    let _ ← edit (.remove (Bytes.ofChars place))
    match ← link with
    | none => do
      if tells then putLine ("removed ".toList ++ inQuotes place)
      return true
    | some errno => complain errno
  | some errno, _ => complain errno

/-- Makes a symbolic link. What is in the way may be removed. -/
def linkSoft (content : Bytes) (place : Text) (replaces : Bool) : Work (Option Errno) := do
  match ← edit (.makeLink content (Bytes.ofChars place)), replaces with
  | some .alreadyExists, true => do
    match ← edit (.remove (Bytes.ofChars place)) with
    | some errno => return some errno
    | none => edit (.makeLink content (Bytes.ofChars place))
  | result, _ => return result

end Work

namespace ReplicaRules

/-- What becomes of a file if its own names are looked at, or those of links to it. -/
def compareEnds (rules : ReplicaRules) (errand : Errand) (facts own old : FileFacts) : Work Sameness := do
  let sameName := Work.sameEntry errand.source errand.place
  let sameLink : Bool := own.number = old.number
  let orDifferent (isSame : Bool) : Sameness := if isSame then .same else .different
  let isLink (facts : FileFacts) : Bool := facts.kind = .link
  let reads : Bool := rules.links ≠ .never
  if reads && isLink own && isLink old && rules.removesFirst then return .different
  else if rules.backup.kind ≠ .absent then
    if sameLink then return orDifferent (← sameName)
    else return orDifferent (!rules.moves && reads && isLink own && !isLink old)
  else if (rules.moves || rules.removesFirst) && isLink old then return .different
  else if (rules.moves || rules.removesFirst) && sameLink && 1 < old.names && !(← sameName) then
    return orDifferent rules.moves
  else if !isLink own && !isLink old && !sameLink then return .different
  else if !isLink own && !isLink old && rules.hardLinks then return .fine
  else
    let canonical : Option Text ←
      if rules.moves && facts.kind = .link && 1 < old.names then do
        match ← canonicalPath { existence := .all } errand.source with
        | .ok path => pure (some path)
        | .error _ => pure none
      else pure none
    match canonical with
    | some path => return orDifferent (← Work.sameEntry path errand.place)
    | none =>
      if rules.symbolicLinks && isLink old then return .different
      else if reads then return .same
      else
        let behind (path : Text) (facts : FileFacts) : Work (Option FileFacts) :=
          if isLink facts then Work.factsIfAny path true else return some facts
        match ← behind errand.source own, ← behind errand.place old with
        | some source, some place =>
          if source.number ≠ place.number then return .different
          else if rules.hardLinks then return (if isLink old then .different else .fine)
          else return .same
        | _, _ => return .different

/-- What a file has to do with the one in its place. -/
def compare (rules : ReplicaRules) (errand : Errand) (facts other : FileFacts) : Work Sameness := do
  let same : Bool := facts.number = other.number
  if same && rules.hardLinks then return .fine
  else if rules.links = .never then
    if facts.kind = .link && other.kind = .link then
      if ← Work.sameEntry errand.source errand.place then return .same
      else if rules.backup.kind = .absent && same then return (if rules.moves then .same else .fine)
      else return .different
    else rules.compareEnds errand facts facts other
  else if !same then return .different
  else
    match ← Work.factsIfAny errand.source false, ← Work.factsIfAny errand.place false with
    | some own, some old => rules.compareEnds errand facts own old
    | _, _ => return .different

/-- Tells of a replica. -/
def announce (source place : Text) (backup : Option Text) : Work Unit :=
  Work.putLine (aboutTwo "" source " -> " place "" ++
    (match backup with
    | some backup => " (backup: ".toList ++ inQuotes backup ++ [')']
    | none => []))

/-- Notes where the copy of a file is, or gives where there is one. -/
def remember (number : Nat) (place : Text) : Replicating (Option Text) := do
  let copies := (← get).copies
  match copies.lookup number with
  | some earlier => return some earlier
  | none => do
    modify ({ · with copies := (number, place) :: copies })
    return none

/-- Whether a file was put in this place before. -/
def wasPlaced (rules : ReplicaRules) (errand : Errand) (facts : FileFacts) : Replicating Bool := do
  return rules.tracksPlaces && (← get).places.contains (errand.name, facts.number)

/-- Whether two kinds of files cannot take each other's place. Complains about that. -/
def refusesKinds (rules : ReplicaRules) (errand : Errand) (facts other : FileFacts) : Replicating Bool := do
  let movesAside : Bool := rules.moves && rules.backup.kind ≠ .absent
  let refuse (message : Text) : Replicating Bool := do
    Work.report message
    return true
  if facts.kind = .directory && other.kind ≠ .directory && !movesAside then
    refuse (aboutTwo "cannot overwrite non-directory " errand.place " with directory " errand.source "")
  else if other.kind ≠ .directory && errand.isOperand && rules.backup.kind ≠ .numbered &&
      (← rules.wasPlaced errand other) then
    refuse (aboutTwo "will not overwrite just-created " errand.place " with " errand.source "")
  else if facts.kind ≠ .directory && other.kind = .directory && !movesAside then
    refuse ("cannot overwrite directory ".toList ++ inQuotes errand.place ++ " with non-directory".toList)
  else return false

/-- Takes a file out of the way: keeps it under another name, or removes it if that is wanted. -/
def takeAway (rules : ReplicaRules) (errand : Errand) (facts other : FileFacts) : Replicating Way := do
  let isKept : Bool := rules.backup.kind ≠ .absent && !isDotPath errand.source &&
    (rules.moves || other.kind ≠ .directory)
  let isRemoved : Bool := other.kind ≠ .directory && !rules.moves &&
    (rules.removesFirst || (rules.copiesContent &&
      ((rules.keepsNames && 1 < other.names) || (rules.links = .never && facts.kind ≠ .regular))))
  if isKept then
    if rules.backup.kind ≠ .numbered && (← rules.backup.hidesSource errand.source errand.place facts) then
      Work.report (aboutTwo "backing up " errand.place " might destroy source;  " errand.source
        (if rules.moves then " not moved" else " not copied"))
      return .settled false
    else
      let backup ← rules.backup.placeFor errand.place
      match ← Work.edit (.rename (Bytes.ofChars errand.place) (Bytes.ofChars backup)) with
      | none => return .clear true (some backup)
      | some .noEntry => return .clear true none
      | some errno => do
        Work.report (because ("cannot backup ".toList ++ inQuotes errand.place) errno)
        return .settled false
  else if isRemoved then
    match ← Work.edit (.remove (Bytes.ofChars errand.place)) with
    | none | some .noEntry => do
      if rules.verbose then Work.putLine ("removed ".toList ++ inQuotes errand.place)
      return .clear true none
    | some errno => do
      Work.report (because ("cannot remove ".toList ++ inQuotes errand.place) errno)
      return .settled false
  else return .clear false none

/-- Clears the way for a file where there is another. -/
def makeRoom (rules : ReplicaRules) (errand : Errand) (facts other : FileFacts) : Replicating Way := do
  let isDirectory : Bool := facts.kind = .directory
  let sameness ← if rules.replacing = .never then pure .different else rules.compare errand facts other
  if sameness = .same then
    Work.report (aboutTwo "" errand.source " and " errand.place " are the same file")
    return .settled false
  else if rules.onlyOlder && !isDirectory && facts.modified ≤ other.modified then
    match ← remember facts.number errand.place with
    | some earlier =>
      return .settled (← Work.linkHard earlier errand.place true (rules.links = .always) rules.verbose)
    | none => return .settled true
  else
    let asks : Bool := rules.moves || !isDirectory
    let isDeclined : Bool ←
      if asks && rules.replacing = .never then pure true
      else if asks && rules.replacing = .ask then do
        pure (!(← Work.confirm ("overwrite ".toList ++ inQuotes errand.place)))
      else pure false
    if isDeclined || sameness = .fine then return .settled true
    else if ← rules.refusesKinds errand facts other then return .settled false
    else rules.takeAway errand facts other

/-- Clears the way for a copy. -/
def clearWay (rules : ReplicaRules) (errand : Errand) (facts : FileFacts) : Replicating Way := do
  let isSpecial : Bool := facts.kind ≠ .regular &&
    (!rules.readsAll || facts.kind = .directory || facts.kind = .link)
  let looksAtLink : Bool := isSpecial || rules.moves || rules.symbolicLinks || rules.hardLinks ||
    rules.backup.kind ≠ .absent || rules.removesFirst
  match ← Work.facts errand.place (!looksAtLink) with
  | .ok other => rules.makeRoom errand facts other
  | .error .noEntry => return .clear true none
  | .error errno =>
    if errno = .tooManyLinks && rules.removesLocked then return .clear false none
    else
      Work.report (because ("cannot stat ".toList ++ inQuotes errand.place) errno)
      return .settled false

/-- Whether a copy would go through a link that was made before. Complains about that. -/
def goesThroughLink (rules : ReplicaRules) (errand : Errand) : Replicating Bool := do
  if errand.isOperand && rules.tracksPlaces && rules.backup.kind = .absent then
    match ← Work.facts errand.place false with
    | .ok facts =>
      if facts.kind = .link && (← rules.wasPlaced errand facts) then
        Work.report (aboutTwo "will not copy " errand.source " through just-created symlink " errand.place "")
        return true
      else return false
    | .error _ => return false
  else return false

/-- Notes where a file of several names is copied, or a directory. Gives where it was copied before. -/
def earlierCopy (rules : ReplicaRules) (errand : Errand) (facts : FileFacts) : Replicating (Option Text) := do
  if rules.recursive && facts.kind = .directory then
    if errand.isOperand then remember facts.number errand.place
    else return (← get).copies.lookup facts.number
  else if rules.keepsNames && !rules.hardLinks &&
      (1 < facts.names || (errand.isOperand && rules.links = .operands) || rules.links = .always) then
    remember facts.number errand.place
  else return none

/-- Undoes what a copy has changed that cannot be made. -/
def undo (rules : ReplicaRules) (errand : Errand) (forgotten : Option Nat) (backup : Option Text) :
    Replicating Unit := do
  match forgotten with
  | some number =>
    modify fun state => { state with copies := state.copies.filter fun entry => entry.1 ≠ number }
  | none => pure ()
  match backup with
  | none => return ()
  | some backup =>
    match ← Work.edit (.rename (Bytes.ofChars backup) (Bytes.ofChars errand.place)) with
    | some errno => Work.report (because ("cannot un-backup ".toList ++ inQuotes errand.place) errno)
    | none => if rules.verbose then Work.putLine (aboutTwo "" backup " -> " errand.place " (unbackup)")

/-- Whether links that a source ends in are followed. -/
def follows (rules : ReplicaRules) (errand : Errand) : Bool :=
  rules.links = .always || (rules.links = .operands && errand.isOperand)

/-- Deals with a file of which there is a copy. Gives nothing if there may be another one. -/
def repeatCopy (rules : ReplicaRules) (errand : Errand) (facts : FileFacts) (earlier : Text)
    (backup : Option Text) : Replicating (Option Outcome) := do
  let outcome (succeeded : Bool) : Outcome := { succeeded, madeFirst := errand.madeFirst }
  if facts.kind ≠ .directory then
    if ← Work.linkHard earlier errand.place true (rules.follows errand) rules.verbose then
      return some (outcome true)
    else
      rules.undo errand none backup
      return some (outcome false)
  else if ← Work.sameEntry errand.source earlier then
    Work.report (aboutTwo "cannot copy a directory, " errand.top.1 ", into itself, " errand.top.2 "")
    rules.undo errand none backup
    return some { outcome false with intoItself := true }
  else if ← Work.sameEntry errand.place earlier then
    Work.complain ("warning: source directory ".toList ++ inQuotes errand.top.1 ++
      " specified more than once".toList)
    return some (outcome true)
  else if rules.follows errand then return none
  else
    Work.report (aboutTwo "will not create hard link " errand.place " to directory " earlier "")
    rules.undo errand none backup
    return some (outcome false)

/-- Sets what a copy keeps of its file. -/
def finish (rules : ReplicaRules) (errand : Errand) (facts : FileFacts) (isNew : Bool) : Work Unit := do
  let place := Bytes.ofChars errand.place
  let isLink : Bool := facts.kind = .link || (rules.symbolicLinks && facts.kind ≠ .directory)
  if rules.keepsTimes then
    Work.tell (.edit (.setTimes place (!isLink) (some (.at facts.accessed)) (some (.at facts.modified))))
  let setMode (mode : Nat) : Work Unit := Work.tell (.edit (.setMode place mode))
  if isLink then return ()
  else if rules.keepsMode || rules.moves then setMode (facts.mode &&& 0o7777)
  else
    match rules.mode with
    | some mode => setMode mode
    | none =>
      if rules.dropsMode && isNew then
        setMode (Permission.without
          (if facts.kind = .directory then 0o777 ||| (facts.mode &&& 0o1000) else 0o666) rules.mask)

/-- Opens the place of a copy. Gives the descriptor, and whether there is a new file. -/
def openPlace (rules : ReplicaRules) (errand : Errand) (mode : Nat) (isNew : Bool) :
    Work (Option (Nat × Bool)) := do
  let place := errand.place
  let complain (errno : Errno) : Work (Option (Nat × Bool)) := do
    Work.report (because ("cannot create regular file ".toList ++ inQuotes place) errno)
    return none
  let make : Work (Option (Nat × Bool)) := do
    match ← Work.facts place false with
    | .ok _ =>
      if rules.fillsLinks || rules.moves then makeFile place mode complain
      else
        Work.report ("not writing through dangling symlink ".toList ++ inQuotes place)
        return none
    | .error _ => makeFile place mode complain
  if isNew then make
  else
    let access : Access := if rules.copiesContent && !rules.shares then .replace else .append
    match ← Work.facts place true, ← Work.openAside place access with
    | .ok _, .ok descriptor => return some (descriptor, false)
    | .error .noEntry, .ok descriptor => return some (descriptor, true)
    | _, .ok descriptor => return some (descriptor, false)
    | _, .error errno =>
      if !rules.removesLocked || errno = .noEntry then complain errno
      else
        match ← Work.edit (.remove (Bytes.ofChars place)) with
        | some .noEntry => make
        | some errno => do
          Work.report (because ("cannot remove ".toList ++ inQuotes place) errno)
          return none
        | none => do
          if rules.verbose then Work.putLine ("removed ".toList ++ inQuotes place)
          make
where
  makeFile (place : Text) (mode : Nat) (complain : Errno → Work (Option (Nat × Bool))) :
      Work (Option (Nat × Bool)) := do
    match ← Work.openAside place .replace with
    | .ok descriptor => do
      Work.tell (.edit (.setMode (Bytes.ofChars place) mode))
      return some (descriptor, true)
    | .error errno =>
      complain (if errno = .isDirectory && place.getLast? = some '/' then .notDirectory else errno)

/-- Copies the content of a file. -/
def copyContent (rules : ReplicaRules) (errand : Errand) (facts : FileFacts) (isNew : Bool) : Work Bool := do
  match ← Work.openAside errand.source .read with
  | .error errno => do
    Work.report (because ("cannot open ".toList ++ inQuotes errand.source ++ " for reading".toList) errno)
    return false
  | .ok source => do
    let mode := Permission.without ((rules.mode.getD facts.mode) &&& 0o777) rules.mask
    let succeeded ← match ← rules.openPlace errand mode isNew with
      | none => pure false
      | some (target, isNew) => do
        let succeeded ← transfer source target isNew
        Work.tell (.close target)
        if succeeded then rules.finish errand facts isNew
        pure succeeded
    Work.tell (.close source)
    return succeeded
where
  /-- Copies from one descriptor to another. -/
  transfer (source target : Nat) (isNew : Bool) : Work Bool := do
    if !rules.copiesContent then return true
    else if rules.shares then do
      Work.report (because (aboutTwo "failed to clone " errand.place " from " errand.source "") .notSupported)
      if isNew then Work.tell (.edit (.remove (Bytes.ofChars errand.place)))
      return false
    else
      match ← Work.readToEnd source stepLimit [] with
      | .error errno => do
        Work.report (because ("error reading ".toList ++ inQuotes errand.source) errno)
        return false
      | .ok content => do
        let data := Bytes.ofChars content
        match ← Work.writeAll target (data.length + 1) data with
        | some errno => do
          Work.report (because ("error writing ".toList ++ inQuotes errand.place) errno)
          return false
        | none => return true

/-- Makes a symbolic link to a file. It leads there only from the directory in which the source was named. -/
def linkTo (rules : ReplicaRules) (errand : Errand) : Work Bool := do
  let isHere : Bool ←
    if errand.source.head? = some '/' then pure true
    else
      match ← Work.facts ['.'] true, ← Work.facts (directoryName errand.place) true with
      | .ok here, .ok there => pure (here.number = there.number)
      | _, _ => pure true
  if !isHere then
    Work.report (shownName errand.place ++
      ": can make relative symbolic links only in current directory".toList)
    return false
  else
    match ← Work.linkSoft (Bytes.ofChars errand.source) errand.place rules.removesLocked with
    | none => return true
    | some errno => do
      Work.report (because (aboutTwo "cannot create symbolic link " errand.place " to " errand.source "") errno)
      return false

/-- Copies a symbolic link as it is. -/
def copyLink (rules : ReplicaRules) (errand : Errand) : Work Bool := do
  let complain (what : String) (name : Text) (errno : Errno) : Work Bool := do
    Work.report (because (what.toList ++ inQuotes name) errno)
    return false
  match ← Work.ask (.query (.linkTarget (Bytes.ofChars errand.source))) with
  | .data target =>
    match ← Work.linkSoft target errand.place rules.removesLocked with
    | none => return true
    | some errno =>
      let isDone : Bool ←
        match rules.onlyOlder, ← Work.ask (.query (.linkTarget (Bytes.ofChars errand.place))) with
        | true, .data present => pure (present = target)
        | _, _ => pure false
      if isDone then return true else complain "cannot create symbolic link " errand.place errno
  | .failed errno => complain "cannot read symbolic link " errand.source errno
  | _ => return false

/-- Makes a replica of a file that is no directory. -/
def copyFile (rules : ReplicaRules) (errand : Errand) (facts : FileFacts) (isNew : Bool) : Work Bool := do
  let thenFinish (succeeded : Bool) : Work Bool := do
    if succeeded then rules.finish errand facts isNew
    return succeeded
  let orComplain (what : String) (failure : Option Errno) : Work Bool := do
    match failure with
    | none => thenFinish true
    | some errno => do
      Work.report (because (what.toList ++ inQuotes errand.place) errno)
      return false
  if rules.symbolicLinks then thenFinish (← rules.linkTo errand)
  else if rules.hardLinks then
    Work.linkHard errand.source errand.place (rules.removesLocked || rules.replacing = .ask)
      (rules.follows errand) false
  else if facts.kind = .regular || (rules.readsAll && facts.kind ≠ .link) then
    rules.copyContent errand facts isNew
  else if facts.kind = .link then thenFinish (← rules.copyLink errand)
  else if facts.kind = .pipe then
    let mode := Permission.without (facts.mode &&& 0o7777) rules.mask
    match ← Work.ask (.makeQueue (Bytes.ofChars errand.place) mode) with
    | .failed errno => orComplain "cannot create fifo " (some errno)
    | _ => orComplain "cannot create fifo " none
  else orComplain "cannot create special file " (some .notPermitted)

/-- Notes that a file was put in its place. -/
def record (rules : ReplicaRules) (errand : Errand) : Replicating Unit := do
  if errand.isOperand && rules.tracksPlaces then
    match ← Work.facts errand.place false with
    | .ok facts => modify fun state => { state with places := (errand.name, facts.number) :: state.places }
    | .error _ => return ()

/-- Makes the directory for a copy of a directory. Gives whether it was made for the operand, unless it cannot be
made. -/
def makePlace (rules : ReplicaRules) (errand : Errand) (facts : FileFacts) : Replicating (Option Bool) := do
  let mode := Permission.without (facts.mode &&& 0o1777) rules.mask ||| 0o700
  match ← Work.edit (.makeDirectory (Bytes.ofChars errand.place) mode) with
  | some errno => do
    Work.report (because ("cannot create directory ".toList ++ inQuotes errand.place) errno)
    return none
  | none => do
    if !errand.madeFirst then
      match ← Work.facts errand.place false with
      | .ok made =>
        let _ ← remember made.number errand.place
      | .error _ => pure ()
    if rules.verbose then announce errand.source errand.place none
    return some true

/-- Whether a source was named before. -/
def comesAgain (rules : ReplicaRules) (errand : Errand) (facts : FileFacts) : Replicating Bool := do
  if !rules.tracksSources || !errand.isOperand then return false
  else
    let sources := (← get).sources
    let isRepeated ← if facts.kind = .directory || rules.backup.kind ≠ .absent then pure false else
      sources.anyM fun (source, number) => do
        if number = facts.number then Work.sameEntry source errand.source else return false
    modify ({ · with sources := (errand.source, facts.number) :: sources })
    return isRepeated

end ReplicaRules

open ReplicaRules in
/-- Copies a file, and if it is a directory all that is in it down to a given depth. -/
def replicate : Nat → ReplicaRules → Errand → Replicating Outcome
  | 0, _, _ => return { succeeded := false }
  | depth + 1, rules, errand => do
    let outcome (succeeded : Bool) : Outcome := { succeeded, madeFirst := errand.madeFirst }
    let refuse (message : Text) : Replicating Outcome := do
      Work.report message
      return outcome false
    match ← Work.facts errand.source (rules.links ≠ .never) with
    | .error errno => refuse (because ("cannot stat ".toList ++ inQuotes errand.source) errno)
    | .ok facts =>
      let isDirectory : Bool := facts.kind = .directory
      if isDirectory && !rules.recursive then refuse (rules.omission.toList ++ inQuotes errand.source)
      else if ← rules.comesAgain errand facts then
        Work.complain ("warning: source file ".toList ++ inQuotes errand.source ++
          " specified more than once".toList)
        return outcome true
      else
        match ← rules.clearWay errand facts with
        | .settled succeeded => return outcome succeeded
        | .clear isNew backup =>
          if ← rules.goesThroughLink errand then return outcome false
          else
            if rules.verbose && !isDirectory then announce errand.source errand.place backup
            let earlier ← rules.earlierCopy errand facts
            let repeated ← match earlier with
              | some earlier => rules.repeatCopy errand facts earlier backup
              | none => pure none
            let forgotten := if earlier.isNone then some facts.number else none
            match repeated with
            | some outcome => return outcome
            | none =>
              if !isDirectory then
                let succeeded ← rules.copyFile errand facts isNew
                if succeeded then rules.record errand else rules.undo errand forgotten backup
                return outcome succeeded
              else if errand.ancestors.contains facts.number then
                Work.report ("cannot copy cyclic symbolic link ".toList ++ inQuotes errand.source)
                rules.undo errand forgotten backup
                return outcome false
              else
                match ← if isNew then rules.makePlace errand facts else pure (some errand.madeFirst) with
                | none => do
                  rules.undo errand forgotten backup
                  return outcome false
                | some madeFirst => do
                  let result ← copyEntries depth rules { errand with madeFirst } facts
                  rules.record errand
                  if isNew then
                    Work.tell (.edit (.setMode (Bytes.ofChars errand.place)
                      (Permission.without (facts.mode &&& 0o1777) rules.mask)))
                  rules.finish errand facts isNew
                  return result
where
  /-- Copies what is in a directory. -/
  copyEntries (depth : Nat) (rules : ReplicaRules) (errand : Errand) (facts : FileFacts) :
      Replicating Outcome := do
    match ← Work.names errand.source with
    | .error errno => do
      Work.report (because ("cannot access ".toList ++ inQuotes errand.source) errno)
      return { succeeded := false, madeFirst := errand.madeFirst }
    | .ok names => do
      let found ← names.mapM fun name => do
        return (((← Work.factsIfAny (joinPath errand.source name) false).map FileFacts.number).getD 0, name)
      let inner := if rules.links = .operands then { rules with links := .never } else rules
      let ordered := found.mergeSort fun first second => first.1 ≤ second.1
      ordered.foldlM (fun outcome (_, name) => do
        if outcome.intoItself then return outcome
        else
          let result ← replicate depth inner
            { errand with
              source := joinPath errand.source name
              place := joinPath errand.place name
              isOperand := false
              ancestors := facts.number :: errand.ancestors }
          return {
            succeeded := outcome.succeeded && result.succeeded
            intoItself := result.intoItself
            madeFirst := outcome.madeFirst || result.madeFirst })
        ({ succeeded := true, madeFirst := errand.madeFirst } : Outcome)

end Pipework.Tool
