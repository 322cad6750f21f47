import Pipework.Tool.Option
import Pipework.Tool.Path
import Pipework.Tool.Running

set_option autoImplicit false

/-!
Backups: other names under which files are kept that make room for new ones.
-/

namespace Pipework.Tool

open Kernel

/-- How the name of a backup is made. -/
inductive BackupKind where
  /-- There are no backups. -/
  | absent
  | simple
  | numbered
  /-- With a number if there are such backups of the file, and simple otherwise. -/
  | likeOthers
  deriving DecidableEq, Repr

/-- How backups are made. -/
structure Backup where
  kind : BackupKind := .absent
  /-- What a simple backup has behind its name. -/
  suffix : Text := ['~']
  deriving DecidableEq, Repr

/-- The words for kinds of backups. -/
def backupWords : List (String × BackupKind) :=
  [("none", .absent), ("off", .absent), ("simple", .simple), ("never", .simple), ("existing", .likeOthers),
    ("nil", .likeOthers), ("numbered", .numbered), ("t", .numbered)]

/-- The letters of options about backups: plain ones, the suffix, and the kind. -/
def backupLetters : String := "bS:\x01::"

/-- The names of options about backups. -/
def backupNames : List (String × Char) := [("backup", '\x01'), ("suffix", 'S')]

/-- Whether options ask for backups. -/
def wantsBackup (given : List Given) : Bool :=
  given.any fun option => ['b', 'S', '\x01'].contains option.letter

namespace Backup

/-- How backups are made if options ask for them. What they leave open variables may tell. -/
def read (settings : Variables) (given : List Given) : Work Backup := do
  let suffix := ((argumentOf? given 'S').orElse fun _ => settings.lookup "SIMPLE_BACKUP_SUFFIX".toList).getD []
  let isSuffix : Bool := !suffix.isEmpty && !(trimSlashes suffix).contains '/' && suffix.head? ≠ some '/'
  let backup : Backup := if isSuffix then { suffix } else {}
  if !wantsBackup given then return backup
  else
    let stated := (given.filter fun option => option.letter = '\x01').filterMap Given.argument
    let fromVariable := (settings.lookup "VERSION_CONTROL".toList).getD []
    match stated.getLastD [], fromVariable with
    | [], [] => return { backup with kind := .likeOthers }
    | [], word => return { backup with kind := ← chooseFrom "$VERSION_CONTROL" backupWords word }
    | word, _ => return { backup with kind := ← chooseFrom "backup type" backupWords word }

/-- The number of a backup of a file, if a name is that of one. -/
def numberIn? (base name : Text) : Option Nat :=
  let start := base ++ ['.', '~']
  if !start.isPrefixOf name || name.getLast? ≠ some '~' then none
  else
    let digits := (name.drop start.length).dropLast
    if digits.head? = some '0' then none else natural? digits

/-- Under which name a file is kept. -/
def placeFor (backup : Backup) (path : Text) : Work Text := do
  let simple := path ++ backup.suffix
  if backup.kind = .simple || backup.kind = .absent then return simple
  else
    let names ← match ← Work.names (directoryName path) with
      | .ok names => pure names
      | .error _ => pure []
    let highest := (names.filterMap (numberIn? (baseName path))).foldl max 0
    if highest = 0 && backup.kind = .likeOthers then return simple
    else return path ++ ".~".toList ++ number (highest + 1) ++ ['~']

/-- Whether the backup of a place would take the name of a source. -/
def hidesSource (backup : Backup) (source place : Text) (facts : FileFacts) : Work Bool := do
  if baseName source ≠ baseName place ++ backup.suffix then return false
  else
    match ← Work.facts (place ++ backup.suffix) true with
    | .ok other => return other.number = facts.number
    | .error _ => return false

end Backup

end Pipework.Tool
