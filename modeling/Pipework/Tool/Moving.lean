import Pipework.Tool.Making
import Pipework.Tool.Owner
import Pipework.Tool.Replica

set_option autoImplicit false

/-!
Tools that copy files, move them to other places, and install them there with permissions of their own.
-/

namespace Pipework.Tool

open Kernel

/-- Where several sources go: into a directory, or one of them to one place. -/
inductive Destination where
  | directory (path : Text) (sources : List Text)
  | single (source place : Text)
  deriving DecidableEq, Repr

/-- Why a path does not lead to a directory. -/
def notDirectoryAt (path : Text) : Work (Option Errno) := do
  match ← Work.facts path true with
  | .ok facts => return if facts.kind = .directory then none else some .notDirectory
  | .error errno => return some errno

/-- How tools are told where to put files. -/
structure DestinationStyle where
  /-- The directory that an option names. -/
  target : Option Text := none
  /-- Whether the last operand is no directory, whatever is there. -/
  isPlain : Bool := false
  /-- What is said of the directory of an option that is none. -/
  complaint : String := "target directory "
  /-- Whether that directory may be missing. -/
  makesTarget : Bool := false

/-- Takes on an option of where to put files. -/
def DestinationStyle.add (style : DestinationStyle) (option : Given) : Work DestinationStyle := do
  match option.letter with
  | 't' =>
    if style.target.isSome then Work.fail "multiple target directories specified".toList
    return { style with target := option.argument }
  | 'T' => return { style with isPlain := true }
  | _ => return style

/-- Where operands go. -/
def DestinationStyle.apply (style : DestinationStyle) (operands : List Text) : Work Destination := do
  match operands, style.target with
  | [], _ => Work.failUsage "missing file operand".toList
  | [only], none => Work.failUsage ("missing destination file operand after ".toList ++ inQuotes only)
  | operands, target => do
    if style.isPlain then
      if target.isSome then
        Work.fail "cannot combine --target-directory (-t) and --no-target-directory (-T)".toList
      match operands with
      | _ :: _ :: extra :: _ => Work.failUsage ("extra operand ".toList ++ inQuotes extra)
      | _ => return .single (operands.headD []) (operands.getLastD [])
    else
      match target with
      | some path =>
        match ← notDirectoryAt path with
        | none => return .directory path operands
        | some errno =>
          if style.makesTarget && errno = .noEntry then return .directory path operands
          else Work.fail (because (style.complaint.toList ++ inQuotes path) errno)
      | none =>
        let last := operands.getLastD []
        match ← notDirectoryAt last with
        | none => return .directory last operands.dropLast
        | some errno =>
          if 2 < operands.length then Work.fail (because ("target ".toList ++ inQuotes last) errno)
          else return .single (operands.headD []) last

/-- What options ask for. -/
structure CopyWish where
  rules : ReplicaRules := {}
  links : Option LinkReading := none
  /-- Whether pipes and devices are read even below a directory. -/
  readsSpecial : Bool := false
  needsContext : Bool := false
  /-- Whether holes are looked for, or made, if that is said. -/
  sparse : Option Bool := none
  keepsParents : Bool := false
  trims : Bool := false
  destination : DestinationStyle := {}

/-- What a copy may keep of a file. -/
inductive Keepsake where
  | mode
  | timestamps
  | ownership
  | links
  | context
  | extended
  | all
  deriving DecidableEq, Repr

def keepsakeWords : List (String × Keepsake) :=
  [("mode", .mode), ("timestamps", .timestamps), ("ownership", .ownership), ("links", .links),
    ("context", .context), ("xattr", .extended), ("all", .all)]

namespace CopyWish

/-- Keeps something of files, or does not. -/
def keep (isKept : Bool) (wish : CopyWish) (keepsake : Keepsake) : CopyWish :=
  let rules := wish.rules
  match keepsake with
  | .mode => { wish with rules := { rules with keepsMode := isKept, dropsMode := !isKept } }
  | .timestamps => { wish with rules := { rules with keepsTimes := isKept } }
  | .links => { wish with rules := { rules with keepsNames := isKept } }
  | .context => { wish with needsContext := isKept }
  | .ownership | .extended => wish
  | .all =>
    { wish with
      rules :=
        { rules with keepsMode := isKept, dropsMode := !isKept, keepsTimes := isKept, keepsNames := isKept } }

/-- Keeps what a list of words names, or does not. -/
def keepListed (wish : CopyWish) (option : String) (isKept : Bool) (text : Text) : Work CopyWish :=
  (text.splitOn ',').foldlM (fun wish word => do
    return wish.keep isKept (← chooseFrom option keepsakeWords word)) wish

/-- Takes on an option. -/
def add (wish : CopyWish) (option : Given) : Work CopyWish := do
  let rules := wish.rules
  let text := option.argument.getD []
  let set (rules : ReplicaRules) : Work CopyWish := return { wish with rules }
  match option.letter with
  | 'a' =>
    return {
      wish with
      links := some .never
      rules := { rules with keepsNames := true, keepsMode := true, keepsTimes := true, recursive := true } }
  | '\x02' => set { rules with copiesContent := false }
  | '\x03' => return { wish with readsSpecial := true }
  | 'd' => return { wish with links := some .never, rules := { rules with keepsNames := true } }
  | 'f' => set { rules with removesLocked := true }
  | 'H' => return { wish with links := some .operands }
  | 'i' => set { rules with replacing := .ask }
  | 'l' => set { rules with hardLinks := true }
  | 'L' => return { wish with links := some .always }
  | 'n' => set { rules with replacing := .never }
  | 'P' => return { wish with links := some .never }
  | '\x04' => wish.keepListed "--no-preserve" false text
  | 'p' | '\x05' =>
    match option.argument with
    | some text => wish.keepListed "--preserve" true text
    | none => set { rules with keepsMode := true, keepsTimes := true }
  | '\x06' => return { wish with keepsParents := true }
  | 'r' | 'R' => set { rules with recursive := true }
  | '\x07' => set { rules with removesFirst := true }
  | '\x08' => do
    let words := [("never", some false), ("auto", none), ("always", some true)]
    return { wish with sparse := ← chooseFrom "--sparse" words text }
  | '\x0e' =>
    if option.argument.isNone then set { rules with shares := true }
    else
      set { rules with
        shares := (← chooseFrom "--reflink" [("auto", 0), ("always", 1), ("never", 2)] text) = 1 }
  | '\x0f' => return { wish with trims := true }
  | 's' => set { rules with symbolicLinks := true }
  | 't' | 'T' => return { wish with destination := ← wish.destination.add option }
  | 'u' => set { rules with onlyOlder := true }
  | 'v' => set { rules with verbose := true }
  | '\x10' => do
    if option.argument.isSome then
      Work.complain "warning: ignoring --context; it requires an SELinux-enabled kernel".toList
    return wish
  | _ => return wish

end CopyWish

/-- The options of copies. -/
def copyOptions : OptionTable where
  letters := "adfHilLnprRst:TuvxPZ\x02\x03\x04:\x05::\x06\x07\x08:\x0e::\x0f\x10::" ++ backupLetters
  names :=
    backupNames ++
      [("archive", 'a'), ("attributes-only", '\x02'), ("copy-contents", '\x03'), ("dereference", 'L'),
        ("force", 'f'), ("interactive", 'i'), ("link", 'l'), ("no-clobber", 'n'), ("no-dereference", 'P'),
        ("no-preserve", '\x04'), ("no-target-directory", 'T'), ("one-file-system", 'x'), ("parents", '\x06'),
        ("path", '\x06'), ("preserve", '\x05'), ("recursive", 'R'), ("remove-destination", '\x07'),
        ("sparse", '\x08'), ("reflink", '\x0e'), ("strip-trailing-slashes", '\x0f'), ("symbolic-link", 's'),
        ("target-directory", 't'), ("update", 'u'), ("verbose", 'v'), ("context", '\x10')]

/-- A directory that was made on the way to a copy, or went before it, with what it is a copy of. -/
structure ParentCopy where
  place : Text
  facts : FileFacts
  isNew : Bool

/-- Makes the directories on the way from a target to a place that is named like its source. Gives those directories,
unless there is something in the way. -/
def makeParents (rules : ReplicaRules) (target source : Text) : Work (Option (List ParentCopy)) := do
  let outer := directoryName source
  let complain (message : Text) : Work (Option (List ParentCopy)) := do
    Work.report message
    return none
  if !(trimSlashes source).contains '/' || outer.all (· = '/') then return some []
  else
    match ← Work.facts (joinPath target outer) true with
    | .ok facts =>
      if facts.kind = .directory then return some []
      else complain (inQuotes (joinPath target outer) ++ " exists but is not a directory".toList)
    | .error _ => (stepsTo outer).foldlM (fun passed step => do
        match passed with
        | none => return none
        | some passed => do
          let place := joinPath target step
          let found ← Work.factsIfAny place true
          match ← Work.facts step true, found with
          | .error errno, _ => complain (because ("failed to get attributes of ".toList ++ inQuotes step) errno)
          | .ok facts, some other =>
            if facts.kind ≠ .directory then
              complain (because ("failed to get attributes of ".toList ++ inQuotes step) .notDirectory)
            else if other.kind ≠ .directory then
              complain (inQuotes place ++ " exists but is not a directory".toList)
            else return some ({ place, facts, isNew := false } :: passed)
          | .ok facts, none =>
            if facts.kind ≠ .directory then
              complain (because ("failed to get attributes of ".toList ++ inQuotes step) .notDirectory)
            else
              let mode := if rules.dropsMode then 0o777 else facts.mode &&& 0o1777
              match ← Work.edit (.makeDirectory (Bytes.ofChars place)
                (Permission.without mode rules.mask ||| 0o700)) with
              | some errno => complain (because ("cannot make directory ".toList ++ inQuotes place) errno)
              | none => do
                if rules.verbose then Work.putLine (step ++ " -> ".toList ++ place)
                return some ({ place, facts, isNew := true } :: passed)) (some [])
where
  /-- The directories from the outermost to a path itself. -/
  stepsTo (path : Text) : List Text :=
    let names := (path.splitOn '/').zipIdx
    (names.filter fun (name, _) => !name.isEmpty).map fun (_, index) =>
      List.intercalate ['/'] ((path.splitOn '/').take (index + 1))

/-- Gives directories what copies keep of what they are made from. -/
def finishParents (rules : ReplicaRules) (parents : List ParentCopy) : Work Unit :=
  parents.forM fun parent => do
    let place := Bytes.ofChars parent.place
    if rules.keepsTimes then
      Work.tell (.edit
        (.setTimes place true (some (.at parent.facts.accessed)) (some (.at parent.facts.modified))))
    if rules.keepsMode then Work.tell (.edit (.setMode place (parent.facts.mode &&& 0o7777)))
    else if parent.isNew then
      let mode := if rules.dropsMode then 0o777 else parent.facts.mode &&& 0o1777
      Work.tell (.edit (.setMode place (Permission.without mode rules.mask)))

/-- Copies sources into a directory. -/
def copyInto (wish : CopyWish) (directory : Text) (sources : List Text) : Replicating Unit := do
  let isMany : Bool := 2 ≤ sources.length
  let rules := { wish.rules with tracksSources := isMany, tracksPlaces := isMany }
  sources.forM fun source => do
    let trimmed := if (trimSlashes source).isEmpty then source else trimSlashes source
    let source := if wish.trims then trimmed else source
    if wish.keepsParents then
      match ← makeParents rules directory trimmed with
      | none => return ()
      | some parents => do
        let name := trimmed.dropWhile (· = '/')
        let _ ← replicate Files.depthLimit rules { source, place := joinPath directory name, name }
        finishParents rules parents
    else
      let base := baseName source
      let name := if base = ['.', '.'] || base = ['/'] then [] else base
      let _ ← replicate Files.depthLimit rules { source, place := joinPath directory name, name }

/-- Copies files. -/
def cp (settings : Variables) (arguments : List Text) : Work Unit := do
  let check (option : Given) : StateT CopyWish Work Unit := do set (← (← get).add option)
  let ((given, operands), wish) ← (readOptionsWith check copyOptions arguments).run {}
  let rules := wish.rules
  if rules.hardLinks && rules.symbolicLinks then
    Work.failUsage "cannot make both hard and symbolic links".toList
  if rules.replacing = .never && wantsBackup given then
    Work.failUsage "options --backup and --no-clobber are mutually exclusive".toList
  if rules.shares && wish.sparse.isSome then
    Work.failUsage "--reflink can be used only with --sparse=auto".toList
  let backup ← Backup.read settings given
  if wish.needsContext then
    Work.fail "cannot preserve security context without an SELinux-enabled kernel".toList
  let rules := { rules with
    backup
    onlyOlder := rules.onlyOlder && rules.replacing ≠ .never
    links := wish.links.getD (if rules.recursive && !rules.hardLinks then .never else .always)
    readsAll := if rules.recursive then wish.readsSpecial else true
    fillsLinks := (settings.lookup "POSIXLY_CORRECT".toList).isSome
    mask := ← fileMask }
  match ← wish.destination.apply operands with
  | .directory directory sources =>
    let _ ← (copyInto { wish with rules } directory sources).run {}
  | .single source place => do
    if wish.keepsParents then Work.failUsage "with --parents, the destination must be a directory".toList
    let isRegular : Bool := (← Work.factsIfAny place true).any (·.kind = .regular)
    let copiesAside : Bool :=
      rules.removesLocked && rules.backup.kind ≠ .absent && source = place && isRegular
    let place ← if copiesAside then rules.backup.placeFor place else pure place
    let rules := if copiesAside then { rules with backup := { rules.backup with kind := .absent } } else rules
    let _ ← (replicate Files.depthLimit rules { source, place }).run {}

/-- Moves a file to a place, where that was perhaps tried before. -/
def moveFile (rules : ReplicaRules) (errand : Errand) (tried : Option (Option Errno)) : Replicating Unit := do
  let failure ← match tried with
    | some failure => pure failure
    | none => (Work.renameIfFree errand.source errand.place : Work _)
  match failure with
  | none => succeed none
  | some errno =>
    if errno = .alreadyExists && rules.replacing = .never then return ()
    else
      match ← Work.facts errand.source false with
      | .error errno => Work.report (because ("cannot stat ".toList ++ inQuotes errand.source) errno)
      | .ok facts =>
        match ← Work.facts errand.place false with
        | .error .noEntry => complain errno
        | .error errno => Work.report (because ("cannot stat ".toList ++ inQuotes errand.place) errno)
        | .ok other =>
          match ← rules.makeRoom errand facts other with
          | .settled _ => return ()
          | .clear _ backup =>
            match ← Work.edit (.rename (Bytes.ofChars errand.source) (Bytes.ofChars errand.place)) with
            | none => succeed backup
            | some errno => complain errno
where
  succeed (backup : Option Text) : Replicating Unit := do
    if rules.verbose then
      Work.put "renamed ".toList
      ReplicaRules.announce errand.source errand.place backup
    rules.record errand
  complain (errno : Errno) : Replicating Unit :=
    if errno = .invalidArgument then
      Work.report (aboutTwo "cannot move " errand.source " to a subdirectory of itself, " errand.place "")
    else Work.report (because (aboutTwo "cannot move " errand.source " to " errand.place "") errno)

/-- The options of moves. -/
def moveOptions : OptionTable where
  letters := "fint:TuvZ\x0f" ++ backupLetters
  names :=
    backupNames ++
      [("context", 'Z'), ("force", 'f'), ("interactive", 'i'), ("no-clobber", 'n'),
        ("no-target-directory", 'T'), ("strip-trailing-slashes", '\x0f'), ("target-directory", 't'),
        ("update", 'u'), ("verbose", 'v')]

/-- Moves files. -/
def mv (settings : Variables) (arguments : List Text) : Work Unit := do
  let check (option : Given) : StateT DestinationStyle Work Unit := do set (← (← get).add option)
  let ((given, operands), style) ← (readOptionsWith check moveOptions arguments).run {}
  let operands := if !hasLetter given '\x0f' then operands else
    operands.map fun operand => if operand.all (· = '/') then operand else trimSlashes operand
  let tried ← match operands, style.target, style.isPlain with
    | [source, place], none, false => pure (some (← Work.renameIfFree source place))
    | _, _, _ => pure none
  let destination ←
    match tried, operands with
    | some none, [source, place] => pure (Destination.single source place)
    | _, _ => style.apply operands
  let replacing : Replacing :=
    match lastOf? given ['f', 'i', 'n'] with
    | some 'i' => .ask
    | some 'n' => .never
    | _ => .always
  if replacing = .never && wantsBackup given then
    Work.failUsage "options --backup and --no-clobber are mutually exclusive".toList
  let backup ← Backup.read settings given
  let rules : ReplicaRules :=
    { moves := true, links := .never, replacing, backup
      onlyOlder := hasLetter given 'u' && replacing ≠ .never
      verbose := hasLetter given 'v' }
  match destination with
  | .single source place =>
    let _ ← (moveFile rules { source, place } tried).run {}
  | .directory directory sources => do
    let rules := { rules with tracksPlaces := 2 ≤ sources.length }
    let moves : Replicating Unit := sources.forM fun source => do
      let name := baseName source
      moveFile rules { source, place := joinPath directory name, name } none
    let _ ← moves.run {}

/-- How files are installed. -/
structure InstallStyle where
  rules : ReplicaRules := {}
  /-- The permissions of files. -/
  mode : Nat := 0o755
  /-- The permissions of directories. -/
  directoryMode : Nat := 0o755
  ownership : Ownership := {}
  /-- Whether directories on the way are made. -/
  makesParents : Bool := false
  /-- Whether files stay that would not change. -/
  compares : Bool := false
  /-- The program that removes from a file what is not needed to run it. -/
  stripper : Option Text := none

namespace InstallStyle

/-- Makes a directory. -/
def make (style : InstallStyle) (mode : Nat) (path : Text) : Work (Option Errno) := do
  let failure ← Work.edit (.makeDirectory (Bytes.ofChars path) mode)
  if failure.isNone && style.rules.verbose then
    Work.putLine ((← get).name ++ ": creating directory ".toList ++ inQuotes path)
  return failure

/-- Makes the directories on the way to a path. Gives why that fails. -/
def makeAncestors (style : InstallStyle) (path : Text) : Work (Option Errno) :=
  (pathSteps [] path).dropLast.foldlM (fun failure step => do
    if failure.isSome then return failure
    else
      match ← style.make 0o755 step with
      | none => return none
      | some errno =>
        if ← Work.isDirectory step then return none
        else return some (if errno = .alreadyExists then .notDirectory else errno)) none

/-- Sets the owners and the permissions of a file. Complains about what cannot be changed. -/
def setAttributes (style : InstallStyle) (mode : Nat) (path owners : Text) : Work Unit := do
  if !OwnerStyle.changesNothing style.ownership then Work.report (because owners .notPermitted)
  else Work.tell (.edit (.setMode (Bytes.ofChars path) mode))

/-- Makes a directory and those on the way to it. -/
def makeDirectory (style : InstallStyle) (path : Text) : Work Unit := do
  let failure ← match ← style.makeAncestors path with
    | some errno => pure (some errno)
    | none => do
      let failure ← style.make style.directoryMode path
      if ← Work.isDirectory path then pure none else pure failure
  match failure with
  | some errno => Work.report (because ("cannot create directory ".toList ++ quoted path) errno)
  | none =>
    style.setAttributes style.directoryMode path ("cannot change owner and permissions of ".toList ++ quoted path)

/-- Whether a file differs from what would be put in its place. -/
def needsCopy (style : InstallStyle) (source place : Text) : Work Bool := do
  let isSpecial (mode : Nat) : Bool := mode &&& 0o7000 ≠ 0
  match ← Work.factsIfAny source false, ← Work.factsIfAny place false with
  | some facts, some other =>
    let mayAgree : Bool := facts.kind = .regular && other.kind = .regular && facts.size = other.size &&
      other.mode = style.mode && !isSpecial facts.mode && !isSpecial style.mode &&
      OwnerStyle.changesNothing style.ownership
    if !mayAgree then return true
    else
      match ← Work.readFile source, ← Work.readFile place with
      | .ok content, .ok present => return content ≠ present
      | _, _ => return true
  | _, _ => return true

/-- Has a program strip a file. Gives whether that was done. -/
def strip (settings : Variables) (program path : Text) : Work Bool := do
  Work.flush
  let inChild : Work Unit := do
    let errno ← become settings [program, path]
    Work.fail (because ("cannot run ".toList ++ inQuotes program) errno)
  let ending ← match ← runAside inChild with
    | some child => endOf child
    | none => pure none
  if ending = some (.exited 0) then return true
  else
    Work.report "strip process terminated abnormally".toList
    return false

/-- Puts a copy of a file in its place. -/
def copy (style : InstallStyle) (settings : Variables) (errand : Errand) : Replicating Unit := do
  let origin ← if style.rules.keepsTimes then Work.facts errand.source true else pure (.ok { kind := .regular })
  match origin with
  | .error errno => Work.report (because ("cannot stat ".toList ++ inQuotes errand.source) errno)
  | .ok _ => do
    let isKept : Bool ←
      if style.compares then pure (!(← style.needsCopy errand.source errand.place)) else pure false
    let isThere : Bool ←
      if isKept then pure true else pure (← replicate Files.depthLimit style.rules errand).succeeded
    if isThere then
      let isStripped : Bool ← match style.stripper with
        | some program => strip settings program errand.place
        | none => pure true
      if isStripped then
        style.setAttributes style.mode errand.place ("cannot change ownership of ".toList ++ inQuotes errand.place)
      else
        match ← Work.edit (.remove (Bytes.ofChars errand.place)) with
        | some errno => (Work.fail (because ("cannot unlink ".toList ++ inQuotes errand.place) errno) : Work Unit)
        | none => return ()

/-- Puts a copy of a file in its place, once there are the directories on the way to it. -/
def copyBelow (style : InstallStyle) (settings : Variables) (errand : Errand) : Replicating Unit := do
  let failure ← if style.makesParents then style.makeAncestors errand.place else pure none
  match failure with
  | some errno => Work.report (because ("cannot create directory ".toList ++ inQuotes errand.place) errno)
  | none => style.copy settings errand

end InstallStyle

/-- The options of installations. -/
def installOptions : OptionTable where
  letters := "cCsDdg:m:o:pt:TvZ\x02\x03:\x10::" ++ backupLetters
  names :=
    backupNames ++
      [("compare", 'C'), ("context", '\x10'), ("directory", 'd'), ("group", 'g'), ("mode", 'm'),
        ("no-target-directory", 'T'), ("owner", 'o'), ("preserve-context", '\x02'),
        ("preserve-timestamps", 'p'), ("strip", 's'), ("strip-program", '\x03'), ("target-directory", 't'),
        ("verbose", 'v')]

/-- The user or the group that an option names. -/
def readAccount (kind : String) (find : Text → Option Nat) (text : Text) : Work Nat := do
  match (find text).orElse fun _ => accountNumber? text with
  | some number => return number
  | none => Work.fail ("invalid ".toList ++ kind.toList ++ ' ' :: quoted text)

/-- Copies files to places where they get permissions of their own, or makes directories. -/
def install (settings : Variables) (arguments : List Text) : Work Unit := do
  let check (option : Given) : StateT DestinationStyle Work Unit := do
    set (← (← get).add option)
    if option.letter = '\x02' then
      Work.complain "WARNING: ignoring --preserve-context; this kernel is not SELinux-enabled".toList
    if option.letter = '\x10' && option.argument.isSome then
      Work.complain "warning: ignoring --context; it requires an SELinux-enabled kernel".toList
  let ((given, operands), style) ←
    (readOptionsWith check installOptions arguments).run { complaint := "failed to access " }
  let strips := hasLetter given 's'
  let compares := hasLetter given 'C'
  let keepsTimes := hasLetter given 'p'
  let makesDirectories := hasLetter given 'd'
  if makesDirectories && strips then
    Work.fail "the strip option may not be used when installing a directory".toList
  if makesDirectories && style.target.isSome then
    Work.fail "target directory not allowed when installing a directory".toList
  let backup ← Backup.read settings given
  if makesDirectories && operands.isEmpty then Work.failUsage "missing file operand".toList
  let makesParents := hasLetter given 'D'
  let destination : Option Destination ←
    if makesDirectories then pure none
    else some <$> { style with makesTarget := makesParents }.apply operands
  let changes ← match argumentOf? given 'm' with
    | none => pure none
    | some text =>
      match Permission.readText? text with
      | some changes => pure (some changes)
      | none => Work.fail ("invalid mode ".toList ++ quoted text)
  let modeFor (isDirectory : Bool) : Nat := (changes.map (Permission.applyAll 0 isDirectory 0)).getD 0o755
  if hasLetter given '\x03' && !strips then
    Work.complain "WARNING: ignoring --strip-program option as -s option was not specified".toList
  if compares && keepsTimes then
    Work.failUsage "options --compare (-C) and --preserve-timestamps are mutually exclusive".toList
  if compares && strips then
    Work.failUsage "options --compare (-C) and --strip are mutually exclusive".toList
  if compares && modeFor false &&& 0o7000 ≠ 0 then
    Work.complain "the --compare (-C) option is ignored when you specify a mode with non-permission bits".toList
  let user ← (argumentOf? given 'o').mapM (readAccount "user" fun text => (userNamed? text).map User.number)
  let group ← (argumentOf? given 'g').mapM (readAccount "group" groupNamed?)
  let stripper := (argumentOf? given '\x03').getD "strip".toList
  let installation : InstallStyle :=
    { rules :=
        { removesFirst := true, mode := some 0o600, omission := "omitting directory ", keepsTimes, backup
          verbose := hasLetter given 'v' }
      mode := modeFor false
      directoryMode := modeFor true
      ownership := { user, group }
      makesParents, compares
      stripper := if strips then some stripper else none }
  match destination with
  | none => operands.forM installation.makeDirectory
  | some (.single source place) =>
    let _ ← (installation.copyBelow settings { source, place }).run {}
  | some (.directory directory sources) => do
    let isMissing : Bool := !(← Work.isDirectory directory)
    let copies : Replicating Unit := sources.forM fun source => do
      let name := baseName source
      InstallStyle.copyBelow { installation with makesParents := isMissing } settings
        { source, place := joinPath directory name, name }
    let _ ← copies.run {}

end Pipework.Tool
