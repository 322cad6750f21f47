import Pipework.Tool.Making
import Pipework.Tool.Quantity
import Pipework.Tool.Running

set_option autoImplicit false

/-!
Tools that make files of special kinds, and files whose names nobody else has.
-/

namespace Pipework.Tool

open Kernel

/-- The permissions that an option asks for. -/
def specialMode (given : List Given) : Work (Option Nat) := do
  match argumentOf? given 'm' with
  | none => return none
  | some text =>
    match Permission.readText? text with
    | none => Work.fail "invalid mode".toList
    | some changes =>
      let mode := Permission.applyAll (← fileMask) false 0o666 changes
      if 0o777 < mode then Work.fail "mode must specify only file permission bits".toList
      else return some mode

/-- Makes a pipe with a name. Gives the reason if that fails. -/
def makeQueue (path : Text) (mode : Option Nat) : Work (Option Errno) := do
  let usual := Permission.without 0o666 (← fileMask)
  match ← Work.ask (.makeQueue (Bytes.ofChars path) (mode.getD usual)) with
  | .failed errno => return some errno
  | _ => return none

/-- The options of tools that make special files. -/
def specialOptions : OptionTable where
  letters := "m:Z\x01::"
  names := [("context", '\x01'), ("mode", 'm')]

/-- Says that there are no contexts. -/
def noteContext (given : List Given) : Work Unit :=
  given.forM fun option => do
    if option.letter = '\x01' && option.argument.isSome then
      Work.complain
        "warning: ignoring --context; it requires an SELinux/SMACK-enabled kernel".toList

/-- Makes pipes with names. -/
def mkfifo (arguments : List Text) : Work Unit := do
  let (given, operands) ← readOptions specialOptions arguments
  noteContext given
  needOperand operands
  let mode ← specialMode given
  operands.forM fun path => do
    match ← makeQueue path mode with
    | some errno => Work.report (because ("cannot create fifo ".toList ++ inQuotes path) errno)
    | none => return ()

/-- Gives up at operands of which there are too few or too many for a special file. -/
def checkSpecialOperands (operands : List Text) : Work Unit := do
  let isPipe : Bool := (operands[1]?).any fun kind => kind.head? = some 'p'
  let needed := if operands.isEmpty || isPipe then 2 else 4
  let explain (message : Text) (more : String) (applies : Bool) : Work Unit := do
    Work.complain message
    if applies then Work.tell (.write 2 (Bytes.ofString (more ++ "\n")))
    Work.leaveMisused
  match operands.getLast? with
  | none => Work.failUsage "missing operand".toList
  | some last =>
    if operands.length < needed then
      explain ("missing operand after ".toList ++ quoted last)
        "Special files require major and minor device numbers." (needed = 4 && operands.length = 2)
    else
      match operands.drop needed with
      | extra :: _ =>
        explain ("extra operand ".toList ++ quoted extra)
          "Fifos do not have major and minor device numbers." (needed = 2 && operands.length = 4)
      | [] => return ()

/-- The largest number of a device. -/
def deviceLimit : Nat := 4294967295

/-- Makes a special file. Only pipes can be made here; devices are not permitted. -/
def mknod (arguments : List Text) : Work Unit := do
  let (given, operands) ← readOptions specialOptions arguments
  noteContext given
  let mode ← specialMode given
  checkSpecialOperands operands
  let path := operands.getD 0 []
  let kind := operands.getD 1 []
  let refuse (errno : Errno) : Work Unit := Work.fail (because (shownName path) errno)
  match kind.headD ' ' with
  | 'p' =>
    match ← makeQueue path mode with
    | some errno => refuse errno
    | none => return ()
  | 'b' | 'c' | 'u' => do
    let check (what : String) (text : Text) : Work Unit := do
      match readQuantity? { readsPrefixes := true } text with
      | some reading =>
        if !reading.rest.isEmpty || reading.overflows || deviceLimit < reading.value then
          Work.fail ("invalid ".toList ++ what.toList ++ " device number ".toList ++ quoted text)
      | none => Work.fail ("invalid ".toList ++ what.toList ++ " device number ".toList ++ quoted text)
    check "major" (operands.getD 2 [])
    check "minor" (operands.getD 3 [])
    match ← Work.facts path false with
    | .ok _ => refuse .alreadyExists
    | .error .noEntry =>
      match ← Work.facts (directoryName path) true with
      | .ok facts => refuse (if facts.allows .write then .notPermitted else .accessDenied)
      | .error errno => refuse errno
    | .error errno => refuse errno
  | _ => Work.failUsage ("invalid device type ".toList ++ quoted kind)

/-- The letters of names that nobody else has. -/
def temporaryLetters : Text :=
  "abcdefghijklmnopqrstuvwxyzABCDEFGHIJKLMNOPQRSTUVWXYZ0123456789".toList

/-- Letters that a number stands for. -/
def lettersOf : Nat → Nat → Text
  | 0, _ => []
  | count + 1, value =>
    temporaryLetters.getD (value % temporaryLetters.length) 'a' ::
      lettersOf count (value / temporaryLetters.length)

/-- A number that is different each time, and looks like chance. -/
def scrambled (value : Nat) : Nat := (value * 6364136223846793005 + 1442695040888963407) % 340282366920938463463374607431768211297

/-- What a file with a new name is to be. -/
structure TemporaryWish where
  isDirectory : Bool := false
  /-- Whether nothing is made. -/
  onlyName : Bool := false

/-- Makes a file or a directory under the name between two texts that is not taken. -/
def makeTemporary (wish : TemporaryWish) (start ending : Text) (count : Nat) :
    Nat → Nat → Work (Except Errno Text)
  | 0, _ => return .error .alreadyExists
  | fuel + 1, seed => do
    let path := start ++ lettersOf count seed ++ ending
    match ← Work.facts path false with
    | .ok _ => makeTemporary wish start ending count fuel (scrambled seed)
    | .error errno =>
      if wish.onlyName then return if errno = .noEntry then .ok path else .error errno
      else if wish.isDirectory then
        match ← Work.edit (.makeDirectory (Bytes.ofChars path) 0o700) with
        | some errno => return .error errno
        | none => return .ok path
      else
        match ← Work.openAside path .append with
        | .error errno => return .error errno
        | .ok descriptor => do
          Work.tell (.close descriptor)
          Work.tell (.edit (.setMode (Bytes.ofChars path) 0o600))
          return .ok path

/-- The options for names that nobody else has. -/
def mktempOptions : OptionTable where
  letters := "dp:qtu\x01:\x02::"
  names :=
    [("directory", 'd'), ("quiet", 'q'), ("dry-run", 'u'), ("suffix", '\x01'), ("tmpdir", '\x02')]

/-- Makes a file or a directory under a name that nobody else has. -/
def mktemp (environment : Variables) (arguments : List Text) : Work Unit := do
  let (given, operands) ← readOptions mktempOptions arguments
  let refuse {α : Type} (message : Text) : Work α := Work.fail message
  if 1 < operands.length then Work.failUsage "too many templates".toList
  let template := operands.headD "tmp.XXXXXXXXXX".toList
  let body := (template.reverse.dropWhile (· ≠ 'X')).reverse
  let (body, ending) ← match argumentOf? given '\x01' with
    | some suffix =>
      if template.getLast? = some 'X' then pure (template, suffix)
      else refuse ("with --suffix, template ".toList ++ quoted template ++ " must end in X".toList)
    | none => pure (if body.isEmpty then (template, []) else (body, template.drop body.length))
  if ending.contains '/' then
    refuse ("invalid suffix ".toList ++ quoted ending ++ ", contains directory separator".toList)
  let count := (body.reverse.takeWhile (· = 'X')).length
  if count < 3 then refuse ("too few X's in template ".toList ++ quoted (body ++ ending))
  let chosen := (given.reverse.find? fun option => option.letter = 'p' || option.letter = '\x02').bind Given.argument
  let fromVariable := (environment.lookup "TMPDIR".toList).filter (!·.isEmpty)
  let fromOption := chosen.filter (!·.isEmpty)
  let usesDirectory :=
    operands.isEmpty || hasLetter given 't' || hasLetter given 'p' || hasLetter given '\x02'
  let directory :=
    ((if hasLetter given 't' then fromVariable.or fromOption else fromOption.or fromVariable)).getD "/tmp".toList
  if usesDirectory && hasLetter given 't' && (body ++ ending).contains '/' then
    refuse ("invalid template, ".toList ++ quoted (body ++ ending) ++ ", contains directory separator".toList)
  if usesDirectory && body.head? = some '/' then
    refuse ("invalid template, ".toList ++ quoted (body ++ ending) ++
      "; with --tmpdir, it may not be absolute".toList)
  let start := if usesDirectory then joinPath directory body else body
  let seed ← match ← Work.ask (.query .now) with
    | .number now => pure (scrambled now)
    | _ => pure 1
  let wish : TemporaryWish := { isDirectory := hasLetter given 'd', onlyName := hasLetter given 'u' }
  match ← makeTemporary wish (start.take (start.length - count)) ending count 1000 (scrambled seed) with
  | .ok path => Work.putLine path
  | .error errno =>
    let what := if wish.isDirectory then "directory" else "file"
    if hasLetter given 'q' then Work.leaveWith 1
    refuse (because ("failed to create ".toList ++ what.toList ++ " via template ".toList ++
      quoted (start ++ ending)) errno)

end Pipework.Tool
