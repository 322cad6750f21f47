import Pipework.Permission
import Pipework.Tool.Input
import Pipework.Tool.Option
import Pipework.Tool.Path

set_option autoImplicit false

/-!
Tools that make files, directories and links, and that change permissions.
-/

namespace Pipework.Tool

open Kernel

/-- The directories from the outermost to a path itself. -/
def pathSteps : (passed : Text) → Text → List Text
  | passed, [] => if passed.isEmpty || passed.head? = some '/' then [] else [passed.reverse]
  | passed, '/' :: rest =>
    if passed.isEmpty || passed.head? = some '/' then pathSteps ('/' :: passed) rest
    else passed.reverse :: pathSteps ('/' :: passed) rest
  | passed, char :: rest => pathSteps (char :: passed) rest

/-- Makes directories. -/
def mkdir (arguments : List Text) : Work Unit := do
  let table : OptionTable :=
    { letters := "m:pvZ", names := [("mode", 'm'), ("parents", 'p'), ("verbose", 'v')] }
  let (given, operands) ← readOptions table arguments
  needOperand operands
  let mask ← fileMask
  let usual := Permission.without 0o777 mask
  let mode ← match argumentOf? given 'm' with
    | none => pure usual
    | some text =>
      match Permission.readText? text with
      | some changes => pure (Permission.applyAll mask true 0o777 changes)
      | none => Work.fail ("invalid mode ".toList ++ quoted text)
  let complain (path : Text) (errno : Errno) : Work Unit :=
    Work.report (because ("cannot create directory ".toList ++ inQuotes path) errno)
  let make (path : Text) (mode : Nat) : Work (Option Errno) := do
    match ← Work.edit (.makeDirectory (Bytes.ofChars path) mode) with
    | some errno => return some errno
    | none => do
      if hasLetter given 'v' then
        Work.putLine ((← get).name ++ ": created directory ".toList ++ inQuotes path)
      return none
  operands.forM fun path => do
    if !hasLetter given 'p' then
      match ← make path mode with
      | some errno => complain path errno
      | none => return ()
    else
      let steps := pathSteps [] path
      if steps.isEmpty && !path.isEmpty then return ()
      else if steps.isEmpty then complain path .noEntry
      else
        let _ ← (steps.zipIdx).foldlM (fun goesOn (step, index) => do
          if !goesOn then return false
          else
            let isLast := index + 1 = steps.length
            match ← make step (if isLast then mode else usual ||| 0o300) with
            | none => return true
            | some errno => do
              if ← Work.isDirectory step then return true
              else do
                complain step (if isLast || errno ≠ .alreadyExists then errno else .notDirectory)
                return false) true

/-- Makes files, or notes that they were changed now. -/
def touch (arguments : List Text) : Work Unit := do
  let table : OptionTable :=
    { letters := "acd:fhmr:t:"
      names :=
        [("no-create", 'c'), ("date", 'd'), ("no-dereference", 'h'), ("reference", 'r'), ("time", 'T')] }
  let (given, operands) ← readOptions table arguments
  if operands.isEmpty then Work.failUsage "missing file operand".toList
  operands.forM fun path => do
    let complain (fault : String) (errno : Errno) : Work Unit :=
      Work.report (because (fault.toList ++ inQuotes path) errno)
    let makes := !hasLetter given 'c' && !hasLetter given 'h'
    if path = inputOperand then return ()
    let unopened : Option Errno ← match ← Work.facts path true with
      | .ok _ => pure none
      | .error _ =>
        if !makes then pure none
        else
          match ← Work.openAside path .append with
          | .ok descriptor => Work.tell (.close descriptor); pure none
          | .error errno => pure (some errno)
    match ← Work.edit (.setTimes (Bytes.ofChars path) true (some .now) (some .now)), unopened with
    | none, _ => return ()
    | some errno, none =>
      if errno = .noEntry && !makes then return () else complain "setting times of " errno
    | some errno, some .isDirectory => complain "setting times of " errno
    | some _, some errno => complain "cannot touch " errno

/-- How the size of a file is changed. -/
inductive SizeChange where
  | exactly (size : Nat)
  | grow (size : Nat)
  | shrink (size : Nat)
  | atMost (size : Nat)
  | atLeast (size : Nat)
  | downTo (multiple : Nat)
  | upTo (multiple : Nat)
  deriving DecidableEq, Repr

namespace SizeChange

/-- Reads a size with a sign for how it is meant. -/
def read? (text : Text) : Option SizeChange :=
  match text with
  | '+' :: rest => (size? rest).map grow
  | '-' :: rest => (size? rest).map shrink
  | '<' :: rest => (size? rest).map atMost
  | '>' :: rest => (size? rest).map atLeast
  | '/' :: rest => (size? rest).map downTo
  | '%' :: rest => (size? rest).map upTo
  | text => (size? text).map exactly

def apply (before : Nat) : SizeChange → Nat
  | exactly size => size
  | grow size => before + size
  | shrink size => before - size
  | atMost size => min before size
  | atLeast size => max before size
  | downTo multiple => before / multiple * multiple
  | upTo multiple => (before + multiple - 1) / multiple * multiple

end SizeChange

/-- Sets the sizes of files. -/
def truncate (arguments : List Text) : Work Unit := do
  let table : OptionTable :=
    { letters := "cor:s:"
      names := [("no-create", 'c'), ("io-blocks", 'o'), ("reference", 'r'), ("size", 's')] }
  let (given, operands) ← readOptions table arguments
  match argumentOf? given 's', argumentOf? given 'r' with
  | none, none => Work.failUsage "you must specify either '--size' or '--reference'".toList
  | _, _ => pure ()
  let change ← match argumentOf? given 's', argumentOf? given 'r' with
    | some text, _ =>
      match SizeChange.read? (text.dropWhile isSpace) with
      | some change => pure change
      | none => Work.fail ("Invalid number: ".toList ++ quoted text)
    | none, some path =>
      match ← Work.facts path true with
      | .ok facts => pure (.exactly facts.size)
      | .error errno => Work.fail (because ("cannot stat ".toList ++ inQuotes path) errno)
    | none, none => pure (.exactly 0)
  if operands.isEmpty then Work.failUsage "missing file operand".toList
  operands.forM fun path => do
    let complain (errno : Errno) : Work Unit :=
      Work.report (because ("cannot open ".toList ++ inQuotes path ++ " for writing".toList) errno)
    let resize (before : Nat) : Work Unit := do
      match ← Work.edit (.resize (Bytes.ofChars path) (change.apply before)) with
      | some errno => complain errno
      | none => return ()
    match ← Work.facts path true with
    | .ok facts => resize facts.size
    | .error .noEntry =>
      if hasLetter given 'c' then return ()
      else
        match ← Work.openAside path .append with
        | .ok descriptor => do
          Work.tell (.close descriptor)
          resize 0
        | .error errno => complain errno
    | .error errno => complain errno

/-- How permissions are changed. -/
structure ModeStyle where
  changes : List Permission.Change
  recursive : Bool
  verbose : Bool
  /-- Whether only changes are told. -/
  tellsChanges : Bool
  silent : Bool
  /-- Whether to say so if a mask keeps something that was to be taken away. -/
  diagnosesMask : Bool := false

/-- Permissions as octal digits and as letters. -/
def modeText (mode : Nat) : Text :=
  let letter (bit : Nat) (char : Char) : Char := if mode &&& bit ≠ 0 then char else '-'
  let execute (bit special : Nat) (both only : Char) : Char :=
    if mode &&& special ≠ 0 then (if mode &&& bit ≠ 0 then both else only) else letter bit 'x'
  [letter 0o400 'r', letter 0o200 'w', execute 0o100 0o4000 's' 'S',
    letter 0o040 'r', letter 0o020 'w', execute 0o010 0o2000 's' 'S',
    letter 0o004 'r', letter 0o002 'w', execute 0o001 0o1000 't' 'T']

/-- Permissions as they are told. -/
def fullModeText (mode : Nat) : Text := Permission.octalText mode ++ " (".toList ++ modeText mode ++ [')']

/-- Changes the permissions of a file, and of all that is in a directory if that is wanted. -/
def ModeStyle.apply (style : ModeStyle) (mask : Nat) : Nat → Text → Work Unit
  | 0, _ => return ()
  | depth + 1, path => do
    match ← Work.facts path true with
    | .error errno => do
      match ← Work.facts path false with
      | .ok _ =>
        if style.silent then Work.noteFailure
        else Work.report ("cannot operate on dangling symlink ".toList ++ inQuotes path)
      | .error _ =>
        if style.silent then Work.noteFailure
        else Work.report (because ("cannot access ".toList ++ inQuotes path) errno)
    | .ok facts => do
      let isDirectory := facts.kind = .directory
      let mode := Permission.applyAll mask isDirectory facts.mode style.changes
      match ← Work.edit (.setMode (Bytes.ofChars path) mode) with
      | some errno =>
        Work.report (because ("changing permissions of ".toList ++ inQuotes path) errno)
      | none =>
        if facts.mode ≠ mode && (style.verbose || style.tellsChanges) then
          Work.putLine ("mode of ".toList ++ inQuotes path ++ " changed from ".toList ++
            fullModeText facts.mode ++ " to ".toList ++ fullModeText mode)
        else if style.verbose then
          Work.putLine ("mode of ".toList ++ inQuotes path ++ " retained as ".toList ++ fullModeText mode)
        let expected := Permission.applyAll 0 isDirectory facts.mode style.changes
        if style.diagnosesMask && Permission.without mode expected ≠ 0 then
          Work.report (shownName path ++ ": new permissions are ".toList ++ modeText mode ++ ", not ".toList ++
            modeText expected)
      if style.recursive && isDirectory then
        match ← Work.names path with
        | .error errno => Work.report (because ("cannot read directory ".toList ++ inQuotes path) errno)
        | .ok names => names.forM fun name => do
          match ← Work.facts (joinPath path name) false with
          | .ok facts => if facts.kind ≠ .link then ModeStyle.apply style mask depth (joinPath path name)
          | .error _ => return ()

/-- Whether an argument that begins with a hyphen takes permissions away. -/
def isModeArgument : Text → Bool
  | '-' :: letter :: _ => "rwxXstugoa,+=".toList.contains letter
  | _ => false

/-- Changes permissions. -/
def chmod (arguments : List Text) : Work Unit := do
  let (modes, others) := arguments.partition isModeArgument
  let table : OptionTable :=
    { letters := "Rcfv"
      names :=
        [("changes", 'c'), ("recursive", 'R'), ("silent", 'f'), ("quiet", 'f'), ("verbose", 'v'),
          ("reference", 'F'), ("no-preserve-root", 'N'), ("preserve-root", 'N')] }
  let (given, operands) ← readOptions table others
  let (text, paths) : Option Text × List Text :=
    match modes, operands with
    | [], text :: paths => (some text, paths)
    | [], [] => (none, [])
    | modes, paths => (some (List.intercalate [','] modes), paths)
  match text with
  | none => Work.failUsage "missing operand".toList
  | some text => do
    if paths.isEmpty then Work.failUsage ("missing operand after ".toList ++ quoted text)
    match Permission.readText? text with
    | none => Work.failUsage ("invalid mode: ".toList ++ quoted text)
    | some changes => do
      let style : ModeStyle :=
        { changes, recursive := hasLetter given 'R', verbose := hasLetter given 'v'
          tellsChanges := hasLetter given 'c', silent := hasLetter given 'f'
          diagnosesMask := !modes.isEmpty }
      let mask ← fileMask
      paths.forM (style.apply mask Files.depthLimit)

end Pipework.Tool
