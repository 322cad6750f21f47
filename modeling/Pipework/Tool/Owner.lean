import Pipework.Tool.Input
import Pipework.Tool.Option
import Pipework.Tool.Path
import Pipework.Tool.Quantity

set_option autoImplicit false

/-!
The change of owners. Files belong to the superuser and stay so: only what changes nothing is permitted.

Accounts: users and groups, each with a name and a number. All files belong to the superuser and the first group, and
all programs run for them.
-/

namespace Pipework.Tool

/-- Users with their numbers and those of their groups. -/
def userTable : List (String × Nat × Nat) :=
  [("root", 0, 0), ("daemon", 1, 1), ("bin", 2, 2), ("sys", 3, 3), ("sync", 4, 65534), ("games", 5, 60),
    ("man", 6, 12), ("lp", 7, 7), ("mail", 8, 8), ("news", 9, 9), ("uucp", 10, 10), ("proxy", 13, 13),
    ("www-data", 33, 33), ("backup", 34, 34), ("list", 38, 38), ("irc", 39, 39), ("_apt", 42, 65534),
    ("nobody", 65534, 65534)]

/-- Groups with their numbers. -/
def groupTable : List (String × Nat) :=
  [("root", 0), ("daemon", 1), ("bin", 2), ("sys", 3), ("adm", 4), ("tty", 5), ("disk", 6), ("lp", 7),
    ("mail", 8), ("news", 9), ("uucp", 10), ("man", 12), ("proxy", 13), ("kmem", 15), ("dialout", 20),
    ("fax", 21), ("voice", 22), ("cdrom", 24), ("floppy", 25), ("tape", 26), ("sudo", 27), ("audio", 29),
    ("dip", 30), ("www-data", 33), ("backup", 34), ("operator", 37), ("list", 38), ("irc", 39), ("src", 40),
    ("shadow", 42), ("utmp", 43), ("video", 44), ("sasl", 45), ("plugdev", 46), ("staff", 50), ("games", 60),
    ("users", 100), ("nogroup", 65534)]

/-- A user. -/
structure User where
  name : Text
  number : Nat
  group : Nat
  deriving DecidableEq, Repr

def users : List User := userTable.map fun (name, number, group) => ⟨name.toList, number, group⟩

def userNamed? (name : Text) : Option User := users.find? (·.name = name)

def userNumbered? (number : Nat) : Option User := users.find? (·.number = number)

/-- The number of a group. -/
def groupNamed? (name : Text) : Option Nat := groupTable.lookup (String.ofList name)

/-- The name of a group. -/
def groupNumbered? (number : Nat) : Option Text :=
  (groupTable.find? (·.2 = number)).map fun entry => entry.1.toList

/-- How a group is shown. -/
def groupShown (number : Nat) : Text := (groupNumbered? number).getD (Tool.number number)

/-- Whom a specification names. -/
structure Ownership where
  user : Option Nat := none
  group : Option Nat := none
  userName : Option Text := none
  groupName : Option Text := none

/-- The largest number of a user or a group. -/
def accountLimit : Nat := 4294967294

/-- The number of an account that is given by its number, with or without a sign. -/
def accountNumber? (text : Text) : Option Nat :=
  match readQuantity? {} text with
  | some reading =>
    if reading.rest.isEmpty && !reading.overflows && reading.value ≤ accountLimit then some reading.value else none
  | none => none

namespace Ownership

/-- The owners that a specification names, cut in two where `before` ends. -/
def readParts (spec : Text) (before : Option Nat) : Except String Ownership :=
  let user := (before.map spec.take).getD spec
  let group := (before.map fun length => spec.drop (length + 1)).getD []
  let takesLoginGroup : Bool := before.isSome && group.isEmpty
  let owner : Except String Ownership :=
    if user.isEmpty then .ok {}
    else
      match if user.head? = some '+' then none else userNamed? user with
      | some found =>
        .ok {
          user := some found.number
          userName := some user
          group := if takesLoginGroup then some found.group else none
          groupName := if takesLoginGroup then some (groupShown found.group) else none }
      | none =>
        if takesLoginGroup then .error "invalid spec"
        else
          match accountNumber? user with
          | some number => .ok { user := some number, userName := some user }
          | none => .error "invalid user"
  match owner with
  | .error fault => .error fault
  | .ok owner =>
    if group.isEmpty then .ok owner
    else
      match (if group.head? = some '+' then none else groupNamed? group).orElse fun _ => accountNumber? group with
      | some number => .ok { owner with group := some number, groupName := some group }
      | none => .error "invalid group"

/-- The owners that a specification names, a user and a group with a colon between them. A point may stand for the
colon, which is worth a warning. -/
def read (spec : Text) : Except String (Ownership × Bool) :=
  match readParts spec (spec.findIdx? (· = ':')), spec.findIdx? (· = '.') with
  | .error fault, some point =>
    if spec.contains ':' then .error fault
    else
      match readParts spec (some point) with
      | .ok owner => .ok (owner, true)
      | .error _ => .error fault
  | result, _ => result.map fun owner => (owner, false)

end Ownership

open Kernel

/-- How owners are changed. -/
structure OwnerStyle where
  ownership : Ownership
  /-- Only files that have these owners are looked at. -/
  required : Ownership := {}
  recursive : Bool := false
  verbose : Bool := false
  /-- Whether only changes are told. -/
  tellsChanges : Bool := false
  silent : Bool := false
  /-- Whether links at the end of paths are followed. -/
  follows : Bool := true
  /-- Whether links are followed that lead to directories: those that operands name, or all of them. -/
  entersNamed : Bool := false
  entersAll : Bool := false

namespace OwnerStyle

/-- Owners as they are told. -/
def shown (user group : Option Text) : Text :=
  match user, group with
  | some user, some group => user ++ ':' :: group
  | some name, none | none, some name => name
  | none, none => []

/-- What is changed, as it is told. -/
def subject (style : OwnerStyle) : Text :=
  if style.ownership.userName.isSome then "ownership of ".toList
  else if style.ownership.groupName.isSome then "group of ".toList
  else "ownership of ".toList

/-- Tells of what was done, or was not. -/
def describe (style : OwnerStyle) (path : Text) (succeeded : Bool) : Work Unit := do
  let ownership := style.ownership
  let wanted := shown ownership.userName ownership.groupName
  let root : Text := "root".toList
  let before := shown (ownership.userName.map fun _ => root) (ownership.groupName.map fun _ => root)
  let name := inQuotes path
  let isNothing : Bool := ownership.userName.isNone && ownership.groupName.isNone
  Work.putLine <|
    if succeeded then
      style.subject ++ name ++ " retained".toList ++ (if isNothing then [] else " as ".toList ++ before)
    else
      "failed to change ".toList ++ style.subject ++ name ++
        (if isNothing then [] else " from ".toList ++ before ++ " to ".toList ++ wanted)

/-- Whether a file keeps its owners. -/
def changesNothing (ownership : Ownership) : Bool := ownership.user.all (· = 0) && ownership.group.all (· = 0)

/-- Whether a file is left alone because it has other owners. -/
def isExempt (style : OwnerStyle) : Bool := !changesNothing style.required

/-- Changes the owners of a file. A regular file loses what it could do in the name of its owners. -/
def change (style : OwnerStyle) (path : Text) (facts : FileFacts) : Work Unit := do
  let succeeded := style.isExempt || changesNothing style.ownership
  if !style.isExempt then
    if !succeeded then
      Work.noteFailure
      if !style.silent then
        let what := if style.ownership.user.isSome then "changing ownership of " else "changing group of "
        Work.complain (because (what.toList ++ inQuotes path) .notPermitted)
    else if facts.kind = .regular && facts.mode &&& 0o6000 ≠ 0 then
      let losesGroup : Bool := facts.mode &&& 0o010 ≠ 0
      let mode := facts.mode &&& (if losesGroup then 0o1777 else 0o3777)
      Work.tell (.edit (.setMode (Bytes.ofChars path) mode))
  if style.verbose then style.describe path succeeded
  else if style.tellsChanges then return ()

/-- Changes the owners of a file, and of all that is in a directory if that is wanted. -/
def apply (style : OwnerStyle) : Nat → (isNamed : Bool) → Text → Work Unit
  | 0, _, _ => return ()
  | depth + 1, isNamed, path => do
    let refuse (what : String) (errno : Errno) : Work Unit := do
      Work.noteFailure
      if !style.silent then Work.complain (because (what.toList ++ inQuotes path) errno)
      if style.verbose then
        Work.putLine ("failed to change ".toList ++ style.subject ++ inQuotes path ++
          (let wanted := shown style.ownership.userName style.ownership.groupName
            if wanted.isEmpty then [] else " to ".toList ++ wanted))
    match ← Work.facts path false with
    | .error errno => refuse "cannot access " errno
    | .ok facts => do
      let enters := style.entersAll || (style.entersNamed && isNamed)
      let isDirectory : Bool ←
        if facts.kind = .directory then pure true
        else if facts.kind = .link && enters then Work.isDirectory path
        else pure false
      let isRead : Bool ←
        if style.recursive && isDirectory then do
          match ← Work.names path with
          | .error errno => do
            refuse "cannot read directory " errno
            pure false
          | .ok names => do
            names.forM fun name => apply style depth false (joinPath path name)
            pure true
        else pure true
      if !isRead then return ()
      else if facts.kind = .link && style.follows then
        match ← Work.facts path true with
        | .ok facts => style.change path facts
        | .error errno => refuse "cannot dereference " errno
      else style.change path facts

end OwnerStyle

/-- The options about owners. -/
def ownerOptions : OptionTable where
  letters := "HLPRcfhv\x01\x02:\x03\x04\x05:"
  names :=
    [("recursive", 'R'), ("changes", 'c'), ("dereference", '\x01'), ("from", '\x02'), ("no-dereference", 'h'),
      ("no-preserve-root", '\x03'), ("preserve-root", '\x04'), ("quiet", 'f'), ("silent", 'f'),
      ("reference", '\x05'), ("verbose", 'v')]

/-- Reads owners, or gives up. -/
def readOwners (text : Text) : Work Ownership := do
  match Ownership.read text with
  | .error fault => Work.fail (fault.toList ++ ": ".toList ++ quoted text)
  | .ok (ownership, isOld) => do
    if isOld then Work.complain ("warning: '.' should be ':': ".toList ++ quoted text)
    return ownership

/-- Reads a group, or gives up. -/
def readGroup (text : Text) : Work Ownership := do
  if text.isEmpty then return {}
  else
    match (if text.head? = some '+' then none else groupNamed? text).orElse fun _ => accountNumber? text with
    | some number => return { group := some number, groupName := some text }
    | none => Work.fail ("invalid group: ".toList ++ quoted text)

/-- Changes owners of files as a reader of specifications says. -/
def changeOwners (read : Text → Work Ownership) (isForGroups : Bool) (arguments : List Text) : Work Unit := do
  let (given, operands) ← readOptions ownerOptions arguments
  let required ← ((argumentOf? given '\x02').mapM readOwners)
  let traversal := (lastOf? given ['H', 'L', 'P']).filter (· ≠ 'P')
  let dereference := lastOf? given ['h', '\x01']
  let recursive := hasLetter given 'R'
  if recursive && traversal.isNone && dereference = some '\x01' then
    Work.fail "-R --dereference requires either -H or -L".toList
  let reference := argumentOf? given '\x05'
  match operands.getLast? with
  | none => Work.failUsage "missing operand".toList
  | some last =>
    if operands.length < (if reference.isSome then 1 else 2) then
      Work.failUsage ("missing operand after ".toList ++ quoted last)
  let (ownership, paths) ← match reference with
    | some path =>
      match ← Work.facts path true with
      | .ok _ =>
        let root : Text := "root".toList
        let group : Ownership := { group := some 0, groupName := some root }
        pure (if isForGroups then group else { group with user := some 0, userName := some root }, operands)
      | .error errno => Work.fail (because ("failed to get attributes of ".toList ++ inQuotes path) errno)
    | none => pure (← read (operands.headD []), operands.drop 1)
  let ownership :=
    if !isForGroups && ownership.userName.isNone && ownership.groupName.isSome then
      { ownership with userName := some [] }
    else ownership
  let level := lastOf? given ['c', 'v']
  let style : OwnerStyle :=
    { ownership
      required := required.getD {}
      recursive
      verbose := level = some 'v'
      tellsChanges := level = some 'c'
      silent := hasLetter given 'f'
      follows := dereference ≠ some 'h' && (!recursive || traversal.isSome)
      entersNamed := traversal = some 'H'
      entersAll := traversal = some 'L' }
  paths.forM (style.apply Files.depthLimit true)

/-- Changes owners and groups. -/
def chown (arguments : List Text) : Work Unit := changeOwners readOwners false arguments

/-- Changes groups. -/
def chgrp (arguments : List Text) : Work Unit := changeOwners readGroup true arguments

end Pipework.Tool
