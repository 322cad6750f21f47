set_option autoImplicit false

/-!
Permissions as text: octal digits, or changes such as `u+x,g=o` that are made to permissions one after the
other.
-/

namespace Pipework.Permission

/-- How a change is made. -/
inductive ChangeKind where
  | add
  | remove
  | replace
  deriving DecidableEq, Repr

/-- A change of permissions. -/
structure Change where
  kind : ChangeKind
  /-- The bits of those for whom the change is made; none if that is not said. -/
  affected : Nat
  bits : Nat
  /-- The bits of those whose permissions are taken as well. -/
  copied : Nat := 0
  /-- Whether execution is meant only where somebody may execute already. -/
  conditional : Bool := false
  deriving DecidableEq, Repr

/-- All bits of permissions. -/
def allBits : Nat := 0o7777

/-- The bits of those for whom a letter stands. -/
def whoBits? : Char → Option Nat
  | 'u' => some 0o4700
  | 'g' => some 0o2070
  | 'o' => some 0o1007
  | 'a' => some allBits
  | _ => none

def changeKind? : Char → Option ChangeKind
  | '+' => some .add
  | '-' => some .remove
  | '=' => some .replace
  | _ => none

/-- Takes on a letter of what is permitted. -/
def Change.addLetter (change : Change) (letter : Char) : Change :=
  match letter with
  | 'r' => { change with bits := change.bits ||| 0o444 }
  | 'w' => { change with bits := change.bits ||| 0o222 }
  | 'x' => { change with bits := change.bits ||| 0o111 }
  | 's' => { change with bits := change.bits ||| 0o6000 }
  | 't' => { change with bits := change.bits ||| 0o1000 }
  | 'u' => { change with copied := change.copied ||| 0o700 }
  | 'g' => { change with copied := change.copied ||| 0o070 }
  | 'o' => { change with copied := change.copied ||| 0o007 }
  | _ => { change with conditional := true }

/-- Reads the changes that are made for the same ones, up to a comma or the end. -/
def readChanges (affected : Nat) : Nat → List Char → Option (List Change × List Char)
  | 0, _ => none
  | fuel + 1, sign :: rest =>
    match changeKind? sign with
    | none => none
    | some kind =>
      let copies := (rest.take 1).filter fun char => "ugo".toList.contains char
      let letters :=
        if copies.isEmpty then rest.takeWhile fun char => "rwxXst".toList.contains char else copies
      let change := letters.foldl Change.addLetter { kind, affected, bits := 0 }
      let after := rest.drop letters.length
      match after with
      | [] => some ([change], [])
      | ',' :: later => some ([change], later)
      | _ => (readChanges affected fuel after).map fun (changes, later) => (change :: changes, later)
  | _, [] => none

/-- Reads changes for several ones. -/
def readClauses : Nat → List Char → Option (List Change)
  | 0, _ => none
  | fuel + 1, text =>
    let who := text.takeWhile fun char => (whoBits? char).isSome
    let affected := who.foldl (fun bits char => bits ||| (whoBits? char).getD 0) 0
    match readChanges affected text.length (text.drop who.length) with
    | none => none
    | some (changes, []) =>
      if text.getLast? = some ',' then none else some changes
    | some (changes, later) => (readClauses fuel later).map (changes ++ ·)

/-- Reads changes in the freer form of a mask. There permissions may be mixed with those of others, nobody in
particular means everybody, and changes may be missing. `affected` is missing at the start of a clause. -/
def readFreeChanges : Nat → Option Nat → List Char → Option (List Change)
  | 0, _, _ => none
  | fuel + 1, none, text =>
    let who := text.takeWhile fun char => (whoBits? char).isSome
    let affected := who.foldl (fun bits char => bits ||| (whoBits? char).getD 0) 0
    readFreeChanges fuel (some (if who.isEmpty then allBits else affected)) (text.drop who.length)
  | _ + 1, some _, [] => some []
  | fuel + 1, some affected, sign :: rest =>
    match changeKind? sign with
    | none => none
    | some kind =>
      let letters := rest.takeWhile fun char => "rwxXsugo".toList.contains char
      let change := letters.foldl Change.addLetter { kind, affected, bits := 0 }
      let (following, later) :=
        match rest.drop letters.length with
        | ',' :: later => (none, later)
        | later => (some affected, later)
      (readFreeChanges fuel following later).map (change :: ·)

def readFreely? (text : List Char) : Option (List Change) := readFreeChanges (2 * text.length + 2) none text

/-- The value of octal digits, if they stand for permissions. -/
def readOctal? (text : List Char) : Option Nat :=
  if text.isEmpty || !text.all fun char => '0' ≤ char && char ≤ '7' then none
  else
    let value := text.foldl (fun value char => value * 8 + (char.toNat - '0'.toNat)) 0
    if value ≤ allBits then some value else none

/-- The changes that a text stands for. -/
def readText? (text : List Char) : Option (List Change) :=
  match text with
  | [] => none
  | first :: _ =>
    if first.isDigit then
      (readOctal? text).map fun bits => [{ kind := .replace, affected := allBits, bits }]
    else readClauses (text.length + 1) text

/-- The bits that are not among some. -/
def without (bits removed : Nat) : Nat := bits - (bits &&& removed)

/-- The bits that a change is about, given the permissions before it. -/
def Change.value (change : Change) (isDirectory : Bool) (mode : Nat) : Nat :=
  let own := change.copied &&& mode
  let bits := [0o444, 0o222, 0o111].foldl (fun bits group =>
    if own &&& group ≠ 0 then bits ||| group else bits) change.bits
  if change.conditional && (isDirectory || mode &&& 0o111 ≠ 0) then bits ||| 0o111 else bits

/-- Makes a change. Where it is not said for whom, a mask limits it. -/
def Change.apply (mask : Nat) (isDirectory : Bool) (mode : Nat) (change : Change) : Nat :=
  let value := change.value isDirectory mode
  let value := if change.affected = 0 then without value mask else value &&& change.affected
  match change.kind with
  | .add => mode ||| value
  | .remove => without mode value
  | .replace =>
    let preserved := if change.affected = 0 then 0 else without mode change.affected
    preserved ||| value

/-- Makes changes one after the other. -/
def applyAll (mask : Nat) (isDirectory : Bool) (mode : Nat) (changes : List Change) : Nat :=
  changes.foldl (Change.apply mask isDirectory) mode

/-- What the owner, the group or others may do, as letters. -/
def letters (mode shift : Nat) : List Char :=
  [(4, 'r'), (2, 'w'), (1, 'x')].filterMap fun (bit, letter) =>
    if (mode >>> shift) &&& bit ≠ 0 then some letter else none

/-- At least four octal digits. -/
def octalText (mode : Nat) : List Char :=
  let digits := Nat.toDigits 8 mode
  List.replicate (4 - digits.length) '0' ++ digits

end Pipework.Permission
