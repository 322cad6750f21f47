import Pipework.Tool.Input
import Pipework.Tool.Option

set_option autoImplicit false

/-!
The translation of single characters: replacing, deleting and squeezing them. Sets of characters are written with
ranges, classes, repetitions and escapes.
-/

namespace Pipework.Tool

open Kernel

/-- All characters, one for each byte. -/
def allChars : Text := (List.range 256).map Char.ofNat

def isLower (char : Char) : Bool := 'a' ≤ char && char ≤ 'z'

def isUpper (char : Char) : Bool := 'A' ≤ char && char ≤ 'Z'

/-- Whether a character shows as a sign. -/
def isGraph (char : Char) : Bool := '!' ≤ char && char ≤ '~'

/-- The named classes of characters. -/
def charClasses : List (String × (Char → Bool)) :=
  let isLetter (char : Char) : Bool := isLower char || isUpper char
  [("alnum", fun char => isLetter char || isDigit char), ("alpha", isLetter), ("blank", isBlank),
    ("cntrl", fun char => char < ' ' || char = '\x7f'), ("digit", isDigit), ("graph", isGraph),
    ("lower", isLower), ("print", fun char => isGraph char || char = ' '),
    ("punct", fun char => isGraph char && !(isLetter char || isDigit char)), ("space", isSpace),
    ("upper", isUpper),
    ("xdigit", fun char =>
      isDigit char || ('a' ≤ char && char ≤ 'f') || ('A' ≤ char && char ≤ 'F'))]

/-- The characters of a class. -/
def classChars? (name : Text) : Option Text :=
  (charClasses.lookup (String.ofList name)).map fun isMember => allChars.filter isMember

/-- A part of a set. -/
inductive SetPart where
  | char (char : Char)
  | range (chars : Text)
  | charClass (name : String) (chars : Text)
  /-- A character so many times, or as often as it takes. -/
  | repeated (char : Char) (count : Option Nat)
  deriving DecidableEq, Repr

/-- The value of octal digits. -/
def octalValue (digits : Text) : Nat :=
  digits.foldl (fun value digit => value * 8 + (digit.toNat - '0'.toNat)) 0

def isOctal (char : Char) : Bool := '0' ≤ char && char ≤ '7'

/-- The character that an escape stands for, and what follows it. -/
def escapedChar : Text → Char × Text
  | [] => ('\\', [])
  | char :: rest =>
    if isOctal char then
      let digits := ((char :: rest).take 3).takeWhile isOctal
      let digits := if octalValue digits < 256 then digits else digits.take 2
      (Char.ofNat (octalValue digits), (char :: rest).drop digits.length)
    else
      (match char with
        | 'a' => '\x07'
        | 'b' => '\x08'
        | 'f' => '\x0c'
        | 'n' => '\n'
        | 'r' => '\r'
        | 't' => '\t'
        | 'v' => '\x0b'
        | other => other, rest)

/-- Characters, each with whether it was written as an escape. -/
def unescape : Nat → Text → List (Char × Bool)
  | 0, _ => []
  | _, [] => []
  | fuel + 1, '\\' :: rest =>
    let (char, after) := escapedChar rest
    (char, true) :: unescape fuel after
  | fuel + 1, char :: rest => (char, false) :: unescape fuel rest

/-- What stands in brackets between a mark and its second occurrence, and what follows. -/
def bracketed? (mark : Char) : List (Char × Bool) → Option (Text × List (Char × Bool))
  | (char, escaped) :: next :: rest =>
    if char = mark && !escaped && next = (']', false) then some ([], rest)
    else (bracketed? mark (next :: rest)).map fun (inside, after) => (char :: inside, after)
  | _ => none

/-- A repetition behind its opening bracket, and what follows. -/
def repetition? : List (Char × Bool) → Option ((Char × Text) × List (Char × Bool))
  | (char, _) :: ('*', false) :: rest =>
    let digits := rest.takeWhile fun entry => !entry.2 && isDigit entry.1
    match rest.drop digits.length with
    | (']', false) :: after => some ((char, digits.map Prod.fst), after)
    | _ => none
  | _ => none

/-- How often a character is repeated. -/
def repeatCount (digits : Text) : Option Nat :=
  let count := if digits.head? = some '0' then octalValue digits else digitsValue digits
  if count = 0 then none else some count

/-- A character as diagnostics show it. -/
def shownChar (char : Char) : Text :=
  if isGraph char || char = ' ' then [char]
  else
    let digits := Nat.toDigits 8 char.toNat
    '\\' :: List.replicate (3 - digits.length) '0' ++ digits

/-- A range that begins with a character, or the character alone; `parts` reads what comes after. -/
def setRange (parts : List (Char × Bool) → Work (List SetPart)) (char : Char) (rest : List (Char × Bool)) :
    Work (List SetPart) := do
  match rest with
  | ('-', false) :: (last, _) :: after =>
    if char ≤ last then
      let chars := (List.range (last.toNat - char.toNat + 1)).map fun step =>
        Char.ofNat (char.toNat + step)
      return .range chars :: (← parts after)
    else
      Work.fail ("range-endpoints of '".toList ++ shownChar char ++ '-' :: shownChar last ++
        "' are in reverse collating sequence order".toList)
  | _ => return .char char :: (← parts rest)

/-- The parts of a set. -/
def setParts : Nat → List (Char × Bool) → Work (List SetPart)
  | 0, _ => return []
  | _ + 1, [] => return []
  | fuel + 1, ('[', false) :: rest => do
    let charClass? :=
      match rest with
      | (':', false) :: inside => bracketed? ':' inside
      | _ => none
    let equals? :=
      match rest with
      | ('=', false) :: inside => bracketed? '=' inside
      | _ => none
    match charClass?, equals?, repetition? rest with
    | some (name, after), _, _ =>
      match classChars? name with
      | some chars => return .charClass (String.ofList name) chars :: (← setParts fuel after)
      | none =>
        if name.isEmpty then Work.fail "missing character class name '[::]'".toList
        else Work.fail ("invalid character class ".toList ++ quoted name)
    | none, some ([char], after), _ => return .char char :: (← setParts fuel after)
    | none, some ([], _), _ => Work.fail "missing equivalence class character '[==]'".toList
    | none, some (chars, _), _ =>
      Work.fail (chars ++ ": equivalence class operand must be a single character".toList)
    | none, none, some ((char, digits), after) =>
      return .repeated char (repeatCount digits) :: (← setParts fuel after)
    | none, none, none => setRange (setParts fuel) '[' rest
  | fuel + 1, (char, _) :: rest => setRange (setParts fuel) char rest

/-- Whether a text ends with a backslash that stands behind no other. -/
def endsOpen (text : Text) : Bool := (text.reverse.takeWhile (· = '\\')).length % 2 = 1

/-- Reads a set. -/
def readSet (text : Text) : Work (List SetPart) := do
  if endsOpen text then
    Work.complain "warning: an unescaped backslash at end of string is not portable".toList
  setParts (text.length + 1) (unescape (text.length + 1) text)

namespace SetPart

/-- The characters of a part; one that is repeated as often as it takes comes `fill` times. -/
def chars (fill : Nat) : SetPart → Text
  | .char single => [single]
  | .range members | .charClass _ members => members
  | .repeated single count => List.replicate (count.getD fill) single

def isFilling : SetPart → Bool
  | repeated _ none => true
  | _ => false

def className? : SetPart → Option String
  | charClass name _ => some name
  | _ => none

end SetPart

/-- The characters of a set that is to be `size` long if it can be filled up. -/
def charsOf (size : Nat) (parts : List SetPart) : Text :=
  let fixed := parts.foldl (fun total part => total + (part.chars 0).length) 0
  parts.flatMap (SetPart.chars (size - fixed))

/-- Leaves out each character of a set that follows itself. -/
def squeeze (isMember : Char → Bool) : Option Char → Text → Text
  | _, [] => []
  | before, char :: rest =>
    if before = some char && isMember char then squeeze isMember before rest
    else char :: squeeze isMember (some char) rest

/-- What is done to the input, piece by piece; the character that was put out last is given. -/
def translateInput (change : Option Char → Text → Text) : Nat → Option Char → Work Unit
  | 0, _ => return ()
  | fuel + 1, before => do
    match ← Work.ask (.read 0 readSize) with
    | .data (byte :: bytes) => do
      let changed := change before (Bytes.toChars (byte :: bytes))
      Work.put changed
      translateInput change fuel (changed.getLast? <|> before)
    | .failed .interrupted => translateInput change fuel before
    | .failed errno => Work.fail (because "read error".toList errno)
    | _ => return ()

/-- A table of what characters are replaced by. -/
def replacementTable (first second : Text) : Array Char :=
  let last := second.getLastD '\x00'
  ((first.zipIdx).foldl (fun table (char, place) =>
    table.setIfInBounds char.toNat (second.getD place last)) allChars.toArray)

/-- Reads how many sets there are and should be. -/
def checkSets (translates deletes squeezes : Bool) (sets : List Text) : Work Unit := do
  let failWith (message : Text) (sets : List Text) (reason : String) : Work Unit := do
    Work.complain (message ++ quoted (sets.getLastD []))
    Work.tell (.write 2 (Bytes.ofChars (reason.toList ++ ['\n'])))
    Work.leaveMisused
  let least := if deletes = squeezes then 2 else 1
  let most := if deletes && !squeezes then 1 else 2
  if sets.isEmpty then Work.failUsage "missing operand".toList
  else if sets.length < least then
    failWith "missing operand after ".toList sets
      (if translates then "Two strings must be given when translating."
        else "Two strings must be given when both deleting and squeezing repeats.")
  else if most < sets.length then
    let extra := sets.take (most + 1)
    if most = 1 && sets.length = 2 then
      failWith "extra operand ".toList extra
        "Only one string may be given when deleting without squeezing repeats."
    else failExtra (extra.getLastD [])

def trOptions : OptionTable where
  letters := "AcCdst"
  names := [("complement", 'c'), ("delete", 'd'), ("squeeze-repeats", 's'), ("truncate-set1", 't')]
  inOrder := true

/-- Prepares the second set of a translation of a first set. -/
def secondSet (first : Text) (complements hasClass cuts : Bool) (parts : List SetPart) : Work Text := do
  let second := charsOf first.length parts
  if (parts.filter SetPart.isFilling).length > 1 then
    Work.fail "only one [c*] repeat construct may appear in string2".toList
  else if parts.any fun part => part.className?.any fun name => name ≠ "upper" && name ≠ "lower" then
    Work.fail ("when translating, the only character classes that may appear in\n" ++
      "string2 are 'upper' and 'lower'").toList
  else if second.isEmpty && !cuts then
    Work.fail "when not truncating set1, string2 must be non-empty".toList
  else if complements && hasClass && !(second.all (some · = second.head?)) then
    Work.fail ("when translating with complemented character classes,\n" ++
      "string2 must map all characters in the domain to one").toList
  else return second

/-- Replaces, deletes and squeezes characters. -/
def tr (arguments : List Text) : Work Unit := do
  let (given, sets) ← readOptions trOptions arguments
  let deletes := hasLetter given 'd'
  let squeezes := hasLetter given 's'
  let complements := hasLetter given 'c' || hasLetter given 'C'
  let cuts := hasLetter given 't'
  let translates := sets.length = 2 && !deletes
  checkSets (!deletes && !squeezes) deletes squeezes sets
  let firstParts ← readSet (sets.headD [])
  if firstParts.any SetPart.isFilling then
    Work.fail "the [c*] repeat construct may not appear in string1".toList
  let listed := charsOf 0 firstParts
  let first := if complements then allChars.filter (!listed.contains ·) else listed
  let inFirst : Array Bool := allChars.toArray.map first.contains
  let isFirst (char : Char) : Bool := inFirst.getD char.toNat false
  match sets.tail with
  | [] =>
    if deletes then translateInput (fun _ text => text.filter (!isFirst ·)) stepLimit none
    else translateInput (squeeze isFirst) stepLimit none
  | secondText :: _ => do
    let secondParts ← readSet secondText
    if translates then
      let hasClass := firstParts.any fun part => part.className?.isSome
      let second ← secondSet first complements hasClass cuts secondParts
      let first := if cuts then first.take second.length else first
      let table := replacementTable first second
      let replaceAll (text : Text) : Text := text.map fun char => table.getD char.toNat char
      let change (before : Option Char) (text : Text) : Text :=
        if squeezes then squeeze second.contains before (replaceAll text) else replaceAll text
      translateInput change stepLimit none
    else
      let second := charsOf 0 secondParts
      translateInput
        (fun before text => squeeze second.contains before (text.filter (!isFirst ·))) stepLimit none

end Pipework.Tool
