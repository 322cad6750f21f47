import Pipework.Digest
import Pipework.Tool.Input
import Pipework.Tool.Option

set_option autoImplicit false

/-!
Tools that print checksums of files, or check files against a list of them.
-/

namespace Pipework.Tool

open Kernel

/-- What is computed. -/
inductive Checksum where
  | cyclic
  | rotated
  | folded
  | digest (tag : Text) (compute : Bytes → Bytes)

/-- How checksums are printed. -/
structure ChecksumStyle where
  /-- Whether the name of the digest comes first. -/
  tagged : Bool := false
  binary : Bool := false
  /-- Whether lines end with a zero byte. -/
  zero : Bool := false

namespace Checksum

/-- How many blocks it takes to hold some bytes. -/
def blocksFor (blockSize size : Nat) : Nat := (size + blockSize - 1) / blockSize

/-- A number with zeros in front. -/
def zeroPadded (width value : Nat) : Text :=
  let digits := number value
  List.replicate (width - digits.length) '0' ++ digits

/-- The name of a file with backslashes before what would break a line, and whether there is any of that. -/
def escapedName (name : Text) : Text × Bool :=
  let escaped := name.flatMap fun char =>
    match char with
    | '\n' => ['\\', 'n']
    | '\r' => ['\\', 'r']
    | '\\' => ['\\', '\\']
    | char => [char]
  (escaped, escaped.length ≠ name.length)

/-- The line about some data. The name of the operand is known unless there was none. -/
def line (checksum : Checksum) (style : ChecksumStyle) (data : Bytes) (operand : Option Text) : Text :=
  let ending := if style.zero then '\x00' else '\n'
  let behind : Text := (operand.map (' ' :: ·)).getD []
  match checksum with
  | cyclic => number (Digest.crc data).toNat ++ ' ' :: number data.length ++ behind ++ [ending]
  | rotated =>
    zeroPadded 5 (Digest.rotatedSum data) ++ ' ' :: padLeft 5 (number (blocksFor 1024 data.length)) ++
      behind ++ [ending]
  | folded =>
    number (Digest.foldedSum data) ++ ' ' :: number (blocksFor 512 data.length) ++ behind ++ [ending]
  | digest tag compute =>
    let name := operand.getD inputOperand
    let (shown, isEscaped) := if style.zero then (name, false) else escapedName name
    let mark : Text := if isEscaped then ['\\'] else []
    let digits := Digest.hexDigits (compute data)
    if style.tagged then mark ++ tag ++ " (".toList ++ shown ++ ") = ".toList ++ digits ++ [ending]
    else mark ++ digits ++ ' ' :: (if style.binary then '*' else ' ') :: shown ++ [ending]

end Checksum

/-- An entry of a list of checksums. -/
structure ListedChecksum where
  name : Text
  digits : Text
  deriving DecidableEq, Repr

namespace ListedChecksum

def isHexDigit (char : Char) : Bool :=
  isDigit char || ('a' ≤ char && char ≤ 'f') || ('A' ≤ char && char ≤ 'F')

/-- Reads an entry that begins with the name of the digest. -/
def readTagged? (tag : Text) (width : Nat) (text : Text) : Option ListedChecksum :=
  let opening := tag ++ " (".toList
  if !opening.isPrefixOf text then none
  else
    let inner := text.drop opening.length
    let digits := inner.drop (inner.length - width)
    let name := inner.take (inner.length - width)
    let closing := ") = ".toList
    if digits.length = width && digits.all isHexDigit && closing.isSuffixOf name then
      some { name := name.take (name.length - closing.length), digits }
    else none

/-- Reads an entry. -/
def read? (tag : Text) (width : Nat) (line : Text) : Option ListedChecksum :=
  let text := line.dropWhile isBlank
  let text := if text.head? = some '\\' then text.tail else text
  match readTagged? tag width text with
  | some listed => some listed
  | none =>
    let digits := text.takeWhile isHexDigit
    match text.drop digits.length with
    | ' ' :: mark :: name =>
      if digits.length ≠ width || name.isEmpty then none
      else if mark = ' ' || mark = '*' then some { name, digits }
      else some { name := mark :: name, digits }
    | _ => none

end ListedChecksum

/-- What came of checking entries. -/
structure CheckCounts where
  good : Nat := 0
  malformed : Nat := 0
  unreadable : Nat := 0
  different : Nat := 0

/-- How entries are checked. -/
structure CheckStyle where
  quiet : Bool := false
  silent : Bool := false
  strict : Bool := false
  warns : Bool := false
  /-- Whether files that are missing do not matter. -/
  ignoresMissing : Bool := false

/-- How a list of checksums is called in diagnostics. -/
def listName (operand : Text) : Text :=
  if operand = inputOperand then "'standard input'".toList else shownName operand

/-- Checks one entry. -/
def checkListed (style : CheckStyle) (compute : Bytes → Bytes) (counts : CheckCounts) (listed : ListedChecksum) :
    Work CheckCounts := do
  match ← Work.readFile listed.name with
  | .error fault =>
    if style.ignoresMissing && fault.errno = .noEntry then return counts
    else do
      Work.report (because (shownName listed.name) fault.errno)
      if !style.silent then Work.putLine (listed.name ++ ": FAILED open or read".toList)
      return { counts with unreadable := counts.unreadable + 1 }
  | .ok content =>
    let digits := Digest.hexDigits (compute (Bytes.ofChars content))
    if digits = listed.digits.map Char.toLower then do
      if !style.silent && !style.quiet then Work.putLine (listed.name ++ ": OK".toList)
      return { counts with good := counts.good + 1 }
    else do
      if !style.silent then Work.putLine (listed.name ++ ": FAILED".toList)
      return { counts with different := counts.different + 1 }

/-- Checks the entries of a list. -/
def checkLines (style : CheckStyle) (tag : Text) (compute : Bytes → Bytes) (operand : Text) :
    Nat → CheckCounts → List Text → Work CheckCounts
  | _, counts, [] => return counts
  | place, counts, line :: later => do
    if line.head? = some '#' || line.isEmpty then checkLines style tag compute operand (place + 1) counts later
    else
      match ListedChecksum.read? tag (2 * (compute []).length) line with
      | some listed => do
        let counts ← checkListed style compute counts listed
        checkLines style tag compute operand (place + 1) counts later
      | none => do
        if style.warns then
          Work.complain (listName operand ++ ": ".toList ++ number place ++ ": improperly formatted ".toList ++
            tag ++ " checksum line".toList)
        checkLines style tag compute operand (place + 1)
          { counts with malformed := counts.malformed + 1 } later

/-- A warning about some number of things. -/
def countWarning (count : Nat) (one several : String) : Text :=
  "WARNING: ".toList ++ number count ++ ' ' :: (if count = 1 then one else several).toList

/-- Checks files against a list of checksums. -/
def checkList (style : CheckStyle) (tag : Text) (compute : Bytes → Bytes) (operand content : Text) :
    Work Unit := do
  let counts ← checkLines style tag compute operand 1 {} (plainLines content)
  if counts.good + counts.unreadable + counts.different = 0 && !style.ignoresMissing then
    Work.report (listName operand ++ ": no properly formatted checksum lines found".toList)
  else
    if !style.silent then
      Work.flush
      if counts.malformed ≠ 0 then
        Work.complain (countWarning counts.malformed "line is improperly formatted"
          "lines are improperly formatted")
      if counts.unreadable ≠ 0 then
        Work.complain (countWarning counts.unreadable "listed file could not be read"
          "listed files could not be read")
      if counts.different ≠ 0 then
        Work.complain (countWarning counts.different "computed checksum did NOT match"
          "computed checksums did NOT match")
    if counts.different ≠ 0 || counts.unreadable ≠ 0 || (style.strict && counts.malformed ≠ 0) then
      Work.noteFailure
    if style.ignoresMissing && counts.good = 0 then
      Work.report (listName operand ++ ": no file was verified".toList)

def checksumNames : List (String × Char) :=
  [("binary", 'b'), ("text", 't'), ("check", 'c'), ("tag", 'T'), ("untagged", 'U'), ("zero", 'z'),
    ("quiet", 'Q'), ("status", 'S'), ("strict", 'R'), ("warn", 'w'), ("ignore-missing", 'I'),
    ("length", 'l'), ("algorithm", 'a')]

/-- Prints checksums of operands, or checks lists of them. -/
def printChecksums (checksum : Checksum) (given : List Given) (tagged : Bool) (operands : List Text) :
    Work Unit := do
  let style : ChecksumStyle :=
    { tagged, binary := lastOf? given ['b', 't'] = some 'b', zero := hasLetter given 'z' }
  let isNamed := !operands.isEmpty
  match checksum, hasLetter given 'c' with
  | .digest tag compute, true => do
    if hasLetter given 'T' then
      Work.failUsage "the --tag option is meaningless when verifying checksums".toList
    let checkStyle : CheckStyle :=
      { quiet := hasLetter given 'Q', silent := hasLetter given 'S', strict := hasLetter given 'R',
        warns := hasLetter given 'w', ignoresMissing := hasLetter given 'I' }
    forEachInput inputComplaint operands fun operand content =>
      checkList checkStyle tag compute operand content
  | checksum, _ => do
    match [('I', "ignore-missing"), ('S', "status"), ('w', "warn"), ('Q', "quiet"), ('R', "strict")].find?
        fun entry => hasLetter given entry.1 with
    | some (_, name) =>
      Work.failUsage ("the --".toList ++ name.toList ++
        " option is meaningful only when verifying checksums".toList)
    | none => pure ()
    forEachInput inputComplaint operands fun operand content =>
      Work.put (checksum.line style (Bytes.ofChars content) (if isNamed then some operand else none))
  Work.closeInput "standard input"

/-- A tool that computes one digest. -/
def digestTool (tag : String) (compute : Bytes → Bytes) (arguments : List Text) : Work Unit := do
  let table : OptionTable :=
    { letters := "bctwz", names := checksumNames.filter fun entry => !(['l', 'a', 'U'].contains entry.2) }
  let (given, operands) ← readOptions table arguments
  printChecksums (.digest tag.toList compute) given (hasLetter given 'T') operands

/-- The length of a digest in bytes, given in bits. -/
def digestLength (given : List Given) : Work Nat := do
  match argumentOf? given 'l' with
  | none => return 64
  | some text =>
    match natural? text with
    | none => Work.fail ("invalid length: ".toList ++ quoted text)
    | some bits => do
      if 512 < bits then
        Work.complain ("invalid length: ".toList ++ quoted text)
        Work.fail "maximum digest length for 'BLAKE2b' is 512 bits".toList
      else if bits % 8 ≠ 0 then
        Work.complain ("invalid length: ".toList ++ quoted text)
        Work.fail "length is not a multiple of 8".toList
      else return if bits = 0 then 64 else bits / 8

/-- The digest with so many bytes, under its name. -/
def blakeOf (size : Nat) : Checksum :=
  let tag := "BLAKE2b".toList ++ (if size = 64 then [] else '-' :: number (8 * size))
  .digest tag (Digest.blake2b size)

/-- A tool for a digest whose length can be chosen. -/
def b2sum (arguments : List Text) : Work Unit := do
  let table : OptionTable :=
    { letters := "bctwzl:", names := checksumNames.filter fun entry => !(['a', 'U'].contains entry.2) }
  let (given, operands) ← readOptions table arguments
  let size ← digestLength given
  printChecksums (blakeOf size) given (hasLetter given 'T') operands

/-- The names of what can be computed. -/
def checksumTable : List (String × Checksum) :=
  [("bsd", .rotated), ("sysv", .folded), ("crc", .cyclic), ("md5", .digest "MD5".toList Digest.md5),
    ("sha1", .digest "SHA1".toList Digest.sha1), ("sha224", .digest "SHA224".toList Digest.sha224),
    ("sha256", .digest "SHA256".toList Digest.sha256), ("sha384", .digest "SHA384".toList Digest.sha384),
    ("sha512", .digest "SHA512".toList Digest.sha512), ("blake2b", blakeOf 64)]

/-- Prints a cyclic redundancy check, or what is asked for. -/
def cksum (arguments : List Text) : Work Unit := do
  let table : OptionTable := { letters := "a:bctwzl:", names := checksumNames }
  let (given, operands) ← readOptions table arguments
  let size ← digestLength given
  match argumentOf? given 'a' with
  | none =>
    if hasLetter given 'c' then
      Work.failUsage "--check is not supported with --algorithm=\x7bbsd,sysv,crc\x7d".toList
    printChecksums .cyclic given false operands
  | some name =>
    match checksumTable.lookup (String.ofList name) with
    | none =>
      Work.failUsage ("invalid argument ".toList ++ quoted name ++
        " for '--algorithm'\nValid arguments are:".toList ++
        ((checksumTable.map Prod.fst) ++ ["sm3"]).flatMap fun known => "\n  - ".toList ++ quoted known.toList)
    | some checksum =>
      let checksum := if name = "blake2b".toList then blakeOf size else checksum
      printChecksums checksum given (!hasLetter given 'U' && !hasLetter given 'c') (operands)

/-- Prints a sum and how many blocks there are. -/
def sum (arguments : List Text) : Work Unit := do
  let (given, operands) ← readOptions { letters := "rs", names := [("sysv", 's')] } arguments
  printChecksums (if lastOf? given ['r', 's'] = some 's' then .folded else .rotated) [] false operands

end Pipework.Tool
