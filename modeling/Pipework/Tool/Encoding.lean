import Pipework.Tool.Input
import Pipework.Tool.Option

set_option autoImplicit false

/-!
Data written with few letters, each of which stands for some bits, and read back from them.
-/

namespace Pipework.Tool

/-- How data is written with letters. -/
structure Alphabet where
  letters : String
  /-- How many bits a letter stands for. -/
  bits : Nat
  /-- How many letters stand together; a group is filled up with equal signs. -/
  group : Nat
  /-- Whether the bytes of a group count that breaks off. -/
  readsBroken : Bool := false
  /-- Letters that are read although none is written with them, with their values. -/
  alsoRead : List (Char × Nat) := []
  /-- Letters that spoil the whole block in which they stand. -/
  spoilers : String := ""

namespace Alphabet

def base64 : Alphabet where
  letters := "ABCDEFGHIJKLMNOPQRSTUVWXYZabcdefghijklmnopqrstuvwxyz0123456789+/"
  bits := 6
  group := 4
  readsBroken := true

def base64url : Alphabet :=
  { base64 with
    letters := "ABCDEFGHIJKLMNOPQRSTUVWXYZabcdefghijklmnopqrstuvwxyz0123456789-_"
    spoilers := "+/" }

def base32 : Alphabet where
  letters := "ABCDEFGHIJKLMNOPQRSTUVWXYZ234567"
  bits := 5
  group := 8

def base32hex : Alphabet :=
  { base32 with
    letters := "0123456789ABCDEFGHIJKLMNOPQRSTUV"
    alsoRead := [('W', 22), ('X', 23), ('Y', 24), ('Z', 25)] }

def base16 : Alphabet where
  letters := "0123456789ABCDEF"
  bits := 4
  group := 2

def base2 : Alphabet where
  letters := "01"
  bits := 1
  group := 8

/-- How many bytes a group stands for. -/
def groupBytes (alphabet : Alphabet) : Nat := alphabet.bits * alphabet.group / 8

/-- The last digits of a number to a base that is given as a shift. -/
def digitsOf (bits : Nat) : Nat → Nat → List Nat
  | 0, _ => []
  | count + 1, value => digitsOf bits count (value >>> bits) ++ [value % (1 <<< bits)]

/-- The letters for the bytes of one group. -/
def encodeGroup (alphabet : Alphabet) (letters : Array Char) (bytes : Text) : Text :=
  let count := (8 * bytes.length + alphabet.bits - 1) / alphabet.bits
  let value := bytes.foldl (fun value char => value * 256 + char.toNat) 0
  let shifted := value <<< (count * alphabet.bits - 8 * bytes.length)
  (digitsOf alphabet.bits count shifted).map (letters.getD · '=') ++
    List.replicate (alphabet.group - count) '='

/-- Groups of so many characters; the last may be shorter. -/
def groups (size : Nat) : Nat → Text → List Text
  | 0, _ => []
  | _, [] => []
  | fuel + 1, text => text.take size :: groups size fuel (text.drop size)

def encode (alphabet : Alphabet) (text : Text) : Text :=
  let letters := alphabet.letters.toList.toArray
  (groups alphabet.groupBytes (text.length + 1) text).flatMap (alphabet.encodeGroup letters)

/-- What the letters mean that are read. -/
def values (alphabet : Alphabet) : List (Char × Nat) :=
  alphabet.letters.toList.zipIdx ++ alphabet.alsoRead

/-- The bytes for which one group stands, and whether it is well formed. -/
def decodeGroup (alphabet : Alphabet) (values : List (Char × Nat)) (group : Text) : Text × Bool :=
  let valid := group.takeWhile fun char => (values.lookup char).isSome
  let rest := group.drop valid.length
  let count := valid.length * alphabet.bits / 8
  let value :=
    valid.foldl (fun value char => (value <<< alphabet.bits) + (values.lookup char).getD 0) 0
  let bytes := (digitsOf 8 count (value >>> (valid.length * alphabet.bits - 8 * count))).map Char.ofNat
  let isBroken := group.length < alphabet.group
  let hasWholeBytes := (8 * count + alphabet.bits - 1) / alphabet.bits = valid.length && 0 < count
  if isBroken && !alphabet.readsBroken then ([], false)
  else (bytes, !isBroken && hasWholeBytes && rest.all (· = '='))

/-- Reads groups up to one that is not well formed. -/
def decodeGroups (decodeGroup : Text → Text × Bool) (groups : List Text) : Text × Bool :=
  let rec go (parts : List Text) : List Text → Text × Bool
    | [] => (parts.reverse.flatten, true)
    | group :: later =>
      let (bytes, valid) := decodeGroup group
      if valid then go (bytes :: parts) later else ((bytes :: parts).reverse.flatten, false)
  go [] groups

/-- Reads data back, and says whether it was well formed. -/
def decode (alphabet : Alphabet) (text : Text) : Text × Bool :=
  decodeGroups (alphabet.decodeGroup alphabet.values) (groups alphabet.group (text.length + 1) text)

end Alphabet

namespace Base85

/-- The digits to the base 85. -/
def letters : Text :=
  "0123456789abcdefghijklmnopqrstuvwxyzABCDEFGHIJKLMNOPQRSTUVWXYZ.-:+=^!/*?&<>()[]\x7b\x7d@%$#".toList

/-- Five digits for each four bytes. Bytes that are left over are not written. -/
def encode (text : Text) : Text :=
  let digits := letters.toArray
  (Alphabet.groups 4 (text.length + 1) text).flatMap fun bytes =>
    if bytes.length < 4 then []
    else
      let value := bytes.foldl (fun value char => value * 256 + char.toNat) 0
      [52200625, 614125, 7225, 85, 1].map fun power => digits.getD (value / power % 85) '0'

/-- The four bytes of five digits; none if there are fewer, or if they mean too much. -/
def decodeGroup (group : Text) : Text × Bool :=
  if group.length < 5 || !group.all letters.contains then ([], false)
  else
    let value := group.foldl (fun value char => value * 85 + letters.idxOf char) 0
    if value < 4294967296 then ((Alphabet.digitsOf 8 4 value).map Char.ofNat, true) else ([], false)

/-- Reads data back, and says whether it was well formed. -/
def decode (text : Text) : Text × Bool :=
  Alphabet.decodeGroups decodeGroup (Alphabet.groups 5 (text.length + 1) text)

end Base85

/-- The byte with the bits of another one in reverse order. -/
def reverseBits (char : Char) : Char :=
  Char.ofNat ((List.range 8).foldl (fun value place => value * 2 + char.toNat / (1 <<< place) % 2) 0)

/-- How data is written. -/
inductive Encoding where
  | letters (alphabet : Alphabet)
  /-- Each byte as its bits, the lowest first. -/
  | reversedBits
  | base85

namespace Encoding

/-- Whether data can be written only if it consists of groups of four bytes. -/
def needsWholeGroups : Encoding → Bool
  | base85 => true
  | _ => false

def encode (encoding : Encoding) (text : Text) : Text :=
  match encoding with
  | letters alphabet => alphabet.encode text
  | reversedBits => Alphabet.base2.encode (text.map reverseBits)
  | base85 => Base85.encode text

/-- Whether a character can stand in what is written. -/
def admits (encoding : Encoding) (char : Char) : Bool :=
  match encoding with
  | letters alphabet => char = '=' || alphabet.letters.toList.contains char
  | reversedBits => char = '=' || char = '0' || char = '1'
  | base85 => char = '=' || Base85.letters.contains char

/-- Letters that spoil the whole block in which they stand. -/
def spoilers : Encoding → String
  | letters alphabet => alphabet.spoilers
  | _ => ""

/-- Reads data back, and says whether it was well formed. Line feeds count for nothing. -/
def decode (encoding : Encoding) (text : Text) : Text × Bool :=
  let kept := text.filter (· ≠ '\n')
  match encoding with
  | letters alphabet => alphabet.decode kept
  | reversedBits =>
    let (bytes, isValid) := Alphabet.base2.decode kept
    (bytes.map reverseBits, isValid)
  | base85 => Base85.decode kept

end Encoding

/-- Text in lines of a given length, or as it is if that is zero. -/
def wrapLines (width : Nat) (text : Text) : Text :=
  if width = 0 then text
  else List.intercalate ['\n'] (Alphabet.groups width (text.length + 1) text)

/-- How much is written with letters at once. -/
def encodedBlock : Nat := 30720

/-- How many letters are read back at once where letters can spoil a block. -/
def decodedBlock : Nat := 5600

/-- Puts out data as it is written with letters. -/
def putEncoded (encoding : Encoding) (width : Nat) (text : Text) : Work Unit := do
  if encoding.needsWholeGroups && text.length % 4 ≠ 0 then
    Work.put (wrapLines width (encoding.encode (text.take (text.length / encodedBlock * encodedBlock))))
    Work.fail "invalid input (length must be multiple of 4 characters)".toList
  else
    let encoded := encoding.encode text
    Work.put (wrapLines width encoded)
    if width ≠ 0 && !encoded.isEmpty then Work.put ['\n']

/-- Puts out the data that a text stands for. -/
def putDecoded (encoding : Encoding) (ignoresOthers : Bool) (text : Text) : Work Unit := do
  let kept := if ignoresOthers then text.filter encoding.admits else text
  let spoilers := encoding.spoilers.toList
  let sound :=
    match kept.findIdx? spoilers.contains with
    | some place => kept.take (place / decodedBlock * decodedBlock)
    | none => kept
  let (decoded, isValid) := encoding.decode sound
  Work.put decoded
  if !isValid || sound.length < kept.length then Work.fail "invalid input".toList

/-- How data is written or read. -/
structure EncodingOptions where
  encoding : Option Encoding
  reads : Bool := false
  ignoresOthers : Bool := false
  /-- The length of lines; zero if there is no limit. -/
  width : Nat := 76

/-- The widest line that has a limit. -/
def wrapLimit : Nat := 9223372036854775807

/-- The length of lines that an argument gives. -/
def readWidth (text : Text) : Work Nat := do
  let refuse {α : Type} : Work α := Work.fail ("invalid wrap size: ".toList ++ quoted text)
  let signed := text.dropWhile isSpace
  let isNegative : Bool := signed.head? = some '-'
  let digits := if isNegative || signed.head? = some '+' then signed.tail else signed
  match natural? digits with
  | none => refuse
  | some width =>
    if isNegative && width ≠ 0 then refuse
    else return if wrapLimit < width then 0 else width

/-- The encodings that can be asked for, with letters for their names. -/
def encodingTable : List (String × Char × Encoding) :=
  [("base64", '\x01', .letters .base64), ("base64url", '\x02', .letters .base64url),
    ("base32", '\x03', .letters .base32), ("base32hex", '\x04', .letters .base32hex),
    ("base16", '\x05', .letters .base16), ("base2msbf", '\x06', .letters .base2),
    ("base2lsbf", '\x07', .reversedBits), ("z85", '\x08', .base85)]

/-- Reads an option. -/
def EncodingOptions.noteOption (option : Given) : StateT EncodingOptions Work Unit := do
  match option.letter with
  | 'd' => modify ({ · with reads := true })
  | 'i' => modify ({ · with ignoresOthers := true })
  | 'w' =>
    let width ← readWidth (option.argument.getD [])
    modify ({ · with width })
  | letter =>
    match encodingTable.find? fun entry => entry.2.1 = letter with
    | some (_, _, encoding) => modify ({ · with encoding := some encoding })
    | none => return ()

/-- Writes data with letters, or reads it back. Which letters are used may be told by the options. -/
def convert (encoding : Option Encoding) (names : List (String × Char)) (arguments : List Text) : Work Unit := do
  let table : OptionTable :=
    { letters := "diw:", names := [("decode", 'd'), ("ignore-garbage", 'i'), ("wrap", 'w')] ++ names }
  let reading : StateT EncodingOptions Work (List Given × List Text) :=
    readOptionsWith EncodingOptions.noteOption table arguments
  let ((_, operands), options) ← reading.run { encoding }
  match options.encoding with
  | none => Work.failUsage "missing encoding type".toList
  | some encoding => do
    match operands.drop 1 with
    | extra :: _ => failExtra extra
    | [] => pure ()
    let operand := operands.headD inputOperand
    match ← Work.readOperand operand with
    | .error (.unopened errno) => Work.fail (because (shownName operand) errno)
    | .error (.unread errno) => Work.fail (because "read error".toList errno)
    | .ok text =>
      if options.reads then putDecoded encoding options.ignoresOthers text
      else putEncoded encoding options.width text
    Work.closeInput "closing standard input"

/-- A tool for one encoding. -/
def alphabetTool (alphabet : Alphabet) (arguments : List Text) : Work Unit :=
  convert (some (.letters alphabet)) [] arguments

/-- A tool that is told which encoding to use. -/
def basenc (arguments : List Text) : Work Unit :=
  convert none (encodingTable.map fun entry => (entry.1, entry.2.1)) arguments

end Pipework.Tool
