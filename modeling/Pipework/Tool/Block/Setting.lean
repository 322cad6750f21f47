import Pipework.Bytes
import Pipework.Tool.Quantity

set_option autoImplicit false

/-!
How data is copied in blocks: the operands that say so, each a name with a value.

Two sets of characters, each with a number for every byte: the usual one, and that of old mainframes, of which there
is a second form for printers.
-/

namespace Pipework.Tool.Block

/-- To which set characters are brought. -/
inductive Charset where
  | ascii
  | ebcdic
  | ibm
  deriving DecidableEq, Repr

/-- The number of each character among those of mainframes. -/
def ebcdicTable : List Nat :=
  [0, 1, 2, 3, 55, 45, 46, 47, 22, 5, 37, 11, 12, 13, 14, 15,
    16, 17, 18, 19, 60, 61, 50, 38, 24, 25, 63, 39, 28, 29, 30, 31,
    64, 90, 127, 123, 91, 108, 80, 125, 77, 93, 92, 78, 107, 96, 75, 97,
    240, 241, 242, 243, 244, 245, 246, 247, 248, 249, 122, 94, 76, 126, 110, 111,
    124, 193, 194, 195, 196, 197, 198, 199, 200, 201, 209, 210, 211, 212, 213, 214,
    215, 216, 217, 226, 227, 228, 229, 230, 231, 232, 233, 173, 224, 189, 154, 109,
    121, 129, 130, 131, 132, 133, 134, 135, 136, 137, 145, 146, 147, 148, 149, 150,
    151, 152, 153, 162, 163, 164, 165, 166, 167, 168, 169, 192, 79, 208, 95, 7,
    32, 33, 34, 35, 36, 21, 6, 23, 40, 41, 42, 43, 44, 9, 10, 27,
    48, 49, 26, 51, 52, 53, 54, 8, 56, 57, 58, 59, 4, 20, 62, 225,
    65, 66, 67, 68, 69, 70, 71, 72, 73, 81, 82, 83, 84, 85, 86, 87,
    88, 89, 98, 99, 100, 101, 102, 103, 104, 105, 112, 113, 114, 115, 116, 117,
    118, 119, 120, 128, 138, 139, 140, 141, 142, 143, 144, 106, 155, 156, 157, 158,
    159, 160, 170, 171, 172, 74, 174, 175, 176, 177, 178, 179, 180, 181, 182, 183,
    184, 185, 186, 187, 188, 161, 190, 191, 202, 203, 204, 205, 206, 207, 218, 219,
    220, 221, 222, 223, 234, 235, 236, 237, 238, 239, 250, 251, 252, 253, 254, 255]

/-- Where the form for printers differs. -/
def ibmExceptions : List (Nat × Nat) := [(94, 95), (126, 161), (203, 154), (213, 173), (229, 189)]

/-- The byte for each byte. -/
def Charset.table : Charset → List Nat
  | ascii => (List.range 256).map ebcdicTable.idxOf
  | ebcdic => ebcdicTable
  | ibm => ebcdicTable.zipIdx.map fun (code, char) => (ibmExceptions.lookup char).getD code

/-- What becomes of each byte, if anything. -/
def translation (charset : Option Charset) (change : Char → Char) : Array Char :=
  ((charset.elim (List.range 256) Charset.table).map fun code => change (Char.ofNat code)).toArray

/-- What is done with data on the way. -/
inductive Conversion where
  | ascii
  | ebcdic
  | ibm
  /-- Lines become records of one length. -/
  | block
  /-- Records of one length become lines. -/
  | unblock
  | lower
  | upper
  /-- Holes are left in a file. -/
  | sparse
  /-- Bytes change places in pairs. -/
  | swap
  /-- Short blocks are filled up. -/
  | fill
  /-- Copying goes on after blocks that cannot be read. -/
  | goOn
  /-- The file that is written to has to be there already, or must not be there. -/
  | onlyOld
  | onlyNew
  /-- A file that is written to keeps what it holds behind the data. -/
  | keep
  | settle
  deriving DecidableEq, Repr

/-- The conversions by name. -/
def conversionNames : List (String × Conversion) :=
  [("ascii", .ascii), ("ebcdic", .ebcdic), ("ibm", .ibm), ("block", .block), ("unblock", .unblock),
    ("lcase", .lower), ("ucase", .upper), ("sparse", .sparse), ("swab", .swap), ("sync", .fill),
    ("noerror", .goOn), ("nocreat", .onlyOld), ("excl", .onlyNew), ("notrunc", .keep), ("fdatasync", .settle),
    ("fsync", .settle)]

/-- How a file is used. -/
inductive Flag where
  | append
  | direct
  | directory
  | noLinks
  | noCache
  /-- Blocks are read until they are full. -/
  | fullBlock
  | countBytes
  | skipBytes
  | seekBytes
  | other
  deriving DecidableEq, Repr

/-- The flags by name. -/
def flagNames : List (String × Flag) :=
  [("append", .append), ("direct", .direct), ("directory", .directory), ("dsync", .other), ("noatime", .other),
    ("nocache", .noCache), ("noctty", .other), ("nofollow", .noLinks), ("nonblock", .other), ("sync", .other),
    ("fullblock", .fullBlock), ("count_bytes", .countBytes), ("skip_bytes", .skipBytes),
    ("seek_bytes", .seekBytes)]

/-- How much is said at the end. -/
inductive Report where
  | nothing
  /-- The blocks alone. -/
  | blocks
  | everything
  deriving DecidableEq, Repr

def reportNames : List (String × Report) :=
  [("none", .nothing), ("noxfer", .blocks), ("progress", .everything)]

/-- A number of blocks, or of bytes if it says so. -/
structure Extent where
  count : Nat := 0
  inBytes : Bool := false

/-- How blocks are copied. -/
structure Setting where
  source : Option Text := none
  target : Option Text := none
  readSize : Option Nat := none
  writeSize : Option Nat := none
  /-- The size of both kinds of blocks. -/
  bothSizes : Option Nat := none
  /-- The length of records. -/
  recordSize : Option Nat := none
  /-- How much is copied. -/
  count : Option Extent := none
  /-- How much is passed over in the source and in the target. -/
  skipped : Extent := {}
  left : Extent := {}
  conversions : List Conversion := []
  sourceFlags : List Flag := []
  targetFlags : List Flag := []
  report : Report := .everything

/-- The largest number. -/
def countLimit : Nat := 9223372036854775807

/-- The largest block; one byte more has to fit. -/
def blockLimit : Nat := countLimit - 1

/-- A number, or why there is none. -/
inductive CountReading where
  | value (count : Nat)
  | invalid
  | tooLarge
  deriving DecidableEq, Repr

/-- What stands behind the letters of a number: a `B` more may end them. -/
def behindLetters (text rest : Text) : Text :=
  let before := (text.take (text.length - rest.length)).getLast?
  match rest with
  | 'B' :: later => if before.isSome && before ≠ some 'B' then later else rest
  | _ => rest

/-- Reads a number with letters for factors, or a product of several. Tells of a product that is zero only because
its first factor looks like the beginning of a hexadecimal number. -/
def readCount : Nat → Text → CountReading × Bool
  | 0, _ => (.invalid, false)
  | fuel + 1, text =>
    match readQuantity? { letters := "bcEGkKMPTwYZ", hasBases := true } text with
    | none => (.invalid, false)
    | some reading =>
      let alone : CountReading := if countLimit < reading.value then .tooLarge else .value reading.value
      match behindLetters text reading.rest with
      | [] => (alone, false)
      | 'x' :: factor =>
        match readCount fuel factor with
        | (.invalid, warns) => (.invalid, warns)
        | (.tooLarge, warns) => (if reading.value = 0 then .value 0 else .tooLarge, warns)
        | (.value factor, warns) =>
          let product := reading.value * factor
          let isZero : Bool := product = 0 && "0x".toList.isPrefixOf text
          (if countLimit < product || (product ≠ 0 && reading.overflows) then .tooLarge else .value product,
            warns || isZero)
      | _ => (if countLimit < reading.value then .tooLarge else .invalid, false)

/-- The number that a value stands for, within bounds. -/
def countOf (least most : Nat) (value : Text) : Work Nat := do
  let (reading, warns) := readCount (value.length + 1) value
  if warns then
    Work.complain "warning: '0x' is a zero multiplier; use '00x' if that is intended".toList
  let shown := "invalid number: ".toList ++ quoted value
  match reading with
  | .invalid => Work.fail shown
  | .tooLarge => Work.fail (because shown .valueTooLarge)
  | .value count =>
    if count < least then Work.fail shown
    else if most < count then Work.fail (because shown .valueTooLarge)
    else return count

/-- What words with commas between them stand for. -/
def readWords {α : Type} (complaint : String) (names : List (String × α)) (value : Text) : Work (List α) :=
  ((splitAfter ',' (value ++ [','])).map (chompOf ',')).mapM fun word =>
    match names.lookup (String.ofList word) with
    | some meaning => return meaning
    | none => Work.failUsage (complaint.toList ++ ": ".toList ++ quoted word)

/-- Takes on an operand such as `bs=4`. -/
def Setting.add (setting : Setting) (operand : Text) : Work Setting := do
  let name := operand.takeWhile (· ≠ '=')
  let value := operand.drop (name.length + 1)
  let refuse {α : Type} : Work α := Work.failUsage ("unrecognized operand ".toList ++ quoted operand)
  if name.length = operand.length then refuse
  let extent : Work Extent :=
    return { count := ← countOf 0 countLimit value, inBytes := value.contains 'B' }
  match String.ofList name with
  | "if" => return { setting with source := some value }
  | "of" => return { setting with target := some value }
  | "conv" =>
    return { setting with
      conversions := setting.conversions ++ (← readWords "invalid conversion" conversionNames value) }
  | "iflag" =>
    return { setting with
      sourceFlags := setting.sourceFlags ++ (← readWords "invalid input flag" flagNames value) }
  | "oflag" =>
    return { setting with
      targetFlags := setting.targetFlags ++ (← readWords "invalid output flag" flagNames value) }
  | "status" =>
    let reports ← readWords "invalid status level" reportNames value
    return { setting with report := reports.getLastD setting.report }
  | "ibs" => return { setting with readSize := some (← countOf 1 blockLimit value) }
  | "obs" => return { setting with writeSize := some (← countOf 1 blockLimit value) }
  | "bs" => return { setting with bothSizes := some (← countOf 1 blockLimit value) }
  | "cbs" => return { setting with recordSize := some (← countOf 1 countLimit value) }
  | "skip" | "iseek" => return { setting with skipped := ← extent }
  | "seek" | "oseek" => return { setting with left := ← extent }
  | "count" => return { setting with count := some (← extent) }
  | _ => do
    let (_, warns) := readCount (value.length + 1) value
    if warns then
      Work.complain "warning: '0x' is a zero multiplier; use '00x' if that is intended".toList
    refuse

namespace Setting

def converts (setting : Setting) (conversion : Conversion) : Bool := setting.conversions.contains conversion

/-- How much is read and written at once. -/
def readBlock (setting : Setting) : Nat := (setting.bothSizes.orElse fun _ => setting.readSize).getD 512

def writeBlock (setting : Setting) : Nat := (setting.bothSizes.orElse fun _ => setting.writeSize).getD 512

/-- Whether each block is written as it was read. -/
def isDirect (setting : Setting) : Bool :=
  setting.bothSizes.isSome &&
    [Conversion.ascii, .ebcdic, .ibm, .block, .unblock, .lower, .upper, .swap].all fun conversion =>
      !setting.converts conversion

/-- Whether lines become records. -/
def makesRecords (setting : Setting) : Bool :=
  setting.recordSize.isSome && [Conversion.block, .ebcdic, .ibm].any setting.converts

/-- Whether records become lines. -/
def makesLines (setting : Setting) : Bool :=
  setting.recordSize.isSome && [Conversion.unblock, .ascii].any setting.converts

/-- To which set characters are brought. -/
def charset (setting : Setting) : Option Charset :=
  if setting.converts .ascii then some .ascii
  else if setting.converts .ebcdic then some .ebcdic
  else if setting.converts .ibm then some .ibm
  else none

/-- An extent in whole blocks, and the bytes that are left over. -/
def split (extent : Extent) (inBytes : Bool) (size : Nat) : Nat × Nat :=
  if extent.inBytes || inBytes then (extent.count / size, extent.count % size) else (extent.count, 0)

/-- What is passed over in the source, in blocks and bytes. -/
def skippedParts (setting : Setting) : Nat × Nat :=
  split setting.skipped (setting.sourceFlags.contains .skipBytes) setting.readBlock

/-- What is left in the target, in blocks and bytes. -/
def leftParts (setting : Setting) : Nat × Nat :=
  split setting.left (setting.targetFlags.contains .seekBytes) setting.writeBlock

/-- How much is copied, in blocks and bytes. -/
def countParts (setting : Setting) : Option (Nat × Nat) :=
  setting.count.map fun count => split count (setting.sourceFlags.contains .countBytes) setting.readBlock

/-- Whether short reads are worth a warning. -/
def minds (setting : Setting) : Bool :=
  setting.isDirect && !setting.sourceFlags.contains .fullBlock &&
    (setting.skippedParts.1 ≠ 0 || setting.countParts.any fun (blocks, _) => blocks ≠ 0 ||
      (setting.sourceFlags ++ setting.targetFlags).contains .direct)

/-- Makes sure that the parts of a setting go together. -/
def check (setting : Setting) : Work Unit := do
  if setting.targetFlags.contains .fullBlock then
    Work.failUsage "invalid output flag: 'fullblock'".toList
  let several (conversions : List Conversion) : Bool := 1 < (conversions.filter setting.converts).length
  if several [.ascii, .ebcdic, .ibm] then
    Work.fail "cannot combine any two of \x7bascii,ebcdic,ibm\x7d".toList
  let blocks := [Conversion.block, .ebcdic, .ibm].any setting.converts
  let unblocks := [Conversion.unblock, .ascii].any setting.converts
  if setting.recordSize.isSome && blocks && unblocks then Work.fail "cannot combine block and unblock".toList
  if several [.lower, .upper] then Work.fail "cannot combine lcase and ucase".toList
  if several [.onlyNew, .onlyOld] then Work.fail "cannot combine excl and nocreat".toList
  let clash (flags : List Flag) : Bool := flags.contains .direct && flags.contains .noCache
  if clash setting.sourceFlags || clash setting.targetFlags then
    Work.fail "cannot combine direct and nocache".toList

end Setting

end Pipework.Tool.Block
