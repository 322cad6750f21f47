set_option autoImplicit false

/-!
Byte strings, the currency of descriptors and of file names, and their reading as text.
-/

namespace Pipework

/-- What descriptors carry and what names programs and files to the kernel. -/
abbrev Bytes := List UInt8

/-- Characters below 256 that stand for bytes where these are taken apart as text. -/
abbrev Text := List Char

namespace Bytes

/-- The encoding of a text. -/
def ofString (text : String) : Bytes := text.toUTF8.toList

/-- Characters below 256, one for each byte. -/
def toChars (bytes : Bytes) : Text := bytes.map fun byte => Char.ofNat byte.toNat

/-- Forgets all but the low byte of each character, so it undoes `toChars`. -/
def ofChars (chars : Text) : Bytes := chars.map fun char => char.toNat.toUInt8

/-- The text that these bytes encode, if they encode one. -/
def toString? (bytes : Bytes) : Option String := String.fromUTF8? ⟨bytes.toArray⟩

/-- How many of the first bytes belong to one encoded character, whole or broken off, and whether
it is whole. A broken sequence ends before the first byte that cannot continue it. -/
def decodeFirst (bytes : Bytes) : Nat × Option Char :=
  let within (low high : UInt8) (byte : UInt8) : Bool := low ≤ byte && byte ≤ high
  let continues := within 0x80 0xBF
  let scalar (leading : Nat) (rest : List UInt8) : Option Char :=
    some (Char.ofNat (rest.foldl (fun value byte => value * 64 + (byte.toNat - 0x80)) leading))
  match bytes with
  | [] => (0, none)
  | lead :: rest =>
    let two (leading : Nat) (second : UInt8 → Bool) (later : Nat) : Nat × Option Char :=
      match rest with
      | [] => (1, none)
      | byte :: others =>
        if !second byte then (1, none)
        else
          let tail := (others.take later).takeWhile continues
          if tail.length = later then (2 + later, scalar leading (byte :: tail))
          else (2 + tail.length, none)
    if lead < 0x80 then (1, some (Char.ofNat lead.toNat))
    else if within 0xC2 0xDF lead then two (lead.toNat - 0xC0) continues 0
    else if lead = 0xE0 then two 0 (within 0xA0 0xBF) 1
    else if lead = 0xED then two 13 (within 0x80 0x9F) 1
    else if within 0xE1 0xEF lead then two (lead.toNat - 0xE0) continues 1
    else if lead = 0xF0 then two 0 (within 0x90 0xBF) 2
    else if within 0xF1 0xF3 lead then two (lead.toNat - 0xF0) continues 2
    else if lead = 0xF4 then two 4 (within 0x80 0x8F) 2
    else (1, none)

/-- Reads characters until the bytes are used up, with U+FFFD for each broken sequence. -/
def decodeLossy : Nat → Bytes → List Char
  | 0, _ => []
  | fuel + 1, bytes =>
    match bytes with
    | [] => []
    | _ :: _ =>
      let (width, char) := decodeFirst bytes
      char.getD '\uFFFD' :: decodeLossy fuel (bytes.drop width)

/-- The text of these bytes, with the replacement character U+FFFD wherever they encode none. -/
def toStringLossy (bytes : Bytes) : String := String.ofList (decodeLossy bytes.length bytes)

/-- Whether the first word is found somewhere in the second. -/
def isInfixOf (word : Bytes) : Bytes → Bool
  | [] => word.isEmpty
  | byte :: rest => word.isPrefixOf (byte :: rest) || isInfixOf word rest

/-- The pieces between occurrences of a byte; there is always at least one. -/
def splitAtByte (separator : UInt8) : Bytes → List Bytes
  | [] => [[]]
  | byte :: rest =>
    if byte = separator then [] :: splitAtByte separator rest
    else
      match splitAtByte separator rest with
      | [] => [[byte]]
      | piece :: pieces => (byte :: piece) :: pieces

end Bytes

end Pipework
