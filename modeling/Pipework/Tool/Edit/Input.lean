import Pipework.Tool.Input

set_option autoImplicit false

/-!
Lines that are taken from files one after the other. No more of a file is read than is needed to find the end of
a line, and whether another line follows.
-/

namespace Pipework.Tool.Edit

open Kernel

/-- A file that lines are taken from. -/
structure Source where
  name : Text
  descriptor : Nat
  /-- What was read and not taken. -/
  buffer : Text := []
  ended : Bool := false

/-- The files that are left. -/
structure Sources where
  current : Option Source := none
  later : List Text
  /-- The name of the file that was turned to last. -/
  name : Text := inputOperand
  /-- Whether a hyphen stands for the input. -/
  hasInput : Bool := true
  /-- The character that ends lines. -/
  last : Char := '\n'

/-- How much is read at once. -/
def blockSize : Nat := 4096

/-- The status after a file could not be read. -/
def missingStatus : Nat := 2

/-- Reads until the end of a line is known, or there is no more to read. -/
def Source.fill (last : Char) : Nat → Source → Work Source
  | 0, source => return source
  | fuel + 1, source => do
    if source.ended || source.buffer.contains last then return source
    else
      match ← Work.ask (.read source.descriptor blockSize) with
      | .data (byte :: bytes) =>
        fill last fuel { source with buffer := source.buffer ++ Bytes.toChars (byte :: bytes) }
      | .failed .interrupted => fill last fuel source
      | .failed errno => do
        let name := if source.name = inputOperand then "stdin".toList else source.name
        Work.fail (because ("read error on ".toList ++ name) errno)
      | _ => return { source with ended := true }

namespace Sources

/-- Turns to the next file. Gives whether there is one; it may have no lines, or be missing. -/
def openNext (sources : Sources) : Work (Bool × Sources) := do
  match sources.later with
  | [] => return (false, sources)
  | operand :: later => do
    let sources := { sources with later, name := operand }
    if sources.hasInput && operand = inputOperand then
      modify ({ · with usesInput := true })
      return (true, { sources with current := some { name := operand, descriptor := 0 } })
    else
      match ← Work.openAside operand .read with
      | .ok descriptor => return (true, { sources with current := some { name := operand, descriptor } })
      | .error errno => do
        Work.complain (because ("can't read ".toList ++ operand) errno)
        modify ({ · with status := missingStatus })
        return (true, sources)

/-- Whether the file at hand has a line left. -/
def hasLine (sources : Sources) : Work (Bool × Sources) := do
  match sources.current with
  | none => return (false, sources)
  | some source => do
    let source ← source.fill sources.last stepLimit
    return (!(source.buffer.isEmpty && source.ended), { sources with current := some source })

/-- Closes the file at hand. -/
def close (sources : Sources) : Work Sources := do
  match sources.current with
  | some source => do
    if source.descriptor ≠ 0 then Work.tell (.close source.descriptor)
    return { sources with current := none }
  | none => return sources

/-- Takes a line of the file at hand. Also gives whether it was ended. -/
def takeLine (sources : Sources) : (Text × Bool) × Sources :=
  match sources.current with
  | none => (([], false), sources)
  | some source =>
    let line := source.buffer.takeWhile (· ≠ sources.last)
    let rest := source.buffer.drop line.length
    ((line, !rest.isEmpty), { sources with current := some { source with buffer := rest.tail } })

/-- Goes on to a file that has a line left. Gives whether there is one. -/
def settle : Nat → Sources → Work (Bool × Sources)
  | 0, sources => return (false, sources)
  | fuel + 1, sources => do
    match ← sources.hasLine with
    | (true, sources) => return (true, sources)
    | (false, sources) => do
      let sources ← sources.close
      match ← sources.openNext with
      | (true, sources) => settle fuel sources
      | (false, sources) => return (false, sources)

/-- Gives back what was read too much of the input. -/
def giveUp (sources : Sources) : Work Unit := do
  match sources.current with
  | some source => if source.descriptor = 0 then Work.giveBack source.buffer.length
  | none => return ()

end Sources

end Pipework.Tool.Edit
