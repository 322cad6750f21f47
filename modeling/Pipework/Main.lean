import Pipework.CommandLine

set_option autoImplicit false

/-!
The program. Its input is read whole, and its lines are executed on a machine of its own, whose working
directory holds an empty `bin`.
-/

open Pipework

/-- Reads a stream to its end. -/
partial def readToEnd (stream : IO.FS.Stream) (collected : ByteArray) : IO ByteArray := do
  let chunk ← stream.read 65536
  if chunk.isEmpty then return collected
  readToEnd stream (collected ++ chunk)

/-- A moment of the machine, in seconds since its start. -/
def showSeconds (milliseconds : Nat) : String :=
  let fraction := toString (1000 + milliseconds % 1000)
  toString (milliseconds / 1000) ++ "." ++ (fraction.drop 1).toString ++ "s"

def main (arguments : List String) : IO UInt32 := do
  let input ← readToEnd (← IO.getStdin) ByteArray.empty
  let searchPath ← IO.getEnv "PATH"
  let logFilter ← IO.getEnv "RUST_LOG"
  let terminal ← IO.getEnv "TERM"
  let result := CommandLine.run
    { path := CommandLine.ownName
      arguments := arguments.map Bytes.ofString
      input := input.toList
      searchPath := searchPath.map Bytes.ofString
      logFilter
      terminal := terminal.getD ""
      showTime := showSeconds }
  let output ← IO.getStdout
  output.write ⟨result.stdout.toArray⟩
  output.flush
  let diagnostics ← IO.getStderr
  diagnostics.write ⟨result.stderr.toArray⟩
  diagnostics.flush
  return match result.ending with
    | .exited code => code.toUInt32
    | .signaled signal => (128 + signal).toUInt32
