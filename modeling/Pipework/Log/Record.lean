import Pipework.Executor.Event
import Pipework.Log.Filter
import Pipework.Text.Unprintable

set_option autoImplicit false

/-!
Log records, and the lines in which they are shown.
-/

namespace Pipework.Log

/-- What is logged of an event. -/
structure Record where
  level : Level
  target : String
  message : String
  fields : List (String × String) := []
  deriving DecidableEq, Repr

def interpreterTarget : String := "pipeline_shell::interpreter"
def executorTarget : String := "pipeline_shell::pipeline"
def channelTarget : String := "pipeline_shell::channel"
def editorTarget : String := "rustyline"

/-- The names of the fields that a filter can ask for. The editor records where its messages come from. -/
def Record.fieldNames (record : Record) : List String :=
  "message" :: record.fields.map Prod.fst ++
    (if record.target = editorTarget then ["log.target", "log.module_path", "log.file", "log.line"] else [])

/-- The record of an event, given how processes are shown; what belongs to no pipeline is not logged. -/
def Record.ofEvent? (showProcess : Nat → String) : Event → Option Record
  | .phase old new =>
    some ⟨.trace, executorTarget, "executor phase", [("from", old.display), ("to", new.display)]⟩
  | .parsed stages => some ⟨.debug, interpreterTarget, "parsed line", [("stages", toString stages)]⟩
  | .opened read write =>
    some ⟨.trace, channelTarget, "opened channel",
      [("read", toString read), ("write", toString write)]⟩
  | .closing side endpoint =>
    some ⟨.trace, channelTarget, "closing endpoint",
      [("fd", toString endpoint), ("endpoint", Text.Quoted.quote side.display)]⟩
  | .spawned process position program =>
    some ⟨.debug, executorTarget, "spawned stage",
      [("pid", showProcess process), ("position", toString position),
        ("program", Text.Quoted.quote program)]⟩
  | .reaped status =>
    some ⟨.debug, executorTarget, "reaped child", [("status", status.display showProcess)]⟩
  | .finished stages channels collected =>
    some ⟨.debug, executorTarget, "pipeline finished",
      [("stages", toString stages), ("channels", toString channels), ("reaped", toString collected)]⟩
  | .endOfInput => some ⟨.debug, interpreterTarget, "end of input", []⟩
  | .forked _ => none

/-- Text between an escape sequence for a style and one that ends it. -/
def styled (style : String) (text : String) : String :=
  "\x1b[" ++ style ++ "m" ++ text ++ "\x1b[0m"

/-- The colour of a level. -/
def Level.style : Level → String
  | error => "31"
  | warn => "33"
  | info => "32"
  | debug => "34"
  | trace => "35"

/-- The level in a column of five characters. -/
def Level.column (level : Level) : String :=
  String.ofList (List.replicate (5 - level.display.length) ' ') ++ level.display

def dim : String := "2"
def italic : String := "3"

/-- The line for a record. -/
def Record.line (time : String) (record : Record) : String :=
  styled dim time ++ " " ++ styled record.level.style record.level.column ++ " " ++
    styled dim record.target ++ styled dim ":" ++ " " ++ record.message ++
    String.join (record.fields.map fun field =>
      " " ++ styled italic field.1 ++ styled dim "=" ++ field.2) ++ "\n"

/-- What follows the first place of a text where the given one stands. -/
def after? (wanted : List Char) : List Char → Option (List Char)
  | [] => none
  | char :: rest =>
    if wanted.isPrefixOf (char :: rest) then some ((char :: rest).drop wanted.length)
    else after? wanted rest

/-- The child that a line says was reaped. -/
def reapedChild? (line : List Char) : Option Nat :=
  match after? " reaped child ".toList line with
  | none => none
  | some rest =>
    (after? "(p".toList rest).bind fun digits => (String.ofList (digits.takeWhile Char.isDigit)).toNat?

/-- Puts a line that says a child was reaped before those that directly follow it and are about later
children. -/
def insertReaped (child : Nat) (line : List Char) : List (List Char) → List (List Char)
  | next :: later =>
    match reapedChild? next with
    | some other => if child ≤ other then line :: next :: later else next :: insertReaped child line later
    | none => line :: next :: later
  | [] => [line]

/-- Puts the lines of each uninterrupted sequence about reaped children in the order of the children. -/
def sortReaped : List (List Char) → List (List Char)
  | [] => []
  | line :: later =>
    match reapedChild? line with
    | some child => insertReaped child line (sortReaped later)
    | none => line :: sortReaped later

end Pipework.Log
