import Pipework.Console
import Pipework.Editor.Search

set_option autoImplicit false

/-!
The line editor, which supplies the lines that are typed at a terminal, or those of an input that is none.
Lines that are not blank go into the history, unless none is kept.
-/

namespace Pipework

open Kernel

/-- Where lines come from. -/
inductive EditorInput where
  /-- The standard input; of what was read from it, the given bytes have not been used. -/
  | stream (unused : Bytes)
  /-- A terminal, at which one text is typed at each prompt; the given characters have not been read. -/
  | terminal (unread : List Char) (typed : List String)

/-- A line editor. -/
structure Editor where
  input : EditorInput
  /-- The kind of the terminal. -/
  terminal : String
  keepsHistory : Bool
  /-- Oldest first. -/
  history : List String := []
  /-- The texts that were taken out of lines. -/
  ring : Editor.KillRing := {}

namespace Editor

/-- The kinds of terminals that cannot be controlled. -/
def plainTerminals : List String := ["dumb", "cons25", "emacs"]

/-- Whether a terminal of this kind cannot be controlled. -/
def isPlainTerminal (kind : String) : Bool :=
  plainTerminals.contains (String.ofList (kind.toList.map Char.toLower))

/-- How a terminal of this kind counts columns. -/
def widthRule (kind : String) : Text.WidthRule := if kind = "xterm-kitty" then .joined else .single

/-- How many lines the history holds. -/
def historyLimit : Nat := 100

/-- Adds a line to a history. A line that equals the last is not added again. -/
def remember (history : List String) (line : String) : List String :=
  if line.isEmpty || history.getLast? = some line then history
  else (history ++ [line]).drop (history.length + 1 - historyLimit)

/-- Whether a line has nothing but blanks. -/
def isBlank (line : String) : Bool := line.toList.all (Text.inRanges Text.whiteSpace)

/-- How much of the standard input is read at once. -/
def chunkSize : Nat := 8192

/-- How many bytes are read at once from a terminal. -/
def blockSize : Nat := 1024

/-- The diagnostic for an input that is no text. -/
def notText : String := "stream did not contain valid UTF-8"

/-- Reads the standard input up to the end of a line. Gives the line with its end and what was read of
the next. -/
def readBytes : Nat → Bytes → Console → Except Errno (Bytes × Bytes) × Console
  | 0, unused, console => (.ok (unused, []), console)
  | fuel + 1, unused, console =>
    let line := unused.takeWhile (· != 10)
    match unused.drop line.length with
    | _ :: rest => (.ok (line ++ [10], rest), console)
    | [] =>
      match console.ask (.read 0 chunkSize) with
      | (.data [], console) => (.ok (unused, []), console)
      | (.data bytes, console) => readBytes fuel (unused ++ bytes) console
      | (.failed errno, console) => (.error errno, console)
      | (_, console) => (.ok (unused, []), console)

/-- A line without its end: a newline, or a carriage return and a newline. -/
def stripEnd (line : List Char) : List Char :=
  match line.reverse with
  | '\n' :: '\r' :: before => before.reverse
  | '\n' :: before => before.reverse
  | _ => line

/-- What a line of bytes says once its backspaces are carried out. -/
def plainLine (line : List Char) : String :=
  String.ofList (Text.Grapheme.applyBackspaces (stripEnd line))

/-- Reads a line from the standard input. -/
def readStream (unused : Bytes) (console : Console) :
    Except String (Option String) × Bytes × Console :=
  match readBytes Tool.stepLimit unused console with
  | (.error errno, console) => (.error (errno.text ++ ": " ++ errno.text), [], console)
  | (.ok ([], rest), console) => (.ok none, rest, console)
  | (.ok (bytes, rest), console) =>
    match Bytes.toString? bytes with
    | none => (.error (notText ++ ": " ++ notText), rest, console)
    | some text => (.ok (some (plainLine text.toList)), rest, console)

/-- Reads a line from a terminal that cannot be controlled. -/
def readPlain : List Char → List String → Option String × List Char × List String
  | unread, typed =>
    let line := unread.takeWhile (· != '\n')
    match unread.drop line.length, typed with
    | _ :: rest, typed => (some (plainLine (line ++ ['\n'])), rest, typed)
    | [], [] => (if line.isEmpty then none else some (plainLine line), [], [])
    | [], text :: later => readPlain (unread ++ text.toList) later

/-- The characters that are read at once, and those behind them. -/
def takeBlock : Nat → List Char → List Char × List Char
  | _, [] => ([], [])
  | size, char :: rest =>
    if char.utf8Size ≤ size then
      let (block, rest) := takeBlock (size - char.utf8Size) rest
      (char :: block, rest)
    else ([], char :: rest)

/-- Edits a line at a terminal. What was read behind the end of the line is lost. The `pending` characters
are not enough for a command. -/
def editLine : Nat → Editing → List Char → List Char → List String →
    Outcome × Editing × List Char × List String
  | 0, editing, _, unread, typed => (.ended, editing, unread, typed)
  | _ + 1, editing, _, [], [] => (.ended, editing, [], [])
  | limit + 1, editing, pending, [], text :: later => editLine limit editing pending text.toList later
  | limit + 1, editing, pending, unread, typed =>
    let (block, unread) := takeBlock blockSize unread
    let keys := pending ++ block
    match editing.press (keys.length + 1) keys with
    | (.unfinished, editing, pending) => editLine limit editing pending unread typed
    | (outcome, editing, _) => (outcome, editing, unread, typed)

/-- The diagnostics about the keys that a terminal gives a meaning of its own. -/
def terminalKeys : List String :=
  [("VEOF", 'D'), ("VINTR", 'C'), ("VQUIT", '\\'), ("VSUSP", 'Z')].map fun (name, char) =>
    name ++ ": " ++ Key.display { code := .char char, control := true }

/-- Logs diagnostics of the editor. -/
def logAll (console : Console) (notes : List String) : Console :=
  notes.foldl (fun console note => console.log ⟨.debug, Log.editorTarget, note, []⟩) console

/-- Logs that an editor is made. -/
def begin (editor : Editor) (console : Console) : Console :=
  logAll console ["GraphemeClusterMode: " ++ (widthRule editor.terminal).display]

/-- The history with a line that was read. -/
def remembered (editor : Editor) (line : String) : List String :=
  if editor.keepsHistory && !isBlank line then remember editor.history line else editor.history

/-- Reads a line from a terminal. An interruption gives an empty line. -/
def readTyped (prompt : String) (unread : List Char) (typed : List String) (editor : Editor)
    (console : Console) : Option String × Editor × Console :=
  let editing : Editing :=
    { prompt := prompt.toList
      rule := widthRule editor.terminal
      history := editor.history.map String.toList
      ring := editor.ring.reset
      place := editor.history.length }
  let keyCount := typed.foldl (fun total text => total + text.length + 1) (unread.length + 2)
  let (outcome, editing, unread, typed) := editLine keyCount editing.refresh [] unread typed
  let editor := { editor with input := .terminal unread typed, ring := editing.ring }
  let console := logAll console (terminalKeys ++ editing.notes.reverse)
  match outcome with
  | .line text =>
    let line := String.ofList text
    (some line, { editor with history := editor.remembered line }, console)
  | .interrupted => (some "", editor, console)
  | .ended | .unfinished => (none, editor, console)

/-- Reads a line. -/
def readLine (prompt : String) (editor : Editor) (console : Console) :
    Except String (Option String) × Editor × Console :=
  let isPlain := isPlainTerminal editor.terminal
  let console :=
    if isPlain then (logAll console ["unsupported terminal"]).write 1 prompt
    else
      match editor.input with
      | .stream _ => logAll console ["stdin is not a tty"]
      | .terminal _ _ => console
  match editor.input with
  | .terminal unread typed =>
    if isPlain then
      let (line, unread, typed) := readPlain unread typed
      (.ok line,
        { editor with
          input := .terminal unread typed
          history := (line.map editor.remembered).getD editor.history }, console)
    else
      let (line, editor, console) := editor.readTyped prompt unread typed console
      (.ok line, editor, console)
  | .stream unused =>
    match readStream unused console with
    | (.ok (some line), unused, console) =>
      (.ok (some line),
        { editor with input := .stream unused, history := editor.remembered line }, console)
    | (result, unused, console) => (result, { editor with input := .stream unused }, console)

/-- The editor as a supplier of lines. -/
def source : LineSource Editor Console where
  readLine := readLine

end Editor

end Pipework
