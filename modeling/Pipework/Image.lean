import Pipework.Kernel.System
import Pipework.Tool.Index

set_option autoImplicit false

/-!
Images: what becomes of a process when it loads a program. A name without a slash is searched for along
the search path; a file that begins with `#!` is run by the interpreter that it names, and one of no
known format by the shell. Once loaded, an image is a task that ends with a status.
-/

namespace Pipework.Image

open Kernel

/-- A loaded program: a task that ends with a status. -/
abbrev State := Task Nat

/-- How much of a file is looked at to find its interpreter. -/
def headSize : Nat := 256

def isBlank (byte : UInt8) : Bool := byte = 32 || byte = 9

/-- An interpreter and the one argument it may be given. -/
structure Interpreter where
  path : Bytes
  argument : Option Bytes
  deriving DecidableEq, Repr

/-- The interpreter that the first line of a file names after `#!`. A line that is cut off in the middle
of the name counts as none. -/
def interpreter? (content : Bytes) : Option Interpreter :=
  match content with
  | 35 :: 33 :: text =>
    let head := (text ++ List.replicate headSize 0).take (headSize - 2)
    let line :=
      if head.contains 10 then some (head.takeWhile (· != 10))
      else
        let usable := head.take (headSize - 3)
        if ((usable.dropWhile isBlank).any fun byte => isBlank byte || byte = 0) then some usable
        else none
    match line with
    | none => none
    | some line =>
      let text := ((line.reverse.dropWhile isBlank).reverse).dropWhile isBlank
      let path := text.takeWhile fun byte => !(isBlank byte || byte = 0)
      let rest := text.drop path.length
      if path.isEmpty then none
      else
        let argument := (rest.dropWhile isBlank).takeWhile (· != 0)
        some ⟨path, if rest.head? = some 0 || argument.isEmpty then none else some argument⟩
  | _ => none

/-- How many interpreters of interpreters are followed. -/
def interpreterLimit : Nat := 5

/-- The program in the file at a path. -/
def ofPath (files : Files) (working : Nat) (environment : Environment) :
    Nat → Bytes → List Bytes → Except Errno State
  | depth, path, arguments =>
    match files.find working path with
    | .error errno => .error errno
    | .ok number =>
      match files.table[number]? with
      | none => .error .noEntry
      | some file =>
        match file.node with
        | .tool name =>
          if !file.allows .execute then .error .accessDenied
          else
            match Tool.start? (String.ofList (Bytes.toChars name)) arguments environment with
            | some state => .ok state
            | none => .error .notExecutable
        | .regular content =>
          if !file.allows .execute then .error .accessDenied
          else
            match interpreter? content, depth with
            | none, _ => .error .notExecutable
            | some _, 0 => .error .tooManyLinks
            | some interpreter, depth + 1 =>
              ofPath files working environment depth interpreter.path
                (interpreter.path :: interpreter.argument.toList ++ path :: arguments.tail)
        | _ => .error .accessDenied

/-- Where the shell is found. -/
def shellPath : Bytes := Bytes.ofString "/bin/sh"

/-- The program at a path; a file of no known format is a script for the shell. -/
def ofPathOrScript (files : Files) (working : Nat) (environment : Environment) (path : Bytes)
    (arguments : List Bytes) : Except Errno State :=
  match ofPath files working environment interpreterLimit path arguments with
  | .error .notExecutable =>
    ofPath files working environment interpreterLimit shellPath (shellPath :: path :: arguments.tail)
  | result => result

/-- The places of a search path that is not set. -/
def defaultSearchPath : Bytes := Bytes.ofString "/bin:/usr/bin"

/-- The name of the variable that holds the search path. -/
def searchPathName : Bytes := Bytes.ofString "PATH"

/-- A name in a place of the search path; an empty place stands for the working directory. -/
def candidate (place name : Bytes) : Bytes :=
  if place.isEmpty then name else place ++ Files.slash :: name

/-- Tries places one after the other. A program that may not be executed is passed over, but that it was
there is remembered; the search ends at any fault that does not mean that there is no such program. -/
def search (files : Files) (working : Nat) (environment : Environment) (name : Bytes)
    (arguments : List Bytes) (denied : Bool) (last : Errno) : List Bytes → Except Errno State
  | [] => .error (if denied then .accessDenied else last)
  | place :: later =>
    match ofPathOrScript files working environment (candidate place name) arguments with
    | .ok state => .ok state
    | .error .accessDenied => search files working environment name arguments true .accessDenied later
    | .error .noEntry => search files working environment name arguments denied .noEntry later
    | .error .notDirectory => search files working environment name arguments denied .notDirectory later
    | .error errno => .error errno

/-- The places of a search path. One that is longer than any path is passed over: where it stands the working
directory is tried, unless it is the last. -/
def places (searchPath : Bytes) : List Bytes :=
  let places := searchPath.splitAtByte 58
  let fits (place : Bytes) : Bool := place.length ≤ Files.pathLimit
  places.dropLast.map (fun place => if fits place then place else []) ++
    (places.drop (places.length - 1)).filter fits

/-- The program found under a name. -/
def load (files : Files) (working : Nat) (environment : Environment) (name : Bytes)
    (arguments : List Bytes) : Except Errno State :=
  if name.isEmpty then .error .noEntry
  else if name.contains Files.slash then ofPathOrScript files working environment name arguments
  else if Files.nameLimit < name.length then .error .nameTooLong
  else
    search files working environment name arguments false .noEntry
      (places ((environment.lookup searchPathName).getD defaultSearchPath))

/-- How images act: they make the calls of their task, and exit with its status. -/
def behaviour : Behaviour State where
  next
    | .done status => some (.exit status)
    | .call request _ => some request
  resume := Task.resume
  load := load

end Pipework.Image
