import Std.Data.ExtTreeMap
import Pipework.Bytes
import Pipework.Errno

set_option autoImplicit false

/-!
Files. A tree of directories in memory, the lookup of paths in it, and the openings through which
descriptors read and write. All files belong to the one user that every process runs as, so of their
permissions those of the owner count.
-/

namespace Pipework.Kernel

/-- A file that holds nothing. -/
inductive Device where
  /-- Swallows what is written. -/
  | null
  /-- Reads as zeros without end. -/
  | zero
  /-- Has no room for what is written. -/
  | full
  /-- The other side of a screen and a keyboard, where nobody types. -/
  | terminal
  deriving DecidableEq, Repr

/-- What a file is. -/
inductive Node where
  | regular (content : Bytes)
  /-- The names in a directory, and the directory above it. -/
  | directory (above : Nat) (entries : List (Bytes × Nat))
  | link (target : Bytes)
  /-- A built-in program. -/
  | tool (name : Bytes)
  | device (device : Device)
  /-- A pipe with a name. -/
  | queue (pipe : Nat)
  deriving DecidableEq, Repr

/-- A moment, as nanoseconds since the start of 1970. -/
abbrev Moment := Int

/-- A file with its permissions, and when its content was changed and used last. -/
structure File where
  node : Node
  mode : Nat
  modified : Moment := 0
  accessed : Moment := modified
  /-- When anything about the file was changed last. -/
  changed : Moment := modified
  deriving DecidableEq, Repr

/-- What may be done with a file. -/
inductive Right where
  | read
  | write
  /-- To run a program, or to look for names in a directory. -/
  | execute
  deriving DecidableEq, Repr

/-- The bit of the permissions of an owner. -/
def Right.bit : Right → Nat
  | read => 0o400
  | write => 0o200
  | execute => 0o100

/-- Whether the owner of a file may do something with it. -/
def File.allows (file : File) (right : Right) : Bool := file.mode &&& right.bit ≠ 0

/-- How a file is opened. -/
inductive Access where
  | read
  /-- Empties the file, or makes it. -/
  | replace
  /-- Writes at the end of the file, or makes it. -/
  | append
  /-- Reads and writes the file, or makes it. -/
  | update
  deriving DecidableEq, Repr

def Access.reads (access : Access) : Bool := access = .read || access = .update

def Access.writes (access : Access) : Bool := access ≠ .read

/-- An open file. -/
structure Opening where
  file : Nat
  /-- Where the next byte is read or written. -/
  offset : Nat
  access : Access
  deriving DecidableEq, Repr

inductive FileKind where
  | regular
  | directory
  | link
  | pipe
  | device
  | terminal
  deriving DecidableEq, Repr

/-- What a process can learn about a file without opening it. -/
structure FileFacts where
  kind : FileKind
  /-- What tells the file from all others. -/
  number : Nat := 0
  size : Nat := 0
  mode : Nat := 0o600
  /-- How many names the file has. -/
  names : Nat := 1
  modified : Moment := 0
  accessed : Moment := 0
  changed : Moment := 0
  deriving DecidableEq, Repr

/-- Whether the owner may do something with a file. -/
def FileFacts.allows (facts : FileFacts) (right : Right) : Bool := facts.mode &&& right.bit ≠ 0

/-- The files of a machine. -/
structure Files where
  table : Std.ExtTreeMap Nat File
  nextFile : Nat
  openings : Std.ExtTreeMap Nat Opening
  nextOpening : Nat

namespace Files

/-- The number of the root directory. -/
def root : Nat := 0

/-- A root directory and nothing else. -/
def empty : Files where
  table := Std.ExtTreeMap.empty.insert root { node := .directory root [], mode := 0o755 }
  nextFile := 1
  openings := Std.ExtTreeMap.empty
  nextOpening := 0

def slash : UInt8 := 47
def dot : Bytes := [46]
def dotDot : Bytes := [46, 46]

/-- The longest name in a directory. -/
def nameLimit : Nat := 255

/-- The longest path. -/
def pathLimit : Nat := 4095

/-- How many symbolic links one lookup follows. -/
def linkLimit : Nat := 40

/-- Follows names from a directory, in each of which the next one may be looked for. An empty name stands for the directory itself, so a path that ends
in a slash must lead to one; a link at the end is followed only if `followLast` says so. -/
def walk (files : Files) (followLast : Bool) (links : Nat) (current : Nat) :
    List Bytes → Except Errno Nat
  | [] => .ok current
  | name :: later =>
    match files.table[current]? with
    | none => .error .noEntry
    | some file =>
      match file.node with
      | .directory above entries =>
        if name.isEmpty then walk files followLast links current later
        else if !file.allows .execute then .error .accessDenied
        else if name = dot then walk files followLast links current later
        else if name = dotDot then walk files followLast links above later
        else if nameLimit < name.length then .error .nameTooLong
        else
          match entries.lookup name with
          | none => .error .noEntry
          | some found =>
            match (files.table[found]?).map File.node with
            | some (.link target) =>
              if later.isEmpty && !followLast then .ok found
              else
                match links with
                | 0 => .error .tooManyLinks
                | links + 1 =>
                  if target.isEmpty then .error .noEntry
                  else
                    let start := if target.head? = some slash then root else current
                    walk files followLast links start (target.splitAtByte slash ++ later)
            | _ => walk files followLast links found later
      | _ => .error .notDirectory
termination_by names => (links, names.length)

/-- Where the lookup of a path begins: at the root, or in the working directory. -/
def start (working : Nat) (path : Bytes) : Nat := if path.head? = some slash then root else working

/-- The file that a path leads to, or a link at its end if `followLast` is false. -/
def lookUp (files : Files) (followLast : Bool) (working : Nat) (path : Bytes) : Except Errno Nat :=
  if path.isEmpty then .error .noEntry
  else if pathLimit < path.length then .error .nameTooLong
  else walk files followLast linkLimit (start working path) (path.splitAtByte slash)

/-- The file that a path leads to. -/
def find (files : Files) (working : Nat) (path : Bytes) : Except Errno Nat :=
  files.lookUp true working path

/-- A path without the slashes at its end. -/
def trimSlashes (path : Bytes) : Bytes :=
  match (path.reverse.dropWhile (· = slash)).reverse with
  | [] => path.take 1
  | trimmed => trimmed

/-- The directory and the name in it that the last part of a path stands for. -/
def findPlace (files : Files) (working : Nat) (path : Bytes) : Except Errno (Nat × Bytes) :=
  if path.isEmpty then .error .noEntry
  else if pathLimit < path.length then .error .nameTooLong
  else
    let names := path.splitAtByte slash
    let name := names.getLastD []
    match walk files true linkLimit (start working path) names.dropLast with
    | .error errno => .error errno
    | .ok directory =>
      if name.isEmpty || name = dot || name = dotDot then .error .isDirectory
      else if nameLimit < name.length then .error .nameTooLong
      else .ok (directory, name)

/-- The directory and the name under which a path makes a file. A link that leads nowhere says where. -/
def findNew (files : Files) : Nat → Nat → Bytes → Except Errno (Nat × Bytes)
  | 0, _, _ => .error .tooManyLinks
  | links + 1, working, path =>
    match files.findPlace working path with
    | .error errno => .error errno
    | .ok (directory, name) =>
      match files.lookUp false directory name with
      | .error _ => .ok (directory, name)
      | .ok number =>
        match (files.table[number]?).map File.node with
        | some (.link target) => findNew files links directory target
        | _ => .ok (directory, name)

/-- Replaces a file. -/
def put (files : Files) (number : Nat) (file : File) : Files :=
  { files with table := files.table.insert number file }

/-- A file without a name. -/
def create (files : Files) (file : File) : Nat × Files :=
  (files.nextFile, { files.put files.nextFile file with nextFile := files.nextFile + 1 })

/-- The name of a file in a directory. -/
def nameIn? (files : Files) (directory number : Nat) : Option Bytes :=
  match (files.table[directory]?).map File.node with
  | some (.directory _ entries) =>
    (entries.find? fun entry => entry.2 = number).map Prod.fst
  | _ => none

/-- Whether a directory still has its name; the root needs none. -/
def isAttached (files : Files) (directory : Nat) : Bool :=
  match (files.table[directory]?).map File.node with
  | some (.directory above _) => above = directory || (files.nameIn? above directory).isSome
  | _ => false

/-- Changes the names in a directory at a given moment. -/
def editEntries (files : Files) (now : Moment) (directory : Nat)
    (edit : List (Bytes × Nat) → List (Bytes × Nat)) : Except Errno Files :=
  match files.table[directory]? with
  | none => .error .notDirectory
  | some file =>
    match file.node with
    | .directory above entries =>
      if file.allows .write && file.allows .execute then
        .ok (files.put directory
          { file with node := .directory above (edit entries), modified := now, changed := now })
      else .error .accessDenied
    | _ => .error .notDirectory

/-- Gives a name in a directory to a file, in place of what had the name before. Nothing is put into a directory
that was taken away. -/
def putName (files : Files) (now : Moment) (directory : Nat) (name : Bytes) (number : Nat) :
    Except Errno Files :=
  match (files.table[directory]?).map File.node with
  | some (.directory _ _) =>
    if files.isAttached directory then
      files.editEntries now directory fun entries =>
        entries.filter (fun entry => entry.1 != name) ++ [(name, number)]
    else .error .noEntry
  | _ => .error .notDirectory

/-- A file with a name in a directory, in place of what had the name before. It is made when it was changed. -/
def createAt (files : Files) (directory : Nat) (name : Bytes) (file : File) :
    Except Errno (Nat × Files) :=
  let (number, files) := files.create file
  match files.putName file.modified directory name number with
  | .error errno => .error errno
  | .ok files => .ok (number, files)

/-- The directory with this name, made if it is missing. -/
def directoryAt (files : Files) (directory : Nat) (name : Bytes) : Except Errno (Nat × Files) :=
  match files.walk true linkLimit directory [name] with
  | .ok found => .ok (found, files)
  | .error .noEntry =>
    files.createAt directory name { node := .directory directory [], mode := 0o755 }
  | .error errno => .error errno

/-- Makes the directories on the way to a name. -/
def directoriesAt (files : Files) (directory : Nat) : List Bytes → Except Errno (Nat × Files)
  | [] => .ok (directory, files)
  | name :: later =>
    match files.directoryAt directory name with
    | .error errno => .error errno
    | .ok (found, files) => files.directoriesAt found later

/-- Puts a file at a path, and makes the directories on the way. -/
def install (files : Files) (working : Nat) (path : Bytes) (file : File) : Except Errno Files :=
  let names := path.splitAtByte slash
  match files.directoriesAt (start working path) names.dropLast with
  | .error errno => .error errno
  | .ok (directory, files) =>
    let file := match file.node with
      | .directory _ entries => { file with node := .directory directory entries }
      | _ => file
    (files.createAt directory (names.getLastD []) file).map Prod.snd

/-- A new opening of a file, at its start. -/
def openFile (files : Files) (number : Nat) (access : Access) : Nat × Files :=
  (files.nextOpening,
    { files with
      openings := files.openings.insert files.nextOpening ⟨number, 0, access⟩
      nextOpening := files.nextOpening + 1 })

/-- The permissions of a new file, of which a mask takes some away. -/
def newFileMode (mask : Nat) : Nat := 0o666 - (0o666 &&& mask)

/-- Whether a file may be opened in some way. -/
def admits (file : File) (access : Access) : Bool :=
  (!access.reads || file.allows .read) && (!access.writes || file.allows .write)

/-- Opens a file at a given moment. -/
def reopen (files : Files) (now : Moment) (number : Nat) (access : Access) : Except Errno (Nat × Files) :=
  match files.table[number]? with
  | none => .error .noEntry
  | some file =>
    match file.node, access with
    | .directory _ _, .append | .directory _ _, .replace | .directory _ _, .update => .error .isDirectory
    | .regular _, .replace =>
      if admits file access then
        .ok ((files.put number { file with node := .regular [], modified := now, changed := now }).openFile
          number access)
      else .error .accessDenied
    | _, _ => if admits file access then .ok (files.openFile number access) else .error .accessDenied

/-- Opens the file at a path for a process with a working directory and a mask for the permissions of new
files. A path that ends in a slash stands for a directory, which cannot be opened for writing. -/
def openPath (files : Files) (now : Moment) (working mask : Nat) (path : Bytes) (access : Access) :
    Except Errno (Nat × Files) :=
  if access.writes && path.getLast? = some slash then
    match files.findPlace working (trimSlashes path) with
    | .error errno => .error errno
    | .ok _ => .error .isDirectory
  else match files.find working path, access with
  | .ok number, _ => files.reopen now number access
  | .error .noEntry, .append | .error .noEntry, .replace | .error .noEntry, .update =>
    match files.findNew linkLimit working path with
    | .error errno => .error errno
    | .ok (directory, name) =>
      match files.createAt directory name { node := .regular [], mode := newFileMode mask, modified := now } with
      | .error errno => .error errno
      | .ok (number, files) => .ok (files.openFile number access)
  | .error errno, _ => .error errno

/-- Moves an opening to another place. -/
def moveTo (files : Files) (number : Nat) (opening : Opening) (offset : Nat) : Files :=
  { files with openings := files.openings.insert number { opening with offset } }

/-- Reads at most `limit` bytes through an opening. -/
def read (files : Files) (number limit : Nat) : Except Errno (Bytes × Files) :=
  match files.openings[number]? with
  | none => .error .badDescriptor
  | some opening =>
    if opening.access.reads then
      match (files.table[opening.file]?).map File.node with
      | some (.regular content) =>
        let data := (content.drop opening.offset).take limit
        .ok (data, files.moveTo number opening (opening.offset + data.length))
      | some (.directory _ _) => .error .isDirectory
      | some (.device .zero) | some (.device .full) => .ok (List.replicate limit 0, files)
      | _ => .ok ([], files)
    else .error .badDescriptor

/-- Writes data at a place; a gap before the place is filled with zeros. -/
def overwrite (content : Bytes) (offset : Nat) (data : Bytes) : Bytes :=
  content.take offset ++ List.replicate (offset - content.length) 0 ++ data ++
    content.drop (offset + data.length)

/-- Writes through an opening. -/
def write (files : Files) (now : Moment) (number : Nat) (data : Bytes) : Except Errno Files :=
  match files.openings[number]? with
  | none => .error .badDescriptor
  | some opening =>
    if !opening.access.writes then .error .badDescriptor
    else
      match files.table[opening.file]? with
      | none => .ok files
      | some file =>
        match file.node with
        | .regular content =>
          if data.isEmpty then .ok files
          else
            let offset := if opening.access = .append then content.length else opening.offset
            let written :=
              if offset = content.length then content ++ data else overwrite content offset data
            .ok ((files.put opening.file
              { file with node := .regular written, modified := now, changed := now }).moveTo number opening
                (offset + data.length))
        | .device .full => if data.isEmpty then .ok files else .error .noSpace
        | _ => .ok files

/-- Moves an opening by some bytes. Gives its new place. -/
def seek (files : Files) (number : Nat) (distance : Int) : Except Errno (Nat × Files) :=
  match files.openings[number]? with
  | none => .error .badDescriptor
  | some opening =>
    let place := (opening.offset : Int) + distance
    if place < 0 then .error .invalidArgument
    else .ok (place.toNat, files.moveTo number opening place.toNat)

/-- How many names a file has. -/
def nameCount (files : Files) (number : Nat) : Nat :=
  files.table.foldl (fun total _ file =>
    match file.node with
    | .directory _ entries => total + (entries.filter fun entry => entry.2 = number).length
    | _ => total) 0

/-- What can be learnt about a file. -/
def facts (files : Files) (number : Nat) : FileFacts :=
  match files.table[number]? with
  | none => { kind := .device, number }
  | some file =>
    let common : FileFacts :=
      { kind := .device, number, mode := file.mode, modified := file.modified, accessed := file.accessed
        changed := file.changed, names := files.nameCount number }
    match file.node with
    | .regular content => { common with kind := .regular, size := content.length }
    | .directory _ entries =>
      let inner := entries.filter fun entry =>
        match (files.table[entry.2]?).map File.node with
        | some (.directory _ _) => true
        | _ => false
      { common with kind := .directory, size := 4096, names := inner.length + 2 }
    | .link target => { common with kind := .link, size := target.length }
    | .tool _ => { common with kind := .regular, size := 4096 }
    | .queue _ => { common with kind := .pipe }
    | .device .terminal => { common with kind := .terminal }
    | .device _ => common

/-- The names in the directory that a path leads to. -/
def namesAt (files : Files) (working : Nat) (path : Bytes) : Except Errno (List Bytes) :=
  match files.find working path with
  | .error errno => .error errno
  | .ok number =>
    match files.table[number]? with
    | none => .error .noEntry
    | some file =>
      match file.node with
      | .directory _ entries => if file.allows .read then .ok (entries.map Prod.fst) else .error .accessDenied
      | _ => .error .notDirectory

/-- Where the link at the end of a path leads. -/
def linkAt (files : Files) (working : Nat) (path : Bytes) : Except Errno Bytes :=
  match files.lookUp false working path with
  | .error errno => .error errno
  | .ok number =>
    match (files.table[number]?).map File.node with
    | some (.link target) => .ok target
    | _ => .error .invalidArgument

/-- The path of a directory, given how deep it can lie and the path below it. -/
def pathOf (files : Files) : Nat → Nat → Bytes → Bytes
  | 0, _, below => below
  | depth + 1, directory, below =>
    match (files.table[directory]?).map File.node with
    | some (.directory above _) =>
      if above = directory then if below.isEmpty then [slash] else below
      else
        match files.nameIn? above directory with
        | none => below
        | some name => pathOf files depth above (slash :: name ++ below)
    | _ => below

/-- The regular files below a directory with their contents, each under its path from there, down to a
given depth. What may not be read counts as empty. -/
def regularBelow (files : Files) (directory : Nat) : Nat → List (Bytes × Bytes)
  | 0 => []
  | depth + 1 =>
    match files.table[directory]? with
    | none => []
    | some file =>
      match file.node with
      | .directory _ entries =>
        if !(file.allows .read && file.allows .execute) then []
        else
          entries.flatMap fun (name, number) =>
            match files.table[number]? with
            | none => []
            | some inner =>
              match inner.node with
              | .regular content => [(name, if inner.allows .read then content else [])]
              | .directory _ _ =>
                (regularBelow files number depth).map fun (path, content) => (name ++ slash :: path, content)
              | _ => []
      | _ => []

end Files

end Pipework.Kernel
