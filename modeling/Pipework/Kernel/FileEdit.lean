import Pipework.Kernel.Files

set_option autoImplicit false

/-!
Changes of the tree of files: names come and go, permissions and contents are set. A change that cannot be
made leaves the tree as it is.
-/

namespace Pipework.Kernel

/-- A moment to be noted. -/
inductive Stamp where
  | now
  | at (moment : Moment)
  deriving DecidableEq, Repr

/-- A change of the tree of files. -/
inductive FileEdit where
  | setMode (path : Bytes) (mode : Nat)
  /-- Sets the size of a regular file. -/
  | resize (path : Bytes) (size : Nat)
  /-- Notes when a file was used and changed last, or a link at the end of the path. -/
  | setTimes (path : Bytes) (followLast : Bool) (accessed modified : Option Stamp)
  /-- Takes away the name of a file that is no directory. -/
  | remove (path : Bytes)
  | makeDirectory (path : Bytes) (mode : Nat)
  | removeDirectory (path : Bytes)
  /-- Gives a file another name, in place of what had it before. -/
  | rename (source target : Bytes)
  /-- Gives a file one more name. -/
  | link (source target : Bytes)
  | makeLink (content path : Bytes)
  /-- Gives a name to a pipe. -/
  | makeQueue (path : Bytes) (mode pipe : Nat)
  deriving DecidableEq, Repr

/-- The moment that a stamp stands for. -/
def Stamp.moment (now : Moment) : Stamp → Moment
  | .now => now
  | .at moment => moment

namespace Files

/-- Changes the file at a path at a given moment. -/
def change (files : Files) (now : Moment) (followLast : Bool) (working : Nat) (path : Bytes)
    (edit : File → Except Errno File) : Except Errno Files :=
  match files.lookUp followLast working path with
  | .error errno => .error errno
  | .ok number =>
    match files.table[number]? with
    | none => .error .noEntry
    | some file => (edit file).map fun file => files.put number { file with changed := now }

/-- Takes a name out of a directory. -/
def eraseName (files : Files) (now : Moment) (directory : Nat) (name : Bytes) : Except Errno Files :=
  files.editEntries now directory fun entries => entries.filter fun entry => entry.1 != name

/-- The node of a file. -/
def node? (files : Files) (number : Nat) : Option Node := (files.table[number]?).map File.node

def isDirectory (files : Files) (number : Nat) : Bool :=
  match files.node? number with
  | some (.directory _ _) => true
  | _ => false

/-- Whether nothing is in a directory. -/
def isEmptyDirectory (files : Files) (number : Nat) : Bool :=
  match files.node? number with
  | some (.directory _ entries) => entries.isEmpty
  | _ => false

/-- Takes away the name of a file that is no directory. -/
def remove (files : Files) (now : Moment) (working : Nat) (path : Bytes) : Except Errno Files :=
  match files.lookUp false working path with
  | .error errno => .error errno
  | .ok number =>
    match files.findPlace working path with
    | .error errno => .error (if files.isDirectory number then .isDirectory else errno)
    | .ok (directory, name) =>
      match files.eraseName now directory name with
      | .error errno => .error errno
      | .ok remaining => if files.isDirectory number then .error .isDirectory else .ok remaining

/-- Puts a file under a new name. -/
def addFile (files : Files) (working : Nat) (path : Bytes) (make : Nat → File) :
    Except Errno Files :=
  match files.lookUp false working path with
  | .ok _ => .error .alreadyExists
  | .error .noEntry =>
    match files.findPlace working path with
    | .error errno => .error errno
    | .ok (directory, name) => (files.createAt directory name (make directory)).map Prod.snd
  | .error errno => .error errno

/-- The last name in a path. -/
def lastName (path : Bytes) : Bytes := ((trimSlashes path).splitAtByte slash).getLastD []

/-- Takes away an empty directory. -/
def removeDirectory (files : Files) (now : Moment) (working : Nat) (path : Bytes) : Except Errno Files :=
  match files.lookUp false working path with
  | .error errno => .error errno
  | .ok number =>
    if lastName path = dot then .error .invalidArgument
    else if lastName path = dotDot then .error .directoryNotEmpty
    else
      match files.findPlace working (trimSlashes path) with
      | .error .isDirectory => .error .busy
      | .error errno => .error errno
      | .ok (directory, name) =>
        match files.eraseName now directory name with
        | .error errno => .error errno
        | .ok remaining =>
          if !files.isDirectory number then .error .notDirectory
          else if !files.isEmptyDirectory number then .error .directoryNotEmpty
          else .ok remaining

/-- Whether a directory lies in another, or is the same, given how deep it can lie. -/
def liesIn (files : Files) (outer : Nat) : Nat → Nat → Bool
  | 0, _ => false
  | depth + 1, inner =>
    inner = outer ||
      (match files.node? inner with
      | some (.directory above _) => above ≠ inner && liesIn files outer depth above
      | _ => false)

/-- How deep directories can lie. -/
def depthLimit : Nat := 4096

/-- Gives a file another name, in place of what had it before. A path that ends in dots gives no name. -/
def rename (files : Files) (now : Moment) (working : Nat) (source target : Bytes) : Except Errno Files :=
  let place (path : Bytes) : Except Errno (Nat × Bytes) :=
    (files.findPlace working (trimSlashes path)).mapError fun errno =>
      if errno = .isDirectory then .busy else errno
  match files.lookUp false working (trimSlashes source), place source, place target with
  | .error errno, _, _ | _, .error errno, _ | _, _, .error errno => .error errno
  | .ok number, .ok (sourceDirectory, sourceName), .ok (directory, name) =>
    let moved : Except Errno Files :=
      match files.eraseName now sourceDirectory sourceName with
      | .error errno => .error errno
      | .ok files =>
        match files.putName now directory name number, files.table[number]? with
        | .ok files, some file =>
          let node := match file.node with
            | .directory _ entries => .directory directory entries
            | node => node
          .ok (files.put number { file with node, changed := now })
        | result, _ => result
    if !files.isDirectory number && source.getLast? = some slash then .error .notDirectory
    else match files.lookUp false directory name with
    | .error _ =>
      if files.isDirectory number && files.liesIn number depthLimit directory then
        .error .invalidArgument
      else if !files.isDirectory number && target.getLast? = some slash then .error .notDirectory
      else moved
    | .ok found =>
      if found = number then .ok files
      else if files.isDirectory number then
        if files.liesIn number depthLimit directory then .error .invalidArgument
        else if !files.isDirectory found then .error .notDirectory
        else if !files.isEmptyDirectory found then .error .directoryNotEmpty
        else moved
      else if files.isDirectory found then .error .isDirectory
      else moved

/-- Gives a file one more name. -/
def link (files : Files) (now : Moment) (working : Nat) (source target : Bytes) : Except Errno Files :=
  match files.lookUp false working source with
  | .error errno => .error errno
  | .ok number =>
    match files.lookUp false working target with
    | .ok _ => .error .alreadyExists
    | .error .noEntry =>
      if files.isDirectory number then .error .notPermitted
      else
        match files.findPlace working target with
        | .error errno => .error errno
        | .ok (directory, name) => files.putName now directory name number
    | .error errno => .error errno

/-- The content of a regular file cut off or filled up with zeros. -/
def resized (size : Nat) (now : Moment) (file : File) : Except Errno File :=
  match file.node with
  | .regular content =>
    if file.allows .write then
      .ok { file with
        node := .regular (content.take size ++ List.replicate (size - content.length) 0)
        modified := now }
    else .error .accessDenied
  | .directory _ _ => .error .isDirectory
  | _ => .error .invalidArgument

/-- Makes a change, at a given moment and for a process with a working directory. -/
def edit (files : Files) (now : Moment) (working : Nat) : FileEdit → Except Errno Files
  | .setMode path mode => files.change now true working path fun file => .ok { file with mode }
  | .resize path size => files.change now true working path (resized size now)
  | .setTimes path followLast accessed modified =>
    files.change now followLast working path fun file =>
      .ok { file with
        accessed := (accessed.map (Stamp.moment now)).getD file.accessed
        modified := (modified.map (Stamp.moment now)).getD file.modified }
  | .remove path => files.remove now working path
  | .makeDirectory path mode =>
    files.addFile working (trimSlashes path)
      fun directory => { node := .directory directory [], mode, modified := now }
  | .removeDirectory path => files.removeDirectory now working path
  | .rename source target => files.rename now working source target
  | .link source target => files.link now working source target
  | .makeLink content path =>
    if content.isEmpty then .error .noEntry
    else
      files.addFile working path
        fun _ => { node := .link content, mode := 0o777, modified := now }
  | .makeQueue path mode pipe =>
    files.addFile working path fun _ => { node := .queue pipe, mode, modified := now }

end Files

end Pipework.Kernel
