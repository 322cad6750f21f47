import Pipework.Executor.Execution
import Pipework.Image

set_option autoImplicit false

/-!
A machine with tools. Its files are those that programs look for, and a working directory with an empty
`bin` in it; it has one process, which executes pipelines.
-/

namespace Pipework

open Kernel

/-- A machine whose images are tools and scripts. -/
abbrev ToolMachine := Machine Image.State

namespace ToolMachine

/-- Puts files in place one after the other; one that cannot be put in place is left out. -/
def installAll (files : Files) (working : Nat) (entries : List (Bytes × File)) : Files :=
  entries.foldl (fun files (path, file) => (files.install working path file).toOption.getD files) files

/-- The directory in which everything begins. -/
def workingPath : Bytes := Bytes.ofString "/tmp/work"

/-- When everything begins, in milliseconds since the start of 1970. -/
def startTime : Nat := 1767225600000

/-- The files that programs look for. -/
def systemFiles : Files :=
  let file (path : String) (node : Node) (mode : Nat) : Bytes × File :=
    (Bytes.ofString path, { node, mode, modified := (startTime : Int) * 1000000 })
  let tools := Tool.names.map fun name => file ("/usr/bin/" ++ name) (.tool (Bytes.ofString name)) 0o755
  installAll Files.empty Files.root
    ([file "/bin" (.link (Bytes.ofString "/usr/bin")) 0o777,
      file "/dev/null" (.device .null) 0o666,
      file "/dev/zero" (.device .zero) 0o666,
      file "/dev/full" (.device .full) 0o666,
      file "/etc/passwd" (.regular []) 0o644,
      file "/proc/self/fd" (.directory 0 []) 0o555,
      file "/tmp" (.directory 0 []) 0o1777,
      file "/tmp/work/bin" (.directory 0 []) 0o755] ++ tools)

/-- The files of a new machine and its working directory, in which the given files are put. -/
def newFiles (entries : List (Bytes × File)) : Nat × Files :=
  let files := systemFiles
  let working := (files.find Files.root workingPath).toOption.getD Files.root
  let moment : Moment := (startTime : Int) * 1000000
  let dated (file : File) : File := { file with modified := moment, accessed := moment, changed := moment }
  (working, installAll files working (entries.map fun (path, file) => (path, dated file)))

/-- The number of the process that executes pipelines. -/
def host : Nat := 100

/-- The default of the search path of a session. -/
def searchPath : Bytes := Bytes.ofString "bin:/usr/bin:/bin"

/-- A machine with one process, which finds programs along a search path, if there is one, and survives
the given signals. -/
def make (entries : List (Bytes × File)) (path : Option Bytes) (handled : List Signal) :
    ToolMachine :=
  let (working, files) := newFiles entries
  { processes := Std.ExtTreeMap.empty.insert host
      { program := .executor (.fresh .idle)
        environment :=
          (path.map fun path => (Image.searchPathName, path)).toList ++
            [(Bytes.ofString "LC_ALL", Bytes.ofString "C")]
        working
        ignored := [Signal.pipe]
        handled }
    nextProcess := host + 1
    pipes := Std.ExtTreeMap.empty
    nextPipe := 0
    files
    shape := {}
    clock := startTime }

/-- How processes of such a machine act. -/
def behaviour : Behaviour (Program Image.State) := Program.behaviour Image.behaviour

/-- Carries out a run. -/
def execute (machine : ToolMachine) (run : Run) : Execution ToolMachine :=
  Machine.execute Image.behaviour host machine run

/-- The descriptors of the host. -/
def descriptors (machine : ToolMachine) : DescriptorTable :=
  ((machine.processes[host]?).map Process.descriptors).getD Std.ExtTreeMap.empty

/-- Gives the host other descriptors. -/
def putDescriptors (machine : ToolMachine) (descriptors : DescriptorTable) : ToolMachine :=
  { machine with
    processes := machine.processes.modify host fun process => { process with descriptors } }

/-- A new file without a name, opened in some way: the file and the opening. -/
def openNew (machine : ToolMachine) (node : Node) (access : Access) : Nat × Nat × ToolMachine :=
  let (file, files) := machine.files.create { node, mode := 0o644 }
  let (opening, files) := files.openFile file access
  (file, opening, { machine with files })

/-- The bytes in a file. -/
def content (machine : ToolMachine) (file : Nat) : Bytes :=
  match (machine.files.table[file]?).map File.node with
  | some (.regular content) => content
  | _ => []

/-- How deep directories are searched. -/
def searchDepth : Nat := 64

/-- The regular files below the working directory. -/
def workingFiles (machine : ToolMachine) : List (Bytes × Bytes) :=
  match machine.processes[host]? with
  | none => []
  | some process => machine.files.regularBelow process.working searchDepth

/-- The files that are new or changed, with their contents, and those that are gone. -/
def changes (before after : List (Bytes × Bytes)) : List (Bytes × Option Bytes) :=
  (after.filterMap fun (path, content) =>
    if before.lookup path = some content then none else some (path, some content)) ++
  (before.filterMap fun (path, _) =>
    if (after.lookup path).isSome then none else some (path, none))

end ToolMachine

end Pipework
