import Pipework.Kernel.System
import Pipework.Shell.Start
import Pipework.Tool.Block
import Pipework.Tool.Canonical
import Pipework.Tool.Checksum
import Pipework.Tool.Column
import Pipework.Tool.Copy
import Pipework.Tool.Count
import Pipework.Tool.Cut
import Pipework.Tool.Date
import Pipework.Tool.Division
import Pipework.Tool.Dump
import Pipework.Tool.Edit
import Pipework.Tool.Encoding
import Pipework.Tool.Excerpt
import Pipework.Tool.Expression
import Pipework.Tool.Fill
import Pipework.Tool.Format
import Pipework.Tool.Linking
import Pipework.Tool.Listing
import Pipework.Tool.Making
import Pipework.Tool.Merge
import Pipework.Tool.Measure
import Pipework.Tool.Moving
import Pipework.Tool.NumberLines
import Pipework.Tool.Owner
import Pipework.Tool.Page
import Pipework.Tool.Permuted
import Pipework.Tool.Precedence
import Pipework.Tool.Predicate
import Pipework.Tool.Removal
import Pipework.Tool.Repeated
import Pipework.Tool.Search
import Pipework.Tool.Section
import Pipework.Tool.Sequence
import Pipework.Tool.Sort
import Pipework.Tool.Special
import Pipework.Tool.Surroundings
import Pipework.Tool.Translate
import Pipework.Tool.Turn
import Pipework.Tool.Words
import Pipework.Tool.Wrapper

set_option autoImplicit false

/-!
The tools by name.
-/

namespace Pipework.Tool

open Kernel

/-- Tools that fail like most others do. -/
def plainTools : List (String × (List Text → Work Unit)) :=
  [("true", succeed), ("csplit", csplit), ("ptx", ptx), ("false", failSilently), ("cat", cat), ("tee", tee), ("yes", yes), ("sleep", sleep),
    ("echo", echo), ("printf", printf), ("basename", basename), ("dirname", dirname), ("rm", rm),
    ("rmdir", rmdir), ("unlink", unlink), ("mkdir", mkdir), ("touch", touch), ("truncate", truncate),
    ("link", link), ("chmod", chmod), ("readlink", readlink),
    ("realpath", realpath), ("stat", stat), ("uniq", uniq), ("nl", nl), ("cut", cut),
    ("shuf", shuf), ("fmt", fmt), ("dd", dd), ("whoami", whoami), ("arch", arch),
    ("logname", logname), ("groups", groups), ("id", userIdentity), ("uname", uname),
    ("paste", paste), ("fold", fold), ("expand", expand), ("unexpand", unexpand), ("tr", tr),
    ("comm", comm), ("join", join), ("tsort", tsort), ("od", od), ("seq", seq), ("factor", factor),
    ("base64", alphabetTool .base64), ("base32", alphabetTool .base32), ("basenc", basenc), ("test", test), ("[", bracket),
    ("mkfifo", mkfifo), ("mknod", mknod), ("pathchk", pathchk), ("chown", chown), ("chgrp", chgrp),
    ("numfmt", numfmt)]

/-- Tools that complain late about output. -/
def lateTools : List (String × (List Text → Work Unit)) :=
  [("wc", wc), ("cksum", cksum), ("sum", sum), ("md5sum", digestTool "MD5" Digest.md5),
    ("sha1sum", digestTool "SHA1" Digest.sha1), ("sha224sum", digestTool "SHA224" Digest.sha224),
    ("sha256sum", digestTool "SHA256" Digest.sha256), ("sha384sum", digestTool "SHA384" Digest.sha384),
    ("sha512sum", digestTool "SHA512" Digest.sha512), ("b2sum", b2sum)]

/-- The habits of tools that search. -/
def searchHabits : Habits := { failure := 2, usage := Search.usage }

/-- Tools with habits of their own. -/
def peculiarTools : List (String × Tool) :=
  [("sort", .of { failure := 2, unwritten := sortOutputComplaint } sort),
    ("head", .of { unwritten := excerptComplaint } head),
    ("tail", .of { unwritten := excerptComplaint } tail),
    ("sed", .of
      { failure := 4, unwritten := editComplaint, inOrder := false, misuse := some 1
        usage := fun _ => sedUsage.toList } sed),
    ("ls", .of { failure := 2 } ls),
    ("dir", .of { failure := 2 } dir),
    ("vdir", .of { failure := 2 } vdir),
    ("tac", .of { inOrder := false } tac),
    ("expr", .of { failure := 3, misuse := some 2 } expr),
    ("tty", .of { failure := 3, misuse := some 2 } tty),
    ("rev", fun invocation =>
      Tool.of { unwritten := revComplaint, inOrder := false } rev
        { invocation with name := lastComponent invocation.name })]

/-- Tools that use their environment. -/
def surroundedTools : List (String × Habits × (Variables → List Text → Work Unit)) :=
  [("pwd", {}, pwd), ("printenv", { failure := 2 }, printenv), ("env", { failure := runnerFailure }, env),
    ("xargs", {}, xargs), ("nice", { failure := runnerFailure }, nice),
    ("nohup", { failure := runnerFailure }, nohup), ("stdbuf", { failure := runnerFailure }, stdbuf),
    ("timeout", { failure := runnerFailure }, timeout), ("split", {}, split), ("date", {}, date), ("pr", {}, pr),
    ("mktemp", {}, mktemp), ("cp", {}, cp), ("mv", {}, mv), ("install", {}, install), ("ln", {}, ln),
    ("grep", searchHabits, grep),
    ("egrep", searchHabits, oldGrep "-E".toList), ("fgrep", searchHabits, oldGrep "-F".toList)]

/-- All tools. -/
def table : List (String × Tool) :=
  plainTools.map (fun (name, work) => (name, Tool.of {} work)) ++
    lateTools.map (fun (name, work) => (name, Tool.of { unwritten := lateComplaint } work)) ++
    peculiarTools ++
    surroundedTools.map fun (name, habits, work) =>
      (name, fun invocation => Tool.of habits (work (variablesOf invocation.environment)) invocation)

/-- The names under which the shell is found. -/
def shellNames : List String := ["sh", "dash"]

/-- The names of all tools. -/
def names : List String := shellNames ++ table.map Prod.fst

/-- The program behind a name, started with arguments and an environment. -/
def start? (name : String) (arguments : List Bytes) (environment : Environment) :
    Option (Task Nat) :=
  if shellNames.contains name then some (Shell.program arguments environment)
  else (table.lookup name).map fun tool =>
    tool { name := Bytes.toChars (arguments.headD []), arguments := arguments.tail.map Bytes.toChars, environment }

end Pipework.Tool
