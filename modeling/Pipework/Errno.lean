set_option autoImplicit false

/-!
Reasons for which a system call fails. A reason has a name, a `description` in the words of this
program's diagnostics, and a `text` in the words of the tools that it starts; the two differ for a few.
-/

namespace Pipework

/-- Why a system call failed. -/
inductive Errno where
  | notPermitted
  | noEntry
  | noProcess
  | interrupted
  | inputOutput
  | noDevice
  | argumentListTooLong
  | notExecutable
  | badDescriptor
  | noChild
  | again
  | accessDenied
  | busy
  | alreadyExists
  | notDirectory
  | isDirectory
  | invalidArgument
  | tooManyOpen
  | noSpace
  | illegalSeek
  | brokenPipe
  | nameTooLong
  | directoryNotEmpty
  | tooManyLinks
  | outOfRange
  | valueTooLarge
  | crossDevice
  | notSupported
  | noTerminal
  deriving DecidableEq, Repr

namespace Errno

/-- The symbolic name. -/
def name : Errno → String
  | notPermitted => "EPERM"
  | noEntry => "ENOENT"
  | noProcess => "ESRCH"
  | interrupted => "EINTR"
  | inputOutput => "EIO"
  | noDevice => "ENXIO"
  | argumentListTooLong => "E2BIG"
  | notExecutable => "ENOEXEC"
  | badDescriptor => "EBADF"
  | noChild => "ECHILD"
  | again => "EAGAIN"
  | accessDenied => "EACCES"
  | busy => "EBUSY"
  | alreadyExists => "EEXIST"
  | notDirectory => "ENOTDIR"
  | isDirectory => "EISDIR"
  | invalidArgument => "EINVAL"
  | tooManyOpen => "EMFILE"
  | noSpace => "ENOSPC"
  | illegalSeek => "ESPIPE"
  | brokenPipe => "EPIPE"
  | nameTooLong => "ENAMETOOLONG"
  | directoryNotEmpty => "ENOTEMPTY"
  | tooManyLinks => "ELOOP"
  | outOfRange => "ERANGE"
  | valueTooLarge => "EOVERFLOW"
  | crossDevice => "EXDEV"
  | notSupported => "EOPNOTSUPP"
  | noTerminal => "ENOTTY"

/-- What the diagnostics of the executor and of its children say. -/
def description : Errno → String
  | notPermitted => "Operation not permitted"
  | noEntry => "No such file or directory"
  | noProcess => "No such process"
  | interrupted => "Interrupted system call"
  | inputOutput => "I/O error"
  | noDevice => "No such device or address"
  | argumentListTooLong => "Argument list too long"
  | notExecutable => "Exec format error"
  | badDescriptor => "Bad file number"
  | noChild => "No child processes"
  | again => "Try again"
  | accessDenied => "Permission denied"
  | busy => "Device or resource busy"
  | alreadyExists => "File exists"
  | notDirectory => "Not a directory"
  | isDirectory => "Is a directory"
  | invalidArgument => "Invalid argument"
  | tooManyOpen => "Too many open files"
  | noSpace => "No space left on device"
  | illegalSeek => "Illegal seek"
  | brokenPipe => "Broken pipe"
  | nameTooLong => "File name too long"
  | directoryNotEmpty => "Directory not empty"
  | tooManyLinks => "Too many symbolic links encountered"
  | outOfRange => "Math result not representable"
  | valueTooLarge => "Value too large for defined data type"
  | crossDevice => "Cross-device link"
  | notSupported => "Operation not supported on transport endpoint"
  | noTerminal => "Not a typewriter"

/-- What the diagnostics of the tools say. -/
def text : Errno → String
  | inputOutput => "Input/output error"
  | badDescriptor => "Bad file descriptor"
  | again => "Resource temporarily unavailable"
  | tooManyLinks => "Too many levels of symbolic links"
  | outOfRange => "Numerical result out of range"
  | crossDevice => "Invalid cross-device link"
  | notSupported => "Operation not supported"
  | noTerminal => "Inappropriate ioctl for device"
  | errno => errno.description

/-- The name with its description. -/
def message (errno : Errno) : String := errno.name ++ ": " ++ errno.description

end Errno

end Pipework
