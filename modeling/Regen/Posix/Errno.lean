/-!
# Errors of the system

Why a system call fails, with the words that programs print for it.
-/

namespace Regen.Posix

/-- Why a system call fails. -/
inductive Errno
  | notPermitted
  | missing
  | noProcess
  | noExec
  | badDescriptor
  | noChild
  | denied
  | busy
  | exists
  | crossDevice
  | noDevice
  | notDirectory
  | isDirectory
  | invalid
  | notTerminal
  | noSpace
  | noSeek
  | brokenPipe
  | tooLong
  | notEmpty
  | loop
  | interrupted
  deriving Repr, DecidableEq

/-- The words for a failure. -/
def Errno.message : Errno → String
  | notPermitted => "Operation not permitted"
  | missing => "No such file or directory"
  | noProcess => "No such process"
  | noExec => "Exec format error"
  | badDescriptor => "Bad file descriptor"
  | noChild => "No child processes"
  | denied => "Permission denied"
  | busy => "Device or resource busy"
  | .exists => "File exists"
  | crossDevice => "Invalid cross-device link"
  | noDevice => "No such device or address"
  | notDirectory => "Not a directory"
  | isDirectory => "Is a directory"
  | invalid => "Invalid argument"
  | notTerminal => "Inappropriate ioctl for device"
  | noSpace => "No space left on device"
  | noSeek => "Illegal seek"
  | brokenPipe => "Broken pipe"
  | tooLong => "File name too long"
  | notEmpty => "Directory not empty"
  | loop => "Too many levels of symbolic links"
  | interrupted => "Interrupted system call"

end Regen.Posix
