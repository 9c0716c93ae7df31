import LuaBundler.Text.Digits

/-!
# File errors

Why an operation on files fails, and the wording of each cause. Causes that the system reports carry
its number.
-/

namespace LuaBundler.Files

/-- Why an operation on files or programs fails. -/
inductive FileError where
  | notPermitted
  | notFound
  | noProcess
  | interrupted
  | noDevice
  | argumentsTooLong
  | execFormat
  | badDescriptor
  | noChild
  | permissionDenied
  | busy
  | exists
  | crossDevice
  | notDirectory
  | isDirectory
  | invalidArgument
  | tooManyFiles
  | notTerminal
  | noSpace
  | illegalSeek
  | brokenPipe
  | nameTooLong
  | notEmpty
  | tooManyLinks
  /-- A path holds a NUL character. -/
  | nulInPath
  /-- An argument of a program holds a NUL character. -/
  | nulInArgument
  /-- A file read as text is not well-formed UTF-8. -/
  | notText
  /-- The source of a copy is neither a file nor a link to one. -/
  | notRegular
  /-- No ancestor of a directory could be created. -/
  | noAncestor
  deriving Repr, DecidableEq

namespace FileError

/-- The wording of each cause. -/
def reason : FileError → String
  | notPermitted => "Operation not permitted"
  | notFound => "No such file or directory"
  | noProcess => "No such process"
  | interrupted => "Interrupted system call"
  | noDevice => "No such device or address"
  | argumentsTooLong => "Argument list too long"
  | badDescriptor => "Bad file descriptor"
  | noChild => "No child processes"
  | execFormat => "Exec format error"
  | permissionDenied => "Permission denied"
  | busy => "Device or resource busy"
  | .exists => "File exists"
  | crossDevice => "Invalid cross-device link"
  | notDirectory => "Not a directory"
  | isDirectory => "Is a directory"
  | invalidArgument => "Invalid argument"
  | tooManyFiles => "Too many open files"
  | notTerminal => "Inappropriate ioctl for device"
  | noSpace => "No space left on device"
  | illegalSeek => "Illegal seek"
  | brokenPipe => "Broken pipe"
  | nameTooLong => "File name too long"
  | notEmpty => "Directory not empty"
  | tooManyLinks => "Too many levels of symbolic links"
  | nulInPath => "file name contained an unexpected NUL byte"
  | nulInArgument => "nul byte found in provided data"
  | notText => "stream did not contain valid UTF-8"
  | notRegular => "the source path is neither a regular file nor a symlink to a regular file"
  | noAncestor => "failed to create whole tree"

/-- The number that the system has for a cause. -/
def number? : FileError → Option Nat
  | notPermitted => some 1
  | notFound => some 2
  | noProcess => some 3
  | interrupted => some 4
  | noDevice => some 6
  | argumentsTooLong => some 7
  | execFormat => some 8
  | badDescriptor => some 9
  | noChild => some 10
  | permissionDenied => some 13
  | busy => some 16
  | .exists => some 17
  | crossDevice => some 18
  | notDirectory => some 20
  | isDirectory => some 21
  | invalidArgument => some 22
  | tooManyFiles => some 24
  | notTerminal => some 25
  | noSpace => some 28
  | illegalSeek => some 29
  | brokenPipe => some 32
  | nameTooLong => some 36
  | notEmpty => some 39
  | tooManyLinks => some 40
  | _ => none

/-- How a cause is reported. -/
def message (e : FileError) : String :=
  match e.number? with
  | some n => e.reason ++ " (os error " ++ Text.decimal n ++ ")"
  | none => e.reason

end FileError

end LuaBundler.Files
