/-! Why the system refuses a request. -/
namespace ImpToC

inductive SystemError where
  | notPermitted | noSuchFile | noSuchProcess | noSuchDevice | execFormat | badDescriptor
  | permissionDenied | fileExists | crossDevice | notADirectory | isADirectory | invalidArgument
  | noSpace | illegalSeek | brokenPipe | outOfRange | nameTooLong | notEmpty | tooManyLinks
  deriving DecidableEq, Repr

namespace SystemError

def number : SystemError → Nat
  | notPermitted => 1
  | noSuchFile => 2
  | noSuchProcess => 3
  | noSuchDevice => 6
  | execFormat => 8
  | badDescriptor => 9
  | permissionDenied => 13
  | fileExists => 17
  | crossDevice => 18
  | notADirectory => 20
  | isADirectory => 21
  | invalidArgument => 22
  | noSpace => 28
  | illegalSeek => 29
  | brokenPipe => 32
  | outOfRange => 34
  | nameTooLong => 36
  | notEmpty => 39
  | tooManyLinks => 40

def reason : SystemError → String
  | notPermitted => "Operation not permitted"
  | noSuchFile => "No such file or directory"
  | noSuchProcess => "No such process"
  | noSuchDevice => "No such device or address"
  | execFormat => "Exec format error"
  | badDescriptor => "Bad file descriptor"
  | permissionDenied => "Permission denied"
  | fileExists => "File exists"
  | crossDevice => "Invalid cross-device link"
  | notADirectory => "Not a directory"
  | isADirectory => "Is a directory"
  | invalidArgument => "Invalid argument"
  | noSpace => "No space left on device"
  | illegalSeek => "Illegal seek"
  | brokenPipe => "Broken pipe"
  | outOfRange => "Numerical result out of range"
  | nameTooLong => "File name too long"
  | notEmpty => "Directory not empty"
  | tooManyLinks => "Too many levels of symbolic links"

def message (fault : SystemError) : String :=
  fault.reason ++ " (os error " ++ toString fault.number ++ ")"

end SystemError

end ImpToC
