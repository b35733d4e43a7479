import ImpToC.Platform
import ImpToC.System.World
import ImpToC.Text.Seconds

/-! The external compiler. It is started with the C text in a temporary directory, has to
leave an executable beside it, and both it and the executable get a fixed time. How programs
are started, and which directory is the temporary one, is left to the host. -/
namespace ImpToC

inductive ToolchainError where
  | spawn (program reason : String)
  | io (reason : String)
  | compileFailed (status? : Option Int) (stderr : String)
  | timedOut (milliseconds : Nat)
  deriving DecidableEq, Repr

namespace ToolchainError

def message : ToolchainError → String
  | spawn program reason => "failed to start " ++ program ++ ": " ++ reason
  | io reason => reason
  | compileFailed status? stderr =>
    "C compiler failed" ++
      (match status? with
        | some status => " with exit code " ++ toString status
        | none => " (terminated by a signal)") ++
      ":\n" ++ stderr
  | timedOut milliseconds => "timed out after " ++ Seconds.render milliseconds ++ "s"

def cause? : ToolchainError → Option String
  | spawn _ reason => some reason
  | _ => none

end ToolchainError

structure RunOutput where
  status? : Option Int
  stdout : String
  deriving DecidableEq, Repr

def RunOutput.success (output : RunOutput) : Bool := output.status? == some 0

structure Finished where
  ending? : Option Ending
  stdout : String
  stderr : String
  files : FileSystem

structure Child where
  clock : Nat
  finish : Option Nat → Finished

/-- What is around the command: the path of a temporary directory that does not exist yet, and
how a program of a given name is started with arguments, where its output may be kept. -/
structure Host where
  tempFolder : FileSystem → String
  start : FileSystem → String → List String → Bool → Except SystemError Child

inductive Toolchain.Halt where
  | fault (error : ToolchainError)
  | deadline
  deriving DecidableEq, Repr

inductive Toolchain.Wait where
  | ended (ending : Ending)
  | timedOut
  | abandoned
  deriving DecidableEq, Repr

structure Toolchain where
  compiler : String
  milliseconds : Nat
  deriving DecidableEq, Repr

namespace Toolchain

def sourcePath (folder : String) : String := Path.join folder "program.c"

def executablePath (folder : String) : String :=
  Path.join folder (Platform.host.executableName "program")

def maxClock : Nat := 9223372036854775807

def spawn (host : Host) (files : FileSystem) (name : String) (args : List String) (keeps : Bool) :
    Except ToolchainError Child :=
  if name.toList.contains '\x00' then
    .error (.spawn "<string-with-nul>" "nul byte found in provided data")
  else
    match host.start files name args keeps with
    | .error fault => .error (.spawn name fault.message)
    | .ok child => .ok child

def isAvailable (host : Host) (toolchain : Toolchain) (files : FileSystem) : Bool × FileSystem :=
  match spawn host files toolchain.compiler ["--version"] false with
  | .ok child => (true, (child.finish none).files)
  | .error _ => (false, files)

/-- Runs a program until its time is over. The deadline is reckoned once the program has been
started; where the clock cannot show it, the program is left to itself. -/
def launch (host : Host) (toolchain : Toolchain) (files : FileSystem) (name : String)
    (args : List String) : Except ToolchainError (Wait × Finished) :=
  match spawn host files name args true with
  | .error fault => .error fault
  | .ok child =>
    if maxClock < child.clock + toolchain.milliseconds / 1000 then
      .ok (.abandoned, child.finish none)
    else
      let finished := child.finish (some toolchain.milliseconds)
      match finished.ending? with
      | none => .ok (.timedOut, finished)
      | some ending => .ok (.ended ending, finished)

def prepare (host : Host) (source : String) (files : FileSystem) :
    Except ToolchainError String × FileSystem :=
  let folder := host.tempFolder files
  match files.makeFolder files.work (Octets.ofText folder) 0o700 with
  | .error fault => (.error (.io fault.message), files)
  | .ok made =>
    match made.writeText (sourcePath folder) source with
    | .error fault => (.error (.io fault.message), made)
    | .ok (.refused files fault) => (.error (.io fault.message), files)
    | .ok (.stored files) => (.ok folder, files)
    | .ok _ => (.ok folder, made)

/-- Compiles a C text. The answer is the path of the executable, whether or not the
compiler has put something there. -/
def compile (host : Host) (toolchain : Toolchain) (source : String) (files : FileSystem) :
    Except Halt String × FileSystem :=
  match prepare host source files with
  | (.error fault, files) => (.error (.fault fault), files)
  | (.ok folder, files) =>
    match toolchain.launch host files toolchain.compiler
        ["-std=c99", "-O2", "-o", executablePath folder, sourcePath folder] with
    | .error fault => (.error (.fault fault), files)
    | .ok (wait, finished) =>
      let stderr := Octets.toText finished.stderr
      let result := match wait with
        | .abandoned => .error .deadline
        | .timedOut => .error (.fault (.timedOut toolchain.milliseconds))
        | .ended (.killed _) => .error (.fault (.compileFailed none stderr))
        | .ended (.exited 0) => .ok (executablePath folder)
        | .ended (.exited code) => .error (.fault (.compileFailed (some code) stderr))
      (result, finished.files)

def run (host : Host) (toolchain : Toolchain) (executable : String) (files : FileSystem) :
    Except Halt RunOutput × String × FileSystem :=
  match toolchain.launch host files executable [] with
  | .error fault => (.error (.fault fault), "", files)
  | .ok (wait, finished) =>
    let stdout := Octets.toText finished.stdout
    let result := match wait with
      | .abandoned => .error .deadline
      | .timedOut => .error (.fault (.timedOut toolchain.milliseconds))
      | .ended (.killed _) => .ok ⟨none, stdout⟩
      | .ended (.exited code) => .ok ⟨some code, stdout⟩
    (result, Octets.toText finished.stderr, finished.files)

end Toolchain

end ImpToC
