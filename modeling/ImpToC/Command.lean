import ImpToC.Options
import ImpToC.Run
import ImpToC.Source
import ImpToC.Toolchain

/-! The command: what it prints and leaves in the files, for given options. The
stages follow each other up to the one that the options ask for, and a stage that fails
ends the command before anything is written. -/
namespace ImpToC

/-- What the command asks of a compiler. Compiling a C text gives the path of an
executable; running one gives its result and what it wrote to standard error. -/
structure Tools where
  compile : String → FileSystem → Except Toolchain.Halt String × FileSystem
  run : String → FileSystem → Except Toolchain.Halt RunOutput × String × FileSystem

def Toolchain.tools (host : Host) (toolchain : Toolchain) : Tools :=
  ⟨toolchain.compile host, toolchain.run host⟩

structure Report where
  status : Int := 0
  stdout : String := ""
  stderr : String := ""
  files : FileSystem

structure Failure where
  message : String
  cause? : Option String := none

def Failure.render (failure : Failure) : String :=
  "Error: " ++ failure.message ++
    (match failure.cause? with
      | none => ""
      | some cause => "\n\nCaused by:\n    " ++ cause) ++ "\n"

namespace Command

/-- A fault ends the command with status 1, after what has been printed so far. -/
def fail (files : FileSystem) (failure : Failure) (stdout : String) (stderr : String) :
    Report :=
  { status := 1, stdout, stderr := stderr ++ failure.render, files }

def stop (files : FileSystem) (message : String) : Report :=
  fail files { message } "" ""

def panicStatus : Int := 101

def halt (files : FileSystem) (halted : Toolchain.Halt) (stderr : String) : Report :=
  match halted with
  | .fault error => fail files { message := error.message, cause? := error.cause? } "" stderr
  | .deadline =>
    let message := "overflow when adding duration to instant\n"
    { status := panicStatus, stderr := stderr ++ message, files }

def interpret (program : Program) (files : FileSystem) : Report :=
  match program.toTree.write {} {} with
  | (.ok (), writer) => { stdout := writer.kept, files }
  | (.error .divisionByZero, writer) =>
    { status := C.Prelude.divisionByZeroStatus, stdout := writer.kept,
      stderr := "runtime error: division by zero\n", files }
  | (.error fault, writer) => fail files { message := fault.message } writer.kept ""

/-- Goes on with the files after something was written, and puts what went on to a stream of
the command in front of what it prints. -/
def afterwards (files : FileSystem) (path : String) (written : Except FileError FileSystem.Written)
    (next : FileSystem → Report) : Report :=
  let refuse := fun (files : FileSystem) (fault : FileError) =>
    fail files { message := "failed to write " ++ path, cause? := some fault.message } "" ""
  match written with
  | .error fault => refuse files fault
  | .ok (.refused files fault) => refuse files (.system fault)
  | .ok (.stored files) => next files
  | .ok .dropped => next files
  | .ok (.passedOn descriptor bytes) =>
    let report := next files
    let text := Octets.toText (Octets.ofBytes bytes)
    match descriptor with
    | 1 => { report with stdout := text ++ report.stdout }
    | 2 => { report with stderr := text ++ report.stderr }
    | _ => report

def emit (options : Options) (text : String) (files : FileSystem) : Report :=
  let path := options.output?.getD (Path.withExtension options.inputPath "c")
  afterwards files path (files.writeText path text) fun files => { files }

def runCompiled (tools : Tools) (executable : String) (files : FileSystem) : Report :=
  match tools.run executable files with
  | (.error halted, stderr, files) => halt files halted stderr
  | (.ok output, stderr, files) =>
    match output.status? with
    | some status => { status, stdout := output.stdout, stderr, files }
    | none =>
      fail files { message := "program was terminated by a signal" } output.stdout stderr

def build (options : Options) (tools : Tools) (text : String) (files : FileSystem) : Report :=
  match tools.compile text files with
  | (.error halted, files) => halt files halted ""
  | (.ok executable, files) =>
    match options.output? with
    | none => runCompiled tools executable files
    | some path =>
      afterwards files path (files.copy executable path) (runCompiled tools executable)

def process (options : Options) (tools : Tools) (program : Program) (files : FileSystem) :
    Report :=
  if options.parse then { stdout := program.toTree.render ++ "\n", files }
  else if options.interpret then interpret program files
  else
    match program.toTree.generate with
    | .error fault => stop files fault.message
    | .ok text =>
      if options.codegen then { stdout := text, files }
      else if options.emitC then emit options text files
      else build options tools text files

def run (options : Options) (tools : Tools) (files : FileSystem) : Report :=
  match files.readText options.inputPath with
  | .error fault =>
    fail files
      { message := "failed to read " ++ options.inputPath, cause? := some fault.message } "" ""
  | .ok source =>
    match Token.ofSource source with
    | .error fault => stop files fault.message
    | .ok tokens =>
      if options.lex then
        { stdout := String.join (tokens.map fun token => token.render ++ "\n"), files }
      else
        match Program.ofTokens tokens with
        | .error fault => stop files fault.message
        | .ok program => process options tools program files

end Command

def Options.toolchain (options : Options) : Toolchain :=
  ⟨options.compiler, 1000 * options.timeout⟩

end ImpToC
