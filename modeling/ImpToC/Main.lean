import ImpToC.Command
import ImpToC.Launch

/-! The program. It looks at the paths that its options name, lets the command work on
what it found there, and writes the files that the command changed. -/
namespace ImpToC.Main

def usage : String := "Usage: toyc [OPTIONS] <INPUT_PATH>\n"

/-- The help, which shows the compiler that the environment names. -/
def help (compiler? : Option String) : String :=
  "Translate a program to C, then compile and run it\n\n" ++ usage ++
  "\nArguments:\n" ++
  "  <INPUT_PATH>  Path to the source file\n" ++
  "\nOptions:\n" ++
  "  -l, --lex                Run the lexer only\n" ++
  "  -p, --parse              Run the lexer and parser only\n" ++
  "  -c, --codegen            Run lexer, parser and code generation, printing the C source\n" ++
  "  -S, --emit-c             Write the generated C to a file but do not compile it\n" ++
  "  -i, --interpret          Run the program with the built-in evaluator instead of a C " ++
  "compiler\n" ++
  "  -o, --output <OUTPUT>    Where to keep the compiled executable (or the C file with " ++
  "--emit-c)\n" ++
  "      --cc <CC>            C compiler used to build the generated source [env: CC=" ++
  compiler?.getD "" ++ "] [default: cc]\n" ++
  "      --timeout <TIMEOUT>  Seconds allowed for compiling and for running the program " ++
  "[default: 10]\n" ++
  "  -h, --help               Print help\n" ++
  "  -V, --version            Print version\n"

def version : String := "toyc 0.1.0\n"

/-- What is wrong with the words, if anything is. -/
def reason? : OptionError → Option String
  | .unknownArgument => some "unexpected argument found"
  | .tooManyValues => some "unexpected value for an argument found"
  | .invalidValue => some "one of the values isn't valid for an argument"
  | .valueValidation => some "invalid value for one of the arguments"
  | .argumentConflict =>
    some "an argument cannot be used with one or more of the other specified arguments"
  | .missingRequiredArgument => some "one or more required arguments were not provided"
  | .displayHelp | .displayVersion => none

def absolute (folder path : String) : List String :=
  let names := if Path.isAbsolute path then Path.names path
    else Path.names folder ++ Path.names path
  (names.foldl (fun above name =>
    if name = "." then above else if name = ".." then above.drop 1 else name :: above) []).reverse

def look (folder : String) (files : FileSystem) (path : String) : IO FileSystem := do
  try
    let bytes ← IO.FS.readBinFile path
    return files.give (absolute folder path) 0 0o755 bytes
  catch _ => return files

def survey (options : Options) : IO FileSystem := do
  let folder := (← IO.currentDir).toString
  let paths := [options.inputPath, options.compiler, Path.withExtension options.inputPath "c"] ++
    options.output?.toList
  let mut files := (FileSystem.system Utility.names).workIn (Path.names folder) 0
  for path in paths do
    files ← look folder files path
  return files

/-- Writes the files in the working folder, and at the output path, that are new or have
changed. -/
def commit (options : Options) (before after : FileSystem) : IO Unit := do
  for path in after.listing.map Prod.fst ++ options.output?.toList do
    match before.read path, after.read path with
    | .ok old, .ok new => if old.toList != new.toList then IO.FS.writeBinFile path new
    | .error _, .ok new => IO.FS.writeBinFile path new
    | _, .error _ => pure ()

def runCommand (options : Options) (compiler? : Option String) : IO UInt32 := do
  let before ← survey options
  let host := Launch.host (compiler?.toList.map fun name => ("CC", name))
  let tools := options.toolchain.tools host
  let report := Command.run options tools before
  commit options before report.files
  let stdout ← IO.getStdout
  stdout.putStr report.stdout
  stdout.flush
  let stderr ← IO.getStderr
  stderr.putStr report.stderr
  return report.status.toNat.toUInt32

def refuse (fault : OptionError) (compiler? : Option String) : IO UInt32 := do
  match reason? fault with
  | none =>
    (← IO.getStdout).putStr (if fault = .displayHelp then help compiler? else version)
    return 0
  | some reason =>
    (← IO.getStderr).putStr
      ("error: " ++ reason ++ "\n\n" ++ usage ++ "\nFor more information, try '--help'.\n")
    return 2

end ImpToC.Main

def main (args : List String) : IO UInt32 := do
  let compiler? ← IO.getEnv "CC"
  match ImpToC.Options.ofWords args compiler? with
  | .ok options => ImpToC.Main.runCommand options compiler?
  | .error fault => ImpToC.Main.refuse fault compiler?
