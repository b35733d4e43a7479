import ImpToC.Shell.Run
import ImpToC.Shell.Schedule
import ImpToC.System.Layout
import ImpToC.Toolchain

/-! A host in which programs are scripts and utilities of a shell. -/
namespace ImpToC

namespace Launch

def firstId : Nat := 1000

def maxSteps : Nat := 300000

/-- A bound on the depth of commands and the rounds of loops, which no program reaches
before it runs out of steps. -/
def maxRounds : Nat := 1000000000

def environment : List (String × String) :=
  [("PATH", "/usr/local/sbin:/usr/local/bin:/usr/sbin:/usr/bin:/sbin:/bin")]

/-- The path of a program and what is run for it. A name without a slash is looked for where
programs are; a file there that is none is passed over. -/
def find (files : FileSystem) (name : String) (words : List String) :
    Except SystemError String :=
  let try' := fun (path : String) =>
    files.start files.work Utility.names FileSystem.maxInterpreters path words
  if name.contains '/' then (try' name).map fun _ => name
  else if name.isEmpty then .error .noSuchFile
  else if name.length > FileSystem.maxName then .error .nameTooLong
  else
    let searchPath := (environment.lookup "PATH").getD ""
    let rec go : List String → Bool → Except SystemError String
      | [], blocked => .error (if blocked then .permissionDenied else .noSuchFile)
      | path :: rest, blocked => match try' path with
        | .ok _ => .ok path
        | .error .permissionDenied => go rest true
        | .error .noSuchFile | .error .notADirectory => go rest blocked
        | .error fault => .error fault
    go (FileSystem.candidates searchPath name) false

def begin (files : FileSystem) (vars : List (String × String)) (keeps : Bool) :
    World × List Nat × Process :=
  let null := match files.resolve 0 "/dev/null" true with
    | .ok n => n
    | .error _ => 0
  let world : World := { files, nextId := firstId + 1, living := [(firstId, firstId - 1)] }
  let (world, input) := world.addFile { endpoint := .node null }
  let process : Process :=
    { id := firstId, parent := firstId - 1, shell := firstId, folder := files.work,
      vars := (environment ++ vars).map fun (name, value) =>
        (name, { value? := some value, exported := true }) }
  if keeps then
    let (world, reader, writer) := world.addPipe none
    let (world, errorReader, errorWriter) := world.addPipe none
    let pipeOf := fun (file : Nat) => match (world.file file).endpoint with
      | .pipe p => p
      | .node n => n
    (world, [pipeOf reader, pipeOf errorReader],
      { process with descriptors := [(0, input), (1, writer), (2, errorWriter)] })
  else
    let (world, output) := world.addFile { endpoint := .node null, writes := true, users := 2 }
    (world, [], { process with descriptors := [(0, input), (1, output), (2, output)] })

def start (vars : List (String × String)) (files : FileSystem) (name : String)
    (args : List String) (keeps : Bool) : Except SystemError Child := do
  let name := Octets.ofText name
  let words := name :: args.map Octets.ofText
  let path ← find files name words
  let (world, pipes, process) := begin files vars keeps
  let action : Act Nat := do
    match ← Shell.become (Shell.evaluate maxRounds) false path words Shell.maxStarts with
    | .ok status => return status
    | .error _ => return 127
  return {
    clock := 0,
    finish := fun milliseconds? =>
      let (ending?, world) := schedule process.id pipes (milliseconds?.map (1000 * ·)) maxSteps
        [⟨process.id, .time 1000, [], 0, action.toTask process⟩] world
      let kept := fun (p : Nat) => Octets.ofBytes (world.pipe p).bytes
      { ending?,
        stdout := ((pipes[0]?).map kept).getD "",
        stderr := ((pipes[1]?).map kept).getD "",
        files := world.files } }

def tempFolders : List String := (List.range 10).map fun n => "/tmp/.tmpBuild" ++ toString n

def tempFolder (files : FileSystem) : String :=
  (tempFolders.find? fun path => (files.vacant files.work path).isOk).getD "/tmp/.tmpBuild0"

def host (vars : List (String × String)) : Host := ⟨tempFolder, start vars⟩

end Launch

end ImpToC
