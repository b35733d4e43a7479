import ImpToC.Shell.Process

/-! Input and output of programs: whole texts, or lines as they come. -/
namespace ImpToC.Utility

def steps : Nat := 1000000000

def complain (message : String) : Act Unit := do
  let _ ← Act.write 2 ((← Act.process).name ++ ": " ++ message ++ "\n")

/-- Writes to standard output. A program that cannot do so says so and gives up. -/
def print (octets : String) : Act Unit := do
  match ← Act.write 1 octets with
  | .ok () => return
  | .error fault =>
    complain ("write error: " ++ fault.reason)
    Act.throw (.exit 1)

def printLine (octets : String) : Act Unit := print (octets ++ "\n")

def readAll (n : Nat) : Nat → String → Act (Except SystemError String)
  | 0, before => return .ok before
  | bound + 1, before => do
    match ← Act.receive n 65536 with
    | .error fault => return .error fault
    | .ok bytes =>
      if bytes.isEmpty then return .ok before
      readAll n bound (before ++ Octets.ofBytes bytes)

structure Line where
  text : String
  ended : Bool := true

def Line.wholeBy (mark : Char) (line : Line) : String :=
  if line.ended then line.text.push mark else line.text

def Line.whole (line : Line) : String := line.wholeBy '\n'

def linesBy (mark : Char) (octets : String) : List Line :=
  match (octets.splitOn (String.singleton mark)).reverse with
  | [] => []
  | last :: before =>
    (before.reverse.map fun text => ⟨text, true⟩) ++ if last.isEmpty then [] else [⟨last, false⟩]

def linesOf (octets : String) : List Line := linesBy '\n' octets

structure Step (σ : Type) where
  state : σ
  output : String := ""
  more : Bool := true

def stepLines {σ : Type} (step : σ → Line → Step σ) : σ → String → List Line → Step σ × List Line
  | state, output, [] => (⟨state, output, true⟩, [])
  | state, output, line :: rest =>
    let next := step state line
    if next.more then stepLines step next.state (output ++ next.output) rest
    else (⟨next.state, output ++ next.output, false⟩, rest)

/-- Steps over the lines of a descriptor as they come, and writes what the steps give. The
text is the start of a line that is not yet complete. A program that stops early leaves a
file, other than a pipe, where the next line begins. -/
def overLinesBy {σ : Type} (mark : Char) (n : Nat) (step : σ → Line → Step σ) :
    Nat → σ → String → Act (Except SystemError (Step σ))
  | 0, state, _ => return .ok ⟨state, "", true⟩
  | bound + 1, state, begun => do
    match ← Act.receive n Act.chunk with
    | .error fault => return .error fault
    | .ok bytes =>
      let text := begun ++ Octets.ofBytes bytes
      let lines := linesBy mark text
      let (complete, begun) := if bytes.isEmpty then (lines, "") else
        (lines.filter Line.ended, String.join ((lines.filter (!·.ended)).map Line.text))
      let (result, left) := stepLines step state "" complete
      print result.output
      if !result.more then
        Act.unreceive n ((left.map fun line => line.whole.length).foldl (· + ·) 0 + begun.length)
        return .ok { result with output := "" }
      else if bytes.isEmpty then return .ok { result with output := "" }
      else overLinesBy mark n step bound result.state begun

def overLines {σ : Type} (n : Nat) (step : σ → Line → Step σ) :
    Nat → σ → String → Act (Except SystemError (Step σ)) :=
  overLinesBy '\n' n step

def ownDescriptor : Nat := 1000

def openInput (path : String) : Act (Except SystemError Nat) := do
  if path = "-" then return .ok 0
  match ← Act.openPath path { reads := true } false with
  | .error fault => return .error fault
  | .ok file =>
    Act.assign ownDescriptor file
    return .ok ownDescriptor

def passingDescriptor : Nat := 2000

def readPath (path : String) : Act (Except SystemError String) := do
  if path = "-" then return ← readAll 0 steps ""
  match ← Act.openPath path { reads := true } false with
  | .error fault => return .error fault
  | .ok file =>
    Act.assign passingDescriptor file
    let result ← readAll passingDescriptor steps ""
    Act.close passingDescriptor
    return result

/-- The texts of files, standard input if there are none. A file that cannot be read is
complained about and left out; the status tells whether that happened. -/
def readPaths (paths : List String) : Act (List (String × String) × Nat) := do
  let mut texts := #[]
  let mut status := 0
  for path in (if paths.isEmpty then ["-"] else paths) do
    match ← readPath path with
    | .ok text => texts := texts.push (path, text)
    | .error fault =>
      complain (path ++ ": " ++ fault.reason)
      status := 1
  return (texts.toList, status)

def writePath (path octets : String) : Act (Except SystemError Unit) := do
  match ← Act.openPath path { writes := true, creates := true, truncates := true } false with
  | .error fault => return .error fault
  | .ok file =>
    Act.assign passingDescriptor file
    let result ← Act.write passingDescriptor octets
    Act.close passingDescriptor
    return result

end ImpToC.Utility
