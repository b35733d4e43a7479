import ImpToC.Shell.Formula
import ImpToC.Shell.Pattern
import ImpToC.Shell.Script

/-! Expansion of words: parameters, output of commands, arithmetic; then the division into
fields, and the names of files that a pattern stands for. -/
namespace ImpToC.Shell

/-- A piece of an expanded word: a character, which may be quoted or may divide fields; the
border between two parameters; a mark that keeps an empty field. -/
inductive Piece where
  | char (c : Char) (quoted divides : Bool)
  | border
  | keep

namespace Piece

def ofText (quoted divides : Bool) (text : String) : List Piece :=
  text.toList.map fun c => char c quoted divides

/-- The characters with their quoting, as a pattern needs them, where pieces are not divided
into fields. A text stands for the borders between parameters. -/
def toMarked (between : List Char) (pieces : List Piece) : List (Char × Bool) :=
  pieces.flatMap fun piece => match piece with
    | char c quoted _ => [(c, quoted)]
    | border => between.map fun c => (c, false)
    | keep => []

def toText (between : List Char) (pieces : List Piece) : String :=
  String.ofList ((toMarked between pieces).map Prod.fst)

def dividing : Piece → Piece
  | char c false _ => char c false true
  | piece => piece

end Piece

abbrev Field := List (Char × Bool)

/-- The division into fields: those that are complete, the one that has been begun, and
whether blanks have just ended one. -/
structure Division where
  done : Array Field := #[]
  begun? : Option (List (Char × Bool)) := none
  afterBlank : Bool := false

namespace Division

def close (division : Division) : Division := match division.begun? with
  | none => division
  | some field => { done := division.done.push field.reverse }

def add (separators : List Char) (division : Division) : Piece → Division
  | .keep => { division with begun? := some (division.begun?.getD []), afterBlank := false }
  | .border => { division.close with afterBlank := false }
  | .char c quoted divides =>
    if divides && separators.contains c then
      if c = ' ' || c = '\t' || c = '\n' then
        let ends := division.begun?.isSome
        { division.close with afterBlank := ends || division.afterBlank }
      else if division.afterBlank then { division with afterBlank := false }
      else ({ division with begun? := some (division.begun?.getD []) } : Division).close
    else
      { division with begun? := some ((c, quoted) :: division.begun?.getD []), afterBlank := false }

end Division

def divide (separators : String) (pieces : List Piece) : List Field :=
  ((pieces.foldl (Division.add separators.toList) {}).close).done.toList

def fieldParts : Field → List Field
  | [] => [[]]
  | (c, quoted) :: rest =>
    match fieldParts rest with
    | [] => [[(c, quoted)]]
    | part :: parts => if c = '/' then [] :: part :: parts else ((c, quoted) :: part) :: parts

def literal (field : Field) : String := String.ofList (field.map Prod.fst)

def matching (files : FileSystem) (folder : Nat) : String → List Field → List String
  | path, [] => [path]
  | path, part :: rest =>
    let items := Item.ofMarked part
    let name := String.ofList (items.filterMap fun item => match item with
      | .char c => some c
      | _ => none)
    let path' := fun (name : String) => if rest.isEmpty then path ++ name else path ++ name ++ "/"
    if !items.any Item.isOpen then
      if rest.isEmpty && name.isEmpty then [path]
      else
        let next := path ++ name
        match files.resolve folder (if next.isEmpty then "/" else next) false with
        | .ok _ => matching files folder (path' name) rest
        | .error _ => []
    else
      match files.resolve folder (if path.isEmpty then "." else path) true with
      | .error _ => []
      | .ok n =>
        if !(files.node n).allows 4 then []
        else
          let hidden := items.head? == some (.char '.')
          let names := (if hidden then [".", ".."] else []) ++ files.names n
          (names.filter fun name =>
              (hidden || !name.startsWith ".") && Item.covers items name.toList &&
                (rest.isEmpty || match files.resolve folder (path ++ name) true with
                  | .ok m => (files.node m).isFolder
                  | .error _ => false)).flatMap
            fun name => matching files folder (path' name) rest

def isPattern (field : Field) : Bool :=
  field.any fun (c, quoted) => !quoted && (c == '*' || c == '?' || c == '[')

def fileNames (field : Field) : Act (List String) := do
  let process ← Act.process
  if process.switches.literal || !isPattern field then return [literal field]
  match matching (← Act.files) process.folder "" (fieldParts field) with
  | [] => return [literal field]
  | paths => return paths.mergeSort fun a b => decide (a ≤ b)

def home? (process : Process) (user : String) : Option String :=
  if user.isEmpty then process.value? "HOME" else if user = "root" then some "/root" else none

/-- A text that may begin with a tilde, with the home folder in its place. The name after the
tilde ends at a slash, or at the end of a word. -/
def tildeText (process : Process) (text : List Char) (whole : Bool) : Option (List Part) :=
  match text with
  | '~' :: rest =>
    let user := rest.takeWhile (· != '/')
    let after := rest.drop user.length
    if after.isEmpty && !whole then none
    else (home? process (String.ofList user)).map fun home =>
      .text home true :: if after.isEmpty then [] else [.text (String.ofList after) false]
  | _ => none

def withHome (process : Process) : Word → Word
  | .text text false :: rest =>
    ((tildeText process text.toList rest.isEmpty).getD [.text text false]) ++ rest
  | word => word

/-- A value that is assigned: a tilde may also follow a colon. The flag tells whether the word
begins here. -/
def withHomes (process : Process) : Bool → Word → Word
  | _, [] => []
  | starts, .text text false :: rest =>
    let pieces := Path.splitAt ':' text.toList
    let count := pieces.length
    let marked := pieces.zipIdx.map fun (piece, i) =>
      let whole := i + 1 < count || rest.isEmpty
      (if i > 0 then [Part.text ":" false] else []) ++
        ((if i > 0 || starts then tildeText process piece whole else none).getD
          (if piece.isEmpty then [] else [.text (String.ofList piece) false]))
    marked.flatten ++ withHomes process false rest
  | _, part :: rest => part :: withHomes process false rest

def output (run : Command → Act Unit) (command : Command) : Act String := do
  let (ending, text) ← Act.capture enterSubshell (asShell run (run command))
  Act.setProcess fun process => { process with captured := ending.status }
  tellSignal ending
  return String.ofList ((text.toList.filter (· != '\x00')).reverse.dropWhile (· == '\n')).reverse

def unsetFault {α : Type} (name message : String) : Act α := abort (name ++ ": " ++ message)

def between (process : Process) : List Char := match process.value? "IFS" with
  | none => [' ']
  | some separators => separators.toList.take 1

def allArguments (name : String) (quoted : Bool) : Act (List Piece) := do
  let process ← Act.process
  if quoted && name = "*" then
    return Piece.ofText true false ((String.ofList (between process)).intercalate process.args)
  else
    let pieces := process.args.map fun arg =>
      if quoted then .keep :: Piece.ofText true false arg else Piece.ofText false true arg
    return ([Piece.border].intercalate pieces)

def pieces (run : Command → Act Unit) : Nat → Word → Act (List Piece)
  | 0, _ => return []
  | depth + 1, word => do
    let text := fun (word : Word) => do
      return Piece.toText (between (← Act.process)) (← pieces run depth word)
    let one : Part → Act (List Piece) := fun part => do
      match part with
      | .text text quoted =>
        return if text.isEmpty && quoted then [.keep] else Piece.ofText quoted false text
      | .output command quoted => return Piece.ofText quoted (!quoted) (← output run command)
      | .formula parts quoted =>
        let expression ← text parts
        let process ← Act.process
        match Formula.evaluate process.value? expression with
        | .ok (value, assigned) =>
          for (name, value) in assigned.reverse do
            setVariable name (toString value)
          return Piece.ofText quoted (!quoted) (toString value)
        | .error (.expression reason) =>
          abort ("arithmetic expression: " ++ reason ++ ": \"" ++ expression ++ "\"")
        | .error (.variable value) => abort ("Illegal number: " ++ value)
      | .param name change quoted =>
        let process ← Act.process
        let isAll := name = "@" || name = "*"
        let value? := if isAll then
            (if process.args.isEmpty then none else some (" ".intercalate process.args))
          else process.value? name
        let given := do
          if isAll then allArguments name quoted
          else return Piece.ofText quoted (!quoted) (value?.getD "")
        match change with
        | .bad => abort "Bad substitution"
        | .none =>
          if value?.isNone && !isAll && process.switches.unset then
            unsetFault name "parameter not set"
          given
        | .length =>
          if value?.isNone && !isAll && process.switches.unset then
            unsetFault name "parameter not set"
          let size := if isAll then process.args.length else (value?.getD "").length
          return Piece.ofText quoted (!quoted) (toString size)
        | .fallback kind colon word =>
          let missing := value?.isNone || colon && value? == some ""
          let instead := do
            let pieces ← pieces run depth (if quoted then word else withHome process word)
            return if quoted then pieces else pieces.map Piece.dividing
          match kind with
          | .useDefault => if missing then instead else given
          | .alternate => if missing then return [] else instead
          | .assign =>
            if !missing then given
            else if position? name |>.isSome then abort (name ++ ": bad variable name")
            else
              let value ← text word
              setVariable name value
              return Piece.ofText quoted (!quoted) value
          | .fail =>
            if !missing then given
            else
              let message ← text word
              unsetFault name (if message.isEmpty then
                  "parameter not set" ++ (if colon then " or null" else "")
                else message)
        | .trim atEnd longest pattern =>
          if value?.isNone && !isAll && process.switches.unset then
            unsetFault name "parameter not set"
          let items := Item.ofMarked (Piece.toMarked (between process) (← pieces run depth pattern))
          let trim := if atEnd then Item.trimEnd else Item.trimStart
          let value := String.ofList (trim longest items (value?.getD "").toList)
          return Piece.ofText quoted (!quoted) value
    let mut result := #[]
    for part in word do
      result := result ++ (← one part)
    return result.toList

def maxDepth : Nat := 1000

def expandLines (run : Command → Act Unit) (word : Word) : Act String := do
  let pieces ← pieces run maxDepth word
  return Piece.toText (between (← Act.process)) pieces

def expandText (run : Command → Act Unit) (word : Word) : Act String := do
  expandLines run (withHome (← Act.process) word)

def expandValue (run : Command → Act Unit) (word : Word) : Act String := do
  expandLines run (withHomes (← Act.process) true word)

def expandPattern (run : Command → Act Unit) (word : Word) : Act (List Item) := do
  let pieces ← pieces run maxDepth (withHome (← Act.process) word)
  return Item.ofMarked (Piece.toMarked (between (← Act.process)) pieces)

def expandFields (run : Command → Act Unit) (word : Word) : Act (List String) := do
  let pieces ← pieces run maxDepth (withHome (← Act.process) word)
  let fields := divide (← Act.process).separators pieces
  let mut result := #[]
  for field in fields do
    result := result ++ (← fileNames field)
  return result.toList

def expandWords (run : Command → Act Unit) (words : List Word) : Act (List String) := do
  let mut result := #[]
  for word in words do
    result := result ++ (← expandFields run word)
  return result.toList

def assigning : List String := ["alias", "export", "local", "readonly"]

def expandCommand (run : Command → Act Unit) (words : List Word) : Act (List String) := do
  let mut result : Array String := #[]
  for word in words do
    let command? := result.toList.find? (· != "command")
    let entry? := if (command?.map assigning.contains).getD false then Parse.assignment? word
      else none
    match entry? with
    | some (name, value) => result := result.push (name ++ "=" ++ (← expandValue run value))
    | none => result := result ++ (← expandFields run word)
  return result.toList

end ImpToC.Shell
