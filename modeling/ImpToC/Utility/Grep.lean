import ImpToC.Text.Regex.Reader
import ImpToC.Utility.Reading

/-! Lines in which an expression is found. -/
namespace ImpToC.Utility

structure Grep where
  regexes : List Regex
  fold : Bool
  inverted : Bool
  words : Bool
  lines : Bool
  counts : Bool
  listsNames : Bool
  listsOthers : Bool
  quiet : Bool
  numbered : Bool
  offsets : Bool
  only : Bool
  named : Bool
  most? : Option Nat
  before : Nat
  after : Nat
  mark : Char

/-- What has been seen of a file: lines and bytes, lines chosen, those kept for context, how
many more are context, and the last line that was written. -/
structure GrepState where
  line : Nat := 0
  offset : Nat := 0
  found : Nat := 0
  kept : List (Nat × Nat × String) := []
  trailing : Nat := 0
  last? : Option Nat := none

namespace Grep

def find? (grep : Grep) (subject : Regex.Subject) (i : Nat) : Option (Nat × Nat) :=
  let size := subject.text.size
  let allowed := fun (i j : Nat) =>
    (!grep.lines || i == 0 && j == size) &&
      (!grep.words || !(subject.wordBefore i) && !(subject.wordAt j))
  let at_ := fun (i : Nat) => grep.regexes.foldl (fun (best? : Option Nat) regex =>
    let stops := if regex.hasAgain then (Regex.ways subject regex i []).map Prod.fst
      else Regex.ends subject regex [i]
    (stops.filter (allowed i)).foldl (fun best? j => some (max j (best?.getD j))) best?) none
  let rec go : Nat → Nat → Option (Nat × Nat)
    | 0, _ => none
    | bound + 1, i => match at_ i with
      | some j => some (i, j)
      | none => go bound (i + 1)
  go (size + 1 - i) i

def holds (grep : Grep) (subject : Regex.Subject) : Bool :=
  if grep.words || grep.lines then (grep.find? subject 0).isSome
  else grep.regexes.any fun regex => regex.occurs subject

def parts (grep : Grep) (subject : Regex.Subject) : Nat → Nat → List (Nat × String)
  | 0, _ => []
  | bound + 1, i =>
    if i > subject.text.size then []
    else match grep.find? subject i with
      | none => []
      | some (first, last) =>
        if first = last then grep.parts subject bound (last + 1)
        else (first, subject.slice first last) :: grep.parts subject bound last

def label (grep : Grep) (name : String) (mark : String) (line offset : Nat) : String :=
  (if grep.named then name ++ mark else "") ++
    (if grep.numbered then toString line ++ mark else "") ++
    (if grep.offsets then toString offset ++ mark else "")

def step (grep : Grep) (name : String) (state : GrepState) (line : Line) : Step GrepState :=
  let subject := Regex.Subject.ofString line.text grep.fold
  let ending := String.singleton grep.mark
  let number := state.line + 1
  let next := { state with line := number, offset := state.offset + line.whole.length }
  let silent := grep.counts || grep.listsNames || grep.listsOthers || grep.quiet
  if grep.holds subject != grep.inverted then
    let found := state.found + 1
    let gap := if (grep.before > 0 || grep.after > 0) && !silent then
        match state.last? with
        | some last =>
          let first := match state.kept.head? with
            | some (n, _, _) => n
            | none => number
          if last + 1 < first then "--\n" else ""
        | none => ""
      else ""
    let context := String.join (state.kept.map fun (n, offset, text) =>
      grep.label name "-" n offset ++ text ++ ending)
    let shown := if grep.only then
        if grep.inverted then ""
        else String.join ((grep.parts subject (line.text.length + 2) 0).map fun (i, text) =>
          grep.label name ":" number (state.offset + i) ++ text ++ ending)
      else grep.label name ":" number state.offset ++ line.text ++ ending
    let full := grep.most? == some found
    { state := { next with found, kept := [], trailing := grep.after, last? := some number },
      output := if silent then "" else gap ++ (if grep.only then "" else context) ++ shown,
      more := !(grep.quiet || grep.listsNames || grep.listsOthers ||
        full && (grep.after = 0 || silent)) }
  else if state.trailing > 0 then
    { state := { next with trailing := state.trailing - 1, last? := some number },
      output := if silent || grep.only then ""
        else grep.label name "-" number state.offset ++ line.text ++ ending,
      more := !(grep.most?.isSome && grep.most? == some state.found && state.trailing = 1) }
  else if grep.most?.isSome && grep.most? == some state.found then { state, more := false }
  else
    let kept := state.kept ++ [(number, state.offset, line.text)]
    { state := { next with kept := kept.drop (kept.length - grep.before) } }

end Grep

def filesBelow : Nat → String → Act (List String)
  | 0, _ => return []
  | bound + 1, path => do
    let files ← Act.files
    match files.resolve (← Act.process).folder path true with
    | .error _ => return [path]
    | .ok n =>
      if !(files.node n).isFolder || !(files.node n).allows 4 then return [path]
      let mut found := []
      for name in files.names n do
        let below := Path.join path name
        match files.resolve (← Act.process).folder below false with
        | .ok m => if !(files.node m).isLink then found := found ++ (← filesBelow bound below)
        | .error _ => pure ()
      return found

/-- Looks through one file; whether something was found, and whether there was a fault. -/
def grepFile (grep : Grep) (quietly : Bool) (path : String) : Act (Bool × Bool) := do
  let name := if path = "-" then "(standard input)" else path
  match ← openInput path with
  | .error fault =>
    if !quietly then complain (path ++ ": " ++ fault.reason)
    return (false, true)
  | .ok n =>
    let result ← if grep.most? == some 0 then pure (.ok ⟨{}, "", true⟩)
      else overLinesBy grep.mark n (grep.step name) steps {} ""
    if n = ownDescriptor then Act.close n
    match result with
    | .error fault =>
      if !quietly then complain (path ++ ": " ++ fault.reason)
      return (false, true)
    | .ok result =>
      let state := result.state
      if grep.counts && !grep.quiet then
        print ((if grep.named then name ++ ":" else "") ++ toString state.found ++ "\n")
      if grep.listsNames && state.found > 0 && !grep.quiet then printLine name
      if grep.listsOthers && state.found = 0 && !grep.quiet then printLine name
      return (if grep.listsOthers then state.found = 0 else state.found > 0, false)

def grepLetters : List (String × Char) :=
  [("extended-regexp", 'E'), ("fixed-strings", 'F'), ("basic-regexp", 'G'), ("regexp", 'e'),
   ("file", 'f'), ("ignore-case", 'i'), ("invert-match", 'v'), ("word-regexp", 'w'),
   ("line-regexp", 'x'), ("count", 'c'), ("files-with-matches", 'l'),
   ("files-without-match", 'L'), ("quiet", 'q'), ("silent", 'q'), ("no-messages", 's'),
   ("line-number", 'n'), ("only-matching", 'o'), ("no-filename", 'h'), ("with-filename", 'H'),
   ("recursive", 'r'), ("after-context", 'A'), ("before-context", 'B'), ("context", 'C'),
   ("max-count", 'm'), ("text", 'a'), ("byte-offset", 'b'), ("null-data", 'z')]

def contextWords (args : List String) : List String :=
  args.map fun word => match word.toList with
    | '-' :: c :: rest =>
      if (c :: rest).all Char.isDigit then "-C" ++ String.ofList (c :: rest) else word
    | _ => word

def grepUsage : Act Nat := do
  let _ ← Act.write 2 ("Usage: grep [OPTION]... PATTERNS [FILE]...\n" ++ hint "grep" ++ "\n")
  return 2

def grepWith (usual : Char) (args : List String) : Act Nat := do
  let parsed := Spec.parse { letters := "EFGPe:f:iyvwxclLqsnohHrRA:B:C:m:abUzTID:d:X:",
                             long := grepLetters } (contextWords args)
  if let some fault := parsed.faults.head? then
    match fault with
    | .option message =>
      complain message
      return ← grepUsage
    | fault => return ← answer 2 fault
  let given := parsed.options.filter fun option => option.1 == 'e' || option.1 == 'f'
  let mut patterns : List String := []
  for (letter, value) in given do
    if letter = 'e' then patterns := patterns ++ value.splitOn "\n"
    else
      match ← readPath value with
      | .ok text => patterns := patterns ++ (linesOf text).map Line.text
      | .error fault =>
        complain (value ++ ": " ++ fault.reason)
        return 2
  if given.isEmpty && parsed.words.isEmpty then return ← grepUsage
  let paths := if given.isEmpty then parsed.words.tail else parsed.words
  if given.isEmpty then patterns := (parsed.words.headD "").splitOn "\n"
  let form := ((parsed.options.reverse.find? fun option =>
    ['E', 'F', 'G', 'P'].contains option.1).map Prod.fst).getD usual
  let dialect : Regex.Dialect :=
    { extended := form = 'E' || form = 'P', controls := form = 'P', looseClose := true }
  let mut regexes := []
  for pattern in patterns do
    if form = 'F' then regexes := regexes ++ [Regex.ofLiteral pattern]
    else
      match Regex.read dialect pattern with
      | .ok regex => regexes := regexes ++ [regex]
      | .error message =>
        complain message
        return 2
  let number := fun (letter : Char) => (parsed.value? letter).bind natural?
  for (letter, value) in parsed.options do
    if ['A', 'B', 'C'].contains letter && (natural? value).isNone then
      complain (value ++ ": invalid context length argument")
      return 2
    if letter = 'm' && (natural? value).isNone then
      complain "invalid max count"
      return 2
  let recursive := parsed.has 'r' || parsed.has 'R'
  let paths := if paths.isEmpty then [if recursive then "." else "-"] else paths
  let named := if parsed.has 'h' then false else if parsed.has 'H' then true
    else recursive || paths.length > 1
  let mut all := []
  for path in paths do
    if recursive && path != "-" then
      let below ← filesBelow 100 path
      all := all ++ (if parsed.words.length ≤ (if given.isEmpty then 1 else 0)
        then below.map fun path => (path.drop 2).toString else below)
    else all := all ++ [path]
  let context := (number 'C').getD 0
  let grep : Grep :=
    { regexes, fold := parsed.has 'i' || parsed.has 'y', inverted := parsed.has 'v',
      words := parsed.has 'w', lines := parsed.has 'x', counts := parsed.has 'c',
      listsNames := parsed.has 'l', listsOthers := parsed.has 'L', quiet := parsed.has 'q',
      numbered := parsed.has 'n', offsets := parsed.has 'b', only := parsed.has 'o', named,
      most? := number 'm', before := (number 'B').getD context,
      after := (number 'A').getD context,
      mark := if parsed.has 'z' then '\x00' else '\n' }
  let rec go : List String → Bool → Bool → Act Nat
    | [], found, failed =>
      return if failed && !(grep.quiet && found) then 2 else if found then 0 else 1
    | path :: rest, found, failed => do
      let (here, fault) ← grepFile grep (parsed.has 's') path
      if grep.quiet && here then return 0
      go rest (found || here) (failed || fault)
  go all false false

end ImpToC.Utility
