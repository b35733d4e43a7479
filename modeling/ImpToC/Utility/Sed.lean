import ImpToC.Utility.Reading
import ImpToC.Utility.Sed.Script

/-! The stream editor: its script is gone through for each line of its input. -/
namespace ImpToC.Utility.Sed

/-- Lines still to be worked on: those read already, the start of one more, the files not yet
opened, and whether one is open. -/
structure Source where
  mark : Char := '\n'
  pending : List Line := []
  begun : String := ""
  paths : List String := []
  open_ : Bool := false
  name : String := "-"
  status : Nat := 0

inductive Added where
  | text (s : String)
  | file (path : String)

structure State where
  source : Source
  pattern : String := ""
  ended : Bool := true
  held : String := ""
  line : Nat := 0
  added : List Added := []
  replaced : Bool := false
  last? : Option Expression := none
  ranges : List (Nat × Option Nat) := []
  outputs : List (String × Nat) := []
  unfinished : List Nat := []
  edited? : Option String := none

structure Settings where
  commands : Array Command
  silent : Bool
  separate : Bool

/-- Reads on until there is a line. Files that are kept separate are not gone beyond. -/
def fill : Nat → Bool → Source → Act Source
  | 0, _, source => return source
  | bound + 1, separate, source => do
    if !source.pending.isEmpty then return source
    if source.open_ then
      let n := if source.name = "-" then 0 else ownDescriptor
      match ← Act.receive n 4096 with
      | .error fault =>
        complain ("read error on " ++ source.name ++ ": " ++ fault.reason)
        Act.throw (.exit 4)
      | .ok bytes =>
        if bytes.isEmpty then
          if n = ownDescriptor then Act.close n
          let rest : List Line := if source.begun.isEmpty then [] else [⟨source.begun, false⟩]
          fill bound separate
            { source with open_ := false, begun := "", pending := source.pending ++ rest }
        else
          let lines := linesBy source.mark (source.begun ++ Octets.ofBytes bytes)
          fill bound separate { source with
            pending := source.pending ++ lines.filter Line.ended,
            begun := String.join ((lines.filter (!·.ended)).map Line.text) }
    else
      match source.paths with
      | [] => return source
      | path :: paths =>
        if separate then return source
        match ← openInput path with
        | .error fault =>
          complain ("can't read " ++ path ++ ": " ++ fault.reason)
          fill bound separate { source with paths, status := 2 }
        | .ok _ =>
          fill bound separate { source with paths, open_ := true, name := path }

def State.isLast (state : State) : Bool := state.source.pending.isEmpty

/-- Writes to a descriptor, after the end of a line that is still missing there. -/
def put (n : Nat) (text : String) (ended : Bool) (state : State) : Act State := do
  let mark := String.singleton state.source.mark
  let start := if state.unfinished.contains n then mark else ""
  let whole := start ++ text ++ if ended then mark else ""
  let unfinished := state.unfinished.filter (· != n) ++ if ended then [] else [n]
  if n = 1 then
    match state.edited? with
    | some before => return { state with edited? := some (before ++ whole), unfinished }
    | none =>
      match ← Act.write 1 whole with
      | .ok () => return { state with unfinished }
      | .error fault =>
        complain ("couldn't write " ++ toString whole.length ++ " item" ++
          (if whole.length = 1 then "" else "s") ++ " to stdout: " ++ fault.reason)
        Act.throw (.exit 4)
  else
    let _ ← Act.write n whole
    return { state with unfinished }

def putText (text : String) (state : State) : Act State := do
  if text.isEmpty then return state
  let state ← put 1 text false state
  return { state with unfinished := state.unfinished.filter (· != 1) }

def putPattern (state : State) : Act State := put 1 state.pattern state.ended state

def outputOf (path : String) (state : State) : Act (Nat × State) := do
  if path = "/dev/stdout" then return (1, state)
  if path = "/dev/stderr" then return (2, state)
  match state.outputs.lookup path with
  | some n => return (n, state)
  | none =>
    let n := ownDescriptor + 1 + state.outputs.length
    match ← Act.openPath path { writes := true, creates := true, truncates := true } false with
    | .ok file =>
      Act.assign n file
      return (n, { state with outputs := (path, n) :: state.outputs })
    | .error fault =>
      complain ("couldn't open file " ++ path ++ ": " ++ fault.reason)
      Act.throw (.exit 4)

def flush (state : State) : Act State := do
  let mut now := { state with added := [] }
  for added in state.added do
    match added with
    | .text text => now ← putText text now
    | .file path =>
      match ← readPath (if path = "-" then "./-" else path) with
      | .ok text => now ← putText text now
      | .error _ => pure ()
  return now

def State.find? (state : State) (expression : Expression) (subject : Regex.Subject) (i : Nat) :
    Option Regex.Match :=
  let expression := match expression.regex? with
    | some _ => expression
    | none => state.last?.getD expression
  match expression.regex? with
  | some regex => regex.find? { subject with fold := expression.fold } i
  | none => none

def State.remember (state : State) (expression : Expression) : State :=
  if expression.regex?.isSome then { state with last? := some expression } else state

def State.at (state : State) : Address → Bool × State
  | .line n => (state.line == n, state)
  | .last => (state.isLast, state)
  | .every first step =>
    (if step = 0 then state.line == first
     else state.line ≥ first && (state.line - first) % step == 0, state)
  | .found expression =>
    let subject := Regex.Subject.ofString state.pattern false
    ((state.find? expression subject 0).isSome, state.remember expression)

def State.selects (state : State) (place : Nat) (lines : Lines) : Bool × State :=
  let (chosen, state) := match lines.first?, lines.last? with
    | none, _ => (true, state)
    | some first, none => state.at first
    | some first, some last =>
      let without := fun (state : State) =>
        { state with ranges := state.ranges.filter fun entry => entry.1 != place }
      let with_ := fun (state : State) (stop? : Option Nat) =>
        { without state with ranges := (place, stop?) :: (without state).ranges }
      let begins := fun (state : State) =>
        let (here, state) := state.at first
        if !here then (false, state)
        else match last with
          | .plus 0 => (true, state)
          | .plus n => (true, with_ state (some (state.line + n)))
          | .multiple 0 => (true, state)
          | .multiple n =>
            let stop := (state.line + n - 1) / n * n
            (true, if stop = state.line then state else with_ state (some stop))
          | .address (.line n) => (true, if n ≤ state.line then state else with_ state (some n))
          | .address _ => (true, with_ state none)
      match state.ranges.lookup place with
      | none =>
        match first, last with
        | .line 0, .address (.found expression) =>
          if state.line = 1 then
            let (stops, state) := state.at (.found expression)
            (true, if stops then state else with_ state none)
          else (false, state)
        | _, _ => begins state
      | some (some stop) =>
        if state.line > stop then begins (without state)
        else (true, if state.line = stop then without state else state)
      | some none =>
        match last with
        | .address a =>
          let (stops, state) := state.at a
          (true, if stops then without state else state)
        | _ => (true, state)
  (chosen != lines.negated, state)

def replacement (pieces : List Piece) (found : Regex.Match) (subject : Regex.Subject) : String :=
  let apply := fun (mode : Piece) (once : Piece) (text : String) =>
    let text := match mode with
      | .upper => String.ofList (text.toList.map Char.toUpper)
      | .lower => String.ofList (text.toList.map Char.toLower)
      | _ => text
    match once, text.toList with
    | .upperNext, c :: rest => String.ofList (c.toUpper :: rest)
    | .lowerNext, c :: rest => String.ofList (c.toLower :: rest)
    | _, _ => text
  let (output, _, _) := pieces.foldl (fun (output, mode, once) piece =>
    match piece with
    | .text text => (output ++ apply mode once text, mode, if text.isEmpty then once else .plain)
    | .group n =>
      let text := found.group subject n
      (output ++ apply mode once text, mode, if text.isEmpty then once else .plain)
    | .upperNext | .lowerNext => (output, mode, piece)
    | piece => (output, piece, once)) ("", Piece.plain, Piece.plain)
  output

def substituteFrom (state : State) (s : Substitution) (subject : Regex.Subject) :
    Nat → Nat → Option Nat → Nat → Bool → String → Bool × String
  | 0, i, _, _, done, before => (done, before ++ subject.slice i subject.text.size)
  | bound + 1, i, lastEnd?, count, done, before =>
    let rest := subject.slice i subject.text.size
    if i > subject.text.size then (done, before)
    else match state.find? s.expression subject i with
      | none => (done, before ++ rest)
      | some found =>
        if found.first = found.last && lastEnd? == some found.first then
          -- An empty match right after another one does not count.
          substituteFrom state s subject bound (i + 1) none count done
            (before ++ subject.slice i (i + 1))
        else
          let count := count + 1
          let lead := before ++ subject.slice i found.first
          if count < s.nth then
            if found.first = found.last then
              substituteFrom state s subject bound (found.last + 1) none count done
                (lead ++ subject.slice found.first (found.last + 1))
            else
              substituteFrom state s subject bound found.last (some found.last) count done
                (lead ++ subject.slice found.first found.last)
          else
            let text := lead ++ replacement s.pieces found subject
            if !s.all then (true, text ++ subject.slice found.last subject.text.size)
            else if found.first = found.last then
              substituteFrom state s subject bound (found.last + 1) none count true
                (text ++ subject.slice found.last (found.last + 1))
            else
              substituteFrom state s subject bound found.last (some found.last) count true text

def visible (text : String) : String :=
  let shown := text.toList.map fun c => match c with
    | '\\' => "\\\\"
    | '\n' => "\\n"
    | '\t' => "\\t"
    | '\r' => "\\r"
    | '\x07' => "\\a"
    | '\x08' => "\\b"
    | '\x0c' => "\\f"
    | '\x0b' => "\\v"
    | c =>
      if 32 ≤ c.toNat && c.toNat < 127 then String.singleton c
      else
        let n := c.toNat
        "\\" ++ toString (n / 64) ++ toString (n / 8 % 8) ++ toString (n % 8)
  let (output, line) := shown.foldl (fun (output, line) (piece : String) =>
    if line.length + piece.length > 69 then (output ++ line ++ "\\\n", piece)
    else (output, line ++ piece)) ("", "")
  output ++ line ++ "$\n"

inductive Outcome where
  | done (state : State)
  | again (state : State)
  | dropped (state : State)
  | quit (status : Nat) (prints : Bool) (state : State)

def labelAt (commands : Array Command) (name : String) : Nat :=
  if name.isEmpty then commands.size
  else (commands.findIdx? fun command => match command.verb with
    | .label other => other == name
    | _ => false).getD commands.size

def blockEnd (commands : Array Command) : Nat → Nat → Nat → Nat
  | 0, place, _ => place
  | bound + 1, place, depth =>
    match (commands[place]?).map Command.verb with
    | none => place
    | some .openBlock => blockEnd commands bound (place + 1) (depth + 1)
    | some .closeBlock => if depth ≤ 1 then place + 1 else blockEnd commands bound (place + 1) (depth - 1)
    | some _ => blockEnd commands bound (place + 1) depth

def advance (settings : Settings) (state : State) : Act (Bool × State) := do
  let source ← fill steps false state.source
  match source.pending with
  | [] => return (false, { state with source })
  | line :: rest =>
    let source ← fill steps settings.separate { source with pending := rest }
    return (true, { state with
      source, pattern := line.text, ended := line.ended, line := state.line + 1 })

def firstPart (text : String) : String := String.ofList (text.toList.takeWhile (· != '\n'))

def pass (settings : Settings) : Nat → Nat → State → Act Outcome
  | 0, _, state => return .done state
  | bound + 1, place, state => do
    let commands := settings.commands
    match commands[place]? with
    | none => return .done state
    | some command =>
      let (chosen, state) := state.selects place command.lines
      let go := fun (state : State) => pass settings bound (place + 1) state
      if !chosen then
        match command.verb with
        | .openBlock => pass settings bound (blockEnd commands (commands.size + 1) (place + 1) 1) state
        | _ => go state
      else
        let jump := fun (name : String) (state : State) => do
          let target := labelAt commands name
          if target ≤ place then Act.pause 20
          pass settings bound target state
        let writeTo := fun (path text : String) (ended : Bool) (state : State) => do
          let (n, state) ← outputOf path state
          put n text ended state
        match command.verb with
        | .openBlock | .closeBlock | .label _ | .nothing => go state
        | .substitute s =>
          let subject := Regex.Subject.ofString state.pattern false
          let (done, text) :=
            substituteFrom state s subject (2 * subject.text.size + 4) 0 none 0 false ""
          let state := state.remember s.expression
          if !done then go state
          else
            let state := { state with pattern := text, replaced := true }
            let state ← if s.prints then putPattern state else pure state
            let state ← match s.path? with
              | some path => writeTo path state.pattern state.ended state
              | none => pure state
            go state
        | .exchange table =>
          go { state with pattern := String.ofList (state.pattern.toList.map fun c =>
            (table.lookup c).getD c) }
        | .delete => return .dropped state
        | .deleteFirst =>
          match state.pattern.toList.dropWhile (· != '\n') with
          | [] => return .dropped state
          | _ :: rest => return .again { state with pattern := String.ofList rest }
        | .print => go (← putPattern state)
        | .printFirst => go (← put 1 (firstPart state.pattern) true state)
        | .next =>
          if state.isLast then return .quit 0 true state
          let state ← if settings.silent then pure state else putPattern state
          let state ← flush state
          match ← advance settings state with
          | (true, state) => go state
          | (false, state) => return .quit 0 false state
        | .nextAdd =>
          if state.isLast then return .quit 0 true state
          let before := state.pattern
          let state ← flush state
          match ← advance settings state with
          | (true, state) => go { state with pattern := before ++ "\n" ++ state.pattern }
          | (false, state) => return .quit 0 true state
        | .hold => go { state with held := state.pattern }
        | .holdAdd => go { state with held := state.held ++ "\n" ++ state.pattern }
        | .get => go { state with pattern := state.held }
        | .getAdd => go { state with pattern := state.pattern ++ "\n" ++ state.held }
        | .swap => go { state with pattern := state.held, held := state.pattern }
        | .number => go (← putText (toString state.line ++ "\n") state)
        | .show_ => go (← putText (visible state.pattern) state)
        | .clear => go { state with pattern := "" }
        | .fileName => go (← putText (state.source.name ++ "\n") state)
        | .append text => go { state with added := state.added ++ [.text text] }
        | .insert text => go (← putText text state)
        | .change text =>
          let ends := command.lines.last?.isNone || command.lines.negated ||
            (state.ranges.lookup place).isNone
          let state ← if ends then putText text state else pure state
          return .dropped state
        | .quit status => return .quit status true state
        | .quitSilently status => return .quit status false state
        | .read path => go { state with added := state.added ++ [.file path] }
        | .write path => go (← writeTo path state.pattern state.ended state)
        | .writeFirst path => go (← writeTo path (firstPart state.pattern) true state)
        | .jump name => jump name state
        | .jumpIf name =>
          if state.replaced then jump name { state with replaced := false } else go state
        | .jumpUnless name =>
          if state.replaced then go { state with replaced := false } else jump name state

/-- Goes through lines until there are none; the status, and whether the script asked for the
end. -/
def cycle (settings : Settings) : Nat → Bool → State → Act (State × Option Nat)
  | 0, _, state => return (state, none)
  | bound + 1, fresh, state => do
    let next ← if fresh then advance settings state else pure (true, state)
    match next with
    | (false, state) => return (state, none)
    | (true, state) =>
      let state := if fresh then { state with replaced := false } else state
      match ← pass settings steps 0 state with
      | .done state =>
        let state ← if settings.silent then pure state else putPattern state
        cycle settings bound true (← flush state)
      | .dropped state => cycle settings bound true (← flush state)
      | .again state => cycle settings bound false (← flush state)
      | .quit status prints state =>
        let state ← if prints && !settings.silent then putPattern state else pure state
        return (← flush state, some status)

def editFiles (settings : Settings) (suffix : String) : List String → State → Nat → Act Nat
  | [], _, status => return status
  | path :: rest, state, status => do
    match ← readPath path with
    | .error fault =>
      match fault with
      | .isADirectory => complain ("couldn't edit " ++ path ++ ": not a regular file")
      | _ => complain ("can't read " ++ path ++ ": " ++ fault.reason)
      editFiles settings suffix rest state (max status (if fault = .isADirectory then 4 else 2))
    | .ok before =>
      let lines := linesOf before
      let start := { state with
        source := { pending := lines, name := path }, edited? := some "", line := 0,
        unfinished := state.unfinished.filter (· != 1) }
      let (state, quit?) ← cycle settings steps true start
      let left := String.join (state.source.pending.map Line.whole)
      let text := state.edited?.getD "" ++ if quit?.isSome then left else ""
      if !suffix.isEmpty then
        let _ ← writePath (path ++ suffix) before
      match ← writePath path text with
      | .error fault =>
        complain ("couldn't open temporary file " ++ path ++ ": " ++ fault.reason)
        return 4
      | .ok () =>
        match quit? with
        | some code => return code
        | none => editFiles settings suffix rest { state with edited? := none } status

end Sed

open Sed in
def missingLabel? (commands : Array Sed.Command) : Option String :=
  commands.toList.findSome? fun command => match command.verb with
    | .jump name | .jumpIf name | .jumpUnless name =>
      if name.isEmpty || labelAt commands name < commands.size then none else some name
    | _ => none

open Sed in
def sed (args : List String) : Act Nat := do
  -- The suffix of `-i` stands in the same word.
  let (inPlace, others) := args.partition fun word =>
    word.startsWith "-i" || word.startsWith "--in-place"
  let suffix := ((inPlace.getLast?).map fun word =>
    if word.startsWith "--in-place=" then (word.drop 11).toString
    else if word.startsWith "--in-place" then "" else (word.drop 2).toString).getD ""
  let parsed := Spec.parse
    { letters := "nEre:f:suzl:",
      long := [("quiet", 'n'), ("silent", 'n'), ("regexp-extended", 'E'), ("expression", 'e'),
        ("file", 'f'), ("separate", 's'), ("unbuffered", 'u'), ("null-data", 'z')] } others
  if let some fault := parsed.faults.head? then
    match fault with
    | .option message =>
      complain message
      return 1
    | fault => return ← answer 1 fault
  let mut pieces := []
  for (letter, value) in parsed.options do
    if letter = 'e' then pieces := pieces ++ [value]
    if letter = 'f' then
      match ← readPath value with
      | .ok text => pieces := pieces ++
          [if text.endsWith "\n" then String.ofList text.toList.dropLast else text]
      | .error fault =>
        complain ("couldn't open file " ++ value ++ ": " ++ fault.reason)
        return 1
  let given := !pieces.isEmpty
  let paths := if given then parsed.words else parsed.words.tail
  if !given && parsed.words.isEmpty then
    let _ ← Act.write 2 ("Usage: " ++ (← Act.process).name ++
      " [OPTION]... \x7bscript-only-if-no-other-script\x7d [input-file]...\n")
    return 1
  let script := if given then "\n".intercalate pieces else parsed.words.headD ""
  match parse (parsed.has 'E' || parsed.has 'r') script with
  | .error fault =>
    complain ("-e expression #1, char " ++ toString fault.position ++ ": " ++ fault.message)
    return 1
  | .ok commands =>
    if let some name := missingLabel? commands then
      complain ("can't find label for jump to \x60" ++ name ++ "'")
      return 1
    let settings : Settings :=
      { commands, silent := parsed.has 'n' || script.startsWith "#n\n",
        separate := parsed.has 's' || !inPlace.isEmpty }
    -- Files that are written to are made at the start.
    let mut start : State := { source := {} }
    for command in commands do
      match command.verb with
      | .write path | .writeFirst path => start := (← outputOf path start).2
      | .substitute s =>
        if let some path := s.path? then start := (← outputOf path start).2
      | _ => pure ()
    if !inPlace.isEmpty then return ← editFiles settings suffix paths start 0
    let source : Source :=
      { paths := if paths.isEmpty then ["-"] else paths,
        mark := if parsed.has 'z' then '\x00' else '\n' }
    let (state, quit?) ← cycle settings steps true { start with source }
    return max (quit?.getD 0) state.source.status

end ImpToC.Utility
