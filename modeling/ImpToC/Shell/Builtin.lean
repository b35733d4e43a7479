import ImpToC.Shell.Condition
import ImpToC.Shell.Format
import ImpToC.Shell.Redirect
import ImpToC.System.Mode

/-! The commands that belong to the language: variables, parameters, switches, traps, the flow
of control, and some that are built in because they are used so often. -/
namespace ImpToC.Shell

def regularBuiltins : List String :=
  ["[", "alias", "bg", "cd", "chdir", "command", "echo", "false", "fc", "fg", "getopts", "hash",
   "jobs", "kill", "local", "printf", "pwd", "read", "test", "true", "type", "ulimit", "umask",
   "unalias", "wait"]

def isBuiltin (name : String) : Bool :=
  Parse.specialBuiltins.contains name || regularBuiltins.contains name

namespace Builtin

def problem (name message : String) : Act Nat := do
  reportFrom (name ++ ": ") message
  if Parse.specialBuiltins.contains name then Act.throw (.exit 2)
  return 2

def say (name text : String) : Act Nat := do
  match ← Act.write 1 text with
  | .ok () => return 0
  | .error _ =>
    reportFrom (name ++ ": ") (name ++ ": I/O error")
    return 1

def natural? (word : String) : Option Nat :=
  if word.isEmpty || !word.toList.all Char.isDigit then none
  else word.toNat?.bind fun n => if n < 2147483648 then some n else none

def quotedParts : Nat → List Char → String
  | 0, _ => ""
  | bound + 1, text =>
    let before := text.takeWhile (· != '\x27')
    let marks := (text.drop before.length).takeWhile (· == '\x27')
    let rest := text.drop (before.length + marks.length)
    "'" ++ String.ofList before ++ "'" ++
      (if marks.isEmpty then "" else "\"" ++ String.ofList marks ++ "\"") ++
      if rest.isEmpty then "" else quotedParts bound rest

/-- A value in quotes, so that it can be read again. -/
def quoted (value : String) : String := quotedParts (value.length + 1) value.toList

/-- The options of a command, by its letters; a letter before a colon takes a value. A fault
is reported, and gives none. -/
def options (name letters : String) : Nat → List String → List (Char × String) →
    Act (Option (List (Char × String) × List String))
  | 0, words, before => return some (before, words)
  | _ + 1, [], before => return some (before, [])
  | bound + 1, word :: rest, before => do
    match word.toList with
    | ['-', '-'] => return some (before, rest)
    | '-' :: letter :: more =>
      let known := letters.toList.dropWhile (· != letter)
      if known.isEmpty || letter = ':' then
        let _ ← problem name ("Illegal option -" ++ String.singleton letter)
        return none
      else if known[1]? == some ':' then
        match more, rest with
        | [], [] =>
          let _ ← problem name ("No arg for -" ++ String.singleton letter ++ " option")
          return none
        | [], value :: rest => options name letters bound rest (before ++ [(letter, value)])
        | more, rest =>
          options name letters bound rest (before ++ [(letter, String.ofList more)])
      else
        let next := if more.isEmpty then rest else String.ofList ('-' :: more) :: rest
        options name letters bound next (before ++ [(letter, "")])
    | _ => return some (before, word :: rest)

/-- Runs a command on its options and the words after them. -/
def withOptions (name letters : String) (args : List String)
    (action : List Char → List String → Act Nat) : Act Nat := do
  match ← options name letters ((args.map String.length).foldl (· + ·) 0 + args.length + 1) args [] with
  | none => return 2
  | some (found, words) => action (found.map Prod.fst) words

def exit (args : List String) : Act Nat := do
  match args with
  | [] => Act.throw (.exit (← Act.process).status)
  | word :: _ => match natural? word with
    | some n => Act.throw (.exit (n % 256))
    | none => problem "exit" ("Illegal number: " ++ word)

def returnStatus (args : List String) : Act Nat := do
  match args with
  | [] => Act.throw (.back (← Act.process).status)
  | word :: _ => match natural? word with
    | some n => Act.throw (.back n)
    | none => problem "return" ("Illegal number: " ++ word)

def leave (name : String) (args : List String) : Act Nat := do
  let loops := (← Act.process).loops
  let count? := match args with
    | [] => some 1
    | word :: _ => natural? word
  match count? with
  | none | some 0 => problem name ("Illegal number: " ++ args.headD "")
  | some n => if loops = 0 then return 0 else Act.throw (.leave (min n loops) (name == "continue"))

def shift (args : List String) : Act Nat := do
  let process ← Act.process
  let count? := match args with
    | [] => some 1
    | word :: _ => natural? word
  match count? with
  | none => problem "shift" ("Illegal number: " ++ args.headD "")
  | some n =>
    if n > process.args.length then problem "shift" "can't shift that many"
    else
      Act.setProcess fun process => { process with args := process.args.drop n }
      return 0

def assignment (word : String) : String × Option String :=
  let name := word.toList.takeWhile (· != '=')
  let after := word.toList.drop name.length
  (String.ofList name, if after.isEmpty then none else some (String.ofList (after.drop 1)))

def sortedVars (process : Process) : List (String × Variable) :=
  process.vars.mergeSort fun a b => decide (a.1 ≤ b.1)

def mark (name : String) (change : Variable → Variable) (listed : Variable → Bool)
    (args : List String) : Act Nat := withOptions name "p" args fun _ args => do
  match args with
  | [] =>
    let entries := (sortedVars (← Act.process)).filter fun entry => listed entry.2
    say name (String.join (entries.map fun (var, content) =>
      name ++ " " ++ var ++ (match content.value? with
        | some value => "=" ++ quoted value
        | none => "") ++ "\n"))
  | _ =>
    for word in args do
      let (var, value?) := assignment word
      if !isName var then return ← problem name (var ++ ": bad variable name")
      if let some value := value? then setVariable var value
      changeVariable var change
    return 0

def unset (args : List String) : Act Nat := withOptions "unset" "vf" args fun found names => do
  let functions := found.getLast? == some 'f'
  for name in names do
    if functions then
      Act.setProcess fun process => { process with
        functions := process.functions.filter (·.1 != name) }
    else
      if !isName name then return ← problem "unset" (name ++ ": bad variable name")
      if (((← Act.process).vars.lookup name).map Variable.fixed).getD false then
        return ← problem "unset" (name ++ ": is read only")
      Act.setProcess fun process => { process with vars := process.vars.filter (·.1 != name) }
  return 0

def localVars (args : List String) : Act Nat := do
  let process ← Act.process
  match process.locals with
  | [] =>
    reportFrom "local: " "not in a function"
    Act.throw (.exit 2)
  | frame :: outer =>
    let mut frame := frame
    for word in args do
      let (var, value?) := assignment word
      if !isName var then
        reportFrom "local: " (var ++ ": bad variable name")
        Act.throw (.exit 2)
      if !frame.any (·.1 == var) then frame := (var, process.vars.lookup var) :: frame
      if let some value := value? then setVariable var value
    Act.setProcess fun process => { process with locals := frame :: outer }
    return 0

def setSwitch (letter : Char) (on : Bool) (switches : Switches) : Option Switches := match letter with
  | 'a' => some { switches with exporting := on }
  | 'e' => some { switches with failing := on }
  | 'f' => some { switches with literal := on }
  | 'n' => some { switches with idle := on }
  | 'u' => some { switches with unset := on }
  | 'v' => some { switches with verbose := on }
  | 'x' => some { switches with trace := on }
  | 'C' => some { switches with keep := on }
  | 'I' | 'i' | 'm' | 's' | 'V' | 'E' | 'b' | 'p' => some switches
  | _ => none

def switchNames : List (String × Char) :=
  [("errexit", 'e'), ("noglob", 'f'), ("ignoreeof", 'I'), ("interactive", 'i'), ("monitor", 'm'),
   ("noexec", 'n'), ("stdin", 's'), ("xtrace", 'x'), ("verbose", 'v'), ("vi", 'V'), ("emacs", 'E'),
   ("noclobber", 'C'), ("allexport", 'a'), ("notify", 'b'), ("nounset", 'u'), ("privileged", 'p'),
   ("nolog", ' '), ("debug", ' ')]

def switchTable (switches : Switches) : String :=
  "Current option settings\n" ++ String.join (switchNames.map fun (name, letter) =>
    name ++ fill (16 - name.length) ' ' ++
      (if (switchLetters switches).toList.contains letter then "on" else "off") ++ "\n")

def switchCommands (switches : Switches) : String :=
  String.join (switchNames.map fun (name, letter) =>
    "set " ++ (if (switchLetters switches).toList.contains letter then "-o " else "+o ") ++
      name ++ "\n")

/-- Reads switches off the front of some words: the words left, and whether these replace the
parameters. -/
def switches (name : String) : List String → Act (Option (List String × Bool))
  | [] => return some ([], false)
  | "--" :: rest => return some (rest, true)
  | "-" :: rest => return some (rest, !rest.isEmpty)
  | word :: rest => do
    match word.toList with
    | sign :: letters =>
      if sign != '-' && sign != '+' then return some (word :: rest, true)
      let on := sign == '-'
      if letters = ['o'] then
        match rest with
        | [] =>
          let now := (← Act.process).switches
          let _ ← say name (if on then switchTable now else switchCommands now)
          return some ([], false)
        | option :: rest =>
          let changed? := ((switchNames.lookup option).map fun letter =>
            fun switches => (setSwitch letter on switches).getD switches)
          match changed? with
          | none =>
            let _ ← problem name ("Illegal option " ++ word ++ " " ++ option)
            return none
          | some change =>
            Act.setProcess fun process => { process with switches := change process.switches }
            switches name rest
      else
        for letter in letters do
          match setSwitch letter on (← Act.process).switches with
          | none =>
            let _ ← problem name ("Illegal option " ++ String.singleton sign ++ String.singleton letter)
            return none
          | some switches => Act.setProcess fun process => { process with switches }
        switches name rest
    | [] => return some (word :: rest, true)

def setParameters (args : List String) : Act Nat := do
  if args.isEmpty then
    let process ← Act.process
    return ← say "set" (String.join ((sortedVars process).map fun (name, content) =>
      match content.value? with
      | some value => name ++ "=" ++ quoted value ++ "\n"
      | none => ""))
  match ← switches "set" args with
  | none => return 2
  | some (args, replaces) =>
    if replaces then Act.setProcess fun process => { process with args }
    return 0

def signalName (signal : Nat) : String :=
  if signal = 0 then "EXIT" else ((signals.lookup signal).map Prod.fst).getD (toString signal)

def trap (args : List String) : Act Nat := withOptions "trap" "" args fun _ args => do
  let process ← Act.process
  match args with
  | [] =>
    let entries := process.traps.mergeSort fun a b => decide (a.1 ≤ b.1)
    say "trap" (String.join (entries.map fun (signal, action) =>
      "trap -- " ++ quoted action ++ " " ++ signalName signal ++ "\n"))
  | action :: words =>
    let (action?, words) := if words.isEmpty then (none, [action])
      else (if action = "-" then none else some action, words)
    let mut status := 0
    for word in words do
      match signal? word with
      | none =>
        let _ ← Act.write 2 ("trap: " ++ word ++ ": bad trap\n")
        status := 1
      | some signal =>
        Act.setProcess fun process => { process with
          traps := process.traps.filter (·.1 != signal) ++
            (action?.map fun text => (signal, text)).toList }
    return status

def signalList : String :=
  let named := (List.range 31).map fun (i : Nat) =>
    if i = 15 then "16" else ((signals.lookup (i + 1)).map Prod.fst).getD ""
  let first := (List.range 16).map fun (i : Nat) =>
    if i = 0 then "RTMIN" else "RTMIN+" ++ toString i
  let last := (List.range 15).map fun (i : Nat) =>
    if i = 14 then "RTMAX" else "RTMAX-" ++ toString (14 - i)
  String.join ((["0"] ++ named ++ ["32", "33"] ++ first ++ last).map (· ++ "\n"))

def listSignals : List String → Act Nat
  | [] => say "kill" signalList
  | word :: _ => match natural? word with
    | none => problem "kill" ("Illegal number: " ++ word)
    | some n =>
      let n := if n > 128 then n - 128 else n
      if n = 0 || n > 64 then
        problem "kill" ("invalid signal number or exit status: " ++ word)
      else say "kill" (((signalList.splitOn "\n").getD n "") ++ "\n")

def sendSignal (signal : Nat) (words : List String) : Act Nat := do
  let mut status := 0
  for word in words do
    if word.startsWith "%" then return ← problem "kill" ("No such job: " ++ word)
    match natural? word with
    | none => return ← problem "kill" ("Illegal number: " ++ word)
    | some id =>
      if !(← Act.world).isLiving id then
        reportFrom "kill: " "No such process\n"
        status := 1
      else if signal != 0 then Act.setWorld fun world => world.signal id signal
  Act.obey
  return status

def kill (args : List String) : Act Nat := do
  let usage := problem "kill"
    ("Usage: kill [-s sigspec | -signum | -sigspec] [pid | job]... or\n" ++ "kill -l [exitstatus]")
  let direct? := match args with
    | word :: _ => match word.toList with
      | '-' :: name => signal? (String.ofList name)
      | _ => none
    | [] => none
  match direct?, args with
  | some signal, _ :: words => if words.isEmpty then usage else sendSignal signal words
  | _, _ =>
    match ← options "kill" "ls:" ((args.map String.length).foldl (· + ·) 0 + args.length + 1) args [] with
    | none => return 2
    | some (found, words) =>
      if found.any (·.1 == 'l') then listSignals words
      else
        match found.find? (·.1 == 's') with
        | none => if words.isEmpty then usage else sendSignal 15 words
        | some (_, name) => match signal? name with
          | none => problem "kill" ("invalid signal number or name: " ++ name)
          | some signal => if words.isEmpty then usage else sendSignal signal words

/-- Waits for a child, unless a signal comes that is to be dealt with. -/
def waitFor (id : Nat) : Act (Option Ending) := do
  if ((← Act.world).ended.lookup id).isNone then Act.wait (.endingOrSignal id)
  Act.changeWorld fun world =>
    (world.ended.lookup id, { world with ended := world.ended.filter (·.1 != id) })

def wait (args : List String) : Act Nat := withOptions "wait" "" args fun _ args => do
  let process ← Act.process
  let interrupted : Act Nat := do return 128 + (← Act.handledSignals).headD 0
  let waited := fun (id status : Nat) => Act.setProcess fun process => { process with
    children := process.children.filter (· != id), waited := (id, status) :: process.waited }
  match args with
  | [] =>
    for id in process.children do
      match ← waitFor id with
      | none => return ← interrupted
      | some ending => waited id ending.status
    return 0
  | words =>
    let mut status := 0
    for word in words do
      if word.startsWith "%" then return ← problem "wait" ("No such job: " ++ word)
      match natural? word with
      | none => return ← problem "wait" ("Illegal number: " ++ word)
      | some id =>
        match (← Act.process).waited.lookup id with
        | some before => status := before
        | none =>
          if !process.children.contains id then status := 127
          else
            match ← waitFor id with
            | none => return ← interrupted
            | some ending =>
              tellSignal ending
              waited id ending.status
              status := ending.status
    return status

def simplified (path : String) : String :=
  let names := (Path.names path).foldl (fun before name =>
    if name = "." then before else if name = ".." then before.drop 1 else name :: before) []
  let start := match path.toList with
    | '/' :: '/' :: c :: _ => if c = '/' then "/" else "//"
    | ['/', '/'] => "//"
    | _ => "/"
  start ++ "/".intercalate names.reverse

/-- Whether a path is not looked for in other folders. -/
def isDirect (path : String) : Bool :=
  Path.isAbsolute path || path = "." || path = ".." || path.startsWith "./" ||
    path.startsWith "../"

def cd (name : String) (args : List String) : Act Nat := withOptions name "LP" args fun found args => do
  let process ← Act.process
  let files ← Act.files
  let here := process.place
  let (target, back) := match args with
    | [] => ((process.value? "HOME").getD "", false)
    | "-" :: _ => ((process.value? "OLDPWD").getD "", true)
    | path :: _ => (path, false)
  let dest := if target.isEmpty then "." else target
  let isFolder := fun (path : String) => match files.resolve process.folder path true with
    | .ok n => (files.node n).isFolder
    | .error _ => false
  let bases := match process.value? "CDPATH" with
    | none => []
    | some list => if isDirect dest then [] else list.splitOn ":"
  let paths := bases.map fun (base : String) =>
    (if base.isEmpty then dest else Path.join base dest, !base.isEmpty)
  let (path, elsewhere) := (paths.find? fun entry => isFolder entry.1).getD (dest, false)
  let fail := problem name ("can't cd to " ++ target)
  let physical := found.getLast? == some 'P'
  let goal := if physical then path
    else simplified (if Path.isAbsolute path then path else Path.join here path)
  match files.resolve process.folder goal true with
  | .error _ => fail
  | .ok n =>
    if !(files.node n).isFolder || !(files.node n).allows 1 then fail
    else
      let now := if physical then files.workPath n else goal
      Act.setProcess fun process => { process with folder := n, place := now }
      let publish := fun (name value : String) => do
        setVariable name value
        changeVariable name fun old => { old with exported := true }
      publish "OLDPWD" here
      publish "PWD" now
      if back || elsewhere then say name (now ++ "\n") else return 0

def pwd (args : List String) : Act Nat := withOptions "pwd" "LP" args fun found _ => do
  let process ← Act.process
  let real := (← Act.files).workPath process.folder
  say "pwd" ((if found.getLast? == some 'P' then real else process.place) ++ "\n")

def umask (args : List String) : Act Nat := withOptions "umask" "S" args fun found args => do
  let mask := (← Act.process).mask
  let letters := fun (bits : Nat) => String.ofList ((Mode.letters bits).filter (· != '-'))
  let shown := 0o777 - mask
  match args with
  | [] =>
    if found.isEmpty then say "umask" (Mode.octal 4 mask ++ "\n")
    else say "umask" ("u=" ++ letters (shown / 64) ++ ",g=" ++ letters (shown / 8 % 8) ++
      ",o=" ++ letters (shown % 8) ++ "\n")
  | word :: _ =>
    let set' := fun (mask : Nat) => do
      Act.setProcess fun process => { process with mask := mask % 512 }
      return 0
    if (word.toList.head?.map Char.isDigit).getD false then
      if word.toList.all isOctal then set' (octal word.length word.toList).1
      else problem "umask" ("Illegal number: " ++ word)
    else
      match Mode.changed? 0 false shown word with
      | some mode => set' (0o777 - mode % 512)
      | none => problem "umask" ("Illegal mode: " ++ word)

def bucket (size : Nat) (name : String) : Nat :=
  let codes := name.toList.map Char.toNat
  (16 * codes.headD 0 + codes.foldl (· + ·) 0) % 32768 % size

def byBucket {α : Type} (size : Nat) (entries : List (String × α)) : List (String × α) :=
  entries.mergeSort fun a b => decide (bucket size a.1 ≤ bucket size b.1)

def aliasNames (args : List String) : Act Nat := do
  let line := fun (name value : String) => name ++ "=" ++ quoted value ++ "\n"
  if args.isEmpty then
    return ← say "alias" (String.join ((byBucket 39 (← Act.process).aliases).map fun entry =>
      line entry.1 entry.2))
  let mut status := 0
  for word in args do
    match assignment word with
    | (name, some value) =>
      Act.setProcess fun process => { process with
        aliases := if process.aliases.any (·.1 == name) then
            process.aliases.map fun entry => if entry.1 == name then (name, value) else entry
          else process.aliases ++ [(name, value)] }
    | (name, none) =>
      match (← Act.process).aliases.lookup name with
      | some value => status := max status (← say "alias" (line name value))
      | none =>
        let _ ← Act.write 2 ("alias: " ++ name ++ " not found\n")
        status := 1
  return status

def unalias (args : List String) : Act Nat := withOptions "unalias" "a" args fun found args => do
  if !found.isEmpty then
    Act.setProcess fun process => { process with aliases := [] }
    return 0
  let mut status := 0
  for word in args do
    if (← Act.process).aliases.any (·.1 == word) then
      Act.setProcess fun process => { process with
        aliases := process.aliases.filter (·.1 != word) }
    else
      let _ ← Act.write 2 ("unalias: " ++ word ++ " not found\n")
      status := 1
  return status

end Builtin

end ImpToC.Shell
