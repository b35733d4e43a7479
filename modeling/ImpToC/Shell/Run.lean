import ImpToC.Shell.Input
import ImpToC.System.Program
import ImpToC.Utility

/-! Running commands: those of the language, functions, and programs. -/
namespace ImpToC.Shell

def stepTime : Nat := 5
def programTime : Nat := 1000

def replaced (name : String) (process : Process) : Process :=
  { process with
    name, origin := "", args := [], line := 1, status := 0, switches := {}, functions := [],
    aliases := [], known := [], locals := [], children := [], waited := [], lastChild? := none,
    loops := 0, calls := 0, tested := false, last := false, optionOffset := 0,
    traps := process.traps.filter (·.2 == ""),
    vars := process.vars.filter fun entry => entry.2.exported }

def defaultPath : String := "/usr/local/sbin:/usr/local/bin:/usr/sbin:/usr/bin:/sbin:/bin"

def prepareShell : Act Unit := do
  let process ← Act.process
  let files ← Act.files
  Act.setProcess fun process => { process with shell := process.id }
  let path := files.workPath process.folder
  let trusted := match process.value? "PWD" with
    | some known => (match files.resolve process.folder known true with
      | .ok n => Path.isAbsolute known && n == process.folder
      | .error _ => false)
    | none => false
  let place := if trusted then (process.value? "PWD").getD path else path
  Act.setProcess fun process => { process with place }
  changeVariable "PWD" fun _ => { value? := some place, exported := true }
  if (process.value? "PATH").isNone then changeVariable "PATH" fun _ => { value? := some defaultPath }
  changeVariable "IFS" fun _ => { value? := some " \t\n" }
  changeVariable "OPTIND" fun _ => { value? := some "1" }
  changeVariable "PS1" fun _ => { value? := some "$ " }
  changeVariable "PS2" fun _ => { value? := some "> " }
  changeVariable "PS4" fun _ => { value? := some "+ " }
  changeVariable "PPID" fun _ => { value? := some (toString process.parent) }

def shellNames : List String := ["sh", "dash", "bash"]

def bashUsage (name option : String) : String :=
  let long := ["debug", "debugger", "dump-po-strings", "dump-strings", "help", "init-file", "login",
    "noediting", "noprofile", "norc", "posix", "pretty-print", "rcfile", "restricted", "verbose",
    "version"]
  let shown := Path.base name
  shown ++ ": " ++ option ++ ": invalid option\n" ++
  "Usage:\t" ++ shown ++ " [GNU long option] [option] ...\n" ++
  "\t" ++ shown ++ " [GNU long option] [option] script-file ...\n" ++
  "GNU long options:\n" ++ String.join (long.map fun name => "\t--" ++ name ++ "\n") ++
  "Shell options:\n" ++
  "\t-ilrsD or -c command or -O shopt_option\t\t(invocation only)\n" ++
  "\t-abefhkmnptuvxBCEHPT or -o option\n"

def checkBash (name : String) (args : List String) : Act Unit := do
  let isOption := fun (word : String) => word.length > 1 && word.startsWith "-"
  let refuse := fun (option : String) => do
    let _ ← Act.write 2 (bashUsage name option)
    Act.throw (.exit 2)
  for word in args.takeWhile isOption do
    if word = "--version" || word = "--help" then Act.throw (.exit 0)
    if word = "--" then return
    if word.startsWith "--" then
      if word != "--posix" && word != "--norc" && word != "--noprofile" then refuse word
    else
      let unknown := (word.toList.drop 1).find? fun c =>
        !("ilrsDcOabefhkmnptuvxBCEHPTo".toList.contains c)
      if let some letter := unknown then refuse ("-" ++ String.singleton letter)

/-- Reads the switches of the shell off its words. The flags tell whether a command is given,
and whether commands come from standard input. -/
def shellOptions (name : String) : List String → Bool → Bool → Act (Bool × Bool × List String)
  | [], command, fromInput => return (command, fromInput, [])
  | "--" :: rest, command, fromInput => return (command, fromInput, rest)
  | "-" :: rest, command, fromInput => return (command, fromInput, rest)
  | "-o" :: option :: rest, command, fromInput => do
    let _ ← Builtin.switches "set" ["-o", option]
    shellOptions name rest command fromInput
  | word :: rest, command, fromInput => do
    if word.startsWith "-" || word.startsWith "+" then
      let letters := word.toList.drop 1
      let on := word.startsWith "-"
      for letter in letters.filter fun c => c != 'c' && c != 's' do
        match Builtin.setSwitch letter on (← Act.process).switches with
        | some switches => Act.setProcess fun process => { process with switches }
        | none =>
          let sign := if on then "-" else "+"
          let _ ← Act.write 2
            (name ++ ": 0: Illegal option " ++ sign ++ String.singleton letter ++ "\n")
          Act.throw (.exit 2)
      shellOptions name rest (command || letters.contains 'c') (fromInput || letters.contains 's')
    else return (command, fromInput, word :: rest)

def shellProgram (run : Command → Act Unit) (name : String) (args : List String) : Act Nat := do
  prepareShell
  asShell run do
    if Path.base name = "bash" then checkBash name args
    let (command, fromInput, words) ← shellOptions name args false false
    let become := fun (name : String) (args : List String) =>
      Act.setProcess fun process => { process with name, args }
    match command, fromInput, words with
    | true, _, [] =>
      let _ ← Act.write 2 (name ++ ": 0: -c requires an argument\n")
      Act.throw (.exit 2)
    | true, fromInput, text :: words =>
      become (words.headD name) words.tail
      runLines run (!fromInput) maxLines { rest := text.toList }
    | false, false, path :: words =>
      match ← Act.openPath path { reads := true } false with
      | .error fault =>
        let _ ← Act.write 2 (name ++ ": 0: cannot open " ++ path ++ ": " ++ openReason false fault ++ "\n")
        Act.throw (.exit 2)
      | .ok file =>
        let bytes ← Act.collect file 1000000000 .empty
        Act.setWorld fun world => world.release file
        become path words
        runText run (Octets.ofBytes bytes)
    | false, _, words =>
      become name words
      match ← Utility.readAll 0 Utility.steps "" with
      | .ok text => runText run text
      | .error _ => return

def searchPath (process : Process) : String :=
  (process.value? "PATH").getD defaultPath

/-- Whether the first line of a file shows that it is no script. -/
def isBinary (octets : List Char) : Bool :=
  (octets.takeWhile (· != '\n')).any fun c =>
    (c.toNat < 32 || c.toNat = 127) && !Formula.isBlank c

/-- Takes the place of the process: starts the program at a path on the given words. A file
that is no program but can be read as a script is given to a shell if `scripts` is set. -/
def become (run : Command → Act Unit) (scripts : Bool) (path : String) (words : List String) :
    Nat → Act (Except SystemError Nat)
  | 0 => return .error .tooManyLinks
  | depth + 1 => do
    let process ← Act.process
    let files ← Act.files
    match files.start process.folder Utility.names FileSystem.maxInterpreters path words with
    | .ok started =>
      let name := started.words.headD started.program
      Act.setProcess (replaced name)
      if shellNames.contains started.program then
        return .ok (← shellProgram run name started.words.tail)
      else
        let start : Utility.Starter := fun words => do
          let process ← Act.process
          let files ← Act.files
          let name := words.headD ""
          let path? := if name.contains '/' then some name
            else files.search? process.folder (searchPath process) name
          match path? with
          | none => return .error .noSuchFile
          | some path => become run true path words depth
        match (Utility.table start).lookup started.program with
        | some program => return .ok (← program started.words.tail)
        | none => return .error .execFormat
    | .error .execFormat =>
      if !scripts then return .error .execFormat
      match files.enter process.folder path { reads := true } 0 with
      | .error fault => return .error fault
      | .ok (_, n) =>
        if isBinary (Octets.ofBytes (files.node n).bytes).toList then return .error .execFormat
        Act.setProcess (replaced path)
        return .ok (← shellProgram run "/bin/sh" (path :: words.tail))
    | .error fault => return .error fault

def maxStarts : Nat := 1000

def becomeNamed (run : Command → Act Unit) (origin : String) (words : List String) : Act Nat := do
  let process ← Act.process
  let files ← Act.files
  let name := words.headD ""
  let fail := fun (status : Nat) (reason : String) => do
    reportFrom origin (name ++ ": " ++ reason)
    return status
  Act.setProcess fun process => { process with vars := Builtin.byBucket 39 process.vars.reverse }
  let path? := if name.contains '/' then some name
    else files.search? process.folder (searchPath process) name
  match path? with
  | none =>
    let blocked := (FileSystem.candidates (searchPath process) name).any fun path =>
      (files.resolve process.folder path true).isOk
    fail 127 (if blocked then "Permission denied" else "not found")
  | some path =>
    match ← become run true path words maxStarts with
    | .ok status => return status
    | .error .noSuchFile | .error .notADirectory => fail 127 "not found"
    | .error .tooManyLinks => fail 127 SystemError.tooManyLinks.reason
    | .error .nameTooLong => fail 127 SystemError.nameTooLong.reason
    | .error fault => fail 126 fault.reason

def lookUp (name : String) : Act (Option String) := do
  if name.contains '/' then return none
  let process ← Act.process
  match process.known.lookup name with
  | some path => return some path
  | none =>
    let path? := (← Act.files).search? process.folder (searchPath process) name
    if let some path := path? then
      Act.setProcess fun process => { process with known := process.known ++ [(name, path)] }
    return path?

def meaning? (name : String) : Act (Option (String × String)) := do
  let process ← Act.process
  if Token.keywords.contains name then return some (" is a shell keyword", name)
  else if let some value := process.aliases.lookup name then
    return some (" is an alias for " ++ value, "alias " ++ name ++ "=" ++ Builtin.quoted value)
  else if process.functions.any (·.1 == name) then return some (" is a shell function", name)
  else if Parse.specialBuiltins.contains name then
    return some (" is a special shell builtin", name)
  else if isBuiltin name then return some (" is a shell builtin", name)
  else if name.contains '/' then
    return match (← Act.files).resolve process.folder name true with
      | .ok _ => some (" is " ++ name, name)
      | .error _ => none
  else
    let tracked := process.known.any (·.1 == name)
    return (← lookUp name).map fun path =>
      ((if tracked then " is a tracked alias for " else " is ") ++ path, path)

def typeOf (brief : Bool) (names : List String) : Act Nat := do
  let mut status := 0
  for name in names do
    match ← meaning? name with
    | some (description, call) =>
      let _ ← Act.write 1 ((if brief then call else name ++ description) ++ "\n")
    | none =>
      if !brief then
        let _ ← Act.write 1 (name ++ ": not found\n")
      status := 127
  return status

def hash (args : List String) : Act Nat := Builtin.withOptions "hash" "r" args fun found names => do
  if !found.isEmpty then
    Act.setProcess fun process => { process with known := [] }
    return 0
  if names.isEmpty then
    return ← Builtin.say "hash" (String.join
      ((Builtin.byBucket 31 (← Act.process).known).map fun entry => entry.2 ++ "\n"))
  let mut status := 0
  for name in names do
    Act.setProcess fun process => { process with known := process.known.filter (·.1 != name) }
    if !isBuiltin name && !(← Act.process).functions.any (·.1 == name) && !name.contains '/' then
      if (← lookUp name).isNone then
        reportFrom "hash: " (name ++ ": not found")
        status := 1
  return status

def source (run : Command → Act Unit) (args : List String) : Act Nat :=
    Builtin.withOptions "." "" args fun _ args => do
  let process ← Act.process
  let files ← Act.files
  match args with
  | [] => Builtin.problem "." "Usage: . filename [args]"
  | name :: _ =>
    let path? := if name.contains '/' then some name
      else (FileSystem.candidates (searchPath process) name).find? fun path =>
        match files.resolve process.folder path true with
        | .ok n => (files.node n).isFile && (files.node n).allows 4
        | .error _ => false
    match path? with
    | none => Builtin.problem "." (name ++ ": not found")
    | some path =>
      match ← Utility.readPath path with
      | .error fault => Builtin.problem "." ("cannot open " ++ path ++ ": " ++ openReason false fault)
      | .ok text =>
        Act.tryCatch
          (do
            setStatus 0
            runTextFrom run (path ++ ": ") text
            return (← Act.process).status)
          fun halt => match halt with
            | .back status => return status
            | _ => Act.throw halt

def builtin (run : Command → Act Unit) (name : String) (args : List String) : Act Nat := do
  match name with
  | ":" | "true" => return 0
  | "false" => return 1
  | "echo" => Builtin.say name (echo args)
  | "printf" => Builtin.withOptions name "" args fun _ args => do
    match args with
    | [] => Builtin.problem name "usage: printf format [arg ...]"
    | format :: args =>
      let printed := printf format.toList (args.length + 1) args {}
      for complaint in printed.complaints do
        reportFrom "printf: " complaint.message
      let written ← Builtin.say name printed.text
      return if printed.broken then 2 else if !printed.complaints.isEmpty then 1 else written
  | "test" | "[" =>
    let words? := if name = "test" then some args
      else if args.getLast? == some "]" then some args.dropLast else none
    match words? with
    | none => Builtin.problem name "missing ]"
    | some words =>
      match Condition.holds ⟨← Act.files, (← Act.process).folder⟩ words with
      | .ok value => return if value then 0 else 1
      | .error message => Builtin.problem name message
  | "exit" => Builtin.exit args
  | "return" => Builtin.returnStatus args
  | "break" | "continue" => Builtin.leave name args
  | "shift" => Builtin.shift args
  | "export" => Builtin.mark name (fun old => { old with exported := true }) Variable.exported args
  | "readonly" => Builtin.mark name (fun old => { old with fixed := true }) Variable.fixed args
  | "unset" => Builtin.unset args
  | "local" => Builtin.localVars args
  | "set" => Builtin.setParameters args
  | "trap" => Builtin.trap args
  | "kill" => Builtin.kill args
  | "wait" => Builtin.wait args
  | "cd" | "chdir" => Builtin.cd name args
  | "pwd" => Builtin.pwd args
  | "umask" => Builtin.umask args
  | "read" => Builtin.read args
  | "getopts" => Builtin.getopts args
  | "type" => typeOf false args
  | "hash" => hash args
  | "eval" =>
    setStatus 0
    runTextFrom run "eval: " (" ".intercalate args)
    return (← Act.process).status
  | "." => source run args
  | "times" => Builtin.say name "0m0.000000s 0m0.000000s\n0m0.000000s 0m0.000000s\n"
  | "fg" | "bg" =>
    Builtin.withOptions name "" args fun _ _ => Builtin.problem name "No current job"
  | "jobs" => Builtin.withOptions name "lp" args fun _ _ => pure 0
  | "ulimit" =>
    Builtin.withOptions name "HSatfdscmlpnvwr" args fun _ _ => Builtin.say name "unlimited\n"
  | "alias" => Builtin.aliasNames args
  | "unalias" => Builtin.unalias args
  | _ => return 0

def callFunction (run : Command → Act Unit) (body : Command) (args : List String) : Act Nat := do
  let before ← Act.process
  Act.setProcess fun process => { process with
    args, locals := [] :: process.locals, calls := process.calls + 1, loops := 0, last := false }
  let restore : Act Unit := do
    let frame := (← Act.process).locals.headD []
    Act.setProcess fun process => { process with
      args := before.args, locals := before.locals, calls := before.calls, loops := before.loops,
      vars := frame.foldl (fun vars (name, old?) =>
        match old? with
        | some old => putVariable name (fun _ => old) vars
        | none => vars.filter (·.1 != name)) process.vars }
  Act.tryCatch
    (do
      run body
      restore
      return (← Act.process).status)
    fun halt => do
      restore
      match halt with
      | .back status => return status
      | _ => Act.throw halt

def withVariables {α : Type} (assigned : List (String × String)) (action : Act α) : Act α := do
  if assigned.isEmpty then return ← action
  let before := (← Act.process).vars
  for (name, value) in assigned do
    setVariable name value
    changeVariable name fun old => { old with exported := true }
  let restore : Act Unit := Act.setProcess fun process => { process with
    vars := assigned.foldl (fun vars (name, _) =>
      match before.lookup name with
      | some old => putVariable name (fun _ => old) vars
      | none => vars.filter (·.1 != name)) process.vars }
  Act.tryCatch
    (do
      let result ← action
      restore
      return result)
    fun halt => do
      restore
      Act.throw halt

def runProgram (run : Command → Act Unit) (items : List Redirect) (assigned : List (String × String))
    (words : List String) : Act Nat := do
  Act.pause programTime
  let start : Act Nat := do
    for (name, value) in assigned do
      setVariable name value
      changeVariable name fun old => { old with exported := true }
    becomeNamed run (← Act.process).origin words
  let _ ← lookUp (words.headD "")
  if (← Act.process).replaceable then
    match ← redirectAll run items with
    | .ok () => Act.throw (.exit (← start))
    | .error message =>
      report message
      return 2
  else
    let result ← redirected run items do
      let ending ← Act.inside id start
      tellSignal ending
      return ending.status
    return result.getD 2

def runExec (run : Command → Act Unit) (items : List Redirect) (words : List String) : Act Nat := do
  match ← redirectAll run items with
  | .error message => abort message
  | .ok () =>
    if words.isEmpty then return 0
    Act.setProcess fun process => { process with traps := process.traps.filter (·.1 != 0) }
    Act.throw (.exit (← becomeNamed run "exec: " words))

def showTrace (assigned : List (String × String)) (words : List String) : Act Unit := do
  let process ← Act.process
  if process.switches.trace then
    let shown := (assigned.map fun (name, value) => name ++ "=" ++ value) ++ words
    let _ ← Act.write 2 ((process.value? "PS4").getD "" ++ " ".intercalate shown ++ "\n")

def runWords (run : Command → Act Unit) (items : List Redirect) (assigned : List (String × String)) :
    Nat → Bool → List String → Act Nat
  | 0, _, _ => return 0
  | _ + 1, _, [] => return 0
  | bound + 1, functions, name :: args => do
    let process ← Act.process
    match if functions then process.functions.lookup name else none with
    | some body =>
      let result ← redirected run items (withVariables assigned (callFunction run body args))
      return result.getD 2
    | none =>
      if name = "exec" then
        for (name, value) in assigned do
          setVariable name value
        runExec run items args
      else if name = "command" then
        match ← Builtin.options name "pvV" (args.length + 3) args [] with
        | none => return 2
        | some (found, words) =>
          match (found.filter (·.1 != 'p')).getLast?, words with
          | some (letter, _), word :: _ =>
            return (← redirected run items (typeOf (letter == 'v') [word])).getD 2
          | some _, [] => return 0
          | none, words => runWords run items assigned bound false words
      else if Parse.specialBuiltins.contains name then
        for (name, value) in assigned do
          setVariable name value
        match ← redirected run items (builtin run name args) with
        | some status => return status
        | none => Act.throw (.exit 2)
      else if isBuiltin name then
        let result ← redirected run items (withVariables assigned (builtin run name args))
        return result.getD 2
      else runProgram run items assigned (name :: args)

def simpleCommand (run : Command → Act Unit) (line : Nat) (assignments : List (String × Word))
    (words : List Word) (items : List Redirect) : Act Unit := do
  Act.setProcess fun process => { process with line, captured := 0 }
  Act.pause stepTime
  let words ← expandCommand run words
  let mut assigned := #[]
  for (name, word) in assignments do
    let value ← expandValue run word
    if words.isEmpty then setVariable name value
    assigned := assigned.push (name, value)
  showTrace assigned.toList words
  if words.isEmpty then
    let result ← redirected run items (return ())
    let captured := (← Act.process).captured
    setStatus (if result.isNone then 2 else captured)
  else setStatus (← runWords run items assigned.toList (words.length + 1) true words)

/-- Ends the script after a failure, if it is to end and nobody looks at the status. -/
def checkFailure : Act Unit := do
  let process ← Act.process
  if process.switches.failing && !process.tested && process.status ≠ 0 then
    Act.throw (.exit process.status)

def tested (action : Act Unit) : Act Nat := do
  let before := (← Act.process).tested
  let restore : Act Unit := Act.setProcess fun process => { process with tested := before }
  Act.setProcess fun process => { process with tested := true }
  Act.tryCatch (withMore action) fun halt => do
    restore
    Act.throw halt
  restore
  return (← Act.process).status

def loopBody (action : Act Bool) : Act Bool := do
  Act.setProcess fun process => { process with loops := process.loops + 1 }
  let restore : Act Unit := Act.setProcess fun process => { process with loops := process.loops - 1 }
  Act.tryCatch
    (do
      let goesOn ← action
      restore
      return goesOn)
    fun halt => do
      restore
      match halt with
      | .leave levels again =>
        if levels > 1 then Act.throw (.leave (levels - 1) again)
        else
          setStatus 0
          return again
      | _ => Act.throw halt

def loop (run : Command → Act Unit) (whileTrue : Bool) (condition body : Command) :
    Nat → Nat → Act Unit
  | 0, _ => return
  | bound + 1, status => do
    let goesOn ← loopBody do
      let tested ← tested (run condition)
      if (tested = 0) = whileTrue then
        run body
        return true
      else
        setStatus status
        return false
    if goesOn then loop run whileTrue condition body bound (← Act.process).status

def each (run : Command → Act Unit) (name : String) (body : Command) : List String → Act Unit
  | [] => return
  | value :: rest => do
    setVariable name value
    let goesOn ← loopBody do
      run body
      return true
    if goesOn then each run name body rest

def select (run : Command → Act Unit) (text : List Char) : List (List Word × Command) → Act Unit
  | [] => setStatus 0
  | (patterns, body) :: rest => do
    let mut found := false
    for pattern in patterns do
      if !found then found := Item.covers (← expandPattern run pattern) text
    if found then
      setStatus 0
      run body
    else select run text rest

def takeNothing : Act Unit := do
  if let .ok file ← Act.openPath "/dev/null" { reads := true } false then Act.assign 0 file

/-- Starts the commands of a pipeline, each with its input from the one before; the first one
does the given thing to its input. -/
def startPiped (run : Command → Act Unit) (takeInput : Act Unit) : List Command → Act (List Nat)
  | [] => return []
  | command :: rest => do
    if rest.isEmpty then
      let id ← Act.beside enterSubshell do
        takeInput
        asShell run (run command)
      return [id]
    else
      let (reader, writer) ← Act.changeWorld fun world =>
        let (world, reader, writer) := world.addPipe (some 65536)
        ((reader, writer), world)
      let id ← Act.beside enterSubshell do
        takeInput
        Act.assign 1 writer
        asShell run (run command)
      return id :: (← startPiped run (Act.assign 0 reader) rest)

def finishPiped : List Nat → Ending → Act Ending
  | [], last => return last
  | id :: rest, _ => do
    let ending ← Act.ending id
    tellSignal ending
    finishPiped rest ending

def undisturbed (process : Process) : Process :=
  { process with traps := [(2, ""), (3, "")] ++
    process.traps.filter fun entry => entry.1 != 2 && entry.1 != 3 }

def inBackground (run : Command → Act Unit) (command : Command) : Act Unit := do
  let ids ← match command with
    | .pipeline commands => startPiped run takeNothing commands
    | command =>
      let (command, items) := match command with
        | .group _ command items => (command, items)
        | command => (command, [])
      pure [← Act.beside (fun process => undisturbed (enterSubshell process)) do
        takeNothing
        asShell run do
          match ← redirectAll run items with
          | .ok () => run command
          | .error message => abort message]
  Act.setProcess fun process => { process with
    children := process.children ++ ids, lastChild? := ids.getLast?, status := 0 }

def plainName? : Command → Option String
  | .simple _ _ (word :: _) _ => (plain? word).filter isName
  | _ => none

def step (run : Command → Act Unit) (bound : Nat) : Command → Act Unit
  | .nothing => return
  | .simple line assignments words items => do
    simpleCommand run line assignments words items
    runTraps run
    checkFailure
  | .pipeline commands => do
    for name in commands.filterMap plainName? do
      if !isBuiltin name then
        let _ ← lookUp name
    let ending ← finishPiped (← startPiped run (return ()) commands) (.exited 0)
    setStatus ending.status
    runTraps run
    checkFailure
  | .negated command => do
    let status ← tested (run command)
    setStatus (if status = 0 then 1 else 0)
  | .both first second => do
    if (← tested (run first)) = 0 then run second
  | .either first second => do
    if (← tested (run first)) ≠ 0 then run second
  | .sequence first second => do
    withMore (run first)
    run second
  | .background command => inBackground run command
  | .group line command items => do
    Act.setProcess fun process => { process with line }
    match ← redirected run items (withMore (run command)) with
    | some () => return
    | none =>
      setStatus 2
      checkFailure
  | .subshell line command items => do
    Act.setProcess fun process => { process with line }
    Act.pause stepTime
    if (← Act.process).replaceable then
      match ← redirectAll run items with
      | .ok () =>
        Act.setProcess enterSubshell
        Act.throw (.exit (← asShell run (run command)))
      | .error message => abort message
    let result ← redirected run items (Act.inside enterSubshell (asShell run (run command)))
    match result with
    | some ending =>
      tellSignal ending
      setStatus ending.status
    | none => setStatus 2
    runTraps run
    checkFailure
  | .choice condition yes no => do
    if (← tested (run condition)) = 0 then run yes
    else
      match no with
      | .nothing => setStatus 0
      | _ => run no
  | .loop whileTrue condition body => withMore (loop run whileTrue condition body bound 0)
  | .each line name words? body => do
    Act.setProcess fun process => { process with line }
    let values ← match words? with
      | some words => expandWords run words
      | none => pure (← Act.process).args
    setStatus 0
    withMore (each run name body values)
  | .select line word cases => do
    Act.setProcess fun process => { process with line }
    select run (← expandText run word).toList cases
  | .define _ name body => do
    Act.setProcess fun process => { process with
      functions := (name, body) :: process.functions.filter (·.1 != name), status := 0 }

/-- Runs a command, unless nothing is to be run any more; the bound is on the depth of nesting
and the rounds of loops. -/
def evaluate : Nat → Command → Act Unit
  | 0, _ => Act.throw (.exit 2)
  | bound + 1, command => do
    if !(← Act.process).switches.idle then step (evaluate bound) bound command

end ImpToC.Shell
