import ImpToC.Shell.Builtin
import ImpToC.System.Program
import ImpToC.Text.Floating
import ImpToC.Utility.Basic

/-! Programs that wait, and programs that run others. -/
namespace ImpToC.Utility

/-- A way to take the place of the process by the program that some words name. -/
abbrev Starter := List String → Act (Except SystemError Nat)

def duration? (text : String) : Option Nat :=
  let endless := 1000000000000000
  match Floating.number? text.toList with
  | none => none
  | some (seconds, rest) =>
    let factor? : Option Float := match rest with
      | [] | ['s'] => some 1
      | ['m'] => some 60
      | ['h'] => some 3600
      | ['d'] => some 86400
      | _ => none
    factor?.bind fun factor =>
      if Floating.isNegative seconds || seconds.isNaN then none
      else
        let micros := seconds * factor * 1000000
        if micros ≥ 1e15 then some endless else some micros.ceil.toUInt64.toNat

def sleep (args : List String) : Act Nat :=
  withOptions "" [] args fun parsed => do
  let args := parsed.words
  if args.isEmpty then return ← misuse "missing operand" 1
  let bad := args.filter fun word => (duration? word).isNone
  for word in bad do
    complain ("invalid time interval " ++ quote word)
  if !bad.isEmpty then
    let _ ← Act.write 2 (hint (← Act.process).name ++ "\n")
    return 1
  Act.pause ((args.filterMap duration?).foldl (· + ·) 0)
  return 0

def startOr (start : Starter) (words : List String) (shown : String → String) : Act Nat := do
  match ← start words with
  | .ok status => return status
  | .error fault =>
    complain (shown (words.headD "") ++ ": " ++ fault.reason)
    return if fault = .noSuchFile || fault = .notADirectory then 127 else 126

def setEnvironment (name value : String) : Act Unit :=
  Act.setProcess fun process => { process with
    vars := process.vars.filter (·.1 != name) ++ [(name, { value? := some value, exported := true })] }

def environmentLines (process : Process) : List String :=
  process.vars.filterMap fun (name, entry) =>
    if entry.exported then entry.value?.map fun value => name ++ "=" ++ value else none

def envSpec : Spec :=
  { letters := "C:iS:u:v0", first := true, status := 125,
    long := [("ignore-environment", 'i'), ("null", '0'), ("unset", 'u'), ("chdir", 'C'),
      ("debug", 'v'), ("split-string", 'S')] }

/-- The options of `env` with the words after them. Words within a word are options too, if
they come first. -/
def envWords : Nat → List String → Parsed → Parsed
  | 0, words, parsed => { parsed with words }
  | bound + 1, words, parsed =>
    match words with
    | [] => parsed
    | "--" :: rest => { parsed with words := rest }
    | word :: rest =>
      match word.toList with
      | '-' :: letter :: letters =>
        match envSpec.option (letter :: letters) rest parsed with
        | (parsed, none) => parsed
        | (parsed, some rest) =>
          match parsed.options.getLast? with
          | some ('S', text) =>
            envWords bound (((text.splitOn " ").filter (!·.isEmpty)) ++ rest)
              { parsed with options := parsed.options.dropLast }
          | _ => envWords bound rest parsed
      | _ => { parsed with words }

def envSettings : List String → Act (List String)
  | [] => return []
  | word :: rest => do
    if !word.contains '=' then return word :: rest
    setEnvironment (String.ofList (word.toList.takeWhile (· != '=')))
      (String.ofList ((word.toList.dropWhile (· != '=')).drop 1))
    envSettings rest

def printEnvironment (parsed : Parsed) : Act Nat := do
  let mark := if parsed.has '0' then "\x00" else "\n"
  print (String.join ((environmentLines (← Act.process)).map (· ++ mark)))
  return 0

def env (start : Starter) (args : List String) : Act Nat :=
  envSpec.settle (envWords (args.length + 50) args {}) fun parsed => do
  let (clear, words) := match parsed.words with
    | "-" :: rest => (true, rest)
    | words => (parsed.has 'i', words)
  if clear then Act.setProcess fun process => { process with vars := [] }
  for (letter, value) in parsed.options do
    if letter = 'u' then
      Act.setProcess fun process => { process with vars := process.vars.filter (·.1 != value) }
  let words ← envSettings words
  if words.isEmpty then
    if parsed.has 'C' then return ← misuse "must specify command with --chdir (-C)" 125
    return ← printEnvironment parsed
  if parsed.has '0' then return ← misuse "cannot specify --null (-0) with command" 125
  if let some path := parsed.value? 'C' then
    let files ← Act.files
    let fault? ← match files.resolve (← Act.process).folder path true with
      | .error fault => pure (some fault)
      | .ok n =>
        if !(files.node n).isFolder then pure (some SystemError.notADirectory)
        else if !(files.node n).allows 1 then pure (some SystemError.permissionDenied)
        else
          Act.setProcess fun process => { process with folder := n }
          pure none
    if let some fault := fault? then
      complain ("cannot change directory to " ++ quote path ++ ": " ++ fault.reason)
      return 125
  startOr start words quote

def printenv (args : List String) : Act Nat :=
  withSpec { letters := "0", long := [("null", '0')], first := true, status := 2 } unchecked args
    fun parsed => do
  let process ← Act.process
  if parsed.words.isEmpty then return ← printEnvironment parsed
  parsed.words.foldlM (fun status name => do
    match (process.vars.lookup name).bind fun entry => if entry.exported then entry.value? else none with
    | some value =>
      print (value ++ if parsed.has '0' then "\x00" else "\n")
      return status
    | none => return 1) 0

/-- Runs a program that runs another after its own options. -/
def withCommand (letters : String) (long : List (String × Char)) (args : List String)
    (action : Parsed → Act Nat) : Act Nat :=
  withSpec { letters, long, first := true, status := 125 } unchecked args action

def nohup (start : Starter) (args : List String) : Act Nat :=
  withCommand "" [] args fun parsed => do
  if parsed.words.isEmpty then return ← misuse "missing operand" 125
  Act.setProcess fun process => { process with traps := (1, "") :: process.traps }
  startOr start parsed.words fun name => "failed to run command " ++ quote name

/-- A number in place of an option stands for a value of `-n`. -/
def withAdjustment : List String → List String
  | [] => []
  | word :: rest =>
    let digits := match word.toList with
      | '-' :: '-' :: more | '-' :: '+' :: more | '-' :: more => more
      | _ => []
    if digits.head?.any Char.isDigit then ("-n" ++ (word.drop 1).toString) :: withAdjustment rest
    else word :: rest

def nice (start : Starter) (args : List String) : Act Nat :=
  withCommand "n:" [("adjustment", 'n')] (withAdjustment args) fun parsed => do
  let value := (parsed.value? 'n').getD "0"
  match Floating.number? value.toList with
  | some (_, []) =>
    if !parsed.words.isEmpty then startOr start parsed.words quote
    else if parsed.has 'n' then misuse "a command must be given with an adjustment" 125
    else
      printLine "0"
      return 0
  | _ =>
    complain ("invalid adjustment " ++ quote value)
    return 125

def setsid (start : Starter) (args : List String) : Act Nat :=
  withSpec
    { letters := "cfwVh", long := [("ctty", 'c'), ("fork", 'f'), ("wait", 'w')], first := true }
    unchecked args fun parsed => do
  if parsed.words.isEmpty then return ← misuse "no command specified" 1
  startOr start parsed.words fun name => "failed to execute " ++ name

def stdbuf (start : Starter) (args : List String) : Act Nat :=
  withSpec
    { letters := "i:o:e:", long := [("input", 'i'), ("output", 'o'), ("error", 'e')],
      first := true, status := 125 }
    (fun letter value => pure (if value = "L" then
        if letter = 'i' then some (.option "line buffering stdin is meaningless") else none
      else if (size? value).isSome then none
      else some (.value ("invalid mode " ++ quote value))))
    args fun parsed => do
  if parsed.words.isEmpty then return ← misuse "missing operand" 125
  if parsed.options.isEmpty then
    return ← misuse "you must specify a buffering mode option" 125
  startOr start parsed.words fun name => "failed to run command " ++ quote name

/-- Runs a program for a limited time, and then ends it by a signal. -/
def timeout (start : Starter) (args : List String) : Act Nat :=
  withSpec
    { letters := "s:k:vfp", first := true, status := 125,
      long := [("signal", 's'), ("kill-after", 'k'), ("preserve-status", 'p'),
        ("foreground", 'f'), ("verbose", 'v')] }
    (fun letter value => return match letter with
      | 's' => if (Shell.signal? value).isSome then none
        else some (.option (quote value ++ ": invalid signal"))
      | 'k' => if (duration? value).isSome then none
        else some (.option ("invalid time interval " ++ quote value))
      | _ => none)
    args fun parsed => do
  match parsed.words with
  | [] | [_] =>
    let _ ← Act.write 2 (hint (← Act.process).name ++ "\n")
    return 125
  | limit :: words =>
    match duration? limit, Shell.signal? ((parsed.value? 's').getD "TERM") with
    | none, _ => misuse ("invalid time interval " ++ quote limit) 125
    | _, none => return 125
    | some micros, some signal =>
      let child ← Act.beside id (startOr start words fun name =>
        "failed to run command " ++ quote name)
      if micros = 0 then return (← Act.ending child).status
      let send := fun (signal : Nat) => Act.setWorld fun world =>
        (child :: world.descendants 1000 child).foldl (fun world id => world.signal id signal) world
      let watcher ← Act.beside id do
        Act.pause micros
        if (← Act.world).isLiving child then
          send signal
          if let some more := (parsed.value? 'k').bind duration? then
            Act.pause more
            send 9
          return 0
        else return 1
      let ending ← Act.ending child
      let expired := (← Act.world).ended.lookup watcher == some (.exited 0)
      Act.setWorld fun world => world.signal watcher 9
      match ending with
      | .killed number =>
        -- A signal that has ended the program, or that nobody survives, ends this one too.
        if !expired || number = 9 then Act.throw (.killed number)
        return if parsed.has 'p' then ending.status else 124
      | .exited status => return if expired && !parsed.has 'p' then 124 else status

def quotedWords : Nat → Option Char → Bool → List Char → List Char → List String
  | 0, _, _, _, _ => []
  | _ + 1, none, begun, word, [] => if begun then [String.ofList word.reverse] else []
  | _ + 1, some _, _, _, [] => []
  | bound + 1, quote?, begun, word, c :: rest =>
    match quote? with
    | some mark =>
      if c = mark then quotedWords bound none true word rest
      else if c = '\n' then []
      else quotedWords bound quote? true (c :: word) rest
    | none =>
      if c = '\x27' || c = '"' then quotedWords bound (some c) true word rest
      else if c = '\\' then match rest with
        | d :: rest => quotedWords bound none true (d :: word) rest
        | [] => quotedWords bound none begun word []
      else if c = ' ' || c = '\t' || c = '\n' then
        if begun then String.ofList word.reverse :: quotedWords bound none false [] rest
        else quotedWords bound none false [] rest
      else quotedWords bound none true (c :: word) rest

def openQuote? : Nat → Option Char → List Char → Option Char
  | 0, quote?, _ => quote?
  | _ + 1, quote?, [] => quote?
  | bound + 1, quote?, c :: rest =>
    match quote? with
    | some mark =>
      if c = mark then openQuote? bound none rest
      else if c = '\n' then some mark else openQuote? bound quote? rest
    | none =>
      if c = '\x27' || c = '"' then openQuote? bound (some c) rest
      else if c = '\\' then openQuote? bound none (rest.drop 1)
      else openQuote? bound none rest

def shellWord (word : String) : String :=
  let plain := fun (c : Char) => c.isAlphanum || "%+,-./:=@_^".toList.contains c
  if !word.isEmpty && word.toList.all plain then word
  else quote ("'\\''".intercalate (word.splitOn "'"))

def groupsOf {α : Type} (size : Nat) : Nat → List α → List (List α)
  | 0, _ => []
  | _ + 1, [] => []
  | bound + 1, items => items.take size :: groupsOf size bound (items.drop size)

def replaceAll (text old new : String) : String :=
  if old.isEmpty then text else new.intercalate (text.splitOn old)

def checkCount (letter : Char) (value : String) : Act (Option Misuse) := do
  let shown := "for -" ++ String.singleton letter ++ " option"
  let least := if letter = 'P' then 0 else 1
  if !("nLPs".toList.contains letter) then return none
  match Floating.signed? value.toList with
  | some (n, []) =>
    if n < least then
      return some (.option ("value " ++ value ++ " " ++ shown ++ " should be >= " ++
        toString (if letter = 'P' then 0 else 1 : Nat)))
    else return none
  | _ => return some (.option ("invalid number \"" ++ value ++ "\" " ++ shown))

def xargs (start : Starter) (args : List String) : Act Nat :=
  withSpec
    { letters := "0a:E:e::i::I:l::L:n:prs:txP:d:", first := true,
      long := [("null", '0'), ("arg-file", 'a'), ("delimiter", 'd'), ("eof", 'e'), ("replace", 'i'),
        ("max-lines", 'l'), ("max-args", 'n'), ("interactive", 'p'), ("no-run-if-empty", 'r'),
        ("max-chars", 's'), ("verbose", 't'), ("exit", 'x'), ("max-procs", 'P')] }
    checkCount args fun parsed => do
  let plain := fun (letter : Char) (value : String) => match letter with
    | 'i' => ('I', if value.isEmpty then "\x7b\x7d" else value)
    | 'l' => ('L', if value.isEmpty then "1" else value)
    | letter => (letter, value)
  let options := parsed.options.map fun option => plain option.1 option.2
  let parsed : Parsed := { parsed with options }
  let input ← match parsed.value? 'a' with
    | some path => match ← readPath path with
      | .error .isADirectory => pure (.ok "")
      | result => pure result
    | none => readAll 0 steps ""
  match input with
  | .error fault =>
    complain (match parsed.value? 'a' with
      | some path => "Cannot open input file " ++ quote path ++ ": " ++ fault.reason
      | none => fault.reason)
    return 1
  | .ok text =>
    let command := if parsed.words.isEmpty then ["echo"] else parsed.words
    let broken? := if parsed.has '0' || parsed.has 'd' then none
      else openQuote? (text.length + 1) none text.toList
    let separated := fun (mark : String) =>
      let pieces := text.splitOn mark
      if pieces.getLast? == some "" then pieces.dropLast else pieces
    let unescaped := (parsed.value? 'd').map fun mark =>
      if mark = "\\n" then "\n" else if mark = "\\t" then "\t" else if mark = "\\0" then "\x00"
      else mark
    let words := if parsed.has '0' then separated "\x00"
      else match unescaped with
        | some mark => separated mark
        | none =>
          if parsed.has 'I' then
            ((linesOf text).map fun line =>
              String.ofList (line.text.toList.dropWhile fun c => c = ' ' || c = '\t')).filter
              (!·.isEmpty)
          else quotedWords (text.length + 1) none false [] text.toList
    let calls : List (List String) := match parsed.value? 'I' with
      | some mark => words.map fun word => command.map fun part => replaceAll part mark word
      | none =>
        if words.isEmpty then (if parsed.has 'r' || broken?.isSome then [] else [command])
        else match (parsed.value? 'n').bind natural?, (parsed.value? 'L').bind natural? with
          | some n, _ =>
            let kept := if broken?.isSome then words.take (words.length / max 1 n * max 1 n) else words
            (groupsOf (max 1 n) (words.length + 1) kept).map fun group => command ++ group
          | none, some n =>
            (groupsOf (max 1 n) (text.length + 1) ((linesOf text).filter fun line =>
              !line.text.isEmpty)).map fun group => command ++ group.flatMap fun line =>
                quotedWords (line.text.length + 1) none false [] line.text.toList
          | none, none => if broken?.isSome then [] else [command ++ words]
    let rec go : List (List String) → Nat → Act Nat
      | [], status => return status
      | call :: rest, status => do
        if parsed.has 't' then
          let _ ← Act.write 2 (" ".intercalate (call.map shellWord) ++ "\n")
        let name := (← Act.process).name
        let ending ← Act.inside (fun process => process) do
          match ← start call with
          | .ok status => return status
          | .error fault =>
            let _ ← Act.write 2 (name ++ ": " ++ call.headD "" ++ ": " ++ fault.reason ++ "\n")
            return if fault = .noSuchFile then 127 else 126
        match ending with
        | .killed signal =>
          complain (call.headD "" ++ ": terminated by signal " ++ toString signal)
          return 125
        | .exited 0 => go rest status
        | .exited 255 =>
          complain (call.headD "" ++ ": exited with status 255; aborting")
          return 124
        | .exited n => if n = 126 || n = 127 then return n else go rest 123
    let status ← go calls 0
    match broken? with
    | none => return status
    | some mark =>
      complain ("unmatched " ++ (if mark = '"' then "double" else "single") ++
        " quote; by default quotes are special to xargs unless you use the -0 option")
      return 1

def which (args : List String) : Act Nat := do
  let parsed := Spec.parse { letters := "as", first := true } args
  if !parsed.faults.isEmpty then
    let wrong := ((args.find? fun word => word.startsWith "-").getD "").toList.find? fun c =>
      c != 'a' && c != 's' && c != '-'
    let _ ← Act.write 2 ("Illegal option -" ++ (wrong.map String.singleton).getD "-" ++ "\n")
    if wrong.isSome && !(args.any fun word => word.startsWith "-s") then
      printLine ("Usage: /usr/bin/which [-as] args")
    return 2
  let args := parsed.words
  let process ← Act.process
  let files ← Act.files
  let path := ((process.vars.lookup "PATH").bind (·.value?)).getD ""
  args.foldlM (fun status name => do
    match files.search? process.folder path name with
    | some found =>
      printLine found
      return status
    | none => return 1) (if args.isEmpty then 1 else 0)

def uname (args : List String) : Act Nat :=
  withOptions "asnrvmpio" [("all", 'a'), ("kernel-name", 's'), ("machine", 'm')] args
    fun parsed => do
  let has := fun (letter : Char) => parsed.has letter || parsed.has 'a'
  let parts := (if has 's' || parsed.options.isEmpty then ["Linux"] else []) ++
    (if has 'n' then ["localhost"] else []) ++ (if has 'm' then ["x86_64"] else []) ++
    (if has 'o' then ["GNU/Linux"] else [])
  printLine (" ".intercalate parts)
  return 0

def tty (args : List String) : Act Nat :=
  withSpec { letters := "s", long := [("silent", 's'), ("quiet", 's')], status := 2 } unchecked args
    fun parsed => do
  if let extra :: _ := parsed.words then return ← misuse ("extra operand " ++ quote extra) 2
  if !parsed.has 's' then printLine "not a tty"
  return 1

def pwdProgram (args : List String) : Act Nat :=
  withOptions "LP" [("logical", 'L'), ("physical", 'P')] args fun parsed => do
  if !parsed.words.isEmpty then complain "ignoring non-option arguments"
  let process ← Act.process
  let real := (← Act.files).workPath process.folder
  let known := ((process.vars.lookup "PWD").bind (·.value?)).getD real
  printLine (if (parsed.options.getLast?.map Prod.fst) == some 'L' then known else real)
  return 0

def echoProgram (args : List String) : Act Nat := do
  if args = ["--help"] then return ← answer 0 .help
  if args = ["--version"] then return ← answer 0 .version
  let isOption := fun (word : String) =>
    word.length > 1 && word.startsWith "-" && (word.toList.drop 1).all fun c => "neE".toList.contains c
  let options := args.takeWhile isOption
  let words := args.dropWhile isOption
  let letters := options.flatMap String.toList
  let escapes := ((letters.reverse.find? fun c => c = 'e' || c = 'E').map (· == 'e')).getD false
  let text := " ".intercalate words
  let (shown, stopped) := if escapes then
      let (shown, stopped) := Shell.unescape true true (text.length + 1) text.toList
      (String.ofList shown, stopped)
    else (text, false)
  print (shown ++ if letters.contains 'n' || stopped then "" else "\n")
  return 0

def inOctal : List Char → List Char
  | '\\' :: 'x' :: rest =>
    let isHex := fun (c : Char) => c.isDigit || 'a' ≤ c.toLower && c.toLower ≤ 'f'
    let digit := fun (c : Char) => if c.isDigit then c.toNat - 48 else c.toLower.toNat - 87
    match rest with
    | a :: b :: more =>
      if isHex a && isHex b then
        '\\' :: (Floating.padded 3 (Mode.octal 1 (16 * digit a + digit b))).toList ++ inOctal more
      else if isHex a then
        '\\' :: (Floating.padded 3 (Mode.octal 1 (digit a))).toList ++ inOctal (b :: more)
      else '\\' :: 'x' :: inOctal (a :: b :: more)
    | rest => '\\' :: 'x' :: rest
  | '\\' :: c :: rest => '\\' :: c :: inOctal rest
  | c :: rest => c :: inOctal rest
  | [] => []

def formatFault : Shell.Complaint → String
  | .noNumber arg => quote arg ++ ": expected a numeric value"
  | .partly arg => quote arg ++ ": value not completely converted"
  | .outOfRange arg => quote arg ++ ": Numerical result out of range"
  | .unfinished text => text ++ ": invalid conversion specification"
  | .noDirective text => text ++ ": invalid conversion specification"

def printfProgram (args : List String) : Act Nat := do
  match args with
  | ["--help"] => answer 0 .help
  | ["--version"] => answer 0 .version
  | _ =>
    match (if args.head? == some "--" then args.tail else args) with
    | [] => misuse "missing operand" 1
    | format :: args =>
      let printed := Shell.printf (inOctal format.toList) (args.length + 1) args {}
      print printed.text
      for complaint in printed.complaints do
        complain (formatFault complaint)
      if let some extra := printed.unused? then
        complain ("warning: ignoring excess arguments, starting with " ++ quote extra)
      return if printed.complaints.isEmpty && !printed.broken then 0 else 1

end ImpToC.Utility
