import ImpToC.Shell.Variables

/-! Scripts: texts that are read and run line by line, and what is done at their end. -/
namespace ImpToC.Shell

def signals : List (Nat × String × String) :=
  [(1, "HUP", "Hangup"), (2, "INT", "Interrupt"), (3, "QUIT", "Quit"),
   (4, "ILL", "Illegal instruction"), (5, "TRAP", "Trace/breakpoint trap"), (6, "ABRT", "Aborted"),
   (7, "BUS", "Bus error"), (8, "FPE", "Floating point exception"), (9, "KILL", "Killed"),
   (10, "USR1", "User defined signal 1"), (11, "SEGV", "Segmentation fault"),
   (12, "USR2", "User defined signal 2"), (13, "PIPE", "Broken pipe"), (14, "ALRM", "Alarm clock"),
   (15, "TERM", "Terminated"), (16, "STKFLT", "Stack fault"), (17, "CHLD", "Child exited"),
   (18, "CONT", "Continued"), (19, "STOP", "Stopped (signal)"), (20, "TSTP", "Stopped"),
   (21, "TTIN", "Stopped (tty input)"), (22, "TTOU", "Stopped (tty output)"),
   (23, "URG", "Urgent I/O condition"), (24, "XCPU", "CPU time limit exceeded"),
   (25, "XFSZ", "File size limit exceeded"), (26, "VTALRM", "Virtual timer expired"),
   (27, "PROF", "Profiling timer expired"), (28, "WINCH", "Window changed"),
   (29, "IO", "I/O possible"), (30, "PWR", "Power failure"), (31, "SYS", "Bad system call")]

def signal? (word : String) : Option Nat :=
  if !word.isEmpty && word.toList.all Char.isDigit then
    word.toNat?.bind fun n => if n ≤ 64 then some n else none
  else
    let name := word.toUpper
    let name := if name.startsWith "SIG" then String.ofList (name.toList.drop 3) else name
    if name = "EXIT" then some 0 else (signals.find? (·.2.1 == name)).map Prod.fst

def tellSignal : Ending → Act Unit
  | .exited _ => return
  | .killed signal => do
    if signal = 2 || signal = 13 then return
    let text := ((signals.lookup signal).map Prod.snd).getD ("Signal " ++ toString signal)
    let _ ← Act.write 2 (text ++ "\n")

/-- Runs the lines of a script; with `closes` nothing is done after the last line. -/
def runLines (run : Command → Act Unit) (closes : Bool) : Nat → Reader → Act Unit
  | 0, _ => return
  | bound + 1, reader => do
    if Parse.atEnd reader then return
    match Parse.nextLine { reader with aliases := (← Act.process).aliases } with
    | .error fault =>
      Act.setProcess fun process => { process with line := fault.line }
      abort ("Syntax error: " ++ fault.message)
    | .ok (command, after) =>
      if (← Act.process).switches.verbose then
        let _ ← Act.write 2 (String.ofList (reader.rest.take (reader.rest.length - after.rest.length)))
      let reader := after
      if closes && reader.pushed?.isSome then
        Act.setProcess fun process => { process with last := true }
      run command
      runLines run closes bound reader

def withMore {α : Type} (action : Act α) : Act α := do
  let last := (← Act.process).last
  Act.setProcess fun process => { process with last := false }
  let result ← action
  Act.setProcess fun process => { process with last }
  return result

def maxLines : Nat := 1000000000

def runText (run : Command → Act Unit) (text : String) : Act Unit :=
  withMore (runLines run false maxLines { rest := text.toList })

def runTextFrom (run : Command → Act Unit) (origin text : String) : Act Unit := do
  let before := (← Act.process).origin
  let restore : Act Unit := Act.setProcess fun process => { process with origin := before }
  Act.setProcess fun process => { process with origin }
  Act.tryCatch (runText run text) fun halt => do
    restore
    Act.throw halt
  restore

def runTrap (run : Command → Act Unit) (action : String) : Act Unit := do
  let status := (← Act.process).status
  runText run action
  setStatus status

def runTraps (run : Command → Act Unit) : Act Unit := do
  let process ← Act.process
  for signal in ← Act.handledSignals do
    if let some action := process.traps.lookup signal then
      Act.setWorld fun world => { world with
        signals := world.signals.filter fun entry => entry != (process.id, signal) }
      runTrap run action

def runLast (run : Command → Act Unit) (status : Nat) : Act Nat := do
  match (← Act.process).traps.lookup 0 with
  | none => return status
  | some action =>
    Act.setProcess fun process => { process with traps := process.traps.filter (·.1 != 0), status }
    Act.tryCatch
      (do
        runText run action
        return status)
      fun halt => match halt with
        | .exit status => return status
        | .killed signal => Act.throw (.killed signal)
        | _ => return status

def asShell (run : Command → Act Unit) (action : Act Unit) : Act Nat := do
  let status ← Act.tryCatch
    (do
      action
      return (← Act.process).status)
    fun halt => match halt with
      | .exit status => return status
      | .back status => return status
      | .leave .. => return (← Act.process).status
      | .killed signal => Act.throw (.killed signal)
  runLast run status

/-- A shell inside another one keeps of its traps only what is ignored, and is done after its
commands. -/
def enterSubshell (process : Process) : Process :=
  { process with traps := process.traps.filter (·.2 == ""), loops := 0, last := true }

end ImpToC.Shell
