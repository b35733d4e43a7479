import ImpToC.Shell.Process

/-! Variables and parameters, and the faults that end a script. -/
namespace ImpToC.Shell

/-- Says what is wrong, with the name of the script and the line, and where it comes from. -/
def reportFrom (origin message : String) : Act Unit := do
  let process ← Act.process
  let _ ← Act.write 2
    (process.name ++ ": " ++ toString process.line ++ ": " ++ origin ++ message ++ "\n")

def report (message : String) : Act Unit := do reportFrom (← Act.process).origin message

def abort {α : Type} (message : String) : Act α := do
  report message
  Act.throw (.exit 2)

def setStatus (status : Nat) : Act Unit :=
  Act.setProcess fun process => { process with status }

def putVariable (name : String) (change : Variable → Variable) (vars : List (String × Variable)) :
    List (String × Variable) :=
  if vars.any (·.1 == name) then
    vars.map fun entry => if entry.1 == name then (name, change entry.2) else entry
  else (name, change {}) :: vars

def changeVariable (name : String) (change : Variable → Variable) : Act Unit :=
  Act.setProcess fun process => { process with vars := putVariable name change process.vars }

def position? (name : String) : Option Nat :=
  if !name.isEmpty && name.toList.all Char.isDigit then name.toNat? else none

def switchLetters (switches : Switches) : String :=
  String.join ([(switches.unset, "u"), (switches.exporting, "a"), (switches.keep, "C"),
    (switches.verbose, "v"), (switches.trace, "x"), (switches.idle, "n"), (switches.literal, "f"),
    (switches.failing, "e")].map fun (on, letter) => if on then letter else "")

end ImpToC.Shell

namespace ImpToC.Process

def value? (process : Process) (name : String) : Option String :=
  match name with
  | "?" => some (toString process.status)
  | "#" => some (toString process.args.length)
  | "$" => some (toString process.shell)
  | "!" => process.lastChild?.map toString
  | "-" => some (Shell.switchLetters process.switches)
  | "0" => some process.name
  | _ =>
    match Shell.position? name with
    | some n => process.args[n - 1]?
    | none => (process.vars.lookup name).bind Variable.value?

def separators (process : Process) : String := (process.value? "IFS").getD " \t\n"

end ImpToC.Process

namespace ImpToC.Shell

def setVariable (name value : String) : Act Unit := do
  let process ← Act.process
  if ((process.vars.lookup name).map Variable.fixed).getD false then
    abort (name ++ ": is read only")
  let exporting := process.switches.exporting
  changeVariable name fun old =>
    { old with value? := some value, exported := old.exported || exporting }
  if name = "OPTIND" then Act.setProcess fun process => { process with optionOffset := 0 }
  if name = "PATH" then Act.setProcess fun process => { process with known := [] }

end ImpToC.Shell
