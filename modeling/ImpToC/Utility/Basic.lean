import ImpToC.Utility.Stream

/-! What programs have in common: the options among their words. -/
namespace ImpToC.Utility

inductive Misuse where
  | option (message : String)
  | value (message : String)
  | version
  | help

structure Spec where
  letters : String
  long : List (String × Char) := []
  first : Bool := false
  patient : Bool := false
  status : Nat := 1

structure Parsed where
  options : List (Char × String) := []
  words : List String := []
  faults : List Misuse := []

namespace Parsed

def has (parsed : Parsed) (letter : Char) : Bool := parsed.options.any (·.1 == letter)

def value? (parsed : Parsed) (letter : Char) : Option String :=
  (parsed.options.reverse.find? (·.1 == letter)).map Prod.snd

def add (parsed : Parsed) (letter : Char) (value : String) : Parsed :=
  { parsed with options := parsed.options ++ [(letter, value)] }

def blame (parsed : Parsed) (fault : Misuse) : Parsed :=
  { parsed with faults := parsed.faults ++ [fault] }

end Parsed

namespace Spec

def takesValue (spec : Spec) (letter : Char) : Bool :=
  (spec.letters.toList.dropWhile (· != letter))[1]? == some ':'

def mayLackValue (spec : Spec) (letter : Char) : Bool :=
  (spec.letters.toList.dropWhile (· != letter))[2]? == some ':'

def knows (spec : Spec) (letter : Char) : Bool :=
  letter != ':' && spec.letters.toList.contains letter

/-- Reads a word of option letters; a value is the rest of the word or the next word. The
words that are left are missing if nothing more is read. -/
def cluster (spec : Spec) : List Char → List String → Parsed → Parsed × Option (List String)
  | [], rest, parsed => (parsed, some rest)
  | letter :: more, rest, parsed =>
    let shown := " -- '" ++ String.singleton letter ++ "'"
    if !spec.knows letter then
      let parsed := parsed.blame (.option ("invalid option" ++ shown))
      if spec.patient then spec.cluster more rest parsed else (parsed, none)
    else if !spec.takesValue letter then spec.cluster more rest (parsed.add letter "")
    else if !more.isEmpty || spec.mayLackValue letter then
      (parsed.add letter (String.ofList more), some rest)
    else match rest with
      | value :: rest => (parsed.add letter value, some rest)
      | [] => (parsed.blame (.option ("option requires an argument" ++ shown)), none)

def common : List (String × Char) := [("help", '\x01'), ("version", '\x02')]

def longOption (spec : Spec) (text : List Char) (rest : List String) (parsed : Parsed) :
    Parsed × Option (List String) :=
  let start := String.ofList (text.takeWhile (· != '='))
  let value := String.ofList ((text.dropWhile (· != '=')).drop 1)
  let given := text.contains '='
  let all := spec.long ++ common
  let exact := all.filter (·.1 == start)
  let found := if exact.isEmpty then all.filter (·.1.startsWith start) else exact
  let whole := "'--" ++ String.ofList text ++ "'"
  let stop := fun (message : String) =>
    ((parsed.blame (.option message), none) : Parsed × Option (List String))
  match found, (found.map Prod.snd).eraseDups with
  | (name, _) :: _, [letter] =>
    if !spec.takesValue letter then
      if given then stop ("option '--" ++ name ++ "' doesn't allow an argument")
      else if letter = '\x01' then (parsed.blame .help, none)
      else if letter = '\x02' then (parsed.blame .version, none)
      else (parsed.add letter "", some rest)
    else if given || spec.mayLackValue letter then (parsed.add letter value, some rest)
    else match rest with
      | value :: rest => (parsed.add letter value, some rest)
      | [] => stop ("option '--" ++ name ++ "' requires an argument")
  | [], _ => stop ("unrecognized option " ++ whole)
  | found, _ => stop ("option " ++ whole ++ " is ambiguous; possibilities:" ++
      String.join (found.map fun entry => " '--" ++ entry.1 ++ "'"))

def option (spec : Spec) : List Char → List String → Parsed → Parsed × Option (List String)
  | '-' :: text, rest, parsed => spec.longOption text rest parsed
  | letters, rest, parsed => spec.cluster letters rest parsed

/-- Tells options from other words, up to the first fault; the first argument bounds the
words. -/
def read (spec : Spec) : Nat → List String → Parsed → Parsed
  | 0, _, parsed => parsed
  | bound + 1, words, parsed =>
    match words with
    | [] => parsed
    | "--" :: rest => { parsed with words := parsed.words ++ rest }
    | word :: rest =>
      match word.toList with
      | '-' :: letter :: letters =>
        match spec.option (letter :: letters) rest parsed with
        | (parsed, some rest) => spec.read bound rest parsed
        | (parsed, none) => parsed
      | _ =>
        if spec.first then { parsed with words := parsed.words ++ words }
        else spec.read bound rest { parsed with words := parsed.words ++ [word] }

def parse (spec : Spec) (args : List String) : Parsed := spec.read (args.length + 1) args {}

end Spec

def hint (name : String) : String := "Try '" ++ name ++ " --help' for more information."

def misuse (message : String) (status : Nat) : Act Nat := do
  complain message
  let _ ← Act.write 2 (hint (← Act.process).name ++ "\n")
  return status

def answer (status : Nat) : Misuse → Act Nat
  | .option message => misuse message status
  | .value message => do
    complain message
    return status
  | .version => do
    printLine (Path.base (← Act.process).name ++ " (GNU coreutils) 9.1")
    return 0
  | .help => do
    printLine ("Usage: " ++ (← Act.process).name ++ " [OPTION]...")
    return 0

/-- Goes on unless something is wrong. -/
def Spec.settle (spec : Spec) (parsed : Parsed) (action : Parsed → Act Nat) : Act Nat := do
  match parsed.faults.getLast? with
  | none => action parsed
  | some last =>
    for fault in parsed.faults.dropLast do
      if let .option message := fault then complain message
    answer spec.status last

/-- Runs a program on its options and words. Values are checked as they come, before it is
told that a later option is not known. -/
def withSpec (spec : Spec) (check : Char → String → Act (Option Misuse)) (args : List String)
    (action : Parsed → Act Nat) : Act Nat := do
  let parsed := spec.parse args
  for (letter, value) in parsed.options do
    if let some fault ← check letter value then return ← answer spec.status fault
  spec.settle parsed action

def unchecked (_ : Char) (_ : String) : Act (Option Misuse) := return none

def withOptions (letters : String) (long : List (String × Char)) (args : List String)
    (action : Parsed → Act Nat) : Act Nat :=
  withSpec { letters, long } unchecked args action

def withOwnHint (spec : Spec) (args : List String) (action : Parsed → Act Nat) : Act Nat := do
  let parsed := spec.parse args
  match parsed.faults.head? with
  | none => action parsed
  | some (.option message) =>
    complain message
    complain (hint (← Act.process).name)
    return spec.status
  | some fault => answer spec.status fault

def quote (text : String) : String := "'" ++ text ++ "'"

def natural? (text : String) : Option Nat :=
  if text.isEmpty || !text.toList.all Char.isDigit then none else text.toNat?

def size? (text : String) : Option Nat :=
  let digits := text.toList.takeWhile Char.isDigit
  let factor? := match String.ofList (text.toList.drop digits.length) with
    | "" => some 1
    | "b" => some 512
    | "k" | "K" | "KiB" => some 1024
    | "kB" | "KB" => some 1000
    | "M" | "MiB" => some 1048576
    | "MB" => some 1000000
    | "G" | "GiB" => some 1073741824
    | _ => none
  match (String.ofList digits).toNat?, factor? with
  | some n, some factor => some (n * factor)
  | _, _ => none

def padLeft (width : Nat) (text : String) : String :=
  String.ofList (List.replicate (width - text.length) ' ') ++ text

def padRight (width : Nat) (text : String) : String :=
  text ++ String.ofList (List.replicate (width - text.length) ' ')

end ImpToC.Utility
