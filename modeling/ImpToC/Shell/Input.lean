import ImpToC.Shell.Builtin

/-! Reading a line into variables, and options off the parameters. -/
namespace ImpToC.Shell.Builtin

/-- The characters of a line, read one by one. A backslash hides the character after it and
joins lines, unless `raw`; the flag at the end tells whether the line was complete. -/
def lineOf (raw : Bool) : Nat → Array (Char × Bool) → Act (Array (Char × Bool) × Bool)
  | 0, before => return (before, false)
  | bound + 1, before => do
    match ← Act.receive 0 1 with
    | .error _ => return (before, false)
    | .ok bytes =>
      match (Octets.ofBytes bytes).toList with
      | [] => return (before, false)
      | c :: _ =>
        if c = '\n' then return (before, true)
        else if c = '\x00' then lineOf raw bound before
        else if c = '\\' && !raw then
          match ← Act.receive 0 1 with
          | .error _ => return (before, false)
          | .ok bytes =>
            match (Octets.ofBytes bytes).toList with
            | [] => return (before, false)
            | d :: _ =>
              if d = '\n' then lineOf raw bound before
              else lineOf raw bound (before.push (d, true))
        else lineOf raw bound (before.push (c, false))

def isBlank (c : Char) : Bool := c == ' ' || c == '\t' || c == '\n'

def distribute (separators : List Char) : Nat → List (Char × Bool) → List String
  | 0, _ => []
  | count + 1, line =>
    let separates := fun (entry : Char × Bool) => !entry.2 && separators.contains entry.1
    let blank := fun (entry : Char × Bool) => separates entry && isBlank entry.1
    let line := line.dropWhile blank
    let text := fun (cs : List (Char × Bool)) => String.ofList (cs.map Prod.fst)
    let field := line.takeWhile (!separates ·)
    let after := (line.drop field.length).dropWhile blank
    let after := match after with
      | entry :: rest => if separates entry then rest.dropWhile blank else after
      | [] => []
    if count = 0 then
      [if after.isEmpty then text field else text (line.reverse.dropWhile blank).reverse]
    else text field :: distribute separators count after

def read (args : List String) : Act Nat := withOptions "read" "p:r" args fun found names => do
  if names.isEmpty then return ← problem "read" "arg count"
  if let some name := names.find? (!isName ·) then
    return ← problem "read" (name ++ ": bad variable name")
  let raw := found.contains 'r'
  let (line, complete) ← lineOf raw 1000000000 #[]
  let separators := (← Act.process).separators.toList
  for (name, value) in names.zip (distribute separators names.length line.toList) do
    setVariable name value
  return if complete then 0 else 1

def getopts (args : List String) : Act Nat := do
  match args with
  | letters :: name :: rest =>
    let process ← Act.process
    let words := if rest.isEmpty then process.args else rest
    let quiet := letters.startsWith ":"
    let letters := (if quiet then letters.toList.drop 1 else letters.toList)
    let index := ((process.value? "OPTIND").bind natural?).getD 1
    let index := max index 1
    let offset := if index = 1 && process.optionOffset = 0 then 0 else process.optionOffset
    let word := (words[index - 1]?).getD ""
    let finish := fun (index offset status : Nat) (found : String) (arg? : Option String) => do
      setVariable "OPTIND" (toString index)
      Act.setProcess fun process => { process with optionOffset := offset }
      match arg? with
      | some arg => setVariable "OPTARG" arg
      | none => Act.setProcess fun process => { process with vars := process.vars.filter (·.1 != "OPTARG") }
      setVariable name found
      return status
    if offset = 0 && (!word.startsWith "-" || word = "-") then finish index 0 1 "?" none
    else if offset = 0 && word = "--" then finish (index + 1) 0 1 "?" none
    else
      let position := if offset = 0 then 1 else offset
      let letter := (word.toList[position]?).getD '?'
      let last := position + 1 ≥ word.length
      let next := if last then (index + 1, 0) else (index, position + 1)
      let shown := String.singleton letter
      if letter = ':' || !letters.contains letter then
        if quiet then finish next.1 next.2 0 "?" (some shown)
        else
          let _ ← Act.write 2 ("Illegal option -" ++ shown ++ "\n")
          finish next.1 next.2 0 "?" none
      else if (letters.dropWhile (· != letter))[1]? == some ':' then
        if !last then
          finish (index + 1) 0 0 shown (some (String.ofList (word.toList.drop (position + 1))))
        else
          match words[index]? with
          | some arg => finish (index + 2) 0 0 shown (some arg)
          | none =>
            if quiet then finish (index + 1) 0 0 ":" (some shown)
            else
              let _ ← Act.write 2 ("No arg for -" ++ shown ++ " option\n")
              finish (index + 1) 0 0 "?" none
      else finish next.1 next.2 0 shown (some "")
  | _ => problem "getopts" "Usage: getopts optstring var [arg...]"

end ImpToC.Shell.Builtin
