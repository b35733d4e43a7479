import ImpToC.Shell.Reader

/-! The grammar of the command language. A rule for nested commands is passed down, so that
one function, bounded by the length of the script, ties them together. -/
namespace ImpToC.Shell.Parse

open Reader

/-- The commands that belong to the language so closely that no function replaces them. -/
def specialBuiltins : List String :=
  [":", ".", "break", "continue", "eval", "exec", "exit", "export", "readonly", "return", "set",
   "shift", "times", "trap", "unset"]

def unexpected {α : Type} (token : Token) (wanted? : Option Token) : Rule α :=
  fail (token.name ++ " unexpected" ++
    (match wanted? with
      | none => ""
      | some wanted => " (expecting " ++ wanted.name ++ ")"))

def isKeyword (text : String) : Token → Bool
  | .keyword other => other == text
  | _ => false

def expect (grammar : Goal → Rule Command) (text : String) : Rule Unit := do
  let token ← token grammar true true
  if !isKeyword text token then unexpected token (some (.keyword text))

def unquoted (word : Word) : String :=
  String.join (word.map fun part => match part with
    | .text text _ => text
    | .param name _ _ => "$" ++ name
    | _ => "")

def isVerbatim (word : Word) : Bool := word.any fun part => match part with
  | .text _ quoted => quoted
  | _ => false

def redirect (grammar : Goal → Rule Command) (descriptor? : Option Nat) (operator : String) :
    Rule Redirect := do
  let target ← token grammar false false
  let .word word := target | unexpected target none
  let input := descriptor?.getD 0
  let output := descriptor?.getD 1
  match operator with
  | "<" => return .file input .input word
  | "<>" => return .file input .both word
  | ">" => return .file output .output word
  | ">|" => return .file output .clobber word
  | ">>" => return .file output .append word
  | "<&" => return .same input word
  | ">&" => return .same output word
  | _ =>
    let index := (← get).count
    modify fun reader => { reader with
      count := index + 1,
      announced := reader.announced ++
        [⟨unquoted word, operator == "<<-", isVerbatim word, index⟩] }
    return .text input (((← read).lookup index).getD [])

def redirects (grammar : Goal → Rule Command) : Nat → Array Redirect → Rule (List Redirect)
  | 0, before => return before.toList
  | bound + 1, before => do
    match ← token grammar true false with
    | .redirect descriptor? operator =>
      let item ← redirect grammar descriptor? operator
      redirects grammar bound (before.push item)
    | other =>
      push other
      return before.toList

def assignment? : Word → Option (String × Word)
  | .text text false :: rest =>
    let name := text.toList.takeWhile (· != '=')
    let after := text.toList.drop name.length
    if after.isEmpty || !isName (String.ofList name) then none
    else
      let value := String.ofList (after.drop 1)
      some (String.ofList name, if value.isEmpty then rest else .text value false :: rest)
  | _ => none

def simple (grammar : Goal → Rule Command) (line : Nat) :
    Nat → Array (String × Word) → Array Word → Array Redirect → Rule Command
  | 0, assigned, words, items => return .simple line assigned.toList words.toList items.toList
  | bound + 1, assigned, words, items => do
    match ← tokenWhere grammar false false words.isEmpty with
    | .word parts =>
      match if words.isEmpty then assignment? parts else none with
      | some entry => simple grammar line bound (assigned.push entry) words items
      | none => simple grammar line bound assigned (words.push parts) items
    | .redirect descriptor? operator =>
      let item ← redirect grammar descriptor? operator
      simple grammar line bound assigned words (items.push item)
    | .open =>
      match words.toList, assigned.isEmpty && items.isEmpty with
      | [name], true =>
        let closing ← token grammar false false
        match closing with
        | .close =>
          let name := (plain? name).getD ""
          if !isName name || specialBuiltins.contains name then fail "Bad function name"
          let first ← token grammar true true
          push first
          return .define line name (← grammar .command)
        | other => unexpected other (some .close)
      | _, _ =>
        push .open
        return .simple line assigned.toList words.toList items.toList
    | other =>
      push other
      return .simple line assigned.toList words.toList items.toList

def wordsUpToEnd (grammar : Goal → Rule Command) : Nat → Array Word → Rule (List Word)
  | 0, before => return before.toList
  | bound + 1, before => do
    match ← token grammar false false with
    | .word parts => wordsUpToEnd grammar bound (before.push parts)
    | .newline | .semicolon => return before.toList
    | other => unexpected other none

def patterns (grammar : Goal → Rule Command) : Nat → Array Word → Rule (List Word)
  | 0, before => return before.toList
  | bound + 1, before => do
    let before := match ← token grammar false false with
      | .word parts => before.push parts
      | .keyword text => before.push [.text text false]
      | _ => before.push []
    match ← token grammar false false with
    | .bar => patterns grammar bound before
    | .close => return before.toList
    | other => unexpected other (some .close)

def cases (grammar : Goal → Rule Command) :
    Nat → Array (List Word × Command) → Rule (List (List Word × Command))
  | 0, before => return before.toList
  | bound + 1, before => do
    let first ← token grammar true true
    match first with
    | .keyword "esac" => return before.toList
    | .open => pure ()
    | other => push other
    let choices ← patterns grammar bound #[]
    let body ← grammar .maybe
    let before := before.push (choices, body)
    match ← token grammar true true with
    | .doubleSemicolon => cases grammar bound before
    | .keyword "esac" => return before.toList
    | other => unexpected other (some .doubleSemicolon)

def branches (grammar : Goal → Rule Command) : Nat → Rule Command
  | 0 => fail "nesting too deep"
  | bound + 1 => do
    let condition ← grammar .list
    expect grammar "then"
    let yes ← grammar .list
    match ← token grammar true true with
    | .keyword "elif" => return .choice condition yes (← branches grammar bound)
    | .keyword "else" =>
      let no ← grammar .list
      expect grammar "fi"
      return .choice condition yes no
    | .keyword "fi" => return .choice condition yes .nothing
    | other => unexpected other (some (.keyword "fi"))

/-- Redirections after a compound command, which apply to all of it. -/
def withRedirects (grammar : Goal → Rule Command) (line : Nat) (command : Command) :
    Rule Command := do
  match ← redirects grammar (← limit) #[] with
  | [] => return command
  | items => return .group line command items

def forLoop (grammar : Goal → Rule Command) (line : Nat) : Rule Command := do
  let name ← match ← token grammar false false with
    | .word parts =>
      match plain? parts with
      | some text => if isName text then pure text else fail "Bad for loop variable"
      | none => fail "Bad for loop variable"
    | _ => fail "Bad for loop variable"
  let bound ← limit
  let words? ← match ← token grammar true true with
    | .keyword "in" => pure (some (← wordsUpToEnd grammar bound #[]))
    | .semicolon => pure none
    | other =>
      push other
      pure none
  expect grammar "do"
  let body ← grammar .list
  expect grammar "done"
  return .each line name words? body

def selection (grammar : Goal → Rule Command) (line : Nat) : Rule Command := do
  let subject ← token grammar false false
  let .word word := subject | unexpected subject (some (.word []))
  expect grammar "in"
  return .select line word (← cases grammar (← limit) #[])

def command (grammar : Goal → Rule Command) : Rule Command := do
  let first ← token grammar true false
  let line := (← get).line
  let compound := fun (rule : Rule Command) => do withRedirects grammar line (← rule)
  let loop := fun (whileTrue : Bool) => compound do
    let condition ← grammar .list
    expect grammar "do"
    let body ← grammar .list
    expect grammar "done"
    return .loop whileTrue condition body
  match first with
  | .keyword "if" => compound (branches grammar (← limit))
  | .keyword "while" => loop true
  | .keyword "until" => loop false
  | .keyword "for" => compound (forLoop grammar line)
  | .keyword "case" => compound (selection grammar line)
  | .keyword "\x7b" => compound do
    let body ← grammar .list
    expect grammar "\x7d"
    return body
  | .open =>
    let body ← grammar .list
    match ← token grammar true true with
    | .close => return .subshell line body (← redirects grammar (← limit) #[])
    | other => unexpected other (some .close)
  | .word _ | .redirect .. =>
    push first
    simple grammar line (← limit) #[] #[] #[]
  | other => unexpected other none

def piped (grammar : Goal → Rule Command) : Nat → Array Command → Rule (List Command)
  | 0, before => return before.toList
  | bound + 1, before => do
    match ← token grammar true false with
    | .bar =>
      let first ← token grammar true true
      push first
      piped grammar bound (before.push (← command grammar))
    | other =>
      push other
      return before.toList

def pipeline (grammar : Goal → Rule Command) : Rule Command := do
  let first ← token grammar true false
  let negated := isKeyword "!" first
  if !negated then push first
  let one ← command grammar
  let joined ← match ← piped grammar (← limit) #[] with
    | [] => pure one
    | more => pure (.pipeline (one :: more))
  return if negated then .negated joined else joined

def joined (grammar : Goal → Rule Command) : Nat → Command → Rule Command
  | 0, before => return before
  | bound + 1, before => do
    let operator ← token grammar true false
    let second : Rule Command := do
      let first ← token grammar true true
      push first
      pipeline grammar
    match operator with
    | .andIf => joined grammar bound (.both before (← second))
    | .orIf => joined grammar bound (.either before (← second))
    | other =>
      push other
      return before

/-- Commands one after the other. A line ends at the end of the line, a list at a word
that cannot begin a command; `empty` says whether it may end before the first one. -/
def commands (grammar : Goal → Rule Command) (line : Bool) :
    Nat → Bool → Command → Rule Command
  | 0, _, before => return before
  | bound + 1, empty, before => do
    let first ← token grammar true (!line)
    match first with
    | .newline => return before
    | .done =>
      push .done
      return before
    | _ =>
      push first
      if empty && !line && first.endsList then return before
      let one ← joined grammar (← limit) (← pipeline grammar)
      let ending ← token grammar true false
      let one := match ending with
        | .ampersand => .background one
        | _ => one
      let before := match before with
        | .nothing => one
        | _ => .sequence before one
      match ending with
      | .done =>
        push .done
        return before
      | .newline =>
        push .newline
        commands grammar line bound true before
      | .ampersand | .semicolon => commands grammar line bound true before
      | other =>
        if line then unexpected other none
        push other
        return before

def step (grammar : Goal → Rule Command) : Goal → Rule Command
  | .line => do commands grammar true (← limit) false .nothing
  | .list => do commands grammar false (← limit) false .nothing
  | .maybe => do commands grammar false (← limit) true .nothing
  | .command => command grammar
  | .inside => do
    let body ← commands grammar false (← limit) true .nothing
    match ← token grammar true true with
    | .close => return body
    | other => unexpected other (some .close)
  | .whole => do
    let body ← commands grammar false (← limit) true .nothing
    match ← token grammar true true with
    | .done => return body
    | other => unexpected other none

def upTo : Nat → Goal → Rule Command
  | 0, _ => fail "nesting too deep"
  | depth + 1, goal => step (upTo depth) goal

/-- The next line of a script with all that belongs to it, and the reader after it. The
bodies of announced texts are found on the way, so a line with some is read twice. -/
def nextLine (reader : Reader) : Except Fault (Command × Reader) :=
  let reader := { reader with bodies := [], count := 0 }
  let rule := upTo ((reader.rest.length + 2) * (reader.aliases.length + 1)) .line
  match rule [] reader with
  | .error fault _ => .error fault
  | .ok command after =>
    if after.bodies.isEmpty then .ok (command, after)
    else
      match rule after.bodies reader with
      | .error fault _ => .error fault
      | .ok command after => .ok (command, after)

def atEnd (reader : Reader) : Bool := match reader.pushed? with
  | some .done => true
  | some _ => false
  | none => reader.rest.isEmpty

end ImpToC.Shell.Parse
