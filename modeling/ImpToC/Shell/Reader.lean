import ImpToC.Shell.Syntax

/-! Reading the characters of a script: tokens, and words with their quoting and
expansions. What stands inside a command substitution is read by a rule that is passed in. -/
namespace ImpToC.Shell

structure Fault where
  line : Nat
  message : String

inductive Token where
  | done | newline | semicolon | doubleSemicolon | ampersand | bar | andIf | orIf
  | open | close
  | redirect (descriptor? : Option Nat) (operator : String)
  | keyword (text : String)
  | word (parts : Word)

instance : Inhabited Token := ⟨.done⟩

/-- A text whose lines follow later: the mark that ends it, whether tabs in front are
dropped, whether expansions are left alone, and its number. -/
structure Announced where
  mark : String
  tabs : Bool
  verbatim : Bool
  index : Nat

structure Reader where
  rest : List Char
  line : Nat := 1
  pushed? : Option Token := none
  announced : List Announced := []
  bodies : List (Nat × Word) := []
  count : Nat := 0
  aliases : List (String × String) := []
  /-- Those whose text is being read, each with what is left after that text, and whether the
  word after it may be such a word too. -/
  replacing : List (String × Nat × Bool) := []
  mayStand : Bool := false

/-- A rule may look at the bodies of announced texts, once they are known. -/
abbrev Rule := ReaderT (List (Nat × Word)) (EStateM Fault Reader)

/-- What can be asked of the grammar: a line, commands up to some closing word, the same
but possibly none, one command, commands up to a parenthesis, all commands. -/
inductive Goal where
  | line | list | maybe | command | inside | whole
  deriving DecidableEq

namespace Token

def keywords : List String :=
  ["!", "\x7b", "\x7d", "case", "do", "done", "elif", "else", "esac", "fi", "for", "if", "in",
   "then", "until", "while"]

def name : Token → String
  | done => "end of file"
  | newline => "newline"
  | semicolon => "\";\""
  | doubleSemicolon => "\";;\""
  | ampersand => "\"&\""
  | bar => "\"|\""
  | andIf => "\"&&\""
  | orIf => "\"||\""
  | .open => "\"(\""
  | close => "\")\""
  | redirect .. => "redirection"
  | keyword text => "\"" ++ text ++ "\""
  | word _ => "word"

def endsList : Token → Bool
  | done | doubleSemicolon | close => true
  | keyword text => ["\x7d", "do", "done", "elif", "else", "esac", "fi", "then"].contains text
  | _ => false

end Token

def plain? : Word → Option String
  | [.text text false] => some text
  | _ => none

def isNameStart (c : Char) : Bool := c.isAlpha || c == '_'

def isNameChar (c : Char) : Bool := c.isAlphanum || c == '_'

def isName (text : String) : Bool := match text.toList with
  | [] => false
  | c :: rest => isNameStart c && rest.all isNameChar

def isSpecialParam (c : Char) : Bool := "@*#?-$!".toList.contains c || c.isDigit

namespace Reader

def fail {α : Type} (message : String) : Rule α := do throw ⟨(← get).line, message⟩

def peek : Rule (Option Char) := return (← get).rest.head?

def next : Rule (Option Char) := do
  let reader ← get
  match reader.rest with
  | [] => return none
  | c :: rest =>
    set { reader with rest, line := if c = '\n' then reader.line + 1 else reader.line }
    return some c

def hiddenEnds : List Char → Nat → List Char × Nat
  | '\\' :: '\n' :: rest, count => hiddenEnds rest (count + 1)
  | rest, count => (rest, count)

def joinLines : Rule Unit := do
  let reader ← get
  if reader.rest.head? == some '\\' then
    let (rest, count) := hiddenEnds reader.rest 0
    set { reader with rest, line := reader.line + count }

def afterBlanks (comment : Bool) : List Char → Nat → List Char × Nat
  | [], count => ([], count)
  | '\n' :: rest, count => ('\n' :: rest, count)
  | '\\' :: '\n' :: rest, count =>
    if comment then ('\n' :: rest, count) else afterBlanks false rest (count + 1)
  | c :: rest, count =>
    if comment || c = ' ' || c = '\t' then afterBlanks comment rest count
    else if c = '#' then afterBlanks true rest count
    else (c :: rest, count)

def takeWhile (test : Char → Bool) : Rule (List Char) := do
  let reader ← get
  let taken := reader.rest.takeWhile test
  set { reader with
    rest := reader.rest.drop taken.length,
    line := reader.line + taken.count '\n' }
  return taken

inductive Mode where
  | word | quotes | braces (quoted singles : Bool) | lines | formula
  deriving DecidableEq

namespace Mode

def quoted : Mode → Bool
  | word => false
  | braces quoted _ => quoted
  | quotes | lines | formula => true

def hides (mode : Mode) (c : Char) : Bool := match mode with
  | word => true
  | braces quoted _ => !quoted || "$`\"\\\x7d".toList.contains c
  | quotes => "$`\"\\".toList.contains c
  | lines | formula => "$`\\".toList.contains c

end Mode

def within {α : Type} (text : List Char) (line : Nat) (rule : Rule α) : Rule α := do
  let outer ← get
  set { outer with rest := text, line, pushed? := none, announced := [] }
  let result ← rule
  modify fun inner => { outer with bodies := inner.bodies, count := inner.count }
  return result

def backquoted (quoted : Bool) : Nat → List Char → Rule (List Char)
  | 0, _ => fail "EOF in backquote substitution"
  | bound + 1, before => do
    match ← next with
    | none => fail "EOF in backquote substitution"
    | some '`' => return before.reverse
    | some '\\' =>
      match ← peek with
      | none => fail "EOF in backquote substitution"
      | some c =>
        let _ ← next
        if c = '\n' then backquoted quoted bound before
        else if c = '$' || c = '`' || c = '\\' || (quoted && c = '"') then
          backquoted quoted bound (c :: before)
        else backquoted quoted bound (c :: '\\' :: before)
    | some c => backquoted quoted bound (c :: before)

def change (inner : Mode → Rule Word) (quoted : Bool) : Rule Change := do
  let colon := (← peek) == some ':'
  if colon then
    let _ ← next
  joinLines
  let c ← next
  let fallback := fun (kind : Fallback) => do
    return Change.fallback kind colon (← inner (.braces quoted (!quoted)))
  let trim := fun (atEnd : Bool) (mark : Char) => do
    let longest := (← peek) == some mark
    if longest then
      let _ ← next
    return Change.trim atEnd longest (← inner (.braces false true))
  match c with
  | some '\x7d' =>
    if colon then
      let _ ← inner (.braces quoted (!quoted))
    return .none
  | some '-' => fallback .useDefault
  | some '+' => fallback .alternate
  | some '=' => fallback .assign
  | some '?' => fallback .fail
  | some '%' =>
    if colon then
      let _ ← inner (.braces quoted (!quoted))
      return .bad
    else trim true '%'
  | some '#' =>
    if colon then
      let _ ← inner (.braces quoted (!quoted))
      return .bad
    else trim false '#'
  | none => fail "Missing '\x7d'"
  | some c =>
    -- A line that ends here is not counted.
    if c = '\n' then modify fun reader => { reader with line := reader.line - 1 }
    let _ ← inner (.braces quoted (!quoted))
    return .bad

def bracedParam (inner : Mode → Rule Word) (quoted : Bool) : Rule Part := do
  let name : Rule String := do
    joinLines
    match ← peek with
    | some c =>
      if isNameStart c then return String.ofList (← takeWhile isNameChar)
      else if c.isDigit then return String.ofList (← takeWhile Char.isDigit)
      else if isSpecialParam c then
        let _ ← next
        return String.singleton c
      else return ""
    | none => return ""
  let counts ← match (← get).rest with
    | '#' :: '\x7d' :: _ => pure false
    | '#' :: c :: '\x7d' :: _ => pure (isNameChar c || isSpecialParam c)
    | '#' :: c :: _ => pure (isNameChar c)
    | _ => pure false
  if counts then
    let _ ← next
    let name ← name
    joinLines
    match ← next with
    | some '\x7d' => return .param name .length quoted
    | _ =>
      let _ ← inner (.braces quoted (!quoted))
      return .param name .bad quoted
  else
    let name ← name
    joinLines
    let change ← change inner quoted
    return .param name (if name = "" then .bad else change) quoted

def dollar (grammar : Goal → Rule Command) (inner : Mode → Rule Word) (quoted : Bool) :
    Rule (Option Part) := do
  joinLines
  match ← peek with
  | some '(' =>
    let _ ← next
    joinLines
    if (← peek) == some '(' then
      let _ ← next
      return some (.formula (← inner .formula) quoted)
    else
      let outer ← get
      set { outer with pushed? := none, announced := [] }
      let command ← grammar .inside
      modify fun reader => { reader with pushed? := none, announced := outer.announced }
      return some (.output command quoted)
  | some '\x7b' =>
    let _ ← next
    return some (← bracedParam inner quoted)
  | some c =>
    if isNameStart c then
      return some (.param (String.ofList (← takeWhile isNameChar)) .none quoted)
    else if isSpecialParam c then
      let _ ← next
      return some (.param (String.singleton c) .none quoted)
    else return none
  | none => return none

def vanishes : Part → Bool
  | .param "@" .none _ => true
  | _ => false

/-- The parts of a word. The literal text since the last part is kept in reverse; `depth`
counts the parentheses that are open in an expression. -/
def parts (grammar : Goal → Rule Command) :
    Nat → Mode → Nat → Array Part → List Char → Rule Word
  | 0, _, _, _, _ => fail "word too long"
  | bound + 1, mode, depth, before, literal => do
    let quoted := mode.quoted
    let flushed := if literal.isEmpty then before
      else before.push (.text (String.ofList literal.reverse) quoted)
    let inner := fun mode => parts grammar bound mode 0 #[] []
    let go := fun depth literal => parts grammar bound mode depth before literal
    let add := fun (part : Part) => parts grammar bound mode depth (flushed.push part) []
    match ← peek with
    | none =>
      match mode with
      | .word | .lines => return flushed.toList
      | .quotes => fail "Unterminated quoted string"
      | .braces .. => fail "Missing '\x7d'"
      | .formula => fail "Missing '))'"
    | some c =>
      if mode = .word && " \t\n;&|<>()".toList.contains c then return flushed.toList
      let _ ← next
      match c with
      | '\\' =>
        match ← peek with
        | none => go depth ('\\' :: literal)
        | some '\n' =>
          let _ ← next
          go depth literal
        | some d =>
          if mode.hides d then
            let _ ← next
            if quoted then go depth (d :: literal) else add (.text (String.singleton d) true)
          else go depth ('\\' :: literal)
      | '\x27' =>
        let singles := match mode with
          | .word => true
          | .braces _ singles => singles
          | _ => false
        if !singles then go depth (c :: literal)
        else
          let inside ← takeWhile (· != '\x27')
          if (← next).isNone then fail "Unterminated quoted string"
          add (.text (String.ofList inside) true)
      | '"' =>
        match mode with
        | .quotes => return (if flushed.isEmpty then #[.text "" true] else flushed).toList
        | .lines => go depth (c :: literal)
        | .formula => go depth literal
        | _ =>
          let inside ← inner .quotes
          let mark := if inside.any vanishes then [] else [Part.text "" true]
          parts grammar bound mode depth (flushed ++ mark ++ inside) []
      | '$' =>
        match ← dollar grammar inner quoted with
        | none => go depth (c :: literal)
        | some part => add part
      | '`' =>
        let text ← backquoted (mode == .quotes) ((← get).rest.length + 1) []
        add (.output (← within text 1 (grammar .whole)) quoted)
      | '\x7d' =>
        match mode with
        | .braces .. => return flushed.toList
        | _ => go depth (c :: literal)
      | '(' => go (if mode = .formula then depth + 1 else depth) (c :: literal)
      | ')' =>
        if mode = .formula && depth = 0 then
          match ← peek with
          | some ')' =>
            let _ ← next
            return flushed.toList
          | _ => go depth (c :: literal)
        else go (depth - 1) (c :: literal)
      | _ => go depth (c :: literal)

def word (grammar : Goal → Rule Command) : Rule Word := do
  parts grammar ((← get).rest.length + 2) .word 0 #[] []

def linesUpTo (mark : String) (tabs : Bool) :
    Nat → List Char → List Char → List Char × List Char × Nat
  | 0, before, rest => (before, rest, 0)
  | bound + 1, before, rest =>
    let line := rest.takeWhile (· != '\n')
    let after := rest.drop line.length
    let line := if tabs then line.dropWhile (· == '\t') else line
    let ended := after.isEmpty
    if line = mark.toList then (before, after.drop 1, if ended then 0 else 1)
    else if ended then (before ++ line, [], 0)
    else
      let (body, rest, count) := linesUpTo mark tabs bound (before ++ line ++ ['\n']) (after.drop 1)
      (body, rest, count + 1)

def announcedTexts (grammar : Goal → Rule Command) : Rule Unit := do
  let announced := (← get).announced
  modify fun reader => { reader with announced := [] }
  for text in announced do
    let reader ← get
    let (body, rest, count) := linesUpTo text.mark text.tabs (reader.rest.length + 1) [] reader.rest
    let line := reader.line
    set { reader with rest, line := line + count }
    let word ← if text.verbatim then pure [Part.text (String.ofList body) true]
      else within body line (parts grammar (body.length + 2) .lines 0 #[] [])
    modify fun reader => { reader with bodies := (text.index, word) :: reader.bodies }

def operator (c : Char) : Rule Token := do
  let second ← peek
  let twice : Token → Token → Rule Token := fun double single => do
    if second == some c then
      let _ ← next
      return double
    else return single
  match c with
  | ';' => twice .doubleSemicolon .semicolon
  | '&' => twice .andIf .ampersand
  | '|' => twice .orIf .bar
  | '(' => return .open
  | _ => return .close

def redirectOperator (descriptor? : Option Nat) (c : Char) : Rule Token := do
  joinLines
  let accept := fun (text : String) => do
    let _ ← next
    return Token.redirect descriptor? text
  match c, ← peek with
  | '<', some '<' =>
    let _ ← next
    if (← peek) == some '-' then accept "<<-" else return .redirect descriptor? "<<"
  | '<', some '&' => accept "<&"
  | '<', some '>' => accept "<>"
  | '>', some '>' => accept ">>"
  | '>', some '&' => accept ">&"
  | '>', some '|' => accept ">|"
  | _, _ => return .redirect descriptor? (String.singleton c)

def forgetAliases (reader : Reader) : Reader :=
  if reader.replacing.isEmpty then { reader with mayStand := false }
  else
    let left := reader.rest.length
    let (past, replacing) := reader.replacing.partition fun entry => left ≤ entry.2.1
    { reader with replacing, mayStand := past.any fun entry => entry.2.2 }

def replaceAlias (text : String) : Rule Bool := do
  let reader ← get
  match reader.aliases.lookup text with
  | none => return false
  | some value =>
    if reader.replacing.any (·.1 == text) then return false
    let goesOn := match value.toList.getLast? with
      | some c => c == ' ' || c == '\t'
      | none => false
    set { reader with
      rest := value.toList ++ reader.rest,
      replacing := (text, reader.rest.length, goesOn) :: reader.replacing }
    return true

def limit : Rule Nat := do
  let reader ← get
  return (reader.rest.length + 3) *
    (1 + (reader.aliases.map fun entry => entry.2.length + 1).foldl (· + ·) 0)

def rawToken (grammar : Goal → Rule Command) : Rule Token := do
  modify fun reader =>
    let (rest, count) := afterBlanks false reader.rest 0
    forgetAliases { reader with rest, line := reader.line + count }
  match (← get).rest with
  | [] =>
    announcedTexts grammar
    return .done
  | '\n' :: _ =>
    let _ ← next
    announcedTexts grammar
    return .newline
  | c :: d :: _ =>
    if ";&|()".toList.contains c then
      let _ ← next
      operator c
    else if c = '<' || c = '>' then
      let _ ← next
      redirectOperator none c
    else if c.isDigit && (d = '<' || d = '>') then
      let _ ← next
      let _ ← next
      redirectOperator (some (c.toNat - '0'.toNat)) d
    else return .word (← word grammar)
  | [c] =>
    if ";&|()".toList.contains c then
      let _ ← next
      operator c
    else if c = '<' || c = '>' then
      let _ ← next
      redirectOperator none c
    else return .word (← word grammar)

def afterLines (grammar : Goal → Rule Command) : Nat → Token → Rule Token
  | bound + 1, .newline => do afterLines grammar bound (← rawToken grammar)
  | _, token => return token

def freshToken (grammar : Goal → Rule Command) (keywords lines commands : Bool) :
    Nat → Rule Token
  | 0 => return .done
  | bound + 1 => do
    let token ← rawToken grammar
    let token ← if lines then afterLines grammar ((← get).rest.length + 1) token else pure token
    match token with
    | .word parts =>
      match plain? parts with
      | some text =>
        if keywords && Token.keywords.contains text then return .keyword text
        else if commands || (← get).mayStand then
          if ← replaceAlias text then freshToken grammar keywords lines true bound
          else return token
        else return token
      | none => return token
    | _ => return token

/-- The next token. Line ends are skipped if `lines` is set, reserved words are told from
others if `keywords` is, and aliases are replaced if `commands` is. -/
def tokenWhere (grammar : Goal → Rule Command) (keywords lines commands : Bool) : Rule Token := do
  let reader ← get
  match reader.pushed? with
  | none => freshToken grammar keywords lines commands (reader.aliases.length + 2)
  | some token =>
    set { reader with pushed? := none }
    match token with
    | .newline =>
      if lines then freshToken grammar keywords lines commands (reader.aliases.length + 2)
      else return token
    | .word parts =>
      match plain? parts with
      | some text =>
        return if keywords && Token.keywords.contains text then .keyword text else token
      | none => return token
    | _ => return token

def token (grammar : Goal → Rule Command) (keywords lines : Bool) : Rule Token :=
  tokenWhere grammar keywords lines keywords

def push (token : Token) : Rule Unit := modify fun reader => { reader with pushed? := some token }

end Reader

end ImpToC.Shell
