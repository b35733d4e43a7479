import ImpToC.Text.Regex.Reader

/-! Editing scripts: commands with addresses, and how they are read. -/
namespace ImpToC.Utility.Sed

/-- An expression of a script; without a regular expression it is the one used last. -/
structure Expression where
  regex? : Option Regex
  fold : Bool := false
  multiline : Bool := false

inductive Address where
  | line (n : Nat)
  | last
  | found (expression : Expression)
  | every (first step : Nat)

inductive RangeEnd where
  | address (a : Address)
  | plus (n : Nat)
  | multiple (n : Nat)

structure Lines where
  first? : Option Address := none
  last? : Option RangeEnd := none
  negated : Bool := false

inductive Piece where
  | text (s : String)
  | group (n : Nat)
  | upper | lower | upperNext | lowerNext | plain

structure Substitution where
  expression : Expression
  pieces : List Piece
  all : Bool := false
  nth : Nat := 1
  prints : Bool := false
  path? : Option String := none

inductive Verb where
  | substitute (s : Substitution)
  | exchange (table : List (Char × Char))
  | delete | deleteFirst | print | printFirst | next | nextAdd
  | hold | holdAdd | get | getAdd | swap | number | show_ | clear | fileName
  | append (text : String) | insert (text : String) | change (text : String)
  | quit (status : Nat) | quitSilently (status : Nat)
  | read (path : String) | write (path : String) | writeFirst (path : String)
  | label (name : String)
  | jump (name : String) | jumpIf (name : String) | jumpUnless (name : String)
  | openBlock | closeBlock
  | nothing

structure Command where
  lines : Lines
  verb : Verb

/-- What is wrong with a script, and after how many characters. -/
structure Fault where
  position : Nat
  message : String

structure Reader where
  length : Nat
  rest : List Char
  extended : Bool
  depth : Nat := 0

def Reader.fault {α : Type} (reader : Reader) (message : String) : Except Fault α :=
  .error ⟨reader.length - reader.rest.length, message⟩

def isSpaceChar (c : Char) : Bool := c = ' ' || (9 ≤ c.toNat && c.toNat ≤ 13)

def Reader.skip (reader : Reader) (blank : Char → Bool) : Reader :=
  { reader with rest := reader.rest.dropWhile blank }

/-- The text up to a mark, with the mark taken away. A mark after a backslash stands for
itself, and in a regular expression those in brackets do too. -/
def delimited (mark : Char) (regex : Bool) : Nat → Bool → List Char → List Char →
    Option (List Char × List Char)
  | 0, _, _, _ => none
  | bound + 1, inBracket, before, text =>
    match text with
    | [] => none
    | '\\' :: c :: rest =>
      if inBracket then delimited mark regex bound true (c :: '\\' :: before) rest
      else if c = mark then delimited mark regex bound false (c :: before) rest
      else if c = '\n' && regex then delimited mark regex bound false ('\n' :: before) rest
      else delimited mark regex bound false (c :: '\\' :: before) rest
    | c :: rest =>
      if c = mark && !inBracket then some (before.reverse, rest)
      else if c = '\n' && regex && !inBracket then none
      else if regex && c = '[' && !inBracket then
        let lead := match rest with
          | '^' :: ']' :: _ => ['^', ']']
          | '^' :: _ => ['^']
          | ']' :: _ => [']']
          | _ => []
        let closes := (rest.drop lead.length).contains ']'
        delimited mark regex bound closes (lead.reverse ++ '[' :: before) (rest.drop lead.length)
      else if inBracket && c = ']' then delimited mark regex bound false (c :: before) rest
      else delimited mark regex bound inBracket (c :: before) rest

def expressionOf (reader : Reader) (text : List Char) : Except Fault Expression :=
  if text.isEmpty then .ok ⟨none, false, false⟩
  else match Regex.read { extended := reader.extended, controls := true }
      (String.ofList text) with
    | .ok regex => .ok ⟨some regex, false, false⟩
    | .error message => reader.fault message

def numberAt (text : List Char) : Option (Nat × List Char) :=
  let digits := text.takeWhile Char.isDigit
  if digits.isEmpty then none
  else some ((String.ofList digits).toNat?.getD 0, text.drop digits.length)

/-- Letters after the regular expression of an address. -/
def addressFlags (expression : Expression) : List Char → Expression × List Char
  | 'I' :: rest => addressFlags { expression with fold := true } rest
  | 'M' :: rest => addressFlags { expression with multiline := true } rest
  | rest => (expression, rest)

def address? (reader : Reader) : Except Fault (Option Address × Reader) :=
  match reader.rest with
  | '$' :: rest => .ok (some .last, { reader with rest })
  | '/' :: rest => found reader '/' rest
  | '\\' :: mark :: rest => found reader mark rest
  | text => match numberAt text with
    | none => .ok (none, reader)
    | some (n, '~' :: rest) =>
      match numberAt rest with
      | some (step, rest) => .ok (some (.every n step), { reader with rest })
      | none => .ok (some (.every n 0), { reader with rest })
    | some (n, rest) => .ok (some (.line n), { reader with rest })
where
  found (reader : Reader) (mark : Char) (rest : List Char) :
      Except Fault (Option Address × Reader) := do
    match delimited mark true (rest.length + 1) false [] rest with
    | none => ({ reader with rest := [] }).fault "unterminated address regex"
    | some (text, rest) =>
      let expression ← expressionOf { reader with rest } text
      let (expression, rest) := addressFlags expression rest
      return (some (.found expression), { reader with rest })

def lines (reader : Reader) : Except Fault (Lines × Reader) := do
  let (first?, reader) ← address? reader
  let reader := reader.skip isSpaceChar
  let (last?, reader) ← match first?, reader.rest with
    | some _, ',' :: rest => do
      let reader := ({ reader with rest } : Reader).skip isSpaceChar
      match reader.rest with
      | '+' :: rest => match numberAt rest with
        | some (n, rest) => pure (some (.plus n), { reader with rest })
        | none => ({ reader with rest }).fault "expected number"
      | '~' :: rest => match numberAt rest with
        | some (n, rest) => pure (some (.multiple n), { reader with rest })
        | none => ({ reader with rest }).fault "expected number"
      | _ =>
        let (second?, after) ← address? reader
        match second? with
        | some a => pure (some (RangeEnd.address a), after)
        | none => ({ reader with rest := reader.rest.drop 1 }).fault "unexpected \x60,'"
    | none, ',' :: rest => ({ reader with rest }).fault "unexpected \x60,'"
    | _, _ => pure (none, reader)
  let reader := reader.skip isSpaceChar
  match reader.rest with
  | '!' :: rest =>
    let reader := ({ reader with rest } : Reader).skip fun c => isSpaceChar c || c = '!'
    return (⟨first?, last?, true⟩, reader)
  | _ => return (⟨first?, last?, false⟩, reader)

def piecesOf : Nat → List Char → List Char → List Piece
  | 0, before, _ => [.text (String.ofList before.reverse)]
  | _ + 1, before, [] => if before.isEmpty then [] else [.text (String.ofList before.reverse)]
  | bound + 1, before, text =>
    let flush := if before.isEmpty then [] else [Piece.text (String.ofList before.reverse)]
    match text with
    | '&' :: rest => flush ++ .group 0 :: piecesOf bound [] rest
    | '\\' :: c :: rest =>
      if c.isDigit then flush ++ .group (c.toNat - '0'.toNat) :: piecesOf bound [] rest
      else match c with
        | 'U' => flush ++ .upper :: piecesOf bound [] rest
        | 'L' => flush ++ .lower :: piecesOf bound [] rest
        | 'u' => flush ++ .upperNext :: piecesOf bound [] rest
        | 'l' => flush ++ .lowerNext :: piecesOf bound [] rest
        | 'E' => flush ++ .plain :: piecesOf bound [] rest
        | c => piecesOf bound (((Regex.control? c).getD c) :: before) rest
    | c :: rest => piecesOf bound (c :: before) rest
    | [] => flush

def groupsUsed (pieces : List Piece) : Nat := pieces.foldl (fun n piece => match piece with
  | .group k => max n k
  | _ => n) 0

def groupsIn : Regex → Nat
  | .seq a b | .alt a b => max (groupsIn a) (groupsIn b)
  | .repeated a _ _ => groupsIn a
  | .group n a => max n (groupsIn a)
  | _ => 0

def substitutionFlags : Nat → Substitution → Reader → Except Fault (Substitution × Reader)
  | 0, s, reader => .ok (s, reader)
  | bound + 1, s, reader =>
    match reader.rest with
    | 'g' :: rest => substitutionFlags bound { s with all := true } { reader with rest }
    | 'p' :: rest => substitutionFlags bound { s with prints := true } { reader with rest }
    | 'i' :: rest | 'I' :: rest =>
      substitutionFlags bound { s with expression := { s.expression with fold := true } }
        { reader with rest }
    | 'm' :: rest | 'M' :: rest =>
      substitutionFlags bound { s with expression := { s.expression with multiline := true } }
        { reader with rest }
    | 'w' :: rest =>
      let path := (rest.dropWhile isSpaceChar).takeWhile (· != '\n')
      .ok ({ s with path? := some (String.ofList path) },
        { reader with rest := rest.dropWhile (· != '\n') })
    | text => match numberAt text with
      | some (0, rest) => ({ reader with rest }).fault "number option to \x60s' command may not be zero"
      | some (n, rest) => substitutionFlags bound { s with nth := n } { reader with rest }
      | none => .ok (s, reader)

def finish (reader : Reader) (verb : Verb) : Except Fault (Verb × Reader) :=
  let reader := reader.skip fun c => isSpaceChar c && c != '\n'
  match reader.rest with
  | [] => .ok (verb, reader)
  | ';' :: rest | '\n' :: rest => .ok (verb, { reader with rest })
  | '\x7d' :: _ | '#' :: _ => .ok (verb, reader)
  | _ :: rest => ({ reader with rest }).fault "extra characters after command"

def substitution (reader : Reader) : Except Fault (Verb × Reader) := do
  let unterminated := fun () =>
    ({ reader with rest := [] }).fault "unterminated \x60s' command"
  match reader.rest with
  | [] => unterminated ()
  | mark :: rest =>
    match delimited mark true (rest.length + 1) false [] rest with
    | none => unterminated ()
    | some (pattern, rest) =>
      match delimited mark false (rest.length + 1) false [] rest with
      | none => unterminated ()
      | some (text, rest) =>
        let reader := { reader with rest }
        let pieces := piecesOf (text.length + 1) [] text
        let start : Substitution := ⟨⟨none, false, false⟩, pieces, false, 1, false, none⟩
        let (s, reader) ← substitutionFlags (rest.length + 1) start reader
        let finished ← match finish reader .nothing with
          | .ok (_, after) => pure after
          | .error fault => .error { fault with message := "unknown option to \x60s'" }
        let expression ← expressionOf reader pattern
        if let some regex := expression.regex? then
          if groupsIn regex < groupsUsed pieces then
            reader.fault ("invalid reference \\" ++ toString (groupsUsed pieces) ++
              " on \x60s' command's RHS")
        return (.substitute { s with expression :=
          { s.expression with regex? := expression.regex? } }, finished)

def unescapeExchange : List Char → List Char
  | '\\' :: '\\' :: rest => '\\' :: unescapeExchange rest
  | '\\' :: c :: rest => match Regex.control? c with
    | some value => value :: unescapeExchange rest
    | none => '\\' :: c :: unescapeExchange rest
  | c :: rest => c :: unescapeExchange rest
  | [] => []

def exchange (reader : Reader) : Except Fault (Verb × Reader) := do
  let unterminated := fun () =>
    ({ reader with rest := [] }).fault "unterminated \x60y' command"
  match reader.rest with
  | [] => unterminated ()
  | mark :: rest =>
    match delimited mark false (rest.length + 1) false [] rest with
    | none => unterminated ()
    | some (source, rest) =>
      match delimited mark false (rest.length + 1) false [] rest with
      | none => unterminated ()
      | some (target, rest) =>
        let source := unescapeExchange source
        let target := unescapeExchange target
        let reader := { reader with rest }
        if source.length != target.length then
          reader.fault "strings for \x60y' command are different lengths"
        else finish reader (.exchange (source.zip target))

def textLines : Nat → List Char → List Char → String × List Char
  | 0, before, rest => (String.ofList before.reverse, rest)
  | bound + 1, before, text =>
    match text with
    | [] => (String.ofList before.reverse, [])
    | '\\' :: '\n' :: rest => textLines bound ('\n' :: before) rest
    | '\\' :: c :: rest => textLines bound (((Regex.control? c).getD c) :: before) rest
    | '\n' :: rest => (String.ofList before.reverse, rest)
    | c :: rest => textLines bound (c :: before) rest

def addedText (reader : Reader) : Except Fault (String × Reader) :=
  let blank := fun (c : Char) => c = ' ' || c = '\t'
  let reader := reader.skip blank
  match reader.rest with
  | [] => reader.fault "expected \\ after \x60a', \x60c' or \x60i'"
  | '\\' :: rest =>
    let after := rest.dropWhile blank
    let rest := match after with
      | '\n' :: more => more
      | _ => rest
    let (text, rest) := textLines (rest.length + 1) [] rest
    .ok (text ++ "\n", { reader with rest })
  | rest =>
    let (text, rest) := textLines (rest.length + 1) [] rest
    .ok (text ++ "\n", { reader with rest })

def labelName (reader : Reader) : String × Reader :=
  let reader := reader.skip fun c => c = ' ' || c = '\t'
  let name := reader.rest.takeWhile fun c => !(isSpaceChar c || c = ';' || c = '\x7d')
  (String.ofList name, { reader with rest := reader.rest.drop name.length })

def pathName (reader : Reader) : String × Reader :=
  let reader := reader.skip fun c => c = ' ' || c = '\t'
  let name := reader.rest.takeWhile (· != '\n')
  (String.ofList name, { reader with rest := reader.rest.drop name.length })

def statusAt (reader : Reader) : Nat × Reader :=
  let reader := reader.skip fun c => c = ' ' || c = '\t'
  match numberAt reader.rest with
  | some (n, rest) => (n, { reader with rest })
  | none => (0, reader)

def simple? : Char → Option Verb
  | 'd' => some .delete
  | 'D' => some .deleteFirst
  | 'p' => some .print
  | 'P' => some .printFirst
  | 'n' => some .next
  | 'N' => some .nextAdd
  | 'h' => some .hold
  | 'H' => some .holdAdd
  | 'g' => some .get
  | 'G' => some .getAdd
  | 'x' => some .swap
  | '=' => some .number
  | 'l' => some .show_
  | 'z' => some .clear
  | 'F' => some .fileName
  | _ => none

/-- A command after its addresses. -/
def verb (lines : Lines) (reader : Reader) : Except Fault (Verb × Reader) := do
  match reader.rest with
  | [] => reader.fault "missing command"
  | c :: rest =>
    let reader := { reader with rest }
    let ranged := lines.last?.isSome
    match simple? c with
    | some verb =>
      finish reader verb
    | none => match c with
      | '\x7b' => return (.openBlock, { reader with depth := reader.depth + 1 })
      | '\x7d' =>
        if reader.depth = 0 then reader.fault "unexpected \x60\x7d'"
        else if lines.first?.isSome then reader.fault "\x7d doesn't want any addresses"
        else finish { reader with depth := reader.depth - 1 } .closeBlock
      | 's' => substitution reader
      | 'y' => exchange reader
      | 'a' | 'i' | 'c' =>
        let (text, reader) ← addedText reader
        return (match c with
          | 'a' => .append text
          | 'i' => .insert text
          | _ => .change text, reader)
      | 'q' | 'Q' =>
        if ranged then reader.fault "command only uses one address"
        else
          let (status, reader) := statusAt reader
          finish reader (if c = 'q' then .quit status else .quitSilently status)
      | 'r' | 'w' | 'W' =>
        let (path, reader) := pathName reader
        if path.isEmpty then reader.fault "missing filename in r/R/w/W commands"
        else return (match c with
          | 'r' => .read path
          | 'w' => .write path
          | _ => .writeFirst path, reader)
      | ':' =>
        if lines.first?.isSome then reader.fault ": doesn't want any addresses"
        else
          let (name, after) := labelName reader
          if name.isEmpty then reader.fault "\":\" lacks a label"
          else return (.label name, after)
      | 'b' | 't' | 'T' =>
        let (name, reader) := labelName reader
        finish reader (match c with
          | 'b' => .jump name
          | 't' => .jumpIf name
          | _ => .jumpUnless name)
      | ',' => reader.fault "unexpected \x60,'"
      | c => reader.fault ("unknown command: \x60" ++ String.singleton c ++ "'")

def commands : Nat → Array Command → Reader → Except Fault (Array Command)
  | 0, before, _ => .ok before
  | bound + 1, before, reader => do
    let reader := reader.skip fun c => isSpaceChar c || c = ';'
    match reader.rest with
    | [] =>
      if reader.depth > 0 then .error ⟨0, "unmatched \x60\x7b'"⟩ else return before
    | '#' :: rest => commands bound before { reader with rest := rest.dropWhile (· != '\n') }
    | _ =>
      let (addresses, reader) ← lines reader
      let (verb, reader) ← verb addresses reader
      commands bound (before.push ⟨addresses, verb⟩) reader

def parse (extended : Bool) (text : String) : Except Fault (Array Command) :=
  commands (2 * text.length + 2) #[] ⟨text.length, text.toList, extended, 0⟩

end ImpToC.Utility.Sed
