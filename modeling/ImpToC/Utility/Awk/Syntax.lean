import ImpToC.Text.Floating
import ImpToC.Text.Regex.Reader

/-! The language of patterns and actions: its expressions, statements and rules. -/
namespace ImpToC.Utility.Awk

inductive BinaryOp where
  | add | sub | mul | div | mod | pow | concat
  | lt | le | eq | ne | gt | ge
  | both | either
  deriving DecidableEq, Repr

inductive UnaryOp where
  | plus | minus | negate
  deriving DecidableEq, Repr

inductive Expr where
  | number (x : Float)
  | text (s : String)
  | regex (r : Regex)
  | name (s : String)
  | field (e : Expr)
  | element (array : String) (index : List Expr)
  | unary (op : UnaryOp) (e : Expr)
  | binary (op : BinaryOp) (a b : Expr)
  | choice (c a b : Expr)
  | assign (op? : Option BinaryOp) (target value : Expr)
  | change (amount : Float) (before : Bool) (target : Expr)
  | found (negated : Bool) (e pattern : Expr)
  | member (index : List Expr) (array : String)
  | call (function : String) (args : List Expr)
  | builtin (function : String) (args : List Expr)
  | getLine (target? : Option Expr) (file? command? : Option Expr)
  | group (e : Expr)

inductive Target where
  | standard
  | file (e : Expr)
  | append (e : Expr)
  | command (e : Expr)

inductive Stmt where
  | expr (e : Expr)
  | print (args : List Expr) (target : Target)
  | printf (args : List Expr) (target : Target)
  | ifThen (c : Expr) (a b : Stmt)
  | loop (c : Expr) (body : Stmt)
  | loopAfter (body : Stmt) (c : Expr)
  | count (start : Stmt) (c? : Option Expr) (step body : Stmt)
  | each (name array : String) (body : Stmt)
  | block (body : List Stmt)
  | next | nextFile | exit (e? : Option Expr) | back (e? : Option Expr)
  | leave | again
  | delete (array : String) (index : List Expr)
  | nothing

inductive Pattern where
  | start | stop | always
  | holds (e : Expr)
  | range (a b : Expr)

structure Rule where
  pattern : Pattern
  action? : Option Stmt

structure Function where
  name : String
  params : List String
  body : Stmt

structure Program where
  rules : List Rule := []
  functions : List Function := []

def dialect : Regex.Dialect := { extended := true, controls := true, bracketEscapes := true }

inductive Token where
  | number (x : Float)
  | text (s : String)
  | regex (s : String)
  | name (s : String)
  | function (s : String)
  | word (s : String)
  | symbol (s : String)
  | newline
  deriving Inhabited

def keywords : List String :=
  ["BEGIN", "END", "function", "func", "if", "else", "while", "for", "do", "break", "continue",
   "next", "nextfile", "exit", "return", "delete", "in", "getline", "print", "printf"]

def builtins : List String :=
  ["length", "substr", "index", "split", "sub", "gsub", "match", "sprintf", "sin", "cos", "atan2",
   "exp", "log", "sqrt", "int", "rand", "srand", "tolower", "toupper", "system", "close", "fflush"]

def symbols : List String :=
  ["&&", "||", "++", "--", "+=", "-=", "*=", "/=", "%=", "^=", "==", "<=", ">=", "!=",
   "!~", ">>", "\x7b", "\x7d", "(", ")", "[", "]", ";", ",", "+", "-", "*", "/", "%", "^", "!",
   ">", "<", "|", "?", ":", "~", "$", "="]

/-- The text of a string or a regular expression up to its mark. Escapes are replaced in
strings only. -/
def quotedText (mark : Char) (plain : Bool) : Nat → Bool → List Char → List Char →
    Option (List Char × List Char)
  | 0, _, _, _ => none
  | bound + 1, inBracket, before, text =>
    match text with
    | [] => none
    | '\\' :: c :: rest =>
      if !plain then
        if c = '/' then quotedText mark plain bound inBracket ('/' :: before) rest
        else quotedText mark plain bound inBracket (c :: '\\' :: before) rest
      else if '0' ≤ c && c ≤ '7' then
        let digits := ((c :: rest).takeWhile fun d => '0' ≤ d && d ≤ '7').take 3
        let value := digits.foldl (fun n d => 8 * n + (d.toNat - 48)) 0
        quotedText mark plain bound inBracket (Char.ofNat (value % 256) :: before)
          ((c :: rest).drop digits.length)
      else match c with
        | '\n' => quotedText mark plain bound inBracket before rest
        | '"' | '\\' | '/' => quotedText mark plain bound inBracket (c :: before) rest
        | 'b' => quotedText mark plain bound inBracket ('\x08' :: before) rest
        | c => match Regex.control? c with
          | some value => quotedText mark plain bound inBracket (value :: before) rest
          | none => quotedText mark plain bound inBracket (c :: '\\' :: before) rest
    | c :: rest =>
      if c = '\n' then none
      else if c = mark && !inBracket then some (before.reverse, rest)
      else if !plain && c = '[' && !inBracket then
        let lead := match rest with
          | '^' :: ']' :: _ => ['^', ']']
          | '^' :: _ => ['^']
          | ']' :: _ => [']']
          | _ => []
        quotedText mark plain bound ((rest.drop lead.length).contains ']')
          (lead.reverse ++ '[' :: before) (rest.drop lead.length)
      else if inBracket && c = ']' then quotedText mark plain bound false (c :: before) rest
      else quotedText mark plain bound inBracket (c :: before) rest

/-- Whether a slash after a token divides. -/
def Token.endsOperand : Token → Bool
  | number _ | text _ | name _ => true
  | word s => builtins.contains s
  | symbol s => s = ")" || s = "]" || s = "$" || s = "++" || s = "--"
  | _ => false

def tokens : Nat → Nat → List (Token × Nat) → List Char → Except (Nat × String) (List (Token × Nat))
  | 0, _, before, _ => .ok before.reverse
  | bound + 1, line, before, text =>
    let add := fun (token : Token) (rest : List Char) =>
      tokens bound line ((token, line) :: before) rest
    match text with
    | [] => .ok before.reverse
    | '\n' :: rest => tokens bound (line + 1) ((.newline, line) :: before) rest
    | '\\' :: '\n' :: rest => tokens bound (line + 1) before rest
    | '#' :: rest => tokens bound line before (rest.dropWhile (· != '\n'))
    | '"' :: rest =>
      match quotedText '"' true (rest.length + 1) false [] rest with
      | some (chars, rest) => add (.text (String.ofList chars)) rest
      | none => .error (line, "runaway string constant " ++ String.ofList (text.takeWhile (· != '\n')) ++ " ...")
    | c :: rest =>
      if c = ' ' || c = '\t' || c = '\r' then tokens bound line before rest
      else if c.isDigit || c = '.' && (rest.head?.map Char.isDigit).getD false then
        match Floating.unsigned? text with
        | some (x, rest) => add (.number x) rest
        | none => .error (line, "unexpected character '.'")
      else if c.isAlpha || c = '_' then
        let chars := text.takeWhile Regex.isWordChar
        let rest := text.drop chars.length
        let name := String.ofList chars
        if keywords.contains name || builtins.contains name then add (.word name) rest
        else if rest.head? == some '(' then add (.function name) rest
        else add (.name name) rest
      else if c = '/' && !((before.head?.map fun entry => entry.1.endsOperand).getD false) then
        match quotedText '/' false (rest.length + 1) false [] rest with
        | some (chars, rest) => add (.regex (String.ofList chars)) rest
        | none => .error (line, "runaway regular expression " ++
            String.ofList (text.takeWhile (· != '\n')) ++ " ...")
      else match symbols.find? fun symbol => symbol.toList.isPrefixOf text with
        | some symbol => add (.symbol symbol) (text.drop symbol.length)
        | none => .error (line, "unexpected character '" ++ String.singleton c ++ "'")

end ImpToC.Utility.Awk
