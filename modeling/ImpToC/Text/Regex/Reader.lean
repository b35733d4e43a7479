import ImpToC.Text.Regex

/-! Reading regular expressions. There is a basic form, in which operators need a backslash,
and an extended one, in which they do not. -/
namespace ImpToC.Regex

structure Dialect where
  extended : Bool
  controls : Bool := false
  bracketEscapes : Bool := false
  looseClose : Bool := false

/-- Where reading has come: the rest, and the number of groups so far. -/
structure Reading where
  rest : List Char
  groups : Nat := 0

def Fault.bracket : String := "Unmatched [, [^, [:, [., or [="
def Fault.open_ : String := "Unmatched ( or \\("
def Fault.close : String := "Unmatched ) or \\)"
def Fault.brace : String := "Unmatched \\\x7b"
def Fault.content : String := "Invalid content of \\\x7b\\\x7d"
def Fault.trailing : String := "Trailing backslash"
def Fault.reference : String := "Invalid back reference"
def Fault.class_ : String := "Invalid character class name"
def Fault.range : String := "Invalid range end"

def control? : Char → Option Char
  | 'n' => some '\n'
  | 't' => some '\t'
  | 'r' => some '\r'
  | 'f' => some '\x0c'
  | 'v' => some '\x0b'
  | 'a' => some '\x07'
  | _ => none

def classNames : List String :=
  ["alpha", "digit", "alnum", "upper", "lower", "space", "blank", "punct", "print", "graph",
   "cntrl", "xdigit"]

def bracketChar (dialect : Dialect) : List Char → Option (Char × List Char)
  | [] => none
  | '[' :: '.' :: c :: '.' :: ']' :: rest => some (c, rest)
  | '\\' :: c :: rest =>
    if dialect.bracketEscapes then some ((control? c).getD c, rest)
    else if dialect.controls then
      match control? c with
      | some value => some (value, rest)
      | none => some ('\\', c :: rest)
    else some ('\\', c :: rest)
  | c :: rest => some (c, rest)

def bracketMembers (dialect : Dialect) :
    Nat → Bool → List CharClass.Member → List Char →
    Except String (List CharClass.Member × List Char)
  | 0, _, _, _ => .error Fault.bracket
  | bound + 1, begun, members, text =>
    match text with
    | [] => .error Fault.bracket
    | '[' :: ':' :: rest =>
      let name := String.ofList (rest.takeWhile Char.isAlpha)
      match rest.drop name.length with
      | ':' :: ']' :: rest =>
        if classNames.contains name then
          bracketMembers dialect bound true (.ofClass name :: members) rest
        else .error Fault.class_
      | _ => .error Fault.bracket
    | '[' :: '=' :: c :: '=' :: ']' :: rest =>
      bracketMembers dialect bound true (.range c c :: members) rest
    | c :: rest =>
      if c = ']' && begun then .ok (members, rest)
      else match bracketChar dialect (c :: rest) with
        | none => .error Fault.bracket
        | some (first, rest) =>
          match rest with
          | '-' :: ']' :: _ =>
            bracketMembers dialect bound true (.range first first :: members) rest
          | '-' :: more =>
            match bracketChar dialect more with
            | none => .error Fault.bracket
            | some (last, rest) =>
              if last < first then .error Fault.range
              else bracketMembers dialect bound true (.range first last :: members) rest
          | _ => bracketMembers dialect bound true (.range first first :: members) rest

def bracketOf (dialect : Dialect) (text : List Char) : Except String (Regex × List Char) :=
  let (negated, text) := match text with
    | '^' :: rest => (true, rest)
    | _ => (false, text)
  (bracketMembers dialect (text.length + 1) false [] text).map fun (members, rest) =>
    (.set negated members, rest)

def boundsOf (dialect : Dialect) (text : List Char) :
    Except String ((Nat × Option Nat) × List Char) :=
  let least := text.takeWhile Char.isDigit
  let rest := text.drop least.length
  let number := fun (digits : List Char) => (String.ofList digits).toNat?.getD 0
  let (bounds, rest, valid) := match rest with
    | ',' :: rest =>
      let most := rest.takeWhile Char.isDigit
      ((number least, if most.isEmpty then none else some (number most)), rest.drop most.length, true)
    | rest => ((number least, some (number least)), rest, !least.isEmpty)
  let sane := valid && bounds.1 ≤ 32767 && (match bounds.2 with
    | some most => decide (bounds.1 ≤ most && most ≤ 32767)
    | none => true)
  match dialect.extended, rest with
  | true, '\x7d' :: rest => if sane then .ok (bounds, rest) else .error Fault.content
  | false, '\\' :: '\x7d' :: rest => if sane then .ok (bounds, rest) else .error Fault.content
  | _, [] => .error Fault.brace
  | _, _ => .error Fault.content

/-- Operators after an expression: stars and the like. -/
def postfixes (dialect : Dialect) : Nat → Regex → List Char → Except String (Regex × List Char)
  | 0, regex, text => .ok (regex, text)
  | bound + 1, regex, text =>
    match dialect.extended, text with
    | _, '*' :: rest => postfixes dialect bound (.repeated regex 0 none) rest
    | true, '+' :: rest | false, '\\' :: '+' :: rest =>
      postfixes dialect bound (.repeated regex 1 none) rest
    | true, '?' :: rest | false, '\\' :: '?' :: rest =>
      postfixes dialect bound (.repeated regex 0 (some 1)) rest
    | true, '\x7b' :: rest =>
      match boundsOf dialect rest with
      | .ok ((least, most?), rest) => postfixes dialect bound (.repeated regex least most?) rest
      | .error fault =>
        if (rest.head?.map Char.isDigit).getD false then .error fault else .ok (regex, text)
    | false, '\\' :: '\x7b' :: rest => do
      let ((least, most?), rest) ← boundsOf dialect rest
      postfixes dialect bound (.repeated regex least most?) rest
    | _, _ => .ok (regex, text)

def wordMembers : List CharClass.Member := [.ofClass "alnum", .range '_' '_']

def escaped (dialect : Dialect) (c : Char) (groups : Nat) : Except String Regex :=
  match c with
  | 'w' => .ok (.set false wordMembers)
  | 'W' => .ok (.set true wordMembers)
  | 's' => .ok (.set false [.ofClass "space"])
  | 'S' => .ok (.set true [.ofClass "space"])
  | 'b' => .ok .edge
  | 'B' => .ok .inner
  | '<' => .ok .wordStart
  | '>' => .ok .wordStop
  | '\x60' => .ok .start
  | '\x27' => .ok .stop
  | c =>
    if '1' ≤ c && c ≤ '9' && !dialect.bracketEscapes then
      let n := c.toNat - '0'.toNat
      if n ≤ groups then .ok (.again n) else .error Fault.reference
    else match if dialect.controls then control? c else none with
      | some value => .ok (.char value)
      | none => .ok (.char c)

def branchEnds (dialect : Dialect) (depth : Nat) : List Char → Bool
  | [] => true
  | '|' :: _ => dialect.extended
  | ')' :: _ => dialect.extended && depth > 0
  | '\\' :: '|' :: _ => !dialect.extended
  | '\\' :: ')' :: _ => !dialect.extended
  | _ => false

mutual

def branches (dialect : Dialect) : Nat → Nat → Reading → Except String (Regex × Reading)
  | 0, _, reading => .ok (.empty, reading)
  | bound + 1, depth, reading => do
    let (first, reading) ← branch dialect bound depth true .empty reading
    match dialect.extended, reading.rest with
    | true, '|' :: rest | false, '\\' :: '|' :: rest =>
      let (second, reading) ← branches dialect bound depth { reading with rest }
      return (.alt first second, reading)
    | _, _ => return (first, reading)

/-- Expressions one after the other; the flag says that none has been read yet. -/
def branch (dialect : Dialect) :
    Nat → Nat → Bool → Regex → Reading → Except String (Regex × Reading)
  | 0, _, _, before, reading => .ok (before, reading)
  | bound + 1, depth, first, before, reading => do
    if branchEnds dialect depth reading.rest then return (before, reading)
    match dialect.extended, reading.rest with
    | true, '^' :: rest => branch dialect bound depth true (.seq before .start) { reading with rest }
    | false, '^' :: rest =>
      if first then branch dialect bound depth true (.seq before .start) { reading with rest }
      else atomic dialect bound depth before reading
    | true, '$' :: rest => branch dialect bound depth false (.seq before .stop) { reading with rest }
    | false, '$' :: rest =>
      if branchEnds dialect depth rest then
        branch dialect bound depth false (.seq before .stop) { reading with rest }
      else atomic dialect bound depth before reading
    | true, '*' :: rest | true, '+' :: rest | true, '?' :: rest =>
      if first then branch dialect bound depth true before { reading with rest }
      else atomic dialect bound depth before reading
    | _, _ => atomic dialect bound depth before reading

/-- One expression with the operators after it, and what follows. -/
def atomic (dialect : Dialect) : Nat → Nat → Regex → Reading → Except String (Regex × Reading)
  | 0, _, before, reading => .ok (before, reading)
  | bound + 1, depth, before, reading => do
    let grouped := fun (rest : List Char) => do
      let n := reading.groups + 1
      let (inside, reading) ← branches dialect bound (depth + 1) ⟨rest, n⟩
      match dialect.extended, reading.rest with
      | true, ')' :: rest | false, '\\' :: ')' :: rest =>
        return (Regex.group n inside, { reading with rest })
      | _, _ => Except.error Fault.open_
    let (regex, reading) ← match dialect.extended, reading.rest with
      | true, '(' :: rest | false, '\\' :: '(' :: rest => grouped rest
      | _, '[' :: rest => do
        let (regex, rest) ← bracketOf dialect rest
        pure (regex, { reading with rest })
      | _, '.' :: rest => pure (Regex.any, { reading with rest })
      | true, ')' :: rest =>
        if dialect.looseClose then pure (Regex.char ')', { reading with rest })
        else .error Fault.close
      | _, ['\\'] => .error Fault.trailing
      | _, '\\' :: c :: rest => do
        pure (← escaped dialect c reading.groups, { reading with rest })
      | _, c :: rest => pure (Regex.char c, { reading with rest })
      | _, [] => pure (Regex.empty, reading)
    let (regex, rest) ← postfixes dialect bound regex reading.rest
    branch dialect bound depth false (.seq before regex) { reading with rest }

end

def read (dialect : Dialect) (text : String) : Except String Regex := do
  let (regex, reading) ← branches dialect (4 * text.length + 8) 0 ⟨text.toList, 0⟩
  if reading.rest.isEmpty then return regex else .error Fault.close

end ImpToC.Regex
