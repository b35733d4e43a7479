/-! Arithmetic expressions on 64-bit integers, with variables that can be assigned. Operands
that cannot matter, after `&&`, `||` and `?`, are read and not computed. -/
namespace ImpToC.Shell.Formula

inductive Lexeme where
  | number (value : Int)
  | name (text : String)
  | operator (text : String)
  | unknown
  deriving DecidableEq

def wrap (value : Int) : Int := Int.bmod value 18446744073709551616

def largest : Int := 9223372036854775807
def smallest : Int := -9223372036854775808

def digitValue (c : Char) : Nat :=
  if c.isDigit then c.toNat - 48
  else if 'a' ≤ c && c ≤ 'z' then c.toNat - 87
  else if 'A' ≤ c && c ≤ 'Z' then c.toNat - 55
  else 99

/-- The number at the start of a text, in the base given or, for 0, as its start shows; and
what follows it. -/
def numeral? (base : Nat) (cs : List Char) : Option (Nat × List Char) :=
  let digits := fun (base : Nat) (cs : List Char) =>
    let taken := cs.takeWhile fun c => digitValue c < base
    if taken.isEmpty then none
    else some (taken.foldl (fun n c => base * n + digitValue c) 0, cs.drop taken.length)
  match base, cs with
  | 0, '0' :: x :: rest =>
    if x = 'x' || x = 'X' then
      match digits 16 rest with
      | some found => some found
      | none => some (0, x :: rest)
    else digits 8 cs
  | 16, '0' :: x :: rest =>
    if x = 'x' || x = 'X' then
      match digits 16 rest with
      | some found => some found
      | none => some (0, x :: rest)
    else digits 16 cs
  | 0, '0' :: _ => digits 8 cs
  | 0, _ => digits 10 cs
  | base, _ => digits base cs

def isBlank (c : Char) : Bool := c == ' ' || ('\t' ≤ c && c ≤ '\r')

/-- A signed number after blanks, and what follows it. -/
def signed? (base : Nat) (text : List Char) : Option (Int × List Char) :=
  match text.dropWhile isBlank with
  | '-' :: rest => (numeral? base rest).map fun (n, rest) => (-(n : Int), rest)
  | '+' :: rest => (numeral? base rest).map fun (n, rest) => ((n : Int), rest)
  | rest => (numeral? base rest).map fun (n, rest) => ((n : Int), rest)

def value? (text : String) : Option Int :=
  match signed? 0 text.toList with
  | none => if text.toList.all isBlank then some 0 else none
  | some (value, rest) =>
    if rest.all isBlank && smallest ≤ value && value ≤ largest then some value else none

def operators : List String :=
  ["<<=", ">>=", "*=", "/=", "%=", "+=", "-=", "&=", "^=", "|=", "==", "!=", "<=", ">=", "<<",
   ">>", "&&", "||", "=", "*", "/", "%", "+", "-", "&", "^", "|", "<", ">", "!", "~", "?", ":",
   "(", ")"]

def isNameChar (c : Char) : Bool := c.isAlphanum || c == '_'

def lexemes : Nat → List Char → List Lexeme
  | 0, _ => []
  | bound + 1, cs => match cs with
    | [] => []
    | c :: rest =>
      if c = ' ' || c = '\t' || c = '\n' then lexemes bound rest
      else if c.isDigit then
        match numeral? 0 cs with
        | some (n, rest) => .number (min (n : Int) largest) :: lexemes bound rest
        | none => [.unknown]
      else if isNameChar c then
        let name := cs.takeWhile isNameChar
        .name (String.ofList name) :: lexemes bound (cs.drop name.length)
      else
        match operators.find? fun text => text.toList.isPrefixOf cs with
        | some text => .operator text :: lexemes bound (cs.drop text.length)
        | none => [.unknown]

structure Calc where
  rest : List Lexeme
  assigned : List (String × Int) := []

inductive Trouble where
  | expression (reason : String)
  | variable (text : String)

abbrev Rule := EStateM Trouble Calc

def fail {α : Type} (reason : String) : Rule α := throw (.expression reason)

def peek : Rule (Option Lexeme) := return (← get).rest.head?

def skip : Rule Unit := modify fun state => { state with rest := state.rest.tail }

def accept (text : String) : Rule Bool := do
  if (← peek) == some (.operator text) then
    skip
    return true
  else return false

def fromBool (b : Bool) : Int := if b then 1 else 0

def bitwise (f : BitVec 64 → BitVec 64 → BitVec 64) (a b : Int) : Int :=
  (f (BitVec.ofInt 64 a) (BitVec.ofInt 64 b)).toInt

def apply (operator : String) (a b : Int) : Rule Int := do
  let shift := (b % 64).toNat
  match operator with
  | "*" => return wrap (a * b)
  | "/" => if b = 0 then fail "division by zero" else return wrap (a.tdiv b)
  | "%" => if b = 0 then fail "division by zero" else return a.tmod b
  | "+" => return wrap (a + b)
  | "-" => return wrap (a - b)
  | "<<" => return wrap (a * (Nat.pow 2 shift : Nat))
  | ">>" => return a.fdiv (Nat.pow 2 shift : Nat)
  | "<" => return fromBool (a < b)
  | "<=" => return fromBool (a ≤ b)
  | ">" => return fromBool (b < a)
  | ">=" => return fromBool (b ≤ a)
  | "==" => return fromBool (a = b)
  | "!=" => return fromBool (a ≠ b)
  | "&" => return bitwise (· &&& ·) a b
  | "^" => return bitwise (· ^^^ ·) a b
  | _ => return bitwise (· ||| ·) a b

/-- The binary operators that compute from both sides, loosest first. -/
def levels : List (List String) :=
  [["|"], ["^"], ["&"], ["==", "!="], ["<", "<=", ">", ">="], ["<<", ">>"], ["+", "-"],
   ["*", "/", "%"]]

def lookUp (vars : String → Option String) (name : String) (live : Bool) : Rule Int := do
  if !live then return 0
  match (← get).assigned.lookup name with
  | some value => return value
  | none =>
    let text := (vars name).getD ""
    match value? text with
    | some value => return value
    | none => throw (.variable text)

def unary (vars : String → Option String) (whole : Bool → Rule Int) (live : Bool) :
    Nat → Rule Int
  | 0 => fail "expecting primary"
  | bound + 1 => do
    match ← peek with
    | some (.number value) =>
      skip
      return value
    | some (.name name) =>
      skip
      lookUp vars name live
    | some (.operator "(") =>
      skip
      let value ← whole live
      if ← accept ")" then return value else fail "expecting ')'"
    | some (.operator "-") =>
      skip
      return wrap (-(← unary vars whole live bound))
    | some (.operator "+") =>
      skip
      unary vars whole live bound
    | some (.operator "!") =>
      skip
      return fromBool ((← unary vars whole live bound) = 0)
    | some (.operator "~") =>
      skip
      return wrap (-1 - (← unary vars whole live bound))
    | _ => fail "expecting primary"

def chain (operators : List String) (operand : Rule Int) (live : Bool) : Nat → Int → Rule Int
  | 0, before => return before
  | bound + 1, before => do
    match ← peek with
    | some (.operator text) =>
      if operators.contains text then
        skip
        let next ← operand
        let value ← if live then apply text before next else pure 0
        chain operators operand live bound value
      else return before
    | _ => return before

def binary (operand : Rule Int) (live : Bool) (bound : Nat) : List (List String) → Rule Int
  | [] => operand
  | operators :: tighter => do
    let first ← binary operand live bound tighter
    chain operators (binary operand live bound tighter) live bound first

def conjunction (vars : String → Option String) (whole : Bool → Rule Int) (live : Bool) :
    Nat → Rule Int
  | 0 => fail "expecting primary"
  | bound + 1 => do
    let size := (← get).rest.length + 1
    let first ← binary (unary vars whole live size) live size levels
    if ← accept "&&" then
      let second ← conjunction vars whole (live && first ≠ 0) bound
      return fromBool (first ≠ 0 && second ≠ 0)
    else return first

def disjunction (vars : String → Option String) (whole : Bool → Rule Int) (live : Bool) :
    Nat → Rule Int
  | 0 => fail "expecting primary"
  | bound + 1 => do
    let first ← conjunction vars whole live bound
    if ← accept "||" then
      let second ← disjunction vars whole (live && first = 0) bound
      return fromBool (first ≠ 0 || second ≠ 0)
    else return first

def conditional (vars : String → Option String) (whole : Bool → Rule Int) (live : Bool) :
    Nat → Rule Int
  | 0 => fail "expecting primary"
  | bound + 1 => do
    let first ← disjunction vars whole live ((← get).rest.length + 1)
    if ← accept "?" then
      let yes ← whole (live && first ≠ 0)
      if !(← accept ":") then fail "expecting ':'"
      let no ← conditional vars whole (live && first = 0) bound
      return if first ≠ 0 then yes else no
    else return first

def whole (vars : String → Option String) : Nat → Bool → Rule Int
  | 0, _ => fail "expecting primary"
  | bound + 1, live => do
    let state ← get
    match state.rest with
    | .name name :: .operator text :: rest =>
      if text != "==" && text != "<=" && text != ">=" && text != "!=" && text.endsWith "=" then
        set { state with rest }
        let value ← whole vars bound live
        if !live then return value
        let operator := String.ofList (text.toList.dropLast)
        let value ← if operator = "" then pure value
          else apply operator (← lookUp vars name live) value
        modify fun state => { state with assigned := (name, value) :: state.assigned }
        return value
      else conditional vars (whole vars bound) live bound
    | _ => conditional vars (whole vars bound) live bound

def evaluate (vars : String → Option String) (text : String) :
    Except Trouble (Int × List (String × Int)) :=
  let lexemes := lexemes (text.length + 1) text.toList
  let rule : Rule Int := do
    let value ← whole vars (lexemes.length + 2) true
    if (← peek).isSome then fail "expecting EOF"
    return value
  match rule { rest := lexemes } with
  | .ok value state => .ok (value, state.assigned)
  | .error trouble _ => .error trouble

end ImpToC.Shell.Formula
