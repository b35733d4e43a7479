import ImpToC.Syntax

/-! Reading tokens as a program. One token of lookahead decides every choice and nothing
is read twice, so the first token that fits nowhere is the fault that is reported. Every
statement, every factor and every further operator of a chain takes one of a fixed stock
of levels, which bounds the height of the program that is built. -/
namespace ImpToC

inductive ParseError where
  | unexpectedToken (found : Token.Kind) (expected : List Token.Kind)
  | unexpectedEnd (expected : List Token.Kind)
  | nestingTooDeep
  deriving DecidableEq, Repr

namespace Parse

/-- How many levels statements, factors and operator chains may nest. -/
def maxLevels : Nat := 512

def alternatives : List Token.Kind → String
  | [kind] => kind.name
  | kinds => "one of " ++ ", ".intercalate (kinds.map Token.Kind.name)

end Parse

def ParseError.message : ParseError → String
  | unexpectedToken found expected =>
    "unexpected token " ++ found.name ++ ", expected " ++ Parse.alternatives expected
  | unexpectedEnd expected =>
    "unexpected end of input, expected " ++ Parse.alternatives expected
  | nestingTooDeep =>
    "program nests deeper than " ++ toString Parse.maxLevels ++ " levels"

/-- A rule reads from the front of a list of tokens and leaves the rest. -/
abbrev Parse (α : Type) := StateT (List Token) (Except ParseError) α

namespace Parse

def fault (expected : List Token.Kind) : List Token → ParseError
  | [] => .unexpectedEnd expected
  | token :: _ => .unexpectedToken token.kind expected

def tooDeep {α : Type} : Parse α := fun _ => .error .nestingTooDeep

def oneOf (kinds : List Token.Kind) : Parse Token
  | [] => .error (fault kinds [])
  | token :: rest =>
    if token.kind ∈ kinds then .ok (token, rest) else .error (fault kinds (token :: rest))

def expect (kind : Token.Kind) : Parse Token := oneOf [kind]

def skip? (kind : Token.Kind) : Parse Bool
  | [] => .ok (false, [])
  | token :: rest =>
    if token.kind = kind then .ok (true, rest) else .ok (false, token :: rest)

def operator? (ofKind? : Token.Kind → Option Operator) : Parse (Option Operator)
  | [] => .ok (none, [])
  | token :: rest =>
    match ofKind? token.kind with
    | some op => .ok (some op, rest)
    | none => .ok (none, token :: rest)

def additive? : Token.Kind → Option Operator
  | .arith .add => some (.arith .add)
  | .arith .sub => some (.arith .sub)
  | _ => none

def multiplicative? : Token.Kind → Option Operator
  | .arith .mul => some (.arith .mul)
  | .arith .div => some (.arith .div)
  | _ => none

def relational? : Token.Kind → Option Operator
  | .rel op => some (.rel op)
  | _ => none

mutual

def expr (levels : Nat) : Parse Expr := do
  let first ← term levels
  exprTail levels first
termination_by (levels, 3, 0)

def exprTail (levels : Nat) (left : Expr) : Parse Expr := do
  match ← operator? additive? with
  | none => return left
  | some op =>
    match levels with
    | 0 => tooDeep
    | levels + 1 =>
      let right ← term levels
      exprTail levels (.binary op left right)
termination_by (levels, 0, 0)

def term (levels : Nat) : Parse Expr := do
  let first ← factor levels
  termTail levels first
termination_by (levels, 2, 0)

def termTail (levels : Nat) (left : Expr) : Parse Expr := do
  match ← operator? multiplicative? with
  | none => return left
  | some op =>
    match levels with
    | 0 => tooDeep
    | levels + 1 =>
      let right ← factor levels
      termTail levels (.binary op left right)
termination_by (levels, 0, 0)

def factor (levels : Nat) : Parse Expr :=
  match levels with
  | 0 => tooDeep
  | levels + 1 => do
    let token ← oneOf [.num, .ident, .lparen]
    match token.kind with
    | .num => return .num token.text
    | .ident =>
      if ← skip? .lparen then
        return .call token.text (← arguments levels)
      else
        return .var token.text
    | _ =>
      let inner ← expr levels
      let _ ← expect .rparen
      return inner
termination_by (levels, 1, 0)

def arguments (levels : Nat) : Parse (List Expr) := do
  if ← skip? .rparen then return []
  else argumentsFrom levels (← get).length
termination_by (levels, 5, 0)

/-- One argument or more. Each is followed by a mark, so a list of `bound` tokens cannot
hold more than `bound` of them. -/
def argumentsFrom (levels bound : Nat) : Parse (List Expr) := do
  let arg ← expr levels
  let mark ← oneOf [.comma, .rparen]
  match mark.kind, bound with
  | .comma, bound + 1 => return arg :: (← argumentsFrom levels bound)
  | _, _ => return [arg]
termination_by (levels, 4, bound)

end

def condition (levels : Nat) : Parse Expr := do
  let left ← expr levels
  match ← operator? relational? with
  | none => return left
  | some op => return .binary op left (← expr levels)

def guard (levels : Nat) : Parse Expr := do
  let _ ← expect .lparen
  let cond ← condition levels
  let _ ← expect .rparen
  return cond

/-- The parameters from the first one on, and the bracket that closes them. -/
def parametersFrom : Parse (List String)
  | [] => .error (fault [.ident] [])
  | token :: rest =>
    if token.kind = .ident then
      match rest with
      | [] => .error (fault [.comma, .rparen] [])
      | mark :: rest =>
        match mark.kind with
        | .comma =>
          match parametersFrom rest with
          | .ok (names, rest) => .ok (token.text :: names, rest)
          | .error fault => .error fault
        | .rparen => .ok ([token.text], rest)
        | _ => .error (fault [.comma, .rparen] (mark :: rest))
    else .error (fault [.ident] (token :: rest))

def parameters : Parse (List String) := do
  let _ ← expect .lparen
  if ← skip? .rparen then return []
  else
    match ← get with
    | token :: rest =>
      if token.kind = .ident then parametersFrom
      else throw (fault [.ident, .rparen] (token :: rest))
    | [] => throw (fault [.ident, .rparen] [])

def statement : Nat → Parse Stmt
  | 0 => tooDeep
  | levels + 1 => do
    let token ← oneOf [.ident, .ifWord, .whileWord, .printWord, .functionWord]
    match token.kind with
    | .ident =>
      let _ ← expect .assign
      let value ← expr levels
      let _ ← expect .semi
      return .assign token.text value
    | .ifWord =>
      let cond ← guard levels
      let body ← statement levels
      if ← skip? .elseWord then
        return .ifElse cond body (← statement levels)
      else
        return .ifThen cond body
    | .whileWord =>
      let cond ← guard levels
      return .loop cond (← statement levels)
    | .printWord =>
      let _ ← expect .lparen
      let value ← expr levels
      let _ ← expect .rparen
      let _ ← expect .semi
      return .print value
    | _ =>
      let name ← expect .ident
      let params ← parameters
      return .function name.text params (← statement levels)

end Parse

end ImpToC
