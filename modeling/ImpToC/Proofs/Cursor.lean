import ImpToC.Proofs.Faults

/-! The parser as it moves. The rules of `Parse` are given the tokens that are left and the levels
that are left, and say nothing of what became of either when they fail. Here the same rules work
on a cursor, which is a position among all the tokens and a count of the levels taken, and every
cursor on the way is put down. The count is kept in two ways: a nested rule gives its level back
whether it fails or not, and a chain of operators notes the count in advance and goes back to it
at its end, but not when it fails.

Nothing here is told how long it may take. Whatever calls itself is cut off at some depth of the
calls, and comes back if from some depth on it is no longer cut off. -/
namespace ImpToC

/-- A position among the tokens and the number of levels taken. -/
structure Cursor where
  pos : Nat
  depth : Nat
  deriving DecidableEq, Repr

namespace Cursor

def next (cursor : Cursor) : Cursor := { cursor with pos := cursor.pos + 1 }

def deeper (cursor : Cursor) : Cursor := { cursor with depth := cursor.depth + 1 }

/-- What becomes of a move. It comes back, with a result or a fault, at some cursor and with
all the cursors it came to, the first one first. Or a level was given back that had never been
taken. Or it was cut off. -/
inductive Outcome (α : Type) where
  | back (result : Except ParseError α) (cursor : Cursor) (passed : List Cursor)
  | underflow
  | cutOff

variable {α β : Type}

def Outcome.after (passed : List Cursor) : Outcome α → Outcome α
  | back result cursor more => back result cursor (passed ++ more)
  | underflow => underflow
  | cutOff => cutOff

def Move (α : Type) : Type := Cursor → Outcome α

namespace Move

def bind (move : Move α) (next : α → Move β) : Move β := fun cursor =>
  match move cursor with
  | .back (.ok a) cursor passed => (next a cursor).after passed
  | .back (.error fault) cursor passed => .back (.error fault) cursor passed
  | .underflow => .underflow
  | .cutOff => .cutOff

instance : Monad Move where
  pure a cursor := .back (.ok a) cursor []
  bind := bind

def fail (fault : ParseError) : Move α := fun cursor => .back (.error fault) cursor []

def attempt (move : Move α) : Move (Except ParseError α) := fun cursor =>
  match move cursor with
  | .back result cursor passed => .back (.ok result) cursor passed
  | .underflow => .underflow
  | .cutOff => .cutOff

def here : Move Cursor := fun cursor => .back (.ok cursor) cursor []

def goTo (cursor : Cursor) : Move Unit := fun _ => .back (.ok ()) cursor [cursor]

def advance : Move Unit := do
  goTo (← here).next

def deepen : Move Unit := do
  let now ← here
  if Parse.maxLevels ≤ now.depth then fail .nestingTooDeep else goTo now.deeper

def lift : Move Unit := fun cursor =>
  match cursor.depth with
  | 0 => .underflow
  | depth + 1 => goTo { cursor with depth } cursor

/-- Goes one level deeper for the move, and comes up again also when it fails. -/
def nested (move : Move α) : Move α := do
  deepen
  let result ← attempt move
  lift
  match result with
  | .ok a => return a
  | .error fault => fail fault

/-- Goes back to the level noted in advance, unless the move fails. -/
def restoring (move : Move α) : Move α := do
  let start ← here
  let a ← move
  goTo { ← here with depth := start.depth }
  return a

end Move

open Move

section

variable (tokens : List Token)

def peek? (offset : Nat) : Move (Option Token) := do
  return tokens[(← here).pos + offset]?

def unexpected (expected : List Token.Kind) : Move α := do
  match ← peek? tokens 0 with
  | some token => fail (.unexpectedToken token.kind expected)
  | none => fail (.unexpectedEnd expected)

def oneOf (kinds : List Token.Kind) : Move Token := do
  match ← peek? tokens 0 with
  | some token =>
    if token.kind ∈ kinds then
      advance
      return token
    else unexpected tokens kinds
  | none => unexpected tokens kinds

def expect (kind : Token.Kind) : Move Token := oneOf tokens [kind]

def skip? (kind : Token.Kind) : Move Bool := do
  if (← peek? tokens 0).map Token.kind = some kind then
    advance
    return true
  else return false

def operator? (ofKind? : Token.Kind → Option Operator) : Move (Option Operator) := do
  match (← peek? tokens 0).bind fun token => ofKind? token.kind with
  | some op =>
    advance
    return some op
  | none => return none

def folds (operand : Move Expr) (ofKind? : Token.Kind → Option Operator) : Nat → Expr → Move Expr
  | 0, _ => fun _ => .cutOff
  | rounds + 1, left => do
    match ← operator? tokens ofKind? with
    | none => return left
    | some op =>
      deepen
      let right ← operand
      folds operand ofKind? rounds (.binary op left right)

def chain (operand : Move Expr) (ofKind? : Token.Kind → Option Operator) (rounds : Nat) :
    Move Expr :=
  restoring do
    let first ← operand
    folds tokens operand ofKind? rounds first

def separated (item : Move α) : Nat → Move (List α)
  | 0 => fun _ => .cutOff
  | rounds + 1 => do
    let first ← item
    let mark ← oneOf tokens [.comma, .rparen]
    if mark.kind = .rparen then return [first]
    else return first :: (← separated item rounds)

inductive Rule where
  | statement | condition | expr | term | factor | arguments | parameters
  deriving DecidableEq, Repr

@[reducible] def Rule.Result : Rule → Type
  | statement => Stmt
  | condition => Expr
  | expr => Expr
  | term => Expr
  | factor => Expr
  | arguments => List Expr
  | parameters => List String

section

variable (call : (rule : Rule) → Move rule.Result)

def factor : Move Expr := do
  let token ← oneOf tokens [.num, .ident, .lparen]
  match token.kind with
  | .num => return .num token.text
  | .ident =>
    if ← skip? tokens .lparen then
      return .call token.text (← call .arguments)
    else
      return .var token.text
  | _ =>
    let inner ← call .expr
    let _ ← expect tokens .rparen
    return inner

def arguments (rounds : Nat) : Move (List Expr) := do
  if ← skip? tokens .rparen then return []
  else separated tokens (call .expr) rounds

def condition : Move Expr := do
  let left ← call .expr
  match ← operator? tokens Parse.relational? with
  | none => return left
  | some op => return .binary op left (← call .expr)

def name : Move String := do
  return (← expect tokens .ident).text

def parameters (rounds : Nat) : Move (List String) := do
  let _ ← expect tokens .lparen
  if ← skip? tokens .rparen then return []
  else if (← peek? tokens 0).map Token.kind = some .ident then
    separated tokens (name tokens) rounds
  else unexpected tokens [.ident, .rparen]

def guard : Move Expr := do
  let _ ← expect tokens .lparen
  let cond ← call .condition
  let _ ← expect tokens .rparen
  return cond

def assignment : Move Stmt := do
  let target ← name tokens
  let _ ← expect tokens .assign
  let value ← call .expr
  let _ ← expect tokens .semi
  return .assign target value

def branch : Move Stmt := do
  let cond ← guard tokens call
  let body ← call .statement
  if ← skip? tokens .elseWord then
    return .ifElse cond body (← call .statement)
  else
    return .ifThen cond body

def loop : Move Stmt := do
  let cond ← guard tokens call
  return .loop cond (← call .statement)

def print : Move Stmt := do
  let _ ← expect tokens .lparen
  let value ← call .expr
  let _ ← expect tokens .rparen
  let _ ← expect tokens .semi
  return .print value

def declaration : Move Stmt := do
  let callee ← name tokens
  let params ← call .parameters
  return .function callee params (← call .statement)

/-- An assignment is known by its first two tokens, before either of them is read. -/
def statement : Move Stmt := do
  let first? ← peek? tokens 0
  let second? ← peek? tokens 1
  if first?.map Token.kind = some .ident then
    match second?.map Token.kind with
    | some .assign => assignment tokens call
    | some found => fail (.unexpectedToken found [.assign])
    | none => fail (.unexpectedEnd [.assign])
  else if ← skip? tokens .ifWord then branch tokens call
  else if ← skip? tokens .whileWord then loop tokens call
  else if ← skip? tokens .printWord then print tokens call
  else if ← skip? tokens .functionWord then declaration tokens call
  else unexpected tokens [.ident, .ifWord, .whileWord, .printWord, .functionWord]

def Rule.body (rounds : Nat) : (rule : Rule) → Move rule.Result
  | statement => nested (Cursor.statement tokens call)
  | condition => Cursor.condition tokens call
  | expr => chain tokens (call .term) Parse.additive? rounds
  | term => chain tokens (call .factor) Parse.multiplicative? rounds
  | factor => nested (Cursor.factor tokens call)
  | arguments => Cursor.arguments tokens call rounds
  | parameters => Cursor.parameters tokens rounds

end

/-- A rule that is cut off where calls are nested, or loops have gone round, more than `fuel`
times. -/
def Rule.read : Nat → (rule : Rule) → Move rule.Result
  | 0, _ => fun _ => .cutOff
  | fuel + 1, rule => rule.body tokens (Rule.read fuel) fuel

end

def Rule.parse (levels : Nat) : (rule : Rule) → Parse rule.Result
  | statement => Parse.statement levels
  | condition => Parse.condition levels
  | expr => Parse.expr levels
  | term => Parse.term levels
  | factor => Parse.factor levels
  | arguments => Parse.arguments levels
  | parameters => Parse.parameters

end Cursor

end ImpToC
