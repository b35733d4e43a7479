import ImpToC.Syntax

/-! Reading a labelled tree as a program. Each kind of node has a fixed layout; the
first departure from it, with a node before its children and children from the left, is
the answer. A tree that passes is the encoding of the program that is returned. -/
namespace ImpToC

inductive ShapeError where
  | notAProgram (found : Tree.Kind)
  | childCount (kind : Tree.Kind) (expected : String) (found : Nat)
  | childKind (parent : Tree.Kind) (index : Nat) (expected : String) (found : Tree.Kind)
  | missingValue (kind : Tree.Kind) (expected : String)
  | unexpectedValue (kind : Tree.Kind)
  | invalidOperator (found : Token.Kind)
  | invalidNumber (digits : String)
  | invalidName (kind : Tree.Kind) (name : String)
  deriving DecidableEq, Repr

def ShapeError.message : ShapeError → String
  | notAProgram found => "root must be PROGRAM, found " ++ found.name
  | childCount kind expected found =>
    kind.name ++ " expects " ++ expected ++ " children, found " ++ toString found
  | childKind parent index expected found =>
    parent.name ++ " child " ++ toString index ++ " must be " ++ expected ++ ", found " ++
      found.name
  | missingValue kind expected => kind.name ++ " node is missing its " ++ expected ++ " value"
  | unexpectedValue kind => kind.name ++ " node must not carry a value"
  | invalidOperator found => "BIN_OP operator " ++ found.name ++ " is not a binary operator"
  | invalidNumber digits =>
    "NUM literal " ++ Quoted.quote digits ++ " is not a canonical in-range decimal"
  | invalidName kind name =>
    kind.name ++ " name " ++ Quoted.quote name ++ " is not a valid identifier"

namespace Tree

def leafName (kind : Kind) (value? : Option Value) (children : List Tree) :
    Except ShapeError String :=
  if children.length = 0 then
    match value? with
    | some (.name text) =>
      if Token.isName text then .ok text else .error (.invalidName kind text)
    | _ => .error (.missingValue kind "name")
  else .error (.childCount kind "0" children.length)

def leafNumber (value? : Option Value) (children : List Tree) : Except ShapeError String :=
  if children.length = 0 then
    match value? with
    | some (.number digits) =>
      if Decimal.isCanonical digits then .ok digits else .error (.invalidNumber digits)
    | _ => .error (.missingValue .num "number")
  else .error (.childCount .num "0" children.length)

def childName (parent : Kind) (index : Nat) (wanted : Kind) : Tree → Except ShapeError String
  | node kind value? children =>
    if kind = wanted then leafName kind value? children
    else .error (.childKind parent index wanted.name kind)

def noValue (kind : Kind) (value? : Option Value) : Except ShapeError Unit :=
  match value? with
  | none => .ok ()
  | some _ => .error (.unexpectedValue kind)

end Tree

mutual

def Expr.ofTree (parent : Tree.Kind) (index : Nat) : Tree → Except ShapeError Expr
  | .node .num value? children => do
    return .num (← Tree.leafNumber value? children)
  | .node .ident value? children => do
    return .var (← Tree.leafName .ident value? children)
  | .node .binary value? children =>
    match value? with
    | some (.operator found) =>
      match found.operator? with
      | none => .error (.invalidOperator found)
      | some op =>
        match children with
        | [left, right] => do
          let left ← Expr.ofTree .binary 0 left
          let right ← Expr.ofTree .binary 1 right
          return .binary op left right
        | children => .error (.childCount .binary "2" children.length)
    | _ => .error (.missingValue .binary "operator")
  | .node .call value? children => do
    Tree.noValue .call value?
    match children with
    | callee :: args =>
      let callee ← Tree.childName .call 0 .ident callee
      return .call callee (← Expr.ofTrees 1 args)
    | [] => .error (.childCount .call "at least 1" 0)
  | .node kind _ _ => .error (.childKind parent index "an expression" kind)

def Expr.ofTrees (index : Nat) : List Tree → Except ShapeError (List Expr)
  | [] => .ok []
  | arg :: args => do
    let arg ← Expr.ofTree .call index arg
    return arg :: (← Expr.ofTrees (index + 1) args)

end

mutual

def Stmt.ofTree (parent : Tree.Kind) (index : Nat) : Tree → Except ShapeError Stmt
  | .node .assign value? children => do
    Tree.noValue .assign value?
    match children with
    | [target, value] =>
      let target ← Tree.childName .assign 0 .ident target
      return .assign target (← Expr.ofTree .assign 1 value)
    | children => .error (.childCount .assign "2" children.length)
  | .node .ifElse value? children => do
    Tree.noValue .ifElse value?
    match children with
    | [cond, body] =>
      let cond ← Expr.ofTree .ifElse 0 cond
      return .ifThen cond (← Stmt.ofTree .ifElse 1 body)
    | [cond, body, other] =>
      let cond ← Expr.ofTree .ifElse 0 cond
      let body ← Stmt.ofTree .ifElse 1 body
      return .ifElse cond body (← Stmt.ofTree .ifElse 2 other)
    | children => .error (.childCount .ifElse "2 or 3" children.length)
  | .node .loop value? children => do
    Tree.noValue .loop value?
    match children with
    | [cond, body] =>
      let cond ← Expr.ofTree .loop 0 cond
      return .loop cond (← Stmt.ofTree .loop 1 body)
    | children => .error (.childCount .loop "2" children.length)
  | .node .print value? children => do
    Tree.noValue .print value?
    match children with
    | [value] => return .print (← Expr.ofTree .print 0 value)
    | children => .error (.childCount .print "1" children.length)
  | .node .function value? children => do
    Tree.noValue .function value?
    match children with
    | [] => .error (.childCount .function "at least 2" 0)
    | name :: parts =>
      if parts.length = 0 then .error (.childCount .function "at least 2" 1)
      else
        let name ← Tree.childName .function 0 .ident name
        let (params, body) ← Stmt.ofParts 1 parts
        return .function name params body
  | .node kind _ _ => .error (.childKind parent index "a statement" kind)

/-- The parameters and the body of a declaration: the children from number `index` on,
of which the last is the body. -/
def Stmt.ofParts (index : Nat) : List Tree → Except ShapeError (List String × Stmt)
  | [] => .error (.childCount .function "at least 2" index)
  | [body] => do
    return ([], ← Stmt.ofTree .function index body)
  | param :: parts => do
    let name ← Tree.childName .function index .param param
    let (params, body) ← Stmt.ofParts (index + 1) parts
    return (name :: params, body)

end

def Program.ofStatements (index : Nat) : List Tree → Except ShapeError (List Stmt)
  | [] => .ok []
  | tree :: trees => do
    let statement ← Stmt.ofTree .program index tree
    return statement :: (← Program.ofStatements (index + 1) trees)

/-- The program a tree encodes, or the first fault in its layout. -/
def Program.ofTree (tree : Tree) : Except ShapeError Program := do
  if tree.kind = .program then
    Tree.noValue .program tree.value?
    return ⟨← Program.ofStatements 0 tree.children⟩
  else
    .error (.notAProgram tree.kind)

end ImpToC
