import ImpToC.Token.Scan
import ImpToC.Tree

/-! Programs. Statements and expressions are kept apart, each form has exactly the parts
it needs, and the encoding into labelled trees loses nothing. Names and numerals are
texts as written; `Program.isValid` says that all of them are ones the scanner could
have read. -/
namespace ImpToC

inductive Expr where
  | num (digits : String)
  | var (name : String)
  | binary (op : Operator) (left right : Expr)
  | call (callee : String) (args : List Expr)
  deriving Repr

inductive Stmt where
  | assign (target : String) (value : Expr)
  | print (value : Expr)
  | ifThen (cond : Expr) (body : Stmt)
  | ifElse (cond : Expr) (body other : Stmt)
  | loop (cond : Expr) (body : Stmt)
  | function (name : String) (params : List String) (body : Stmt)
  deriving Repr

structure Program where
  statements : List Stmt
  deriving Repr

instance : Inhabited Expr := ⟨.num "0"⟩

instance : Inhabited Stmt := ⟨.print default⟩

mutual

def Expr.toTree : Expr → Tree
  | num digits => .num digits
  | var name => .ident name
  | binary op left right => .binary op.kind left.toTree right.toTree
  | call callee args => .call callee (Expr.toTrees args)

def Expr.toTrees : List Expr → List Tree
  | [] => []
  | arg :: args => arg.toTree :: Expr.toTrees args

end

theorem Expr.toTrees_eq_map (args : List Expr) : Expr.toTrees args = args.map Expr.toTree := by
  induction args with
  | nil => rw [Expr.toTrees, List.map_nil]
  | cons arg args ih => rw [Expr.toTrees, List.map_cons, ih]

def Stmt.toTree : Stmt → Tree
  | assign target value => .assign target value.toTree
  | print value => .print value.toTree
  | ifThen cond body => .ifThen cond.toTree body.toTree
  | ifElse cond body other => .ifElse cond.toTree body.toTree other.toTree
  | loop cond body => .loop cond.toTree body.toTree
  | function name params body => .function name params body.toTree

def Program.toTree (program : Program) : Tree :=
  .program (program.statements.map Stmt.toTree)

mutual

def Expr.isValid : Expr → Bool
  | num digits => Decimal.isCanonical digits
  | var name => Token.isName name
  | binary _ left right => left.isValid && right.isValid
  | call callee args => Token.isName callee && Expr.allValid args

def Expr.allValid : List Expr → Bool
  | [] => true
  | arg :: args => arg.isValid && Expr.allValid args

end

def Stmt.isValid : Stmt → Bool
  | assign target value => Token.isName target && value.isValid
  | print value => value.isValid
  | ifThen cond body => cond.isValid && body.isValid
  | ifElse cond body other => cond.isValid && body.isValid && other.isValid
  | loop cond body => cond.isValid && body.isValid
  | function name params body =>
    Token.isName name && params.all Token.isName && body.isValid

def Program.isValid (program : Program) : Bool := program.statements.all Stmt.isValid

/-- A call as the static checks see it: whom it calls, with how many arguments. -/
structure CallSite where
  callee : String
  argCount : Nat
  deriving DecidableEq, Repr

mutual

def Expr.calls : Expr → List CallSite
  | num _ => []
  | var _ => []
  | binary _ left right => left.calls ++ right.calls
  | call callee args => ⟨callee, args.length⟩ :: Expr.callsList args

def Expr.callsList : List Expr → List CallSite
  | [] => []
  | arg :: args => arg.calls ++ Expr.callsList args

end

def Stmt.calls : Stmt → List CallSite
  | assign _ value => value.calls
  | print value => value.calls
  | ifThen cond body => cond.calls ++ body.calls
  | ifElse cond body other => cond.calls ++ (body.calls ++ other.calls)
  | loop cond body => cond.calls ++ body.calls
  | function _ _ body => body.calls

def Program.calls (program : Program) : List CallSite :=
  program.statements.flatMap Stmt.calls

mutual

def Expr.vars : Expr → List String
  | num _ => []
  | var name => [name]
  | binary _ left right => left.vars ++ right.vars
  | call _ args => Expr.varsList args

def Expr.varsList : List Expr → List String
  | [] => []
  | arg :: args => arg.vars ++ Expr.varsList args

end

def Stmt.vars : Stmt → List String
  | assign target value => target :: value.vars
  | print value => value.vars
  | ifThen cond body => cond.vars ++ body.vars
  | ifElse cond body other => cond.vars ++ (body.vars ++ other.vars)
  | loop cond body => cond.vars ++ body.vars
  | function _ _ body => body.vars

def Program.vars (program : Program) : List String :=
  program.statements.flatMap Stmt.vars

end ImpToC
