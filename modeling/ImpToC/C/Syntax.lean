import ImpToC.Text.Quoted
import ImpToC.Token

/-! The part of C that generated programs are written in, and how it is laid out as
text. A file is self-contained: its headers, the functions every file begins with, its
global variables, its functions and its main function. -/
namespace ImpToC.C

inductive Ty where
  | int | longLong | unsignedLongLong
  deriving DecidableEq, Repr

def Ty.render : Ty → String
  | int => "int"
  | longLong => "long long"
  | unsignedLongLong => "unsigned long long"

inductive Expr where
  | literal (digits : String)
  | int (value : Nat)
  | text (content : String)
  | ident (name : String)
  | call (callee : String) (args : List Expr)
  | binary (op : Operator) (left right : Expr)
  | both (left right : Expr)
  | neg (inner : Expr)
  | cast (ty : Ty) (inner : Expr)
  | paren (inner : Expr)
  deriving Repr

inductive Stmt where
  | declare (ty : Ty) (name : String) (value : Expr)
  | assign (name : String) (value : Expr)
  | expr (value : Expr)
  | ret (value : Expr)
  | ifThen (cond : Expr) (body : List Stmt)
  | ifElse (cond : Expr) (body other : List Stmt)
  | forever (body : List Stmt)
  | breakUnless (cond : Expr)
  deriving Repr

structure Function where
  isStatic : Bool := false
  returns : Ty := .longLong
  name : String
  params : List String
  body : List Stmt
  deriving Repr

structure File where
  headers : List String
  prelude : List Function
  globals : List String
  functions : List Function
  main : Function
  deriving Repr

def symbol : Operator → String
  | .arith .add => "+"
  | .arith .sub => "-"
  | .arith .mul => "*"
  | .arith .div => "/"
  | .rel .eq => "=="
  | .rel .ne => "!="
  | .rel .lt => "<"
  | .rel .le => "<="
  | .rel .gt => ">"
  | .rel .ge => ">="

mutual

def Expr.render : Expr → String
  | literal digits => digits ++ "LL"
  | int value => toString value
  | text content => Quoted.quote content
  | ident name => name
  | call callee args => callee ++ "(" ++ Expr.renderArgs args ++ ")"
  | binary op left right => left.render ++ " " ++ symbol op ++ " " ++ right.render
  | both left right => left.render ++ " && " ++ right.render
  | neg inner => "-" ++ inner.render
  | cast ty inner => "(" ++ ty.render ++ ")" ++ inner.render
  | paren inner => "(" ++ inner.render ++ ")"

def Expr.renderArgs : List Expr → String
  | [] => ""
  | [arg] => arg.render
  | arg :: args => arg.render ++ ", " ++ Expr.renderArgs args

end

def line (level : Nat) (text : String) : String :=
  String.ofList (List.replicate (4 * level) ' ') ++ text ++ "\n"

mutual

def Stmt.render (level : Nat) : Stmt → String
  | declare ty name value =>
    line level (ty.render ++ " " ++ name ++ " = " ++ value.render ++ ";")
  | assign name value => line level (name ++ " = " ++ value.render ++ ";")
  | expr value => line level (value.render ++ ";")
  | ret value => line level ("return " ++ value.render ++ ";")
  | ifThen cond body =>
    line level ("if (" ++ cond.render ++ ") \x7b") ++ Stmt.renderAll (level + 1) body ++
      line level "\x7d"
  | ifElse cond body other =>
    line level ("if (" ++ cond.render ++ ") \x7b") ++ Stmt.renderAll (level + 1) body ++
      line level "\x7d else \x7b" ++ Stmt.renderAll (level + 1) other ++ line level "\x7d"
  | forever body =>
    line level "for (;;) \x7b" ++ Stmt.renderAll (level + 1) body ++ line level "\x7d"
  | breakUnless cond => line level ("if (!" ++ cond.render ++ ") break;")

def Stmt.renderAll (level : Nat) : List Stmt → String
  | [] => ""
  | stmt :: stmts => stmt.render level ++ Stmt.renderAll level stmts

end

namespace Function

def renderParams (params : List String) : String :=
  if params.isEmpty then "void"
  else ", ".intercalate (params.map fun param => Ty.longLong.render ++ " " ++ param)

def signature (function : Function) : String :=
  (if function.isStatic then "static " else "") ++ function.returns.render ++ " " ++
    function.name ++ "(" ++ renderParams function.params ++ ")"

def render (function : Function) : String :=
  function.signature ++ " \x7b\n" ++ Stmt.renderAll 1 function.body ++ "\x7d\n"

end Function

def renderHeaders (headers : List String) : String :=
  String.join (headers.map fun header => "#include <" ++ header ++ ">\n")

namespace File

def sections (file : File) : List String :=
  [renderHeaders file.headers] ++ file.prelude.map Function.render ++
    (if file.globals.isEmpty then []
      else [String.join (file.globals.map fun name => line 0 ("long long " ++ name ++ " = 0;"))]) ++
    (if file.functions.isEmpty then []
      else [String.join (file.functions.map fun function => line 0 (function.signature ++ ";"))]) ++
    file.functions.map Function.render ++ [file.main.render]

/-- A blank line stands between two parts. -/
def render (file : File) : String := "\n".intercalate file.sections

end File

end ImpToC.C
