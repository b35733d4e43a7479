import ImpToC.C.Prelude
import ImpToC.Linked

/-! Lowering a program to C. Every variable read, operation and call is given a
temporary of its own, in the order of evaluation, so the order in which C evaluates
operands plays no part. Functions become C functions whatever place they are declared
in, and a function keeps the value of its last assignment or print for its caller. -/
namespace ImpToC

namespace Lower

def variableName (name : String) : String := "v_" ++ name

def functionName (name : String) : String := "f_" ++ name

def tempName (index : Nat) : String := "t" ++ toString index

def resultName : String := "rt_last"

def arithName : ArithOp → String
  | .add => "rt_add"
  | .sub => "rt_sub"
  | .mul => "rt_mul"
  | .div => "rt_div"

def temp (index : Nat) (value : C.Expr) : C.Stmt :=
  .declare .longLong (tempName index) value

def operation (op : Operator) (left right : C.Expr) : C.Expr :=
  match op with
  | .arith op => .call (arithName op) [left, right]
  | .rel op => .paren (.binary (.rel op) left right)

end Lower

mutual

/-- The code that computes an expression, the operand that then holds its value, and the
number of the next temporary. -/
def Expr.lower (expr : Expr) (next : Nat) : List C.Stmt × C.Expr × Nat :=
  match expr with
  | num digits => ([], .literal digits, next)
  | var name =>
    ([Lower.temp next (.ident (Lower.variableName name))], .ident (Lower.tempName next), next + 1)
  | binary op left right =>
    let (leftCode, leftValue, next) := left.lower next
    let (rightCode, rightValue, next) := right.lower next
    (leftCode ++ rightCode ++ [Lower.temp next (Lower.operation op leftValue rightValue)],
      .ident (Lower.tempName next), next + 1)
  | call callee args =>
    let (code, values, next) := Expr.lowerAll args next
    (code ++ [Lower.temp next (.call (Lower.functionName callee) values)],
      .ident (Lower.tempName next), next + 1)

def Expr.lowerAll (args : List Expr) (next : Nat) : List C.Stmt × List C.Expr × Nat :=
  match args with
  | [] => ([], [], next)
  | arg :: args =>
    let (code, value, next) := arg.lower next
    let (restCode, values, next) := Expr.lowerAll args next
    (code ++ restCode, value :: values, next)

end

/-- The code of a statement and the number of the next temporary. Inside a function
`keep` is true, and the value of an assignment or print is kept as the result. -/
def Stmt.lower (keep : Bool) (stmt : Stmt) (next : Nat) : List C.Stmt × Nat :=
  match stmt with
  | assign target value =>
    let (code, value, next) := value.lower next
    let target := Lower.variableName target
    (code ++ [.assign target value] ++
      (if keep then [.assign Lower.resultName (.ident target)] else []), next)
  | print value =>
    let (code, value, next) := value.lower next
    let printed := C.Expr.call "rt_print" [value]
    (code ++ [if keep then .assign Lower.resultName printed else .expr printed], next)
  | ifThen cond body =>
    let (code, value, next) := cond.lower next
    let (body, next) := body.lower keep next
    (code ++ [.ifThen value body], next)
  | ifElse cond body other =>
    let (code, value, next) := cond.lower next
    let (body, next) := body.lower keep next
    let (other, next) := other.lower keep next
    (code ++ [.ifElse value body other], next)
  | loop cond body =>
    let (code, value, next) := cond.lower next
    let (body, next) := body.lower keep next
    ([.forever (code ++ [.breakUnless value] ++ body)], next)
  | function _ _ _ => ([], next)

def Stmt.lowerAll (keep : Bool) (stmts : List Stmt) (next : Nat) : List C.Stmt × Nat :=
  match stmts with
  | [] => ([], next)
  | stmt :: stmts =>
    let (code, next) := stmt.lower keep next
    let (rest, next) := Stmt.lowerAll keep stmts next
    (code ++ rest, next)

def Declaration.lower (declaration : Declaration Stmt) : C.Function :=
  { name := Lower.functionName declaration.name,
    params := declaration.params.map Lower.variableName,
    body :=
      [.declare .longLong Lower.resultName (.int 0)] ++ (declaration.body.lower true 0).1 ++
        [.ret (.ident Lower.resultName)] }

def Program.globals (program : Program) : List String :=
  program.vars.eraseDups.mergeSort fun a b => decide (a ≤ b)

def Linked.lower (linked : Linked) : C.File :=
  { headers := C.Prelude.headers,
    prelude := C.Prelude.functions,
    globals := linked.program.globals.map Lower.variableName,
    functions := linked.table.declarations.map Declaration.lower,
    main :=
      { returns := .int, name := "main", params := [],
        body := (Stmt.lowerAll false linked.program.statements 0).1 ++ [.ret (.int 0)] } }

namespace Tree

def lower (tree : Tree) : Except LinkError C.File :=
  match Linked.ofTree tree with
  | .error fault => .error fault
  | .ok linked => .ok linked.lower

def generate (tree : Tree) : Except LinkError String :=
  match tree.lower with
  | .error fault => .error fault
  | .ok file => .ok file.render

end Tree

end ImpToC
