import ImpToC.Proofs.Linking
import ImpToC.Proofs.Positional.Link

/-! Lowering a tree by position. Code is made from the nodes themselves, with the operands and
branches taken from the children and the names, numerals and operators from the values. On the
encoding of a program this is the code of the program. -/
namespace ImpToC.Positional

variable {ε : Type}

def operator (tree : Tree) : Walk ε Operator := do
  need (← need tree.operator?).operator?

mutual

def lowerExpr (tree : Tree) (next : Nat) : Walk ε (List C.Stmt × C.Expr × Nat) :=
  match tree with
  | .node .num value? children => do
    return ([], .literal (← need (Tree.node .num value? children).number?), next)
  | .node .ident value? children => do
    let name ← nameOf (.node .ident value? children)
    return ([Lower.temp next (.ident (Lower.variableName name))],
      .ident (Lower.tempName next), next + 1)
  | .node .binary value? children =>
    match children with
    | left :: right :: _ => do
      let (leftCode, leftValue, next) ← lowerExpr left next
      let (rightCode, rightValue, next) ← lowerExpr right next
      let op ← operator (.node .binary value? children)
      return (leftCode ++ rightCode ++ [Lower.temp next (Lower.operation op leftValue rightValue)],
        .ident (Lower.tempName next), next + 1)
    | _ => .error .lost
  | .node .call _ children =>
    match children with
    | callee :: args => do
      let name ← nameOf callee
      let (code, values, next) ← lowerExprs args next
      return (code ++ [Lower.temp next (.call (Lower.functionName name) values)],
        .ident (Lower.tempName next), next + 1)
    | [] => .error .lost
  | _ => .error .lost

def lowerExprs (trees : List Tree) (next : Nat) : Walk ε (List C.Stmt × List C.Expr × Nat) :=
  match trees with
  | [] => .ok ([], [], next)
  | tree :: trees => do
    let (code, value, next) ← lowerExpr tree next
    let (restCode, values, next) ← lowerExprs trees next
    return (code ++ restCode, value :: values, next)

end

def lowerStmt (keep : Bool) (tree : Tree) (next : Nat) : Walk ε (List C.Stmt × Nat) :=
  match tree with
  | .node .assign _ children =>
    match children with
    | target :: value :: _ => do
      let target := Lower.variableName (← nameOf target)
      let (code, value, next) ← lowerExpr value next
      return (code ++ [.assign target value] ++
        (if keep then [.assign Lower.resultName (.ident target)] else []), next)
    | _ => .error .lost
  | .node .print _ children =>
    match children with
    | value :: _ => do
      let (code, value, next) ← lowerExpr value next
      let printed := C.Expr.call "rt_print" [value]
      return (code ++ [if keep then .assign Lower.resultName printed else .expr printed], next)
    | [] => .error .lost
  | .node .ifElse _ children =>
    match children with
    | [cond, body] => do
      let (code, value, next) ← lowerExpr cond next
      let (body, next) ← lowerStmt keep body next
      return (code ++ [.ifThen value body], next)
    | cond :: body :: other :: _ => do
      let (code, value, next) ← lowerExpr cond next
      let (body, next) ← lowerStmt keep body next
      let (other, next) ← lowerStmt keep other next
      return (code ++ [.ifElse value body other], next)
    | _ => .error .lost
  | .node .loop _ children =>
    match children with
    | cond :: body :: _ => do
      let (code, value, next) ← lowerExpr cond next
      let (body, next) ← lowerStmt keep body next
      return ([.forever (code ++ [.breakUnless value] ++ body)], next)
    | _ => .error .lost
  | .node .function _ _ => .ok ([], next)
  | _ => .error .lost

def lowerStmts (keep : Bool) (trees : List Tree) (next : Nat) : Walk ε (List C.Stmt × Nat) :=
  match trees with
  | [] => .ok ([], next)
  | tree :: trees => do
    let (code, next) ← lowerStmt keep tree next
    let (rest, next) ← lowerStmts keep trees next
    return (code ++ rest, next)

def lowerDeclaration (declared : Declaration Tree) : Walk ε C.Function := do
  let (code, _) ← lowerStmt true declared.body 0
  return { name := Lower.functionName declared.name,
           params := declared.params.map Lower.variableName,
           body :=
             [.declare .longLong Lower.resultName (.int 0)] ++ code ++
               [.ret (.ident Lower.resultName)] }

mutual

/-- The identifiers in a tree, apart from those that name a function. -/
def vars : Tree → List String
  | .node .ident value? children => (Tree.node .ident value? children).name?.toList
  | .node .call _ (_ :: args) => varsList args
  | .node .function _ (_ :: parts) => varsList parts
  | .node _ _ children => varsList children

def varsList : List Tree → List String
  | [] => []
  | tree :: trees => vars tree ++ varsList trees

end

def generate (tree : Tree) : Walk LinkError String := do
  let table ← link tree
  let functions ← table.declarations.mapM lowerDeclaration
  let (code, _) ← lowerStmts false tree.children 0
  let file : C.File :=
    { headers := C.Prelude.headers,
      prelude := C.Prelude.functions,
      globals :=
        ((vars tree).eraseDups.mergeSort fun a b => decide (a ≤ b)).map Lower.variableName,
      functions,
      main := { returns := .int, name := "main", params := [], body := code ++ [.ret (.int 0)] } }
  return file.render

theorem ok_bind {α β : Type} (a : α) (next : α → Walk ε β) :
    ((.ok a : Walk ε α) >>= next) = next a := rfl

theorem operator_binary (op : Operator) (children : List Tree) :
    operator (.node .binary (some (.operator op.kind)) children) = (.ok op : Walk ε Operator) := by
  change need op.kind.operator? = _
  rw [Operator.operator?_kind]
  rfl

mutual

theorem lowerExpr_toTree (expr : Expr) (next : Nat) :
    lowerExpr expr.toTree next = (.ok (expr.lower next) : Walk ε _) := by
  match expr with
  | .num digits => rfl
  | .var name => rfl
  | .binary op left right =>
    rw [Expr.toTree, Tree.binary, lowerExpr]
    simp only [lowerExpr_toTree left, lowerExpr_toTree right, operator_binary, ok_bind]
    rfl
  | .call callee args =>
    rw [Expr.toTree, Tree.call, lowerExpr, lowerExprs_toTrees args]
    rfl

theorem lowerExprs_toTrees (args : List Expr) (next : Nat) :
    lowerExprs (Expr.toTrees args) next = (.ok (Expr.lowerAll args next) : Walk ε _) := by
  match args with
  | [] => rfl
  | arg :: args =>
    rw [Expr.toTrees, lowerExprs]
    simp only [lowerExpr_toTree arg, lowerExprs_toTrees args, ok_bind]
    rfl

end

theorem lowerStmt_toTree (keep : Bool) (stmt : Stmt) (next : Nat) :
    lowerStmt keep stmt.toTree next = (.ok (stmt.lower keep next) : Walk ε _) := by
  induction stmt generalizing next with
  | assign target value =>
    rw [Stmt.toTree, Tree.assign, lowerStmt, lowerExpr_toTree]
    rfl
  | print value =>
    rw [Stmt.toTree, Tree.print, lowerStmt, lowerExpr_toTree]
    rfl
  | ifThen cond body ih =>
    rw [Stmt.toTree, Tree.ifThen, lowerStmt]
    simp only [lowerExpr_toTree, ih, ok_bind]
    rfl
  | ifElse cond body other ihBody ihOther =>
    rw [Stmt.toTree, Tree.ifElse, lowerStmt]
    simp only [lowerExpr_toTree, ihBody, ihOther, ok_bind]
    rfl
  | loop cond body ih =>
    rw [Stmt.toTree, Tree.loop, lowerStmt]
    simp only [lowerExpr_toTree, ih, ok_bind]
    rfl
  | function name params body ih => rfl

theorem lowerStmts_toTrees (keep : Bool) (stmts : List Stmt) (next : Nat) :
    lowerStmts keep (stmts.map Stmt.toTree) next =
      (.ok (Stmt.lowerAll keep stmts next) : Walk ε _) := by
  induction stmts generalizing next with
  | nil => rfl
  | cons stmt stmts ih =>
    rw [List.map_cons, lowerStmts]
    simp only [lowerStmt_toTree, ih, ok_bind]
    rfl

theorem lowerDeclaration_toTree (declared : Declaration Stmt) :
    lowerDeclaration (declared.map Stmt.toTree) = (.ok declared.lower : Walk ε C.Function) := by
  rw [lowerDeclaration, Declaration.map, lowerStmt_toTree]
  rfl

theorem vars_node {kind : Tree.Kind} {value? : Option Tree.Value} {children : List Tree}
    (plain : kind ≠ .ident ∧ kind ≠ .call ∧ kind ≠ .function) :
    vars (.node kind value? children) = varsList children := by
  cases kind with
  | ident => exact absurd rfl plain.1
  | call => exact absurd rfl plain.2.1
  | function => exact absurd rfl plain.2.2
  | _ => rfl

theorem vars_ident (name : String) : vars (.ident name) = [name] := rfl

mutual

theorem vars_expr (expr : Expr) : vars expr.toTree = expr.vars := by
  match expr with
  | .num _ => rfl
  | .var _ => rfl
  | .binary op left right =>
    simp [Expr.toTree, Tree.binary, vars_node, varsList, vars_expr left, vars_expr right, Expr.vars]
  | .call callee args =>
    rw [Expr.toTree, Tree.call, vars, varsList_exprs args, Expr.vars]

theorem varsList_exprs (args : List Expr) : varsList (Expr.toTrees args) = Expr.varsList args := by
  match args with
  | [] => rfl
  | arg :: args => rw [Expr.toTrees, varsList, vars_expr arg, varsList_exprs args, Expr.varsList]

end

theorem varsList_append (first second : List Tree) :
    varsList (first ++ second) = varsList first ++ varsList second := by
  induction first with
  | nil => rfl
  | cons tree trees ih => rw [List.cons_append, varsList, ih, varsList, List.append_assoc]

theorem varsList_params (params : List String) : varsList (params.map Tree.param) = [] := by
  induction params with
  | nil => rfl
  | cons text texts ih => exact ih

theorem vars_stmt (stmt : Stmt) : vars stmt.toTree = stmt.vars := by
  induction stmt with
  | assign target value =>
    simp [Stmt.toTree, Tree.assign, vars_node, varsList, vars_ident, vars_expr, Stmt.vars]
  | print value => simp [Stmt.toTree, Tree.print, vars_node, varsList, vars_expr, Stmt.vars]
  | ifThen cond body ih =>
    simp [Stmt.toTree, Tree.ifThen, vars_node, varsList, vars_expr, Stmt.vars, ih]
  | ifElse cond body other ihBody ihOther =>
    simp [Stmt.toTree, Tree.ifElse, vars_node, varsList, vars_expr, Stmt.vars, ihBody, ihOther]
  | loop cond body ih =>
    simp [Stmt.toTree, Tree.loop, vars_node, varsList, vars_expr, Stmt.vars, ih]
  | function name params body ih =>
    rw [Stmt.toTree, Tree.function, vars, varsList_append, varsList_params, varsList, varsList, ih,
      List.append_nil, List.nil_append, Stmt.vars]

theorem vars_toTree (program : Program) : vars program.toTree = program.vars := by
  rw [Program.toTree, Tree.program, vars_node (by decide), Program.vars]
  induction program.statements with
  | nil => rfl
  | cons stmt stmts ih => rw [List.map_cons, varsList, vars_stmt, ih, List.flatMap_cons]

/-- Generating code by position gives the same text, and is never lost. -/
theorem generate_eq (tree : Tree) : generate tree = lift tree.generate := by
  rw [generate, link_eq, Tree.generate, Tree.lower]
  cases link : Linked.ofTree tree with
  | error fault => rfl
  | ok linked =>
    obtain ⟨encoded, sound⟩ := Linked.ofTree_eq_ok link
    have functions : (linked.table.map Stmt.toTree).declarations.mapM lowerDeclaration =
        (.ok (linked.table.declarations.map Declaration.lower) : Walk LinkError _) :=
      mapM_encode lowerDeclaration_toTree linked.table.declarations
    have main : lowerStmts false tree.children 0 =
        (.ok (Stmt.lowerAll false linked.program.statements 0) : Walk LinkError _) := by
      rw [← encoded]
      exact lowerStmts_toTrees false linked.program.statements 0
    have globals : vars tree = linked.program.vars := by rw [← encoded, vars_toTree]
    change ((linked.table.map Stmt.toTree).declarations.mapM lowerDeclaration >>= _) = _
    rw [functions, ok_bind, main, globals]
    rfl

example : lowerStmt false (.node .assign none [.ident "x"]) 0 = (.error .lost : Walk LinkError _) :=
  rfl

end ImpToC.Positional
