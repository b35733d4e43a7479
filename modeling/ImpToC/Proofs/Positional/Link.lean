import ImpToC.Linked
import ImpToC.Proofs.Positional.Check

/-! Linking a tree by position. The function nodes and the call nodes of a tree are collected
whatever stands around them, and their names, parameters and bodies taken from the children.
Where the layout has been checked, each of these is there, and the table is that of the
program which the tree encodes. -/
namespace ImpToC

def WalkError.map {ε β : Type} (f : ε → β) : WalkError ε → WalkError β
  | .fault reason => .fault (f reason)
  | .lost => .lost

namespace Positional

variable {ε α β : Type}

def lift (done : Except ε α) : Walk ε α := done.mapError .fault

theorem lift_ok (a : α) : lift (.ok a : Except ε α) = .ok a := rfl

def nameOf (tree : Tree) : Walk ε String := need tree.name?

def declaration (tree : Tree) : Walk FunctionError (Declaration Tree) := do
  let first ← need tree.children.head?
  let name ← nameOf first
  let params ← tree.params.mapM nameOf
  let body ← need tree.children.getLast?
  return ⟨name, params, body⟩

def table (tree : Tree) : Walk FunctionError (Table Tree) := do
  lift (Table.ofDeclarations (← tree.functions.mapM declaration))

def callSite (tree : Tree) : Walk FunctionError CallSite := do
  let callee ← need tree.children.head?
  return ⟨← nameOf callee, tree.children.length - 1⟩

def checkCalls (table : Table Tree) (tree : Tree) : Walk FunctionError Unit := do
  lift (table.checkCalls (← (tree.select (· == .call)).mapM callSite))

/-- The table of a tree whose layout and calls have been checked. -/
def link (tree : Tree) : Walk LinkError (Table Tree) := do
  (check tree).mapError (WalkError.map .malformedTree)
  let found ← (table tree).mapError (WalkError.map .function)
  (checkCalls found tree).mapError (WalkError.map .function)
  return found

end Positional

def Declaration.map {β γ : Type} (f : β → γ) (declaration : Declaration β) : Declaration γ :=
  ⟨declaration.name, declaration.params, f declaration.body⟩

namespace Table

variable {β γ : Type} (f : β → γ)

def map (table : Table β) : Table γ where
  declarations := table.declarations.map (Declaration.map f)
  index := table.index
  inStep name := by
    rw [List.findIdx?_map, table.inStep]
    rfl

theorem get?_map (table : Table β) (name : String) :
    (table.map f).get? name = (table.get? name).map (Declaration.map f) := by
  rw [get?, get?, map]
  cases table.index.lookup name with
  | none => rfl
  | some position => exact List.getElem?_map

theorem resolve_map (table : Table β) (name : String) (argCount : Nat) :
    (table.map f).resolve name argCount =
      (table.resolve name argCount).map (Declaration.map f) := by
  rw [resolve, resolve, get?_map]
  cases table.get? name with
  | none => rfl
  | some declaration =>
    simp only [Option.map_some, Declaration.map]
    split <;> rfl

theorem checkCalls_map (table : Table β) (sites : List CallSite) :
    (table.map f).checkCalls sites = table.checkCalls sites := by
  induction sites with
  | nil => rfl
  | cons site sites ih =>
    rw [checkCalls, checkCalls, resolve_map, ih]
    cases table.resolve site.callee site.argCount <;> rfl

theorem extend_map (table : Table β) (declaration : Declaration β) :
    (table.map f).extend (declaration.map f) = (table.extend declaration).map (map f) := by
  cases repeats : firstRepeat? [] declaration.params with
  | some param =>
    have params : firstRepeat? [] (declaration.map f).params = some param := repeats
    rw [extend_of_repeat repeats, extend_of_repeat params]
    rfl
  | none =>
    have params : firstRepeat? [] (declaration.map f).params = none := repeats
    cases found : table.index.lookup declaration.name with
    | some position =>
      have known : (table.map f).index.lookup (declaration.map f).name = some position := found
      rw [extend_of_known repeats found, extend_of_known params known]
      rfl
    | none =>
      have fresh : (table.map f).index.lookup (declaration.map f).name = none := found
      rw [extend_of_fresh repeats found, extend_of_fresh params fresh]
      simp [Except.map, map, push, Declaration.map]

theorem extendAll_map (table : Table β) (declarations : List (Declaration β)) :
    (table.map f).extendAll (declarations.map (Declaration.map f)) =
      (table.extendAll declarations).map (map f) := by
  induction declarations generalizing table with
  | nil => rfl
  | cons declaration declarations ih =>
    rw [List.map_cons, extendAll, extendAll, extend_map]
    cases table.extend declaration with
    | error fault => rfl
    | ok extended => exact ih extended

end Table

open ImpToC.Tree (functions_eq select selectList select_node select_unwanted selectList_nil
  selectList_cons
  selectList_append)

theorem Tree.selectList_params {wanted : Kind → Bool} (other : wanted .param = false)
    (params : List String) : selectList wanted (params.map param) = [] := by
  induction params with
  | nil => rfl
  | cons text texts ih => simp [param, select_node, other, ih]

def Declaration.toTree (declaration : Declaration Stmt) : Tree :=
  .function declaration.name declaration.params declaration.body.toTree

mutual

theorem Expr.functions_toTree (expr : Expr) : expr.toTree.select (· == .function) = [] := by
  match expr with
  | .num _ => rfl
  | .var _ => rfl
  | .binary op left right =>
    rw [Expr.toTree, Tree.binary, select_node, selectList_cons, selectList_cons,
      Expr.functions_toTree left, Expr.functions_toTree right]
    rfl
  | .call callee args =>
    rw [Expr.toTree, Tree.call, select_node, selectList_cons, Expr.functions_toTrees args]
    rfl

theorem Expr.functions_toTrees (args : List Expr) :
    selectList (· == .function) (Expr.toTrees args) = [] := by
  match args with
  | [] => rfl
  | arg :: args =>
    rw [Expr.toTrees, selectList_cons, Expr.functions_toTree arg, Expr.functions_toTrees args]
    rfl

end

theorem Stmt.functions_toTree (stmt : Stmt) :
    stmt.toTree.select (· == .function) = stmt.declarations.map Declaration.toTree := by
  have noneIn := Expr.functions_toTree
  induction stmt with
  | assign target value =>
    simp [Stmt.toTree, Tree.assign, Tree.ident, select_node, noneIn, Stmt.declarations]
  | print value => simp [Stmt.toTree, Tree.print, select_node, noneIn, Stmt.declarations]
  | ifThen cond body ih =>
    simp [Stmt.toTree, Tree.ifThen, select_node, noneIn, Stmt.declarations, ih]
  | ifElse cond body other ihBody ihOther =>
    simp [Stmt.toTree, Tree.ifElse, select_node, noneIn, Stmt.declarations, ihBody, ihOther]
  | loop cond body ih =>
    simp [Stmt.toTree, Tree.loop, select_node, noneIn, Stmt.declarations, ih]
  | function name params body ih =>
    simp [Stmt.toTree, Tree.function, Tree.ident, select_node, Tree.selectList_params,
      Stmt.declarations, Declaration.toTree, ih]

theorem Program.functions_toTree (program : Program) :
    program.toTree.functions = program.declarations.map Declaration.toTree := by
  rw [functions_eq]
  change program.toTree.select (· == .function) = _
  rw [Program.toTree, Tree.program, select_node, Program.declarations]
  induction program.statements with
  | nil => rfl
  | cons stmt stmts ih => simp_all [Stmt.functions_toTree]

namespace Positional

theorem mapM_encode {γ : Type} {encode : α → β} {read : β → Walk ε γ} {result : α → γ}
    (same : ∀ a, read (encode a) = .ok (result a)) (items : List α) :
    (items.map encode).mapM read = .ok (items.map result) := by
  induction items with
  | nil => rfl
  | cons item items ih =>
    rw [List.map_cons, List.mapM_cons, same, ih]
    rfl

theorem declaration_toTree (declared : Declaration Stmt) :
    declaration declared.toTree = .ok (declared.map Stmt.toTree) := by
  have name (text : String) : nameOf (.param text) = (.ok (id text) : Walk FunctionError _) := rfl
  have names := mapM_encode name declared.params
  have params : declared.toTree.params = declared.params.map Tree.param := by
    simp [Declaration.toTree, Tree.function, Tree.params, Tree.children]
  have body : declared.toTree.children.getLast? = some declared.body.toTree := by
    change (Tree.ident _ :: (_ ++ [_])).getLast? = _
    rw [← List.cons_append, List.getLast?_concat]
  rw [declaration, params, names, body, List.map_id]
  rfl

theorem table_toTree (program : Program) :
    table program.toTree =
      lift ((Table.ofDeclarations program.declarations).map (Table.map Stmt.toTree)) := by
  rw [table, Program.functions_toTree, mapM_encode declaration_toTree]
  exact congrArg lift (Table.extendAll_map Stmt.toTree .empty program.declarations)

theorem callSites_append {first second : List Tree} {front back : List CallSite}
    (inFirst : first.mapM callSite = .ok front) (inSecond : second.mapM callSite = .ok back) :
    (first ++ second).mapM callSite = .ok (front ++ back) := by
  rw [List.mapM_append, inFirst, inSecond]
  rfl

mutual

theorem callSites_expr (expr : Expr) :
    (expr.toTree.select (· == .call)).mapM callSite = .ok expr.calls := by
  match expr with
  | .num _ => rfl
  | .var _ => rfl
  | .binary op left right =>
    rw [Expr.toTree, Tree.binary, select_unwanted (by rfl), selectList_cons, selectList_cons,
      selectList_nil, List.append_nil]
    exact callSites_append (callSites_expr left) (callSites_expr right)
  | .call callee args =>
    have here : [Tree.call callee (Expr.toTrees args)].mapM callSite =
        .ok [(⟨callee, args.length⟩ : CallSite)] := by
      have count : (Expr.toTrees args).length = args.length := by
        rw [Expr.toTrees_eq_map, List.length_map]
      rw [← count]
      rfl
    rw [Expr.toTree, Tree.call, select_node]
    exact callSites_append here (callSites_exprs args)

theorem callSites_exprs (args : List Expr) :
    (selectList (· == .call) (Expr.toTrees args)).mapM callSite = .ok (Expr.callsList args) := by
  match args with
  | [] => rfl
  | arg :: args =>
    rw [Expr.toTrees, selectList_cons]
    exact callSites_append (callSites_expr arg) (callSites_exprs args)

end

theorem callSites_stmt (stmt : Stmt) :
    (stmt.toTree.select (· == .call)).mapM callSite = .ok stmt.calls := by
  induction stmt with
  | assign target value =>
    rw [Stmt.toTree, Tree.assign, select_unwanted (by rfl), selectList_cons, selectList_cons,
      selectList_nil, List.append_nil]
    exact callSites_expr value
  | print value =>
    rw [Stmt.toTree, Tree.print, select_unwanted (by rfl), selectList_cons, selectList_nil,
      List.append_nil]
    exact callSites_expr value
  | ifThen cond body ih =>
    rw [Stmt.toTree, Tree.ifThen, select_unwanted (by rfl), selectList_cons, selectList_cons,
      selectList_nil, List.append_nil]
    exact callSites_append (callSites_expr cond) ih
  | ifElse cond body other ihBody ihOther =>
    rw [Stmt.toTree, Tree.ifElse, select_unwanted (by rfl), selectList_cons, selectList_cons,
      selectList_cons, selectList_nil, List.append_nil]
    exact callSites_append (callSites_expr cond) (callSites_append ihBody ihOther)
  | loop cond body ih =>
    rw [Stmt.toTree, Tree.loop, select_unwanted (by rfl), selectList_cons, selectList_cons,
      selectList_nil, List.append_nil]
    exact callSites_append (callSites_expr cond) ih
  | function name params body ih =>
    rw [Stmt.toTree, Tree.function, select_unwanted (by rfl), selectList_cons, selectList_append,
      Tree.selectList_params rfl, selectList_cons, selectList_nil, List.append_nil]
    exact ih

theorem callSites_toTree (program : Program) :
    (program.toTree.select (· == .call)).mapM callSite = .ok program.calls := by
  rw [Program.toTree, Tree.program, select_unwanted (by rfl), Program.calls]
  induction program.statements with
  | nil => rfl
  | cons stmt stmts ih =>
    rw [List.map_cons, selectList_cons]
    exact callSites_append (callSites_stmt stmt) ih

theorem checkCalls_toTree (table : Table Stmt) (program : Program) :
    checkCalls (table.map Stmt.toTree) program.toTree = lift (table.checkCalls program.calls) := by
  rw [checkCalls, callSites_toTree]
  exact congrArg lift (Table.checkCalls_map Stmt.toTree table program.calls)

/-- Linking by position gives the table of the linked program, and is never lost. -/
theorem link_eq (tree : Tree) :
    link tree = lift ((Linked.ofTree tree).map fun linked => linked.table.map Stmt.toTree) := by
  rw [link, check_eq, Linked.ofTree]
  cases read : Program.ofTree tree with
  | error fault => rfl
  | ok program =>
    rw [← (Program.ofTree_eq_ok read).1, table_toTree]
    dsimp only
    rw [Linked.ofProgram]
    cases Table.ofDeclarations program.declarations with
    | error fault => rfl
    | ok table =>
      change ((checkCalls (table.map Stmt.toTree) program.toTree).mapError _ >>= _) = _
      rw [checkCalls_toTree]
      cases checked : table.checkCalls program.calls <;> simp only [checked] <;> rfl

end Positional

end ImpToC
