import ImpToC.Syntax

/-! Functions. A declaration may stand anywhere, also inside another one, and is known
in the whole program; so the table of a program holds every declaration in it, in the
order they are written. -/
namespace ImpToC

structure Declaration (β : Type) where
  name : String
  params : List String
  body : β
  deriving Repr

inductive FunctionError where
  | duplicate (name : String)
  | duplicateParameter (function param : String)
  | unknown (name : String)
  | arityMismatch (function : String) (expected found : Nat)
  deriving DecidableEq, Repr

def FunctionError.message : FunctionError → String
  | duplicate name => "function " ++ name ++ " is declared more than once"
  | duplicateParameter function param =>
    "function " ++ function ++ " declares parameter " ++ param ++ " more than once"
  | unknown name => "call to undeclared function " ++ name
  | arityMismatch function expected found =>
    "function " ++ function ++ " takes " ++ toString expected ++ " argument(s) but " ++
      toString found ++ " were supplied"

def firstRepeat? (seen : List String) : List String → Option String
  | [] => none
  | name :: names => if name ∈ seen then some name else firstRepeat? (name :: seen) names

structure Table (β : Type) where
  declarations : List (Declaration β)
  index : List (String × Nat)
  inStep : ∀ name, index.lookup name =
    declarations.findIdx? fun declaration => declaration.name == name

namespace Table

variable {β : Type}

def empty : Table β := ⟨[], [], fun _ => rfl⟩

def get? (table : Table β) (name : String) : Option (Declaration β) :=
  (table.index.lookup name).bind fun position => table.declarations[position]?

theorem get?_eq_find? (table : Table β) (name : String) :
    table.get? name = table.declarations.find? fun declaration => declaration.name == name := by
  rw [get?, table.inStep, List.find?_eq_bind_findIdx?_getElem?]

def push (table : Table β) (declaration : Declaration β)
    (fresh : table.index.lookup declaration.name = none) : Table β where
  declarations := table.declarations ++ [declaration]
  index := (declaration.name, table.declarations.length) :: table.index
  inStep name := by
    rw [List.lookup_cons, List.findIdx?_append, ← table.inStep]
    by_cases same : name = declaration.name
    · simp [same, fresh]
    · simp [beq_false_of_ne same, Ne.symm same]

/-- One more declaration, after those already there. Its parameters have to be distinct
and its name new, and the parameters are looked at first. -/
def extend (table : Table β) (declaration : Declaration β) : Except FunctionError (Table β) :=
  match firstRepeat? [] declaration.params with
  | some param => .error (.duplicateParameter declaration.name param)
  | none =>
    match fresh : table.index.lookup declaration.name with
    | some _ => .error (.duplicate declaration.name)
    | none => .ok (table.push declaration fresh)

section

variable {table : Table β} {declaration : Declaration β}

theorem extend_of_repeat {param : String}
    (repeated : firstRepeat? [] declaration.params = some param) :
    table.extend declaration = .error (.duplicateParameter declaration.name param) := by
  rw [extend, repeated]

theorem extend_of_known {position : Nat} (distinct : firstRepeat? [] declaration.params = none)
    (known : table.index.lookup declaration.name = some position) :
    table.extend declaration = .error (.duplicate declaration.name) := by
  rw [extend, distinct]
  dsimp only
  split
  · rfl
  · rename_i fresh
    rw [fresh] at known
    cases known

theorem extend_of_fresh (distinct : firstRepeat? [] declaration.params = none)
    (fresh : table.index.lookup declaration.name = none) :
    table.extend declaration = .ok (table.push declaration fresh) := by
  rw [extend, distinct]
  dsimp only
  split
  · rename_i known
    rw [fresh] at known
    cases known
  · rfl

end

def extendAll (table : Table β) : List (Declaration β) → Except FunctionError (Table β)
  | [] => .ok table
  | declaration :: declarations =>
    match table.extend declaration with
    | .error fault => .error fault
    | .ok table => table.extendAll declarations

def ofDeclarations (declarations : List (Declaration β)) : Except FunctionError (Table β) :=
  empty.extendAll declarations

def resolve (table : Table β) (name : String) (argCount : Nat) :
    Except FunctionError (Declaration β) :=
  match table.get? name with
  | none => .error (.unknown name)
  | some declaration =>
    if declaration.params.length = argCount then .ok declaration
    else .error (.arityMismatch name declaration.params.length argCount)

def checkCalls (table : Table β) : List CallSite → Except FunctionError Unit
  | [] => .ok ()
  | site :: sites =>
    match table.resolve site.callee site.argCount with
    | .error fault => .error fault
    | .ok _ => table.checkCalls sites

end Table

namespace Tree

def nameOrEmpty (tree : Tree) : String := tree.name?.getD ""

/-- A function node as a declaration: its first child gives the name and its last the
body, so without children it declares nothing. -/
def declaration? (tree : Tree) : Option (Declaration Tree) :=
  match tree.children.head?, tree.children.getLast? with
  | some first, some last =>
    some ⟨first.nameOrEmpty, tree.params.map nameOrEmpty, last⟩
  | _, _ => none

/-- The call that a call node makes: the first child gives the name and the others are the
arguments. -/
def callSite (tree : Tree) : CallSite :=
  ⟨(tree.children.head?.map nameOrEmpty).getD "", tree.children.length - 1⟩

def calls (tree : Tree) : List CallSite :=
  (tree.preorder.filter fun node => node.kind == .call).map callSite

end Tree

inductive TableError where
  | function (fault : FunctionError)
  | emptyDeclaration
  deriving DecidableEq, Repr

namespace Table

def extendNodes (table : Table Tree) : List Tree → Except TableError (Table Tree)
  | [] => .ok table
  | node :: nodes =>
    match node.declaration? with
    | none => .error .emptyDeclaration
    | some declaration =>
      match table.extend declaration with
      | .error fault => .error (.function fault)
      | .ok table => table.extendNodes nodes

def ofTree (tree : Tree) : Except TableError (Table Tree) :=
  empty.extendNodes tree.functions

variable {β : Type}

def checkNode (table : Table β) (tree : Tree) : Except FunctionError Unit :=
  if tree.kind = .call then
    match table.resolve tree.callSite.callee tree.callSite.argCount with
    | .error fault => .error fault
    | .ok _ => .ok ()
  else .ok ()

def checkPending (table : Table β) : List Tree → Except FunctionError Unit
  | [] => .ok ()
  | .node kind value? children :: pending =>
    match table.checkNode (.node kind value? children) with
    | .error fault => .error fault
    | .ok () => table.checkPending (children ++ pending)
termination_by pending => (Tree.preorderList pending).length
decreasing_by
  rw [Tree.preorderList_append, Tree.preorderList, Tree.preorder]
  simp

/-- Passes if every call in a tree resolves, wherever it stands; otherwise the fault of the first
that does not. -/
def checkTree (table : Table β) (tree : Tree) : Except FunctionError Unit :=
  table.checkPending [tree]

end Table

def Stmt.declarations : Stmt → List (Declaration Stmt)
  | assign _ _ => []
  | print _ => []
  | ifThen _ body => body.declarations
  | ifElse _ body other => body.declarations ++ other.declarations
  | loop _ body => body.declarations
  | function name params body => ⟨name, params, body⟩ :: body.declarations

def Program.declarations (program : Program) : List (Declaration Stmt) :=
  program.statements.flatMap Stmt.declarations

end ImpToC
