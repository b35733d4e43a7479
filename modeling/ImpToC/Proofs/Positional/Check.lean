import ImpToC.Proofs.Encoding

/-! Walks that take the parts of a tree by position. The kind of a node tells a walk which
children and which value to take; where the node has not got them, or no node of that kind
belongs there, the walk is lost. The first walk checks the layout that the later ones rely on.
It is itself never lost: it agrees with the reader of trees, which takes nothing for granted. -/
namespace ImpToC

/-- How a walk ends early: the tree is at fault, or the walk is lost in it. -/
inductive WalkError (ε : Type) where
  | fault (reason : ε)
  | lost
  deriving DecidableEq, Repr

abbrev Walk (ε α : Type) := Except (WalkError ε) α

namespace Positional

variable {ε α β : Type}

/-- A part that the walk cannot go on without. -/
def need : Option α → Walk ε α
  | some a => .ok a
  | none => .error .lost

def expectNoValue (kind : Tree.Kind) (value? : Option Tree.Value) : Walk ShapeError Unit :=
  match value? with
  | none => .ok ()
  | some _ => .error (.fault (.unexpectedValue kind))

def expectOperator (value? : Option Tree.Value) : Walk ShapeError Unit :=
  match value? with
  | some (.operator found) =>
    if found.operator?.isSome then .ok () else .error (.fault (.invalidOperator found))
  | _ => .error (.fault (.missingValue .binary "operator"))

def expectCount (kind : Tree.Kind) (children : List Tree) (fits : Bool) (expected : String) :
    Walk ShapeError Unit :=
  if fits then .ok () else .error (.fault (.childCount kind expected children.length))

def expectKind (parent : Tree.Kind) (index : Nat) (wanted : Tree.Kind) (tree : Tree) :
    Walk ShapeError Unit :=
  if tree.kind = wanted then .ok ()
  else .error (.fault (.childKind parent index wanted.name tree.kind))

def checkLeaf : Tree → Walk ShapeError Unit
  | .node kind value? children => do
    expectCount kind children (children.length == 0) "0"
    match kind, value? with
    | .num, some (.number digits) =>
      if Decimal.isCanonical digits then .ok () else .error (.fault (.invalidNumber digits))
    | .ident, some (.name text) =>
      if Token.isName text then .ok () else .error (.fault (.invalidName .ident text))
    | .param, some (.name text) =>
      if Token.isName text then .ok () else .error (.fault (.invalidName .param text))
    | .num, _ => .error (.fault (.missingValue .num "number"))
    | kind, _ => .error (.fault (.missingValue kind "name"))

mutual

def checkExpr (parent : Tree.Kind) (index : Nat) : Tree → Walk ShapeError Unit
  | .node kind value? children =>
    if kind.isExpression then
      match kind with
      | .num => checkLeaf (.node .num value? children)
      | .ident => checkLeaf (.node .ident value? children)
      | .binary => do
        expectOperator value?
        expectCount .binary children (children.length == 2) "2"
        match children with
        | left :: right :: _ =>
          checkExpr .binary 0 left
          checkExpr .binary 1 right
        | _ => .error .lost
      | .call => do
        expectNoValue .call value?
        expectCount .call children (children.length != 0) "at least 1"
        match children with
        | callee :: args =>
          expectKind .call 0 .ident callee
          checkLeaf callee
          checkArgs 1 args
        | [] => .error .lost
      | _ => .error .lost
    else .error (.fault (.childKind parent index "an expression" kind))

def checkArgs (index : Nat) : List Tree → Walk ShapeError Unit
  | [] => .ok ()
  | arg :: args => do
    checkExpr .call index arg
    checkArgs (index + 1) args

end

mutual

def checkStmt (parent : Tree.Kind) (index : Nat) : Tree → Walk ShapeError Unit
  | .node kind value? children =>
    if kind.isStatement then do
      expectNoValue kind value?
      match kind with
      | .assign =>
        expectCount .assign children (children.length == 2) "2"
        match children with
        | target :: value :: _ =>
          expectKind .assign 0 .ident target
          checkLeaf target
          checkExpr .assign 1 value
        | _ => .error .lost
      | .ifElse =>
        expectCount .ifElse children (children.length == 2 || children.length == 3) "2 or 3"
        match children with
        | cond :: branches =>
          checkExpr .ifElse 0 cond
          checkStmts .ifElse 1 branches
        | [] => .error .lost
      | .loop =>
        expectCount .loop children (children.length == 2) "2"
        match children with
        | cond :: body :: _ =>
          checkExpr .loop 0 cond
          checkStmt .loop 1 body
        | _ => .error .lost
      | .print =>
        expectCount .print children (children.length == 1) "1"
        match children with
        | value :: _ => checkExpr .print 0 value
        | [] => .error .lost
      | .function =>
        expectCount .function children (2 ≤ children.length) "at least 2"
        match children with
        | name :: parts =>
          expectKind .function 0 .ident name
          checkLeaf name
          checkParts 1 parts
        | [] => .error .lost
      | _ => .error .lost
    else .error (.fault (.childKind parent index "a statement" kind))

def checkStmts (parent : Tree.Kind) (index : Nat) : List Tree → Walk ShapeError Unit
  | [] => .ok ()
  | stmt :: stmts => do
    checkStmt parent index stmt
    checkStmts parent (index + 1) stmts

/-- The parameters of a declaration and, as the last of its children, the body. -/
def checkParts (index : Nat) : List Tree → Walk ShapeError Unit
  | [] => .error .lost
  | [body] => checkStmt .function index body
  | param :: parts => do
    expectKind .function index .param param
    checkLeaf param
    checkParts (index + 1) parts

end

def check (tree : Tree) : Walk ShapeError Unit :=
  if tree.kind = .program then do
    expectNoValue .program tree.value?
    checkStmts .program 0 tree.children
  else .error (.fault (.notAProgram tree.kind))

def judge (read : Except ε α) : Walk ε Unit :=
  match read with
  | .ok _ => .ok ()
  | .error reason => .error (.fault reason)

theorem judge_bind {first : Except ε α} {next : α → Except ε β} {rest : Walk ε Unit}
    (same : ∀ a, rest = judge (next a)) :
    (judge first >>= fun _ => rest) = judge (first >>= next) := by
  cases first with
  | error reason => rfl
  | ok a => exact same a

theorem judge_map {first : Except ε α} {f : α → β} :
    judge first = judge (first >>= fun a => pure (f a)) := by
  cases first <;> rfl

theorem expectNoValue_eq (kind : Tree.Kind) (value? : Option Tree.Value) :
    expectNoValue kind value? = judge (Tree.noValue kind value?) := by
  cases value? <;> rfl

theorem checkLeaf_num (value? : Option Tree.Value) (children : List Tree) :
    checkLeaf (.node .num value? children) = judge (Tree.leafNumber value? children) := by
  match children, value? with
  | _ :: _, _ => rfl
  | [], none | [], some (.name _) | [], some (.operator _) => rfl
  | [], some (.number digits) =>
    simp only [checkLeaf, Tree.leafNumber, expectCount, List.length_nil, beq_self_eq_true, if_true]
    cases Decimal.isCanonical digits <;> rfl

theorem checkLeaf_name {kind : Tree.Kind} (isName : kind = .ident ∨ kind = .param)
    (value? : Option Tree.Value) (children : List Tree) :
    checkLeaf (.node kind value? children) = judge (Tree.leafName kind value? children) := by
  rcases isName with rfl | rfl <;>
  match children, value? with
  | _ :: _, _ => rfl
  | [], none | [], some (.number _) | [], some (.operator _) => rfl
  | [], some (.name text) =>
    simp only [checkLeaf, Tree.leafName, expectCount, List.length_nil, beq_self_eq_true, if_true]
    cases Token.isName text <;> rfl

theorem checkName_bind {parent : Tree.Kind} {index : Nat} {wanted : Tree.Kind} {tree : Tree}
    {next : String → Except ShapeError β} {rest : Walk ShapeError Unit}
    (isName : wanted = .ident ∨ wanted = .param) (same : ∀ text, rest = judge (next text)) :
    (do
      expectKind parent index wanted tree
      checkLeaf tree
      rest) = judge (Tree.childName parent index wanted tree >>= next) := by
  obtain ⟨kind, value?, children⟩ := tree
  rw [← judge_bind same, Tree.childName, expectKind, Tree.kind]
  by_cases isKind : kind = wanted
  · subst isKind
    rw [if_pos rfl, if_pos rfl, checkLeaf_name isName]
    rfl
  · rw [if_neg isKind, if_neg isKind]
    rfl

/-- The operator is looked at before the children are, however many there are. -/
theorem checkExpr_binary (parent : Tree.Kind) (index : Nat) (value? : Option Tree.Value)
    (children : List Tree) :
    checkExpr parent index (.node .binary value? children) = (do
      expectOperator value?
      expectCount .binary children (children.length == 2) "2"
      match children with
      | left :: right :: _ =>
        checkExpr .binary 0 left
        checkExpr .binary 1 right
      | _ => .error .lost) := by
  match children with
  | [] => rfl
  | [_] => rfl
  | _ :: _ :: _ => rfl

mutual

theorem checkExpr_eq (parent : Tree.Kind) (index : Nat) (tree : Tree) :
    checkExpr parent index tree = judge (Expr.ofTree parent index tree) := by
  match tree with
  | .node .num value? children =>
    rw [checkExpr, Expr.ofTree, ← judge_map]
    exact checkLeaf_num value? children
  | .node .ident value? children =>
    rw [checkExpr, Expr.ofTree, ← judge_map]
    exact checkLeaf_name (.inl rfl) value? children
  | .node .binary none children
  | .node .binary (some (.name _)) children
  | .node .binary (some (.number _)) children =>
    rw [checkExpr_binary, Expr.ofTree]
    · rfl
    · nofun
  | .node .binary (some (.operator found)) children =>
    rw [checkExpr_binary, expectOperator]
    cases stands : found.operator? with
    | none =>
      simp only [Expr.ofTree, stands]
      rfl
    | some op =>
      match children with
      | []
      | [_]
      | _ :: _ :: _ :: _ =>
        simp only [Expr.ofTree, stands]
        rfl
      | [left, right] =>
        simp only [Expr.ofTree, stands]
        rw [checkExpr_eq .binary 0 left, checkExpr_eq .binary 1 right]
        exact judge_bind fun _ => judge_map
  | .node .call (some _) _ => rfl
  | .node .call none [] => rfl
  | .node .call none (callee :: args) =>
    rw [checkExpr, Expr.ofTree]
    refine checkName_bind (.inl rfl) fun text => ?_
    rw [← judge_map]
    exact checkArgs_eq 1 args
  | .node .program _ _ | .node .assign _ _ | .node .ifElse _ _ | .node .loop _ _
  | .node .print _ _ | .node .function _ _ | .node .param _ _ => rfl

theorem checkArgs_eq (index : Nat) (trees : List Tree) :
    checkArgs index trees = judge (Expr.ofTrees index trees) := by
  match trees with
  | [] => rfl
  | tree :: trees =>
    rw [checkArgs, Expr.ofTrees, checkExpr_eq .call index tree, checkArgs_eq (index + 1) trees]
    exact judge_bind fun _ => judge_map

end

mutual

theorem checkStmt_eq (parent : Tree.Kind) (index : Nat) (tree : Tree) :
    checkStmt parent index tree = judge (Stmt.ofTree parent index tree) := by
  match tree with
  | .node .assign (some _) _ | .node .assign none [] | .node .assign none [_]
  | .node .assign none (_ :: _ :: _ :: _) => rfl
  | .node .assign none [target, value] =>
    rw [checkStmt, Stmt.ofTree, checkExpr_eq]
    exact checkName_bind (.inl rfl) fun _ => judge_map
  | .node .ifElse none [] | .node .ifElse none [_]
  | .node .ifElse none (_ :: _ :: _ :: _ :: _) => rfl
  | .node .ifElse none [cond, body] =>
    rw [checkStmt, Stmt.ofTree, checkExpr_eq, checkStmts, checkStmt_eq .ifElse 1 body]
    exact judge_bind fun _ => judge_bind fun _ => rfl
  | .node .ifElse none [cond, body, other] =>
    rw [checkStmt, Stmt.ofTree, checkExpr_eq, checkStmts, checkStmts, checkStmt_eq .ifElse 1 body,
      checkStmt_eq .ifElse 2 other]
    exact judge_bind fun _ => judge_bind fun _ => judge_bind fun _ => rfl
  | .node .ifElse (some _) _ | .node .loop (some _) _ =>
    -- The equations of these two ask for the children, which do not matter here.
    rw [checkStmt.eq_def, Stmt.ofTree.eq_def]
    rfl
  | .node .loop none [] | .node .loop none [_] | .node .loop none (_ :: _ :: _ :: _) => rfl
  | .node .loop none [cond, body] =>
    rw [checkStmt, Stmt.ofTree, checkExpr_eq, checkStmt_eq .loop 1 body]
    exact judge_bind fun _ => judge_map
  | .node .print (some _) _ | .node .print none [] | .node .print none (_ :: _ :: _) => rfl
  | .node .print none [value] =>
    rw [checkStmt, Stmt.ofTree, checkExpr_eq]
    exact judge_map
  | .node .function (some _) _ | .node .function none [] | .node .function none [_] => rfl
  | .node .function none (name :: part :: parts) =>
    rw [checkStmt, Stmt.ofTree, checkParts_eq 1 (part :: parts) nofun]
    exact checkName_bind (.inl rfl) fun _ => judge_map
  | .node .program _ _ | .node .param _ _ | .node .binary _ _ | .node .num _ _
  | .node .ident _ _ | .node .call _ _ => rfl

theorem checkParts_eq (index : Nat) (parts : List Tree) (some : parts ≠ []) :
    checkParts index parts = judge (Stmt.ofParts index parts) := by
  match parts with
  | [] => exact absurd rfl some
  | [body] =>
    rw [checkParts, Stmt.ofParts, checkStmt_eq .function index body]
    exact judge_map
  | param :: next :: parts =>
    rw [checkParts, Stmt.ofParts, checkParts_eq (index + 1) (next :: parts) nofun]
    · exact checkName_bind (.inr rfl) fun _ => judge_map
    · nofun
    · nofun

end

theorem checkStmts_eq (index : Nat) (trees : List Tree) :
    checkStmts .program index trees = judge (Program.ofStatements index trees) := by
  induction trees generalizing index with
  | nil => rfl
  | cons tree trees ih =>
    rw [checkStmts, Program.ofStatements, checkStmt_eq, ih]
    exact judge_bind fun _ => judge_map

theorem check_eq (tree : Tree) : check tree = judge (Program.ofTree tree) := by
  rw [check, Program.ofTree]
  split
  · rw [expectNoValue_eq, checkStmts_eq]
    exact judge_bind fun _ => judge_map
  · rfl

end Positional

end ImpToC
