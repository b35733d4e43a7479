import ImpToC.Token

/-! Labelled trees: the exchange form of programs. A node has a kind, may carry a value
and has any number of children. Nothing here asks that a tree makes sense as a program;
`Program.ofTree` decides that. -/
namespace ImpToC

namespace Tree

inductive Kind where
  | program | assign | ifElse | loop | print | function | param | binary | num | ident | call
  deriving DecidableEq, Repr

namespace Kind

def name : Kind → String
  | program => "PROGRAM"
  | assign => "ASSIGN"
  | ifElse => "IF"
  | loop => "WHILE"
  | print => "PRINT"
  | function => "FUNCTION"
  | param => "PARAM"
  | binary => "BIN_OP"
  | num => "NUM"
  | ident => "ID"
  | call => "CALL"

def all : List Kind :=
  [program, assign, ifElse, loop, print, function, param, binary, num, ident, call]

theorem mem_all (kind : Kind) : kind ∈ all := by
  cases kind <;> decide

def ofName? (text : String) : Option Kind :=
  all.find? fun kind => kind.name == text

def isStatement : Kind → Bool
  | assign | ifElse | loop | print | function => true
  | _ => false

def isExpression : Kind → Bool
  | binary | num | ident | call => true
  | _ => false

end Kind

inductive Value where
  | name (text : String)
  | number (digits : String)
  | operator (kind : Token.Kind)
  deriving DecidableEq, Repr

def Value.render : Value → String
  | name text => text
  | number digits => digits
  | operator kind => kind.name

end Tree

inductive Tree where
  | node (kind : Tree.Kind) (value? : Option Tree.Value) (children : List Tree)
  deriving Repr

namespace Tree

instance : Inhabited Tree := ⟨.node .program none []⟩

def kind : Tree → Kind
  | node kind _ _ => kind

def value? : Tree → Option Value
  | node _ value? _ => value?

def children : Tree → List Tree
  | node _ _ children => children

mutual

def decEq : (a b : Tree) → Decidable (a = b)
  | node kindA valueA childrenA, node kindB valueB childrenB =>
    if same : kindA = kindB ∧ valueA = valueB then
      match decEqList childrenA childrenB with
      | isTrue equal => isTrue (by rw [same.1, same.2, equal])
      | isFalse different => isFalse (by
          intro equal
          injection equal with _ _ children
          exact different children)
    else isFalse (by
      intro equal
      injection equal with kinds values
      exact same ⟨kinds, values⟩)

def decEqList : (as bs : List Tree) → Decidable (as = bs)
  | [], [] => isTrue rfl
  | [], _ :: _ => isFalse (by simp)
  | _ :: _, [] => isFalse (by simp)
  | a :: as, b :: bs =>
    match decEq a b with
    | isFalse different => isFalse (by
        intro equal
        injection equal with heads
        exact different heads)
    | isTrue heads =>
      match decEqList as bs with
      | isTrue tails => isTrue (by rw [heads, tails])
      | isFalse different => isFalse (by
          intro equal
          injection equal with _ tails
          exact different tails)

end

instance : DecidableEq Tree := decEq

def name? (tree : Tree) : Option String :=
  match tree.value? with
  | some (.name text) => some text
  | _ => none

def number? (tree : Tree) : Option String :=
  match tree.value? with
  | some (.number digits) => some digits
  | _ => none

def operator? (tree : Tree) : Option Token.Kind :=
  match tree.value? with
  | some (.operator kind) => some kind
  | _ => none

mutual

/-- A node and everything below it, each node before its children. -/
def preorder : Tree → List Tree
  | node kind value? children => node kind value? children :: preorderList children

def preorderList : List Tree → List Tree
  | [] => []
  | tree :: trees => preorder tree ++ preorderList trees

end

theorem preorderList_append (front back : List Tree) :
    preorderList (front ++ back) = preorderList front ++ preorderList back := by
  induction front with
  | nil => rfl
  | cons tree trees ih => rw [List.cons_append, preorderList, preorderList, ih, List.append_assoc]

/-- Looks at the trees on a stack. The top is taken off, put behind what has been found if it is a
function, and replaced by its children, the first of them on top. -/
def functionsFrom (found : List Tree) : List Tree → List Tree
  | [] => found
  | .node kind value? children :: stack =>
    functionsFrom (if kind = .function then found ++ [.node kind value? children] else found)
      (children ++ stack)
termination_by stack => (preorderList stack).length
decreasing_by
  rw [preorderList_append, preorderList, preorder]
  simp

def functions (tree : Tree) : List Tree := functionsFrom [] [tree]

theorem functionsFrom_eq (found stack : List Tree) :
    functionsFrom found stack =
      found ++ (preorderList stack).filter fun node => node.kind == .function := by
  fun_induction functionsFrom found stack with
  | case1 found => rw [preorderList, List.filter_nil, List.append_nil]
  | case2 found kind value? children stack ih =>
    rw [dite_eq_ite] at ih
    rw [ih, preorderList_append, preorderList, preorder, List.cons_append]
    by_cases isFunction : kind = .function
    · rw [if_pos isFunction, List.filter_cons_of_pos (by simp [Tree.kind, isFunction]),
        List.append_assoc, List.singleton_append]
    · rw [if_neg isFunction, List.filter_cons_of_neg (by simp [Tree.kind, isFunction])]

/-- The stack yields the functions as they come in the tree, each before those inside it. -/
theorem functions_eq (tree : Tree) :
    tree.functions = tree.preorder.filter fun node => node.kind == .function := by
  rw [functions, functionsFrom_eq, preorderList, preorderList, List.nil_append, List.append_nil]

/-- The children between the first and the last: the parameters of a declaration. -/
def params (tree : Tree) : List Tree := tree.children.tail.dropLast

mutual

def render : Tree → String
  | node kind value? children =>
    match value?, children with
    | none, [] => kind.name
    | none, first :: rest => kind.name ++ "(" ++ render first ++ renderRest rest ++ ")"
    | some value, children => kind.name ++ "(" ++ value.render ++ renderRest children ++ ")"

def renderRest : List Tree → String
  | [] => ""
  | tree :: trees => ", " ++ render tree ++ renderRest trees

end

def ident (text : String) : Tree := node .ident (some (.name text)) []

def param (text : String) : Tree := node .param (some (.name text)) []

def num (digits : String) : Tree := node .num (some (.number digits)) []

def binary (kind : Token.Kind) (left right : Tree) : Tree :=
  node .binary (some (.operator kind)) [left, right]

def call (callee : String) (args : List Tree) : Tree :=
  node .call none (ident callee :: args)

def assign (target : String) (value : Tree) : Tree :=
  node .assign none [ident target, value]

def print (value : Tree) : Tree := node .print none [value]

def ifThen (cond body : Tree) : Tree := node .ifElse none [cond, body]

def ifElse (cond body other : Tree) : Tree := node .ifElse none [cond, body, other]

def loop (cond body : Tree) : Tree := node .loop none [cond, body]

def function (name : String) (params : List String) (body : Tree) : Tree :=
  node .function none (ident name :: (params.map param ++ [body]))

def program (statements : List Tree) : Tree := node .program none statements

/-- The tree with one more child, after those it has. -/
def push (parent child : Tree) : Tree :=
  node parent.kind parent.value? (parent.children ++ [child])

end Tree

end ImpToC
