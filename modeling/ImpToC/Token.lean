import ImpToC.Text.Quoted

/-! Tokens: the words and marks a source text is made of. A token has a kind and, for
names and numerals, the text it stands for. -/
namespace ImpToC

inductive ArithOp where
  | add | sub | mul | div
  deriving DecidableEq, Repr

inductive RelOp where
  | eq | ne | lt | le | gt | ge
  deriving DecidableEq, Repr

inductive Operator where
  | arith (op : ArithOp)
  | rel (op : RelOp)
  deriving DecidableEq, Repr

namespace Token

inductive Kind where
  | num | ident
  | ifWord | elseWord | whileWord | printWord | functionWord
  | arith (op : ArithOp) | assign | rel (op : RelOp)
  | lparen | rparen | lbrace | rbrace | semi | comma
  deriving DecidableEq, Repr

namespace Kind

def name : Kind → String
  | num => "NUM"
  | ident => "ID"
  | ifWord => "IF"
  | elseWord => "ELSE"
  | whileWord => "WHILE"
  | printWord => "PRINT"
  | functionWord => "FUNCTION"
  | arith .add => "PLUS"
  | arith .sub => "MINUS"
  | arith .mul => "MULT"
  | arith .div => "DIV"
  | assign => "ASSIGN"
  | rel .eq => "EQ"
  | rel .ne => "NE"
  | rel .lt => "LT"
  | rel .le => "LE"
  | rel .gt => "GT"
  | rel .ge => "GE"
  | lparen => "LPAREN"
  | rparen => "RPAREN"
  | lbrace => "LBRACE"
  | rbrace => "RBRACE"
  | semi => "SEMI"
  | comma => "COMMA"

/-- How a kind is spelled in source text; names and numerals have no fixed spelling. -/
def symbol? : Kind → Option String
  | num => none
  | ident => none
  | ifWord => some "if"
  | elseWord => some "else"
  | whileWord => some "while"
  | printWord => some "print"
  | functionWord => some "function"
  | arith .add => some "+"
  | arith .sub => some "-"
  | arith .mul => some "*"
  | arith .div => some "/"
  | assign => some "="
  | rel .eq => some "=="
  | rel .ne => some "!="
  | rel .lt => some "<"
  | rel .le => some "<="
  | rel .gt => some ">"
  | rel .ge => some ">="
  | lparen => some "("
  | rparen => some ")"
  | lbrace => some "\x7b"
  | rbrace => some "\x7d"
  | semi => some ";"
  | comma => some ","

def all : List Kind :=
  [num, ident, ifWord, elseWord, whileWord, printWord, functionWord,
   arith .add, arith .sub, arith .mul, arith .div, assign,
   rel .eq, rel .ne, rel .lt, rel .le, rel .gt, rel .ge,
   lparen, rparen, lbrace, rbrace, semi, comma]

theorem mem_all (kind : Kind) : kind ∈ all := by
  cases kind with
  | arith op => cases op <;> decide
  | rel op => cases op <;> decide
  | _ => decide

def ofName? (text : String) : Option Kind :=
  all.find? fun kind => kind.name == text

def isArithmetic : Kind → Bool
  | arith _ => true
  | _ => false

def isRelational : Kind → Bool
  | rel _ => true
  | _ => false

def operator? : Kind → Option Operator
  | arith op => some (.arith op)
  | rel op => some (.rel op)
  | _ => none

def isOperator (kind : Kind) : Bool := kind.operator?.isSome

def keyword? : String → Option Kind
  | "if" => some ifWord
  | "else" => some elseWord
  | "while" => some whileWord
  | "print" => some printWord
  | "function" => some functionWord
  | _ => none

end Kind

end Token

def Operator.kind : Operator → Token.Kind
  | .arith op => .arith op
  | .rel op => .rel op

theorem Operator.operator?_kind (op : Operator) : op.kind.operator? = some op := by
  cases op <;> rfl

theorem Token.Kind.operator?_eq_some_iff {kind : Token.Kind} {op : Operator} :
    kind.operator? = some op ↔ kind = op.kind := by
  cases op <;> cases kind <;> simp [Token.Kind.operator?, Operator.kind]

structure Token where
  kind : Token.Kind
  text? : Option String := none
  deriving DecidableEq, Repr

namespace Token

def text (token : Token) : String := token.text?.getD ""

def render (token : Token) : String :=
  match token.text? with
  | none => token.kind.name
  | some text => token.kind.name ++ "(" ++ Quoted.quote text ++ ")"

end Token

end ImpToC
