import ImpToC.C.Prelude
import ImpToC.Text.Decimal

/-! What a C file does when it runs, for the part of C99 that files are written in. A
number is of type `int`, `long long` (64 bits, two's complement) or `unsigned long long`.
Unsigned arithmetic and conversions to the 64-bit types are modulo 2 to the power 64.

Only what C fixes has a meaning. Signed arithmetic that overflows, a division by zero and
a name that is not in scope are undefined. C does not fix the order in which operands and
arguments are evaluated either, so an operand or an argument that contains a call has no
value here: a file that has a meaning does not depend on that order.

Neither time nor the stack is bounded. Rounds bound how deep calls may nest and how often
a loop may go round; a file terminates if some number of rounds is enough. -/
namespace ImpToC.C

inductive Stream where
  | out | err
  deriving DecidableEq, Repr

inductive Value where
  | int (number : Int)
  | longLong (number : Int64)
  | unsignedLongLong (number : UInt64)
  | text (content : String)
  | stream (target : Stream)
  deriving DecidableEq, Repr

/-- The type to which two numbers are converted before they meet in an operator. -/
def Ty.common : Ty → Ty → Ty
  | unsignedLongLong, _ => unsignedLongLong
  | _, unsignedLongLong => unsignedLongLong
  | longLong, _ => longLong
  | _, longLong => longLong
  | int, int => int

namespace Value

def ty? : Value → Option Ty
  | int _ => some .int
  | longLong _ => some .longLong
  | unsignedLongLong _ => some .unsignedLongLong
  | text _ => none
  | stream _ => none

def number? : Value → Option Int
  | int number => some number
  | longLong number => some number.toInt
  | unsignedLongLong number => some number.toNat
  | text _ => none
  | stream _ => none

def int? (number : Int) : Option Value :=
  if -32767 ≤ number ∧ number ≤ 32767 then some (.int number) else none

def longLong? (number : Int) : Option Value :=
  if Int64.minValue.toInt ≤ number ∧ number ≤ Int64.maxValue.toInt then
    some (.longLong (Int64.ofInt number))
  else none

def fit? (ty : Ty) (number : Int) : Option Value :=
  match ty with
  | .int => int? number
  | .longLong => longLong? number
  | .unsignedLongLong => some (.unsignedLongLong (UInt64.ofInt number))

def convert? (ty : Ty) (value : Value) : Option Value := do
  let number ← value.number?
  match ty with
  | .int => int? number
  | .longLong => some (.longLong (Int64.ofInt number))
  | .unsignedLongLong => some (.unsignedLongLong (UInt64.ofInt number))

/-- Both operands as numbers of their common type. -/
def meet? (left right : Value) : Option (Ty × Int × Int) := do
  let ty := Ty.common (← left.ty?) (← right.ty?)
  let a ← (← left.convert? ty).number?
  let b ← (← right.convert? ty).number?
  return (ty, a, b)

/-- The exact result of an operator; the quotient is cut toward zero. -/
def integer? : ArithOp → Int → Int → Option Int
  | .add, a, b => some (a + b)
  | .sub, a, b => some (a - b)
  | .mul, a, b => some (a * b)
  | .div, a, b => if b = 0 then none else some (a.tdiv b)

def holds : RelOp → Int → Int → Bool
  | .eq, a, b => a == b
  | .ne, a, b => a != b
  | .lt, a, b => a < b
  | .le, a, b => a ≤ b
  | .gt, a, b => b < a
  | .ge, a, b => b ≤ a

def ofBool (b : Bool) : Value := .int (if b then 1 else 0)

def operate? (op : Operator) (left right : Value) : Option Value := do
  let (ty, a, b) ← meet? left right
  match op with
  | .arith op => fit? ty (← integer? op a b)
  | .rel op => return ofBool (holds op a b)

def negate? (value : Value) : Option Value := do
  fit? (← value.ty?) (-(← value.number?))

def isTrue? (value : Value) : Option Bool := do
  return (← value.number?) != 0

end Value

def Library.constant? : String → Option Value
  | "LLONG_MIN" => some (.longLong Int64.minValue)
  | "stdout" => some (.stream .out)
  | "stderr" => some (.stream .err)
  | _ => none

/-- A running program: its variables, those of the innermost block first, and what it has
written to the two streams. -/
structure State where
  globals : List (String × Value)
  locals : List (String × Value) := []
  out : String := ""
  err : String := ""
  deriving DecidableEq, Repr

/-- Gives the first entry of this name a new value. -/
def replace {α : Type} (name : String) (value : α) : List (String × α) → List (String × α)
  | [] => []
  | (other, old) :: rest =>
    if other = name then (other, value) :: rest else (other, old) :: replace name value rest

namespace State

def read? (state : State) (name : String) : Option Value :=
  match Library.constant? name with
  | some value => some value
  | none =>
    match state.locals.lookup name with
    | some value => some value
    | none => state.globals.lookup name

def write? (name : String) (value : Value) (state : State) : Option State :=
  match Library.constant? name with
  | some _ => none
  | none =>
    match state.locals.lookup name with
    | some old => do
      let value ← value.convert? (← old.ty?)
      return { state with locals := replace name value state.locals }
    | none => do
      let value ← value.convert? (← (← state.globals.lookup name).ty?)
      return { state with globals := replace name value state.globals }

def declare? (ty : Ty) (name : String) (value : Value) (state : State) : Option State := do
  let value ← value.convert? ty
  return { state with locals := (name, value) :: state.locals }

def leaveBlock (count : Nat) (state : State) : State :=
  { state with locals := state.locals.drop (state.locals.length - count) }

def print (target : Stream) (text : String) (state : State) : State :=
  match target with
  | .out => { state with out := state.out ++ text }
  | .err => { state with err := state.err ++ text }

end State

inductive Stop where
  | exited (status : Int)
  | undefined
  | exhausted
  deriving DecidableEq, Repr

abbrev Act (α : Type) := EStateM Stop State α

def Act.need {α : Type} : Option α → Act α
  | some a => pure a
  | none => throw .undefined

def Act.update (change : State → Option State) : Act Unit := fun state =>
  match change state with
  | some after => .ok () after
  | none => .error .undefined state

abbrev Calls := String → List Value → Act (Option Value)

namespace Library

def formatted? : List Char → List Value → Option String
  | [], [] => some ""
  | '%' :: 'l' :: 'l' :: 'd' :: format, .longLong number :: args => do
    return toString number ++ (← formatted? format args)
  | '%' :: _, _ => none
  | c :: format, args => do return String.singleton c ++ (← formatted? format args)
  | [], _ :: _ => none

def call : Calls
  | "printf", .text format :: args => fun state =>
    match formatted? format.toList args with
    | some text => .ok none (state.print .out text)
    | none => .error .undefined state
  | "fputs", [.text content, .stream target] => fun state =>
    .ok none (state.print target content)
  | "fflush", [.stream _] => pure none
  | "exit", [.int status] => throw (.exited status)
  | _, _ => throw .undefined

end Library

namespace Expr

def value? (state : State) : Expr → Option Value
  | literal digits =>
    if Decimal.isCanonical digits then
      some (.longLong (Int64.ofNat (Decimal.value digits.toList)))
    else none
  | int value => Value.int? value
  | text content => some (.text content)
  | ident name => state.read? name
  | call _ _ => none
  | binary op left right => do Value.operate? op (← left.value? state) (← right.value? state)
  | both left right => do
    if ← (← left.value? state).isTrue? then
      return Value.ofBool (← (← right.value? state).isTrue?)
    else return Value.ofBool false
  | neg inner => do (← inner.value? state).negate?
  | cast ty inner => do (← inner.value? state).convert? ty
  | paren inner => inner.value? state

def values? (state : State) : List Expr → Option (List Value)
  | [] => some []
  | arg :: args => do
    let value ← arg.value? state
    let values ← values? state args
    return value :: values

def eval (calls : Calls) (expr : Expr) : Act (Option Value) := fun state =>
  match expr with
  | call callee args =>
    match values? state args with
    | some values => calls callee values state
    | none => .error .undefined state
  | _ =>
    match expr.value? state with
    | some value => .ok (some value) state
    | none => .error .undefined state

def result (calls : Calls) (expr : Expr) : Act Value := do
  Act.need (← expr.eval calls)

def test (calls : Calls) (expr : Expr) : Act Bool := do
  Act.need (← expr.result calls).isTrue?

end Expr

inductive Flow where
  | next
  | broken
  | returned (value : Value)
  deriving DecidableEq, Repr

def Act.block (body : Act Flow) : Act Flow := fun state =>
  match body state with
  | .ok flow after => .ok flow (after.leaveBlock state.locals.length)
  | .error stop after => .error stop after

def Act.forever (body : Act Flow) : Nat → Act Flow
  | 0 => throw .exhausted
  | rounds + 1 => do
    match ← body with
    | .next => Act.forever body rounds
    | .broken => return .next
    | .returned value => return .returned value

mutual

def Stmt.exec (calls : Calls) (rounds : Nat) : Stmt → Act Flow
  | declare ty name value => do
    let value ← value.result calls
    Act.update (State.declare? ty name value)
    return .next
  | assign name value => do
    let value ← value.result calls
    Act.update (State.write? name value)
    return .next
  | expr value => do
    let _ ← value.eval calls
    return .next
  | ret value => do
    let value ← value.result calls
    return .returned value
  | ifThen cond body => do
    if ← cond.test calls then Act.block (Stmt.execAll calls rounds body) else return .next
  | ifElse cond body other => do
    if ← cond.test calls then Act.block (Stmt.execAll calls rounds body)
    else Act.block (Stmt.execAll calls rounds other)
  | forever body => Act.forever (Act.block (Stmt.execAll calls rounds body)) rounds
  | breakUnless cond => do
    if ← cond.test calls then return .next else return .broken

def Stmt.execAll (calls : Calls) (rounds : Nat) : List Stmt → Act Flow
  | [] => return .next
  | stmt :: stmts => do
    match ← stmt.exec calls rounds with
    | .next => Stmt.execAll calls rounds stmts
    | flow => return flow

end

def Function.bind? (function : Function) (args : List Value) : Option (List (String × Value)) :=
  if function.params.length = args.length then do
    return function.params.zip (← args.mapM (Value.convert? .longLong))
  else none

/-- Runs the body of a function on its own variables. A body that ends without `return`
gives no value. -/
def Function.call (function : Function) (run : List Stmt → Act Flow) (args : List Value) :
    Act (Option Value) := fun state =>
  match function.bind? args with
  | none => .error .undefined state
  | some params =>
    match run function.body { state with locals := params } with
    | .ok (.returned value) after =>
      match value.convert? function.returns with
      | some value => .ok (some value) { after with locals := state.locals }
      | none => .error .undefined after
    | .ok .next after => .ok none { after with locals := state.locals }
    | .ok .broken after => .error .undefined after
    | .error stop after => .error stop after

namespace File

/-- The functions a file begins with may call the library, but nothing of the file. -/
def preludeCall (file : File) (rounds : Nat) : Calls := fun callee args =>
  match file.prelude.find? fun function => function.name == callee with
  | some function => function.call (Stmt.execAll Library.call rounds) args
  | none => Library.call callee args

def call (file : File) (rounds : Nat) : Calls := fun callee args =>
  match file.functions.find? fun function => function.name == callee with
  | none => file.preludeCall rounds callee args
  | some function =>
    match rounds with
    | 0 => throw .exhausted
    | rounds + 1 => function.call (Stmt.execAll (file.call rounds) rounds) args

inductive Outcome where
  | finished (status : Int) (output : String)
  | undefined
  | exhausted
  deriving DecidableEq, Repr

def includesLibrary (file : File) : Bool :=
  ["limits.h", "stdio.h", "stdlib.h"].all fun header => file.headers.contains header

def start (file : File) : State :=
  { globals := file.globals.map fun name => (name, .longLong 0) }

def run (file : File) (rounds : Nat) : Outcome :=
  if file.includesLibrary then
    match file.main.call (Stmt.execAll (file.call rounds) rounds) [] file.start with
    | .ok (some (.int status)) state => .finished status state.out
    | .error (.exited status) state => .finished status state.out
    | .error .exhausted _ => .exhausted
    | _ => .undefined
  else .undefined

def Terminates (file : File) (output : String) (status : Int) : Prop :=
  ∃ rounds, file.run rounds = .finished status output

end File

end ImpToC.C
