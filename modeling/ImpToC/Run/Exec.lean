import ImpToC.Arith
import ImpToC.Run.Machine

/-! Execution. Every statement takes one step before it does anything else, and a run
without steps left ends. All other recursion is on the program text, so the number of
steps left bounds the whole run. -/
namespace ImpToC

abbrev Exec (σ α : Type) := EStateM RunError (Machine σ) α

structure Env where
  table : Table Stmt
  limits : Limits

namespace Exec

variable {σ : Type}

def load (name : String) : Exec σ Int64 := fun machine => .ok (machine.load name) machine

def store (name : String) (value : Int64) : Exec σ Unit := fun machine =>
  .ok () (machine.store name value)

def record (value : Int64) : Exec σ Unit := fun machine => .ok () (machine.record value)

def put [Sink σ] (value : Int64) : Exec σ Unit := fun machine =>
  match machine with
  | { globals, frames, stepsLeft, sink } =>
    match Sink.put value sink with
    | (sink, none) => .ok () { globals, frames, stepsLeft, sink }
    | (sink, some reason) => .error (.output reason) { globals, frames, stepsLeft, sink }

def step (limits : Limits) : Exec σ Unit := fun machine =>
  match machine with
  | { globals, frames, stepsLeft := 0, sink } =>
    .error (.stepLimitExceeded limits.steps) { globals, frames, stepsLeft := 0, sink }
  | { globals, frames, stepsLeft := stepsLeft + 1, sink } =>
    .ok () { globals, frames, stepsLeft, sink }

def operate (op : Operator) (a b : Int64) : Exec σ Int64 :=
  match op.result? a b with
  | some value => pure value
  | none => throw .divisionByZero

/-- Runs a body in a call of its own and gives the result of that call. The call ends
also when the body fails. -/
def within (frame : Frame) (body : Exec σ Unit) : Exec σ Int64 := fun machine =>
  match body (machine.enter frame) with
  | .ok () machine => .ok machine.result machine.leave
  | .error fault machine => .error fault machine.leave

def call (env : Env) (run : Stmt → Exec σ Unit) (callee : String) (args : List Int64) :
    Exec σ Int64 := fun machine =>
  match env.table.resolve callee args.length with
  | .error fault => .error (.function fault) machine
  | .ok declaration =>
    if machine.frames.length < env.limits.callDepth then
      within { params := declaration.params.zip args } (run declaration.body) machine
    else
      .error (.callDepthExceeded env.limits.callDepth) machine

def repeatWhile (limits : Limits) (cond : Exec σ Int64) (body : Exec σ Unit) :
    Nat → Exec σ Unit
  | 0, machine => .error (.stepLimitExceeded limits.steps) machine
  | bound + 1, machine =>
    match cond machine with
    | .error fault machine => .error fault machine
    | .ok value machine =>
      if value = 0 then .ok () machine
      else
        match body machine with
        | .error fault machine => .error fault machine
        | .ok () machine => repeatWhile limits cond body bound machine

end Exec

mutual

def Expr.eval {σ : Type} (call : String → List Int64 → Exec σ Int64) : Expr → Exec σ Int64
  | num digits => pure (Int64.ofNat (Decimal.value digits.toList))
  | var name => Exec.load name
  | binary op left right => do
    let a ← left.eval call
    let b ← right.eval call
    Exec.operate op a b
  | .call callee args => do
    let values ← Expr.evalAll call args
    call callee values

def Expr.evalAll {σ : Type} (call : String → List Int64 → Exec σ Int64) :
    List Expr → Exec σ (List Int64)
  | [] => pure []
  | arg :: args => do
    let value ← arg.eval call
    let values ← Expr.evalAll call args
    pure (value :: values)

end

/-- Executes a statement on a machine with at most `bound` steps left. A step is taken
before any other statement is begun, so `bound` falls with the nesting of executions. -/
def Stmt.exec {σ : Type} [Sink σ] (env : Env) : Nat → Stmt → Exec σ Unit
  | 0, _ => throw (.stepLimitExceeded env.limits.steps)
  | bound + 1, stmt => do
    Exec.step env.limits
    let eval := Expr.eval (Exec.call env (Stmt.exec env bound))
    match stmt with
    | assign target value =>
      let value ← eval value
      Exec.store target value
      Exec.record value
    | print value =>
      let value ← eval value
      Exec.put value
      Exec.record value
    | ifThen cond body =>
      let value ← eval cond
      if value = 0 then pure () else Stmt.exec env bound body
    | ifElse cond body other =>
      let value ← eval cond
      if value = 0 then Stmt.exec env bound other else Stmt.exec env bound body
    | loop cond body =>
      Exec.repeatWhile env.limits (eval cond) (Stmt.exec env bound body) (bound + 1)
    | function _ _ _ => pure ()

def Stmt.execAll {σ : Type} [Sink σ] (env : Env) (bound : Nat) : List Stmt → Exec σ Unit
  | [] => pure ()
  | stmt :: stmts => do
    stmt.exec env bound
    Stmt.execAll env bound stmts

end ImpToC
