import ImpToC.Proofs.Limits
import ImpToC.Proofs.Reached

/-! Two runs side by side. A congruence relates what one machine computes with what another
one does, possibly with another table, other limits and another kind of sink. It has a clause
for everything that executions are put together from, and so it relates whole executions: the
inductions over loops and the steps left are made once, here.

Evaluating and executing are related separately, since an execution may do to the innermost
call what an evaluation may not. A property of single runs is a congruence that looks at one
side only. -/
namespace ImpToC

open Exec

variable {σ τ : Type} [Sink σ] [Sink τ]

structure Congruence (σ τ : Type) [Sink σ] [Sink τ] (env other : Env) where
  Eval : {α : Type} → Exec σ α → Exec τ α → Prop
  Run : Exec σ Unit → Exec τ Unit → Prop
  pure {α : Type} (a : α) : Eval (pure a) (pure a)
  bind {α β : Type} {first : Exec σ α} {first' : Exec τ α} {next : α → Exec σ β}
    {next' : α → Exec τ β} (start : Eval first first') (rest : ∀ a, Eval (next a) (next' a)) :
    Eval (first >>= next) (first' >>= next')
  load (name : String) : Eval (load name) (load name)
  operate (op : Operator) (a b : Int64) : Eval (operate op a b) (operate op a b)
  call {body : Stmt → Exec σ Unit} {body' : Stmt → Exec τ Unit} (callee : String)
    (args : List Int64) (bodies : ∀ stmt, Run (body stmt) (body' stmt)) :
    Eval (call env body callee args) (call other body' callee args)
  skip : Run (Pure.pure ()) (Pure.pure ())
  stop : Run (throw (.stepLimitExceeded env.limits.steps))
    (throw (.stepLimitExceeded other.limits.steps))
  store (name : String) (value : Int64) : Run (store name value) (store name value)
  record (value : Int64) : Run (record value) (record value)
  put (value : Int64) : Run (put value) (put value)
  step {begun : Exec σ Unit} {begun' : Exec τ Unit} (rest : Run begun begun') :
    Run (do step env.limits; begun) (do step other.limits; begun')
  after {α : Type} {first : Exec σ α} {first' : Exec τ α} {next : α → Exec σ Unit}
    {next' : α → Exec τ Unit} (start : Eval first first') (rest : ∀ a, Run (next a) (next' a)) :
    Run (first >>= next) (first' >>= next')
  seq {first next : Exec σ Unit} {first' next' : Exec τ Unit} (start : Run first first')
    (rest : Run next next') : Run (do first; next) (do first'; next')

namespace Congruence

variable {env other : Env} (same : Congruence σ τ env other)

theorem repeatWhile {cond : Exec σ Int64} {cond' : Exec τ Int64} {body : Exec σ Unit}
    {body' : Exec τ Unit} (conds : same.Eval cond cond') (bodies : same.Run body body')
    (count : Nat) :
    same.Run (repeatWhile env.limits cond body count)
      (repeatWhile other.limits cond' body' count) := by
  induction count with
  | zero => exact same.stop
  | succ count ih =>
    rw [repeatWhile_eq_bind, repeatWhile_eq_bind]
    refine same.after conds fun value => ?_
    by_cases zero : value = 0
    · simp only [if_pos zero]
      exact same.skip
    · simp only [if_neg zero]
      exact same.seq bodies ih

def evals : EvalCongruence Unit σ τ where
  Rel run run' := same.Eval (run ()) run'
  pure := same.pure
  bind := same.bind
  load := same.load
  operate := same.operate

theorem eval_of {call : String → List Int64 → Exec σ Int64}
    {call' : String → List Int64 → Exec τ Int64}
    (calls : ∀ callee args, same.Eval (call callee args) (call' callee args)) (expr : Expr) :
    same.Eval (expr.eval call) (expr.eval call') :=
  same.evals.eval (fun _ => call) calls expr

/-- The induction is on the bound: whatever is executed inside a statement has a smaller one. -/
theorem exec (bound : Nat) (stmt : Stmt) :
    same.Run (stmt.exec env bound) (stmt.exec other bound) := by
  induction bound generalizing stmt with
  | zero => exact same.stop
  | succ bound ih =>
    have eval := same.eval_of fun callee args => same.call callee args ih
    rw [Stmt.exec, Stmt.exec]
    refine same.step ?_
    cases stmt with
    | assign target value =>
      exact same.after (eval value) fun v => same.seq (same.store target v) (same.record v)
    | print value =>
      exact same.after (eval value) fun v => same.seq (same.put v) (same.record v)
    | ifThen cond body =>
      refine same.after (eval cond) fun v => ?_
      split
      · exact same.skip
      · exact ih body
    | ifElse cond body other =>
      refine same.after (eval cond) fun v => ?_
      split
      · exact ih other
      · exact ih body
    | loop cond body => exact same.repeatWhile (eval cond) (ih body) (bound + 1)
    | function name params body => exact same.skip

theorem eval (bound : Nat) (expr : Expr) :
    same.Eval (expr.eval (callAt env bound)) (expr.eval (callAt other bound)) :=
  same.eval_of (fun callee args => same.call callee args (same.exec bound)) expr

theorem execAll (bound : Nat) (stmts : List Stmt) :
    same.Run (Stmt.execAll env bound stmts) (Stmt.execAll other bound stmts) := by
  induction stmts with
  | nil => exact same.skip
  | cons stmt stmts ih => exact same.seq (same.exec bound stmt) ih

end Congruence

end ImpToC
