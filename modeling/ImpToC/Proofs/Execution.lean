import ImpToC.Proofs.Meaning

/-! How C code is executed step by step. Each kind of statement is described by what it
does once its expression has a value, and a list of statements by what its parts do. -/
namespace ImpToC.C

variable {α β : Type} {calls : Calls} {rounds : Nat} {state middle after : State} {stop : Stop}

theorem Act.bind_apply (first : Act α) (next : α → Act β) (state : State) :
    (first >>= next) state =
      match first state with
      | .ok a state => next a state
      | .error stop state => .error stop state := by
  simp only [bind, EStateM.bind]
  cases first state <;> rfl

theorem Act.bind_of_ok {first : Act α} {next : α → Act β} {a : α}
    (done : first state = .ok a middle) : (first >>= next) state = next a middle := by
  rw [Act.bind_apply, done]

theorem Act.bind_of_error {first : Act α} {next : α → Act β}
    (failed : first state = .error stop middle) :
    (first >>= next) state = .error stop middle := by
  rw [Act.bind_apply, failed]

@[simp] theorem Value.convert?_longLong (number : Int64) :
    convert? .longLong (.longLong number) = some (.longLong number) := by
  simp [convert?, number?]

theorem Value.mapM_convert?_longLong (numbers : List Int64) :
    (numbers.map longLong).mapM (convert? .longLong) = some (numbers.map longLong) := by
  induction numbers with
  | nil => rfl
  | cons number numbers ih => simp only [List.map_cons, List.mapM_cons, convert?_longLong, ih]; rfl

@[simp] theorem Value.isTrue?_longLong (number : Int64) :
    isTrue? (.longLong number) = some (number != 0) := by
  have zero : number.toInt = 0 ↔ number = 0 := by
    rw [← Int64.toInt_inj]
    rfl
  have same : (number.toInt != 0) = (number != 0) := by
    rw [Bool.eq_iff_iff, bne_iff_ne, bne_iff_ne, ne_eq, ne_eq, zero]
  exact congrArg some same

namespace Expr

variable {expr : Expr} {value : Value}

theorem eval_of_value? (has : expr.value? state = some value) :
    expr.eval calls state = .ok (some value) state := by
  cases expr with
  | call callee args => cases has
  | _ => simp only [eval, has]

theorem result_of_value? (has : expr.value? state = some value) :
    expr.result calls state = .ok value state :=
  Act.bind_of_ok (eval_of_value? has)

theorem test_of_value? {truth : Bool} (has : expr.value? state = some value)
    (decides : value.isTrue? = some truth) : expr.test calls state = .ok truth state := by
  rw [test, Act.bind_of_ok (result_of_value? has), decides]
  rfl

theorem eval_call {callee : String} {args : List Expr} {values : List Value}
    (have_values : values? state args = some values) :
    (call callee args).eval calls state = calls callee values state := by
  simp only [eval, have_values]

theorem result_call {callee : String} {args : List Expr} {values : List Value}
    (have_values : values? state args = some values)
    (called : calls callee values state = .ok (some value) after) :
    (call callee args).result calls state = .ok value after :=
  Act.bind_of_ok ((eval_call have_values).trans called)

theorem result_call_error {callee : String} {args : List Expr} {values : List Value}
    (have_values : values? state args = some values)
    (called : calls callee values state = .error stop after) :
    (call callee args).result calls state = .error stop after :=
  Act.bind_of_error ((eval_call have_values).trans called)

end Expr

theorem State.leaveBlock_self (state : State) : state.leaveBlock state.locals.length = state := by
  simp only [leaveBlock, Nat.sub_self, List.drop_zero]

section

variable {name : String} {old : Int64} (value : Int64)
  (free : Library.constant? name = none)

include free

theorem State.write?_local (found : state.locals.lookup name = some (.longLong old)) :
    state.write? name (.longLong value) =
      some { state with locals := replace name (.longLong value) state.locals } := by
  simp only [write?, free, found, Value.ty?, Option.bind_eq_bind, Option.bind_some,
    Value.convert?_longLong, Option.pure_def]

theorem State.write?_global (unshadowed : state.locals.lookup name = none)
    (found : state.globals.lookup name = some (.longLong old)) :
    state.write? name (.longLong value) =
      some { state with globals := replace name (.longLong value) state.globals } := by
  simp only [write?, free, unshadowed, found, Value.ty?, Option.bind_eq_bind, Option.bind_some,
    Value.convert?_longLong, Option.pure_def]

end

theorem Act.block_of_ok {body : Act Flow} {flow : Flow} (done : body state = .ok flow after) :
    Act.block body state = .ok flow (after.leaveBlock state.locals.length) := by
  rw [Act.block, done]

theorem Act.block_of_error {body : Act Flow} (failed : body state = .error stop after) :
    Act.block body state = .error stop after := by
  rw [Act.block, failed]

namespace Stmt

variable {expr : Expr} {value : Value} {stmt : Stmt} {stmts others : List Stmt} {flow : Flow}

theorem exec_declare {ty : Ty} {name : String} {converted : Value}
    (has : expr.result calls state = .ok value middle)
    (fits : value.convert? ty = some converted) :
    (declare ty name expr).exec calls rounds state =
      .ok .next { middle with locals := (name, converted) :: middle.locals } := by
  have declared : Act.update (State.declare? ty name value) middle =
      .ok () { middle with locals := (name, converted) :: middle.locals } := by
    simp only [Act.update, State.declare?, fits]
    rfl
  exact (Act.bind_of_ok has).trans (Act.bind_of_ok declared)

theorem exec_assign {name : String} (has : expr.result calls state = .ok value middle)
    (written : middle.write? name value = some after) :
    (assign name expr).exec calls rounds state = .ok .next after := by
  have assigned : Act.update (State.write? name value) middle = .ok () after := by
    simp only [Act.update, written]
  exact (Act.bind_of_ok has).trans (Act.bind_of_ok assigned)

theorem exec_expr {result : Option Value} (done : expr.eval calls state = .ok result after) :
    (Stmt.expr expr).exec calls rounds state = .ok .next after :=
  Act.bind_of_ok done

theorem exec_ret (has : expr.result calls state = .ok value after) :
    (ret expr).exec calls rounds state = .ok (.returned value) after :=
  Act.bind_of_ok has

theorem exec_ifThen_of_true {body : List Stmt} (holds : expr.test calls state = .ok true state) :
    (ifThen expr body).exec calls rounds state = Act.block (execAll calls rounds body) state :=
  Act.bind_of_ok holds

theorem exec_ifThen_of_false {body : List Stmt}
    (fails : expr.test calls state = .ok false state) :
    (ifThen expr body).exec calls rounds state = .ok .next state :=
  Act.bind_of_ok fails

theorem exec_ifElse_of_true {body other : List Stmt}
    (holds : expr.test calls state = .ok true state) :
    (ifElse expr body other).exec calls rounds state =
      Act.block (execAll calls rounds body) state :=
  Act.bind_of_ok holds

theorem exec_ifElse_of_false {body other : List Stmt}
    (fails : expr.test calls state = .ok false state) :
    (ifElse expr body other).exec calls rounds state =
      Act.block (execAll calls rounds other) state :=
  Act.bind_of_ok fails

theorem exec_breakUnless {truth : Bool} (decides : expr.test calls state = .ok truth state) :
    (breakUnless expr).exec calls rounds state =
      .ok (if truth then .next else .broken) state := by
  refine (Act.bind_of_ok decides).trans ?_
  cases truth <;> rfl

theorem execAll_append (stmts others : List Stmt) :
    execAll calls rounds (stmts ++ others) = do
      match ← execAll calls rounds stmts with
      | .next => execAll calls rounds others
      | flow => return flow := by
  induction stmts with
  | nil => simp [execAll]
  | cons stmt stmts ih =>
    funext state
    simp only [List.cons_append, execAll, ih, Act.bind_apply]
    cases stmt.exec calls rounds state with
    | error stop after => rfl
    | ok flow after =>
      cases flow with
      | next => exact Act.bind_apply _ _ after
      | _ => rfl

theorem execAll_cons_of_next (first : stmt.exec calls rounds state = .ok .next middle) :
    execAll calls rounds (stmt :: stmts) state = execAll calls rounds stmts middle :=
  Act.bind_of_ok first

theorem execAll_cons_of_flow (first : stmt.exec calls rounds state = .ok flow middle)
    (leaves : flow ≠ .next) : execAll calls rounds (stmt :: stmts) state = .ok flow middle := by
  refine (Act.bind_of_ok first).trans ?_
  cases flow with
  | next => exact absurd rfl leaves
  | _ => rfl

theorem execAll_cons_of_error (first : stmt.exec calls rounds state = .error stop middle) :
    execAll calls rounds (stmt :: stmts) state = .error stop middle :=
  Act.bind_of_error first

theorem execAll_singleton (stmt : Stmt) :
    execAll calls rounds [stmt] = stmt.exec calls rounds := by
  funext state
  refine (Act.bind_apply _ _ state).trans ?_
  cases stmt.exec calls rounds state with
  | error stop after => rfl
  | ok flow after => cases flow <;> rfl

end Stmt

namespace Function

variable {function : Function} {run : List Stmt → Act Flow} {args : List Value}
  {params : List (String × Value)} {value converted : Value}

theorem call_of_returned (bound : function.bind? args = some params)
    (ran : run function.body { state with locals := params } = .ok (.returned value) after)
    (fits : value.convert? function.returns = some converted) :
    function.call run args state = .ok (some converted) { after with locals := state.locals } := by
  simp only [call, bound, ran, fits]

theorem call_of_error (bound : function.bind? args = some params)
    (ran : run function.body { state with locals := params } = .error stop after) :
    function.call run args state = .error stop after := by
  simp only [call, bound, ran]

theorem bind?_longLong {numbers : List Int64} (count : function.params.length = numbers.length) :
    function.bind? (numbers.map .longLong) =
      some (function.params.zip (numbers.map .longLong)) := by
  simp only [bind?, List.length_map, if_pos count, Value.mapM_convert?_longLong]
  rfl

end Function

end ImpToC.C
