import ImpToC.Proofs.Linking
import ImpToC.Proofs.Unbounded

/-! The computations that make up a run. Executing a statement begins the evaluation of its
expression, then maybe the execution of a statement inside it; evaluating a call begins the
evaluation of its arguments, then the call, and a call begins the execution of a body. What
is begun, and on which machine, is all that a run comes to, and a run that fails has begun a
computation that raises the fault itself.

Whatever is begun stands in the program text, so the calls it makes are calls of the program
and were resolved when the program was linked. -/
namespace ImpToC

inductive Activity where
  | execAll (bound : Nat) (stmts : List Stmt)
  | exec (bound : Nat) (stmt : Stmt)
  | rounds (bound count : Nat) (cond : Expr) (body : Stmt)
  | eval (bound : Nat) (expr : Expr)
  | evalAll (bound : Nat) (args : List Expr)
  | call (bound : Nat) (callee : String) (args : List Int64)
  deriving Repr

variable {σ α β : Type}

namespace Exec

theorem bind_eq_error {first : Exec σ α} {next : α → Exec σ β} {machine after : Machine σ}
    {fault : RunError} (failed : (first >>= next) machine = .error fault after) :
    first machine = .error fault after ∨
      ∃ a middle, first machine = .ok a middle ∧ next a middle = .error fault after := by
  cases start : first machine with
  | ok a middle =>
    rw [bind_of_ok start] at failed
    exact .inr ⟨a, middle, rfl, failed⟩
  | error fault middle =>
    rw [bind_of_error start] at failed
    cases failed
    exact .inl rfl

theorem operate_eq_error {op : Operator} {a b : Int64} {machine after : Machine σ}
    {fault : RunError} (failed : operate op a b machine = .error fault after) :
    fault = .divisionByZero ∧ op.result? a b = none := by
  unfold operate at failed
  cases result : op.result? a b with
  | some value =>
    simp only [result] at failed
    cases failed
  | none =>
    simp only [result] at failed
    cases failed
    exact ⟨rfl, rfl⟩

theorem step_eq_error {limits : Limits} {machine after : Machine σ} {fault : RunError}
    (failed : step limits machine = .error fault after) :
    fault = .stepLimitExceeded limits.steps ∧ machine.stepsLeft = 0 := by
  obtain ⟨globals, frames, stepsLeft, sink⟩ := machine
  cases stepsLeft with
  | zero =>
    cases failed
    exact ⟨rfl, rfl⟩
  | succ stepsLeft => cases failed

theorem put_eq_error [Sink σ] {value : Int64} {machine after : Machine σ} {fault : RunError}
    (failed : put value machine = .error fault after) :
    ∃ reason, fault = .output reason ∧ (Sink.put value machine.sink).2 = some reason := by
  obtain ⟨globals, frames, stepsLeft, sink⟩ := machine
  simp only [put] at failed ⊢
  split at failed
  · cases failed
  · rename_i reason taken
    cases failed
    exact ⟨reason, rfl, by rw [taken]⟩

abbrev callAt [Sink σ] (env : Env) (bound : Nat) : String → List Int64 → Exec σ Int64 :=
  Exec.call env (Stmt.exec env bound)

end Exec

open Exec

variable [Sink σ]

/-- The first activity, on its machine, at once begins the second on the machine of that. -/
inductive Begins (env : Env) : Activity → Machine σ → Activity → Machine σ → Prop where
  | first {bound : Nat} {stmt : Stmt} {stmts : List Stmt} {machine : Machine σ} :
    Begins env (.execAll bound (stmt :: stmts)) machine (.exec bound stmt) machine
  | others {bound : Nat} {stmt : Stmt} {stmts : List Stmt} {machine after : Machine σ}
    (done : Stmt.exec env bound stmt machine = .ok () after) :
    Begins env (.execAll bound (stmt :: stmts)) machine (.execAll bound stmts) after
  | assign {bound : Nat} {target : String} {value : Expr} {machine ready : Machine σ}
    (stepped : Exec.step env.limits machine = .ok () ready) :
    Begins env (.exec (bound + 1) (.assign target value)) machine (.eval bound value) ready
  | print {bound : Nat} {value : Expr} {machine ready : Machine σ}
    (stepped : Exec.step env.limits machine = .ok () ready) :
    Begins env (.exec (bound + 1) (.print value)) machine (.eval bound value) ready
  | thenCond {bound : Nat} {cond : Expr} {body : Stmt} {machine ready : Machine σ}
    (stepped : Exec.step env.limits machine = .ok () ready) :
    Begins env (.exec (bound + 1) (.ifThen cond body)) machine (.eval bound cond) ready
  | thenBody {bound : Nat} {cond : Expr} {body : Stmt} {machine ready after : Machine σ}
    {value : Int64} (stepped : Exec.step env.limits machine = .ok () ready)
    (tested : cond.eval (callAt env bound) ready = .ok value after) (holds : value ≠ 0) :
    Begins env (.exec (bound + 1) (.ifThen cond body)) machine (.exec bound body) after
  | elseCond {bound : Nat} {cond : Expr} {body other : Stmt} {machine ready : Machine σ}
    (stepped : Exec.step env.limits machine = .ok () ready) :
    Begins env (.exec (bound + 1) (.ifElse cond body other)) machine (.eval bound cond) ready
  | elseBody {bound : Nat} {cond : Expr} {body other : Stmt} {machine ready after : Machine σ}
    {value : Int64} (stepped : Exec.step env.limits machine = .ok () ready)
    (tested : cond.eval (callAt env bound) ready = .ok value after) (holds : value ≠ 0) :
    Begins env (.exec (bound + 1) (.ifElse cond body other)) machine (.exec bound body) after
  | elseOther {bound : Nat} {cond : Expr} {body other : Stmt} {machine ready after : Machine σ}
    (stepped : Exec.step env.limits machine = .ok () ready)
    (tested : cond.eval (callAt env bound) ready = .ok 0 after) :
    Begins env (.exec (bound + 1) (.ifElse cond body other)) machine (.exec bound other) after
  | loop {bound : Nat} {cond : Expr} {body : Stmt} {machine ready : Machine σ}
    (stepped : Exec.step env.limits machine = .ok () ready) :
    Begins env (.exec (bound + 1) (.loop cond body)) machine
      (.rounds bound (bound + 1) cond body) ready
  | roundCond {bound count : Nat} {cond : Expr} {body : Stmt} {machine : Machine σ} :
    Begins env (.rounds bound (count + 1) cond body) machine (.eval bound cond) machine
  | roundBody {bound count : Nat} {cond : Expr} {body : Stmt} {machine ready : Machine σ}
    {value : Int64} (tested : cond.eval (callAt env bound) machine = .ok value ready)
    (holds : value ≠ 0) :
    Begins env (.rounds bound (count + 1) cond body) machine (.exec bound body) ready
  | roundNext {bound count : Nat} {cond : Expr} {body : Stmt} {machine ready after : Machine σ}
    {value : Int64} (tested : cond.eval (callAt env bound) machine = .ok value ready)
    (holds : value ≠ 0) (done : Stmt.exec env bound body ready = .ok () after) :
    Begins env (.rounds bound (count + 1) cond body) machine (.rounds bound count cond body) after
  | left {bound : Nat} {op : Operator} {left right : Expr} {machine : Machine σ} :
    Begins env (.eval bound (.binary op left right)) machine (.eval bound left) machine
  | right {bound : Nat} {op : Operator} {left right : Expr} {machine after : Machine σ}
    {value : Int64} (done : left.eval (callAt env bound) machine = .ok value after) :
    Begins env (.eval bound (.binary op left right)) machine (.eval bound right) after
  | args {bound : Nat} {callee : String} {args : List Expr} {machine : Machine σ} :
    Begins env (.eval bound (.call callee args)) machine (.evalAll bound args) machine
  | call {bound : Nat} {callee : String} {args : List Expr} {values : List Int64}
    {machine after : Machine σ}
    (done : Expr.evalAll (callAt env bound) args machine = .ok values after) :
    Begins env (.eval bound (.call callee args)) machine (.call bound callee values) after
  | arg {bound : Nat} {arg : Expr} {args : List Expr} {machine : Machine σ} :
    Begins env (.evalAll bound (arg :: args)) machine (.eval bound arg) machine
  | otherArgs {bound : Nat} {arg : Expr} {args : List Expr} {machine after : Machine σ}
    {value : Int64} (done : arg.eval (callAt env bound) machine = .ok value after) :
    Begins env (.evalAll bound (arg :: args)) machine (.evalAll bound args) after
  | body {bound : Nat} {callee : String} {args : List Int64} {machine : Machine σ}
    {declaration : Declaration Stmt}
    (found : env.table.resolve callee args.length = .ok declaration)
    (shallow : machine.frames.length < env.limits.callDepth) :
    Begins env (.call bound callee args) machine (.exec bound declaration.body)
      (machine.enter { params := declaration.params.zip args })

/-- The second activity is begun on the way of the first. -/
inductive Reaches (env : Env) : Activity → Machine σ → Activity → Machine σ → Prop where
  | refl {activity : Activity} {machine : Machine σ} : Reaches env activity machine activity machine
  | next {activity middle later : Activity} {machine between final : Machine σ}
    (begins : Begins env activity machine middle between)
    (others : Reaches env middle between later final) : Reaches env activity machine later final

/-- The activity fails by itself, not because of an activity it has begun. -/
inductive Raises (env : Env) : Activity → Machine σ → RunError → Prop where
  | bound {stmt : Stmt} {machine : Machine σ} :
    Raises env (.exec 0 stmt) machine (.stepLimitExceeded env.limits.steps)
  | step {bound : Nat} {stmt : Stmt} {machine : Machine σ} (spent : machine.stepsLeft = 0) :
    Raises env (.exec (bound + 1) stmt) machine (.stepLimitExceeded env.limits.steps)
  | rounds {bound : Nat} {cond : Expr} {body : Stmt} {machine : Machine σ} :
    Raises env (.rounds bound 0 cond body) machine (.stepLimitExceeded env.limits.steps)
  | division {bound : Nat} {op : Operator} {left right : Expr} {a b : Int64}
    {machine middle after : Machine σ}
    (first : left.eval (callAt env bound) machine = .ok a middle)
    (second : right.eval (callAt env bound) middle = .ok b after) (none : op.result? a b = none) :
    Raises env (.eval bound (.binary op left right)) machine .divisionByZero
  | output {bound : Nat} {expr : Expr} {value : Int64} {reason : String}
    {machine ready after : Machine σ} (stepped : Exec.step env.limits machine = .ok () ready)
    (done : expr.eval (callAt env bound) ready = .ok value after)
    (refused : (Sink.put value after.sink).2 = some reason) :
    Raises env (.exec (bound + 1) (.print expr)) machine (.output reason)
  | unresolved {bound : Nat} {callee : String} {args : List Int64} {fault : FunctionError}
    {machine : Machine σ} (stray : env.table.resolve callee args.length = .error fault) :
    Raises env (.call bound callee args) machine (.function fault)
  | depth {bound : Nat} {callee : String} {args : List Int64} {declaration : Declaration Stmt}
    {machine : Machine σ} (found : env.table.resolve callee args.length = .ok declaration)
    (deep : ¬machine.frames.length < env.limits.callDepth) :
    Raises env (.call bound callee args) machine (.callDepthExceeded env.limits.callDepth)

def Blames (env : Env) (activity : Activity) (machine : Machine σ) (fault : RunError) : Prop :=
  ∃ culprit found, Reaches env activity machine culprit found ∧ Raises env culprit found fault

variable {env : Env}

theorem Raises.blames {activity : Activity} {machine : Machine σ} {fault : RunError}
    (raises : Raises env activity machine fault) : Blames env activity machine fault :=
  ⟨activity, machine, .refl, raises⟩

theorem Blames.of_begins {activity later : Activity} {machine after : Machine σ} {fault : RunError}
    (begins : Begins env activity machine later after) (blames : Blames env later after fault) :
    Blames env activity machine fault := by
  obtain ⟨culprit, final, reaches, raises⟩ := blames
  exact ⟨culprit, final, .next begins reaches, raises⟩

section Culprits

variable {bound : Nat} {machine after : Machine σ} {fault : RunError}

mutual

theorem Expr.blames_eval
    (calls : ∀ {callee args} {machine after : Machine σ} {fault},
      callAt env bound callee args machine = .error fault after →
        Blames env (.call bound callee args) machine fault)
    (expr : Expr) {machine after : Machine σ} {fault : RunError}
    (failed : expr.eval (callAt env bound) machine = .error fault after) :
    Blames env (.eval bound expr) machine fault := by
  match expr with
  | .num digits => cases failed
  | .var name => cases failed
  | .binary op left right =>
    rw [Expr.eval] at failed
    rcases bind_eq_error failed with failed | ⟨a, middle, first, failed⟩
    · exact .of_begins .left (Expr.blames_eval calls left failed)
    · rcases bind_eq_error failed with failed | ⟨b, last, second, failed⟩
      · exact .of_begins (.right first) (Expr.blames_eval calls right failed)
      · obtain ⟨rfl, none⟩ := operate_eq_error failed
        exact (Raises.division first second none).blames
  | .call callee args =>
    rw [Expr.eval] at failed
    rcases bind_eq_error failed with failed | ⟨values, middle, done, failed⟩
    · exact .of_begins .args (Expr.blames_evalAll calls args failed)
    · exact .of_begins (.call done) (calls failed)

theorem Expr.blames_evalAll
    (calls : ∀ {callee args} {machine after : Machine σ} {fault},
      callAt env bound callee args machine = .error fault after →
        Blames env (.call bound callee args) machine fault)
    (args : List Expr) {machine after : Machine σ} {fault : RunError}
    (failed : Expr.evalAll (callAt env bound) args machine = .error fault after) :
    Blames env (.evalAll bound args) machine fault := by
  match args with
  | [] => cases failed
  | arg :: args =>
    rw [Expr.evalAll] at failed
    rcases bind_eq_error failed with failed | ⟨value, middle, done, failed⟩
    · exact .of_begins .arg (Expr.blames_eval calls arg failed)
    · rcases bind_eq_error failed with failed | ⟨values, last, -, failed⟩
      · exact .of_begins (.otherArgs done) (Expr.blames_evalAll calls args failed)
      · cases failed

end

theorem Exec.blames_call
    (bodies : ∀ {stmt} {machine after : Machine σ} {fault},
      Stmt.exec env bound stmt machine = .error fault after →
        Blames env (.exec bound stmt) machine fault)
    {callee : String} {args : List Int64}
    (failed : callAt env bound callee args machine = .error fault after) :
    Blames env (.call bound callee args) machine fault := by
  unfold callAt Exec.call at failed
  cases found : env.table.resolve callee args.length with
  | error stray =>
    simp only [found] at failed
    cases failed
    exact (Raises.unresolved found).blames
  | ok declaration =>
    simp only [found] at failed
    split at failed
    · rename_i shallow
      refine .of_begins (.body found shallow) ?_
      unfold Exec.within at failed
      split at failed
      · cases failed
      · rename_i inner
        cases failed
        exact bodies inner
    · rename_i deep
      cases failed
      exact (Raises.depth found deep).blames

theorem Exec.blames_rounds
    (conds : ∀ {expr} {machine after : Machine σ} {fault},
      Expr.eval (callAt env bound) expr machine = .error fault after →
        Blames env (.eval bound expr) machine fault)
    (bodies : ∀ {stmt} {machine after : Machine σ} {fault},
      Stmt.exec env bound stmt machine = .error fault after →
        Blames env (.exec bound stmt) machine fault)
    {count : Nat} {cond : Expr} {body : Stmt}
    (failed : repeatWhile env.limits (cond.eval (callAt env bound)) (Stmt.exec env bound body) count
      machine = .error fault after) :
    Blames env (.rounds bound count cond body) machine fault := by
  induction count generalizing machine with
  | zero =>
    cases failed
    exact Raises.rounds.blames
  | succ count ih =>
    rw [repeatWhile] at failed
    split at failed
    · rename_i tested
      cases failed
      exact .of_begins .roundCond (conds tested)
    · rename_i value ready tested
      split at failed
      · cases failed
      · rename_i holds
        split at failed
        · rename_i inner
          cases failed
          exact .of_begins (.roundBody tested holds) (bodies inner)
        · rename_i done
          exact .of_begins (.roundNext tested holds done) (ih failed)

theorem Stmt.blames_exec {stmt : Stmt}
    (failed : Stmt.exec env bound stmt machine = .error fault after) :
    Blames env (.exec bound stmt) machine fault := by
  induction bound generalizing stmt machine after fault with
  | zero =>
    cases failed
    exact Raises.bound.blames
  | succ bound ih =>
    have conds := @Expr.blames_eval _ _ env bound (Exec.blames_call ih)
    rw [Stmt.exec] at failed
    rcases bind_eq_error failed with failed | ⟨_, ready, stepped, failed⟩
    · obtain ⟨rfl, spent⟩ := step_eq_error failed
      exact (Raises.step spent).blames
    · cases stmt with
      | assign target value =>
        rcases bind_eq_error failed with failed | ⟨_, _, _, failed⟩
        · exact .of_begins (.assign stepped) (conds value failed)
        · cases failed
      | print value =>
        rcases bind_eq_error failed with failed | ⟨printed, middle, done, failed⟩
        · exact .of_begins (.print stepped) (conds value failed)
        · rcases bind_eq_error failed with failed | ⟨_, _, _, failed⟩
          · obtain ⟨reason, rfl, refused⟩ := put_eq_error failed
            exact (Raises.output stepped done refused).blames
          · cases failed
      | ifThen cond body =>
        rcases bind_eq_error failed with failed | ⟨value, middle, tested, failed⟩
        · exact .of_begins (.thenCond stepped) (conds cond failed)
        · split at failed
          · cases failed
          · rename_i holds
            exact .of_begins (.thenBody stepped tested holds) (ih failed)
      | ifElse cond body other =>
        rcases bind_eq_error failed with failed | ⟨value, middle, tested, failed⟩
        · exact .of_begins (.elseCond stepped) (conds cond failed)
        · split at failed
          · rename_i zero
            subst zero
            exact .of_begins (.elseOther stepped tested) (ih failed)
          · rename_i holds
            exact .of_begins (.elseBody stepped tested holds) (ih failed)
      | loop cond body =>
        exact .of_begins (.loop stepped) (Exec.blames_rounds (conds _) ih failed)
      | function name params body => cases failed

theorem Stmt.blames_execAll {stmts : List Stmt}
    (failed : Stmt.execAll env bound stmts machine = .error fault after) :
    Blames env (.execAll bound stmts) machine fault := by
  induction stmts generalizing machine with
  | nil => cases failed
  | cons stmt stmts ih =>
    rcases bind_eq_error failed with failed | ⟨_, middle, done, failed⟩
    · exact .of_begins .first (Stmt.blames_exec failed)
    · exact .of_begins (.others done) (ih failed)

end Culprits

end ImpToC
