import ImpToC.Run

/-! Runs without limits. The walk of a statement does what its execution does, except
that it takes no steps and does not count the calls in progress. Rounds bound how deep
its calls nest and how often its loops go round, and nothing else.

A run under limits that is not cut short by them is a walk. A walk that does not run out
of rounds is a run under all limits that are large enough: each walk has a cost, the
number of steps an execution takes on the same way. -/
namespace ImpToC

variable {σ α β : Type}

namespace Exec

def exhausted : RunError := .stepLimitExceeded 0

def enterCall (table : Table Stmt) (run : Stmt → Exec σ Unit) (callee : String)
    (args : List Int64) : Exec σ Int64 := fun machine =>
  match table.resolve callee args.length with
  | .error fault => .error (.function fault) machine
  | .ok declaration =>
    within { params := declaration.params.zip args } (run declaration.body) machine

end Exec

def Stmt.walk [Sink σ] (call : String → List Int64 → Exec σ Int64) (rounds : Nat) :
    Stmt → Exec σ Unit
  | assign target value => do
    let value ← value.eval call
    Exec.store target value
    Exec.record value
  | print value => do
    let value ← value.eval call
    Exec.put value
    Exec.record value
  | ifThen cond body => do
    let value ← cond.eval call
    if value = 0 then pure () else body.walk call rounds
  | ifElse cond body other => do
    let value ← cond.eval call
    if value = 0 then other.walk call rounds else body.walk call rounds
  | loop cond body =>
    Exec.repeatWhile { steps := 0 } (cond.eval call) (body.walk call rounds) rounds
  | function _ _ _ => pure ()

def Stmt.walkAll [Sink σ] (call : String → List Int64 → Exec σ Int64) (rounds : Nat) :
    List Stmt → Exec σ Unit
  | [] => pure ()
  | stmt :: stmts => do
    stmt.walk call rounds
    Stmt.walkAll call rounds stmts

/-- A call that may nest `rounds` deep, itself included. -/
def Exec.callWithin [Sink σ] (table : Table Stmt) : Nat → String → List Int64 → Exec σ Int64
  | 0, _, _ => throw Exec.exhausted
  | rounds + 1, callee, args =>
    Exec.enterCall table (Stmt.walk (Exec.callWithin table rounds) rounds) callee args

def Machine.withSteps (steps : Nat) (machine : Machine σ) : Machine σ :=
  { machine with stepsLeft := steps }

namespace Machine

variable (steps other : Nat) (machine : Machine σ)

@[simp] theorem withSteps_frames : (machine.withSteps steps).frames = machine.frames := rfl

@[simp] theorem withSteps_sink : (machine.withSteps steps).sink = machine.sink := rfl

@[simp] theorem withSteps_withSteps :
    (machine.withSteps other).withSteps steps = machine.withSteps steps := rfl

@[simp] theorem load_withSteps (name : String) :
    (machine.withSteps steps).load name = machine.load name := rfl

@[simp] theorem store_withSteps (name : String) (value : Int64) :
    (machine.withSteps steps).store name value = (machine.store name value).withSteps steps := by
  obtain ⟨globals, frames, stepsLeft, sink⟩ := machine
  cases frames with
  | nil => rfl
  | cons frame frames =>
    simp only [store, withSteps]
    split <;> rfl

@[simp] theorem record_withSteps (value : Int64) :
    (machine.withSteps steps).record value = (machine.record value).withSteps steps := by
  obtain ⟨globals, frames, stepsLeft, sink⟩ := machine
  cases frames <;> rfl

@[simp] theorem enter_withSteps (frame : Frame) :
    (machine.withSteps steps).enter frame = (machine.enter frame).withSteps steps := rfl

@[simp] theorem leave_withSteps :
    (machine.withSteps steps).leave = machine.leave.withSteps steps := rfl

@[simp] theorem result_withSteps : (machine.withSteps steps).result = machine.result := rfl

theorem store_frames_length (name : String) (value : Int64) :
    (machine.store name value).frames.length = machine.frames.length := by
  obtain ⟨globals, frames, stepsLeft, sink⟩ := machine
  cases frames with
  | nil => rfl
  | cons frame frames =>
    simp only [store]
    split <;> rfl

theorem record_frames_length (value : Int64) :
    (machine.record value).frames.length = machine.frames.length := by
  obtain ⟨globals, frames, stepsLeft, sink⟩ := machine
  cases frames <;> rfl

end Machine

/-- Whether a fault comes from a limit and not from the program. -/
def RunError.isLimit : RunError → Bool
  | stepLimitExceeded _ => true
  | callDepthExceeded _ => true
  | _ => false

namespace Exec

abbrev Answer (σ α : Type) := EStateM.Result RunError (Machine σ) α

def finalMachine : Answer σ α → Machine σ
  | .ok _ machine => machine
  | .error _ machine => machine

def setSteps (steps : Nat) : Answer σ α → Answer σ α
  | .ok a machine => .ok a (machine.withSteps steps)
  | .error fault machine => .error fault (machine.withSteps steps)

def Settled : Answer σ α → Prop
  | .ok _ _ => True
  | .error fault _ => fault.isLimit = false

theorem bind_apply (first : Exec σ α) (next : α → Exec σ β) (machine : Machine σ) :
    (first >>= next) machine =
      match first machine with
      | .ok a machine => next a machine
      | .error fault machine => .error fault machine := by
  simp only [bind, EStateM.bind]
  cases first machine <;> rfl

theorem bind_of_ok {first : Exec σ α} {next : α → Exec σ β} {machine middle : Machine σ} {a : α}
    (done : first machine = .ok a middle) : (first >>= next) machine = next a middle := by
  rw [bind_apply, done]

theorem bind_of_error {first : Exec σ α} {next : α → Exec σ β} {machine middle : Machine σ}
    {fault : RunError} (failed : first machine = .error fault middle) :
    (first >>= next) machine = .error fault middle := by
  rw [bind_apply, failed]

theorem repeatWhile_eq_bind (limits : Limits) (cond : Exec σ Int64) (body : Exec σ Unit)
    (times : Nat) :
    repeatWhile limits cond body (times + 1) = cond >>= fun value =>
      if value = 0 then pure () else body >>= fun _ => repeatWhile limits cond body times := by
  funext machine
  simp only [repeatWhile, bind_apply]
  cases cond machine with
  | error fault after => rfl
  | ok value middle =>
    by_cases zero : value = 0
    · simp only [if_pos zero]
      rfl
    · simp only [if_neg zero, bind_apply]
      cases body middle <;> rfl

end Exec

/-- A relation that holds of evaluations as soon as it holds of what they are put together
from. On the left there may be one computation for each index, such as the limits it is under. -/
structure EvalCongruence (ι σ τ : Type) where
  Rel : {α : Type} → (ι → Exec σ α) → Exec τ α → Prop
  pure {α : Type} (a : α) : Rel (fun _ => pure a) (pure a)
  bind {α β : Type} {first : ι → Exec σ α} {first' : Exec τ α} {next : ι → α → Exec σ β}
    {next' : α → Exec τ β} (start : Rel first first')
    (rest : ∀ a, Rel (fun i => next i a) (next' a)) :
    Rel (fun i => first i >>= next i) (first' >>= next')
  load (name : String) : Rel (fun _ => Exec.load name) (Exec.load name)
  operate (op : Operator) (a b : Int64) :
    Rel (fun _ => Exec.operate op a b) (Exec.operate op a b)

namespace EvalCongruence

variable {ι τ : Type} (same : EvalCongruence ι σ τ)
  (call : ι → String → List Int64 → Exec σ Int64) {call' : String → List Int64 → Exec τ Int64}

mutual

theorem eval (calls : ∀ callee args, same.Rel (fun i => call i callee args) (call' callee args))
    (expr : Expr) : same.Rel (fun i => expr.eval (call i)) (expr.eval call') := by
  match expr with
  | .num digits => exact same.pure _
  | .var name => exact same.load name
  | .binary op left right =>
    simp only [Expr.eval]
    exact same.bind (eval calls left) fun a =>
      same.bind (eval calls right) fun b => same.operate op a b
  | .call callee args =>
    simp only [Expr.eval]
    exact same.bind (evalAll calls args) fun values => calls callee values

theorem evalAll
    (calls : ∀ callee args, same.Rel (fun i => call i callee args) (call' callee args))
    (args : List Expr) :
    same.Rel (fun i => Expr.evalAll (call i) args) (Expr.evalAll call' args) := by
  match args with
  | [] => exact same.pure _
  | arg :: args =>
    simp only [Expr.evalAll]
    exact same.bind (eval calls arg) fun value =>
      same.bind (evalAll calls args) fun values => same.pure _

end

end EvalCongruence

namespace Exec

/-- Whenever the first computation is not cut short, the second one gives its answer. -/
def Follows (limited free : Exec σ α) : Prop :=
  ∀ machine, Settled (limited machine) →
    free (machine.withSteps 0) = setSteps 0 (limited machine)

theorem Follows.bind {limited free : Exec σ α} {limitedNext freeNext : α → Exec σ β}
    (first : Follows limited free) (second : ∀ a, Follows (limitedNext a) (freeNext a)) :
    Follows (limited >>= limitedNext) (free >>= freeNext) := by
  intro machine settled
  cases start : limited machine with
  | ok a middle =>
    have same := first machine (by rw [start]; trivial)
    rw [start] at same
    rw [bind_of_ok start] at settled ⊢
    rw [bind_of_ok same]
    exact second a middle settled
  | error fault middle =>
    rw [bind_of_error start] at settled ⊢
    have same := first machine (by rw [start]; exact settled)
    rw [start] at same
    rw [bind_of_error same]
    rfl

theorem follows_pure (a : α) : Follows (pure a : Exec σ α) (pure a) := fun _ _ => rfl

theorem follows_throw_limit {fault : RunError} (limit : fault.isLimit) (free : Exec σ α) :
    Follows (throw fault) free := by
  intro machine settled
  have settled : fault.isLimit = false := settled
  rw [limit] at settled
  cases settled

theorem follows_load (name : String) : Follows (load name : Exec σ Int64) (load name) :=
  fun _ _ => rfl

theorem follows_store (name : String) (value : Int64) :
    Follows (store name value : Exec σ Unit) (store name value) := by
  intro machine _
  simp only [store, Machine.store_withSteps, setSteps]

theorem follows_record (value : Int64) : Follows (record value : Exec σ Unit) (record value) := by
  intro machine _
  simp only [record, Machine.record_withSteps, setSteps]

theorem put_withSteps [Sink σ] (steps : Nat) (value : Int64) (machine : Machine σ) :
    put value (machine.withSteps steps) = setSteps steps (put value machine) := by
  obtain ⟨globals, frames, stepsLeft, sink⟩ := machine
  simp only [put, Machine.withSteps]
  cases Sink.put value sink with
  | mk after reason? => cases reason? <;> rfl

theorem follows_put [Sink σ] (value : Int64) : Follows (put value : Exec σ Unit) (put value) :=
  fun machine _ => put_withSteps 0 value machine

theorem operate_withSteps (steps : Nat) (op : Operator) (a b : Int64) (machine : Machine σ) :
    operate op a b (machine.withSteps steps) = setSteps steps (operate op a b machine) := by
  simp only [operate]
  cases op.result? a b <;> rfl

theorem follows_operate (op : Operator) (a b : Int64) :
    Follows (operate op a b : Exec σ Int64) (operate op a b) :=
  fun machine _ => operate_withSteps 0 op a b machine

theorem stepsLeft_of_blind {done : Exec σ α} {machine : Machine σ}
    (blind : ∀ steps, done (machine.withSteps steps) = setSteps steps (done machine)) :
    (finalMachine (done machine)).stepsLeft = machine.stepsLeft := by
  have same : done machine = setSteps machine.stepsLeft (done machine) := blind machine.stepsLeft
  rw [same]
  cases done machine <;> rfl

/-- Taking a step first changes nothing that a walk sees. -/
theorem Follows.afterStep {limited free : Exec σ α} (limits : Limits)
    (follows : Follows limited free) : Follows (do step limits; limited) free := by
  intro machine settled
  obtain ⟨globals, frames, stepsLeft, sink⟩ := machine
  cases stepsLeft with
  | zero => cases settled
  | succ stepsLeft => exact follows ⟨globals, frames, stepsLeft, sink⟩ settled

theorem Follows.within {limited free : Exec σ Unit} (frame : Frame)
    (follows : Follows limited free) : Follows (within frame limited) (within frame free) := by
  intro machine settled
  simp only [Exec.within, Machine.enter_withSteps] at settled ⊢
  cases body : limited (machine.enter frame) with
  | ok value after =>
    rw [follows _ (by rw [body]; trivial), body]
    rfl
  | error fault after =>
    rw [body] at settled
    rw [follows _ (by rw [body]; exact settled), body]
    rfl

theorem Follows.call {env : Env} {limited free : Stmt → Exec σ Unit} (callee : String)
    (args : List Int64) (follows : ∀ stmt, Follows (limited stmt) (free stmt)) :
    Follows (call env limited callee args) (enterCall env.table free callee args) := by
  intro machine settled
  simp only [Exec.call, enterCall] at settled ⊢
  cases found : env.table.resolve callee args.length with
  | error fault => rfl
  | ok declaration =>
    simp only [found] at settled ⊢
    split at settled
    · rename_i shallow
      rw [if_pos shallow]
      exact (follows _).within _ machine settled
    · cases settled

theorem Follows.repeatWhile {limits other : Limits} {cond freeCond : Exec σ Int64}
    {body freeBody : Exec σ Unit} (conds : Follows cond freeCond) (bodies : Follows body freeBody)
    {bound rounds : Nat} (enough : bound ≤ rounds) :
    Follows (repeatWhile limits cond body bound) (repeatWhile other freeCond freeBody rounds) := by
  induction bound generalizing rounds with
  | zero => exact follows_throw_limit rfl _
  | succ bound ih =>
    obtain ⟨rounds, rfl⟩ : ∃ less, rounds = less + 1 := ⟨rounds - 1, by omega⟩
    rw [repeatWhile_eq_bind, repeatWhile_eq_bind]
    refine conds.bind fun value => ?_
    split
    · exact follows_pure ()
    · exact bodies.bind fun _ => ih (Nat.le_of_succ_le_succ enough)

end Exec

open Exec

def Exec.followsEval : EvalCongruence Unit σ σ where
  Rel limited free := Follows (limited ()) free
  pure := follows_pure
  bind start rest := start.bind rest
  load := follows_load
  operate := follows_operate

theorem Expr.follows_eval {call freeCall : String → List Int64 → Exec σ Int64}
    (calls : ∀ callee args, Follows (call callee args) (freeCall callee args)) (expr : Expr) :
    Follows (expr.eval call) (expr.eval freeCall) :=
  followsEval.eval (fun _ => call) calls expr

/-- The induction is on the bound of the execution: a walk with at least as many rounds
still has enough of them for whatever is executed inside. -/
theorem Stmt.follows_exec [Sink σ] (env : Env) (bound : Nat) (stmt : Stmt) (rounds : Nat)
    (enough : bound ≤ rounds) :
    Follows (Stmt.exec env bound stmt : Exec σ Unit)
      (stmt.walk (callWithin env.table rounds) rounds) := by
  induction bound generalizing stmt rounds with
  | zero => exact follows_throw_limit rfl _
  | succ bound ih =>
    obtain ⟨rounds, rfl⟩ : ∃ less, rounds = less + 1 := ⟨rounds - 1, by omega⟩
    have calls : ∀ callee args,
        Follows (Exec.call env (Stmt.exec env bound) callee args : Exec σ Int64)
          (callWithin env.table (rounds + 1) callee args) := fun callee args =>
      Follows.call callee args fun body => ih body rounds (by omega)
    have eval := Expr.follows_eval calls
    have inner : ∀ body, Follows (Stmt.exec env bound body : Exec σ Unit)
        (body.walk (callWithin env.table (rounds + 1)) (rounds + 1)) := fun body =>
      ih body (rounds + 1) (by omega)
    rw [Stmt.exec]
    apply Follows.afterStep
    cases stmt with
    | assign target value =>
      exact (eval value).bind fun v => (follows_store target v).bind fun _ => follows_record v
    | print value =>
      exact (eval value).bind fun v => (follows_put v).bind fun _ => follows_record v
    | ifThen cond body =>
      refine (eval cond).bind fun v => ?_
      split
      · exact follows_pure ()
      · exact inner body
    | ifElse cond body other =>
      refine (eval cond).bind fun v => ?_
      split
      · exact inner other
      · exact inner body
    | loop cond body => exact (eval cond).repeatWhile (inner body) enough
    | function name params body => exact follows_pure ()

theorem Stmt.follows_execAll [Sink σ] (env : Env) (bound : Nat) (stmts : List Stmt) :
    Follows (Stmt.execAll env bound stmts : Exec σ Unit)
      (Stmt.walkAll (callWithin env.table bound) bound stmts) := by
  induction stmts with
  | nil => exact follows_pure ()
  | cons stmt stmts ih =>
    exact (Stmt.follows_exec env bound stmt bound (Nat.le_refl _)).bind fun _ => ih

namespace Exec

/-- Where the free computation settles, it keeps the number of calls in progress and has a
cost. Given that many steps and `extra` more, the limited computation gives its answer
and has `extra` steps left. `room` is how many calls may still be entered. -/
def Pays (least room : Nat) (limited : Limits → Nat → Exec σ α) (free : Exec σ α) : Prop :=
  ∀ machine, Settled (free machine) →
    (finalMachine (free machine)).frames.length = machine.frames.length ∧
    ∃ cost, least ≤ cost ∧ ∀ limits extra bound,
      machine.frames.length + room ≤ limits.callDepth → cost + extra ≤ bound →
      limited limits bound (machine.withSteps (cost + extra)) = setSteps extra (free machine)

variable {least room : Nat}

/-- A computation that neither looks at the steps nor changes the calls costs nothing. -/
theorem pays_of_withSteps {free : Exec σ α}
    (steady : ∀ machine, (finalMachine (free machine)).frames.length = machine.frames.length)
    (blind : ∀ steps machine, free (machine.withSteps steps) = setSteps steps (free machine)) :
    Pays 0 room (fun _ _ => free) free := by
  intro machine _
  refine ⟨steady machine, 0, Nat.le_refl _, ?_⟩
  intro limits extra bound _ _
  rw [Nat.zero_add]
  exact blind extra machine

theorem Pays.bind {limited : Limits → Nat → Exec σ α} {free : Exec σ α}
    {limitedNext : Limits → Nat → α → Exec σ β} {freeNext : α → Exec σ β}
    (first : Pays least room limited free)
    (second : ∀ a, Pays 0 room (fun limits bound => limitedNext limits bound a) (freeNext a)) :
    Pays least room (fun limits bound => limited limits bound >>= limitedNext limits bound)
      (free >>= freeNext) := by
  intro machine settled
  cases start : free machine with
  | ok a middle =>
    obtain ⟨steady, cost, atLeast, pay⟩ := first machine (by rw [start]; trivial)
    rw [start] at steady pay
    rw [bind_of_ok start] at settled ⊢
    have same : middle.frames.length = machine.frames.length := steady
    obtain ⟨steadyNext, costNext, -, payNext⟩ := second a middle settled
    refine ⟨steadyNext.trans steady, cost + costNext, by omega, ?_⟩
    intro limits extra bound depth enough
    rw [Nat.add_assoc]
    exact (bind_of_ok (pay limits (costNext + extra) bound depth (by omega))).trans
      (payNext limits extra bound (by omega) (by omega))
  | error fault middle =>
    rw [bind_of_error start] at settled ⊢
    obtain ⟨steady, cost, atLeast, pay⟩ := first machine (by rw [start]; exact settled)
    rw [start] at steady pay
    refine ⟨steady, cost, atLeast, ?_⟩
    intro limits extra bound depth enough
    exact bind_of_error (pay limits extra bound depth enough)

theorem Pays.weaken {limited : Limits → Nat → Exec σ α} {free : Exec σ α}
    (pays : Pays least room limited free) : Pays 0 room limited free := by
  intro machine settled
  obtain ⟨steady, cost, -, pay⟩ := pays machine settled
  exact ⟨steady, cost, Nat.zero_le _, pay⟩

theorem pays_pure (a : α) : Pays 0 room (fun _ _ => (pure a : Exec σ α)) (pure a) :=
  pays_of_withSteps (fun _ => rfl) fun _ _ => rfl

theorem pays_load (name : String) :
    Pays 0 room (fun _ _ => (load name : Exec σ Int64)) (load name) :=
  pays_of_withSteps (fun _ => rfl) fun _ _ => rfl

theorem pays_store (name : String) (value : Int64) :
    Pays 0 room (fun _ _ => (store name value : Exec σ Unit)) (store name value) :=
  pays_of_withSteps (fun machine => machine.store_frames_length name value) fun steps machine => by
    simp only [store, Machine.store_withSteps, setSteps]

theorem pays_record (value : Int64) :
    Pays 0 room (fun _ _ => (record value : Exec σ Unit)) (record value) :=
  pays_of_withSteps (fun machine => machine.record_frames_length value) fun steps machine => by
    simp only [record, Machine.record_withSteps, setSteps]

theorem pays_put [Sink σ] (value : Int64) :
    Pays 0 room (fun _ _ => (put value : Exec σ Unit)) (put value) := by
  refine pays_of_withSteps (fun machine => ?_) fun steps machine =>
    put_withSteps steps value machine
  obtain ⟨globals, frames, stepsLeft, sink⟩ := machine
  simp only [put]
  cases Sink.put value sink with
  | mk after reason? => cases reason? <;> rfl

theorem pays_operate (op : Operator) (a b : Int64) :
    Pays 0 room (fun _ _ => (operate op a b : Exec σ Int64)) (operate op a b) := by
  refine pays_of_withSteps (fun machine => ?_) fun steps machine =>
    operate_withSteps steps op a b machine
  simp only [operate]
  cases op.result? a b <;> rfl

theorem Pays.afterStep {limited start : Limits → Nat → Exec σ α} {free : Exec σ α}
    (first : ∀ limits bound, start limits (bound + 1) = do step limits; limited limits bound)
    (pays : Pays 0 room limited free) : Pays 1 room start free := by
  intro machine settled
  obtain ⟨steady, cost, -, pay⟩ := pays machine settled
  refine ⟨steady, cost + 1, by omega, ?_⟩
  intro limits extra bound depth enough
  obtain ⟨bound, rfl⟩ : ∃ less, bound = less + 1 := ⟨bound - 1, by omega⟩
  rw [first, Nat.add_right_comm]
  have taken : (step limits : Exec σ Unit) (machine.withSteps (cost + extra + 1)) =
      .ok () (machine.withSteps (cost + extra)) := rfl
  rw [bind_of_ok taken]
  exact pay limits extra bound depth (by omega)

theorem Pays.within {limited : Limits → Nat → Exec σ Unit} {free : Exec σ Unit} (frame : Frame)
    (pays : Pays least room limited free) :
    Pays least (room + 1) (fun limits bound => within frame (limited limits bound))
      (within frame free) := by
  intro machine settled
  have entered : (machine.enter frame).frames.length = machine.frames.length + 1 := rfl
  simp only [Exec.within] at settled ⊢
  have settledBody : Settled (free (machine.enter frame)) := by
    cases body : free (machine.enter frame) with
    | ok value after => trivial
    | error fault after =>
      rw [body] at settled
      exact settled
  obtain ⟨steady, cost, atLeast, pay⟩ := pays _ settledBody
  have left : (finalMachine (free (machine.enter frame))).leave.frames.length =
      machine.frames.length := by
    simp only [Machine.leave, List.length_tail, steady, entered, Nat.add_sub_cancel]
  refine ⟨?_, cost, atLeast, ?_⟩
  · cases body : free (machine.enter frame) <;> rw [body] at left <;> exact left
  · intro limits extra bound depth enough
    rw [Machine.enter_withSteps, pay limits extra bound (by omega) enough]
    cases free (machine.enter frame) <;> rfl

theorem Pays.call {table : Table Stmt} {limited : Limits → Nat → Stmt → Exec σ Unit}
    {free : Stmt → Exec σ Unit} (callee : String) (args : List Int64)
    (pays : ∀ stmt, Pays 1 room (fun limits bound => limited limits bound stmt) (free stmt)) :
    Pays 0 (room + 1)
      (fun limits bound => call ⟨table, limits⟩ (limited limits bound) callee args)
      (enterCall table free callee args) := by
  intro machine settled
  simp only [Exec.call, enterCall] at settled ⊢
  cases found : table.resolve callee args.length with
  | error fault =>
    refine ⟨rfl, 0, Nat.le_refl _, ?_⟩
    intro limits extra bound _ _
    rw [Nat.zero_add]
    rfl
  | ok declaration =>
    simp only [found] at settled ⊢
    obtain ⟨steady, cost, -, pay⟩ :=
      (pays declaration.body).within { params := declaration.params.zip args } machine settled
    refine ⟨steady, cost, Nat.zero_le _, ?_⟩
    intro limits extra bound depth enough
    rw [if_pos (by rw [Machine.withSteps_frames]; omega)]
    exact pay limits extra bound depth enough

/-- Every round but the last executes the body and so costs a step: the bound on the
rounds of the limited loop is never met before the steps are spent. -/
theorem pays_rounds {other : Limits} {cond : Limits → Nat → Exec σ Int64}
    {freeCond : Exec σ Int64} {body : Limits → Nat → Exec σ Unit} {freeBody : Exec σ Unit}
    (conds : Pays 0 room cond freeCond) (bodies : Pays 1 room body freeBody)
    (rounds : Nat) (machine : Machine σ)
    (settled : Settled (repeatWhile other freeCond freeBody rounds machine)) :
    (finalMachine (repeatWhile other freeCond freeBody rounds machine)).frames.length =
        machine.frames.length ∧
      ∃ cost, ∀ limits extra bound times,
        machine.frames.length + room ≤ limits.callDepth → cost + extra ≤ bound → cost ≤ times →
        repeatWhile limits (cond limits bound) (body limits bound) (times + 1)
            (machine.withSteps (cost + extra)) =
          setSteps extra (repeatWhile other freeCond freeBody rounds machine) := by
  induction rounds generalizing machine with
  | zero => cases settled
  | succ rounds ih =>
    simp only [Exec.repeatWhile] at settled ⊢
    cases test : freeCond machine with
    | error fault middle =>
      rw [test] at settled
      obtain ⟨steady, cost, -, pay⟩ := conds machine (by rw [test]; exact settled)
      rw [test] at steady pay
      refine ⟨steady, cost, ?_⟩
      intro limits extra bound times depth enough _
      simp only [pay limits extra bound depth enough, setSteps]
    | ok value middle =>
      obtain ⟨steady, cost, -, pay⟩ := conds machine (by rw [test]; trivial)
      rw [test] at steady pay
      simp only [test] at settled ⊢
      by_cases zero : value = 0
      · simp only [if_pos zero]
        refine ⟨steady, cost, ?_⟩
        intro limits extra bound times depth enough _
        simp only [pay limits extra bound depth enough, setSteps, if_pos zero]
      · simp only [if_neg zero] at settled ⊢
        have steady : middle.frames.length = machine.frames.length := steady
        cases round : freeBody middle with
        | error fault after =>
          rw [round] at settled
          obtain ⟨steadyBody, costBody, -, payBody⟩ :=
            bodies middle (by rw [round]; exact settled)
          rw [round] at steadyBody payBody
          refine ⟨steadyBody.trans steady, cost + costBody, ?_⟩
          intro limits extra bound times depth enough _
          simp only [Nat.add_assoc, pay limits (costBody + extra) bound depth (by omega), setSteps,
            if_neg zero, payBody limits extra bound (by omega) (by omega)]
        | ok _ after =>
          obtain ⟨steadyBody, costBody, some, payBody⟩ := bodies middle (by rw [round]; trivial)
          rw [round] at steadyBody payBody
          simp only [round] at settled ⊢
          have steadyBody : after.frames.length = middle.frames.length := steadyBody
          obtain ⟨steadyRest, costRest, payRest⟩ := ih after settled
          refine ⟨steadyRest.trans (steadyBody.trans steady), cost + costBody + costRest, ?_⟩
          intro limits extra bound times depth enough more
          -- the body has cost a step, so the rounds are not used up
          obtain ⟨times, rfl⟩ : ∃ less, times = less + 1 := ⟨times - 1, by omega⟩
          rw [show cost + costBody + costRest + extra = cost + (costBody + (costRest + extra)) by
            omega]
          simp only [Exec.repeatWhile,
            pay limits (costBody + (costRest + extra)) bound depth (by omega), setSteps,
            if_neg zero, payBody limits (costRest + extra) bound (by omega) (by omega)]
          exact payRest limits extra bound times (by omega) (by omega) (by omega)

theorem Pays.repeatWhile {other : Limits} {cond : Limits → Nat → Exec σ Int64}
    {freeCond : Exec σ Int64} {body : Limits → Nat → Exec σ Unit} {freeBody : Exec σ Unit}
    (conds : Pays 0 room cond freeCond) (bodies : Pays 1 room body freeBody) (rounds : Nat) :
    Pays 0 room
      (fun limits bound =>
        repeatWhile limits (cond limits bound) (body limits bound) (bound + 1))
      (repeatWhile other freeCond freeBody rounds) := by
  intro machine settled
  obtain ⟨steady, cost, pay⟩ := pays_rounds conds bodies rounds machine settled
  exact ⟨steady, cost, Nat.zero_le _, fun limits extra bound depth enough =>
    pay limits extra bound bound depth enough (by omega)⟩

end Exec

def Exec.paysEval (room : Nat) : EvalCongruence (Limits × Nat) σ σ where
  Rel limited free := Pays 0 room (fun limits bound => limited (limits, bound)) free
  pure := pays_pure
  bind start rest := start.bind rest
  load := pays_load
  operate := pays_operate

theorem Expr.pays_eval {room : Nat} {call : Limits → Nat → String → List Int64 → Exec σ Int64}
    {freeCall : String → List Int64 → Exec σ Int64}
    (calls : ∀ callee args, Pays 0 room (fun limits bound => call limits bound callee args)
      (freeCall callee args)) (expr : Expr) :
    Pays 0 room (fun limits bound => expr.eval (call limits bound)) (expr.eval freeCall) :=
  (paysEval room).eval (fun bounds => call bounds.1 bounds.2) calls expr

theorem Stmt.pays_walk [Sink σ] {table : Table Stmt} {room rounds : Nat}
    {freeCall : String → List Int64 → Exec σ Int64}
    (calls : ∀ callee args, Pays 0 room
      (fun limits bound =>
        Exec.call ⟨table, limits⟩ (Stmt.exec ⟨table, limits⟩ bound) callee args)
      (freeCall callee args)) (stmt : Stmt) :
    Pays 1 room (fun limits bound => Stmt.exec ⟨table, limits⟩ bound stmt)
      (stmt.walk freeCall rounds) := by
  have eval := Expr.pays_eval calls
  induction stmt with
  | assign target value =>
    exact Pays.afterStep (fun limits bound => by rw [Stmt.exec])
      ((eval value).bind fun v => (pays_store target v).bind fun _ => pays_record v)
  | print value =>
    exact Pays.afterStep (fun limits bound => by rw [Stmt.exec])
      ((eval value).bind fun v => (pays_put v).bind fun _ => pays_record v)
  | ifThen cond body ih =>
    refine Pays.afterStep (fun limits bound => by rw [Stmt.exec]) ((eval cond).bind fun v => ?_)
    split
    · exact pays_pure ()
    · exact ih.weaken
  | ifElse cond body other ihBody ihOther =>
    refine Pays.afterStep (fun limits bound => by rw [Stmt.exec]) ((eval cond).bind fun v => ?_)
    split
    · exact ihOther.weaken
    · exact ihBody.weaken
  | loop cond body ih =>
    exact Pays.afterStep (fun limits bound => by rw [Stmt.exec])
      ((eval cond).repeatWhile ih rounds)
  | function name params body ih =>
    exact Pays.afterStep (fun limits bound => by rw [Stmt.exec]) (pays_pure ())

theorem Exec.pays_callWithin [Sink σ] (table : Table Stmt) (rounds : Nat) (callee : String)
    (args : List Int64) :
    Pays 0 rounds
      (fun limits bound =>
        (Exec.call ⟨table, limits⟩ (Stmt.exec ⟨table, limits⟩ bound) callee args : Exec σ Int64))
      (callWithin table rounds callee args) := by
  induction rounds generalizing callee args with
  | zero =>
    intro machine settled
    cases settled
  | succ rounds ih => exact Pays.call callee args fun stmt => Stmt.pays_walk ih stmt

theorem Stmt.pays_walkAll [Sink σ] (table : Table Stmt) (rounds : Nat) (stmts : List Stmt) :
    Pays 0 rounds
      (fun limits bound => (Stmt.execAll ⟨table, limits⟩ bound stmts : Exec σ Unit))
      (Stmt.walkAll (callWithin table rounds) rounds stmts) := by
  induction stmts with
  | nil => exact pays_pure ()
  | cons stmt stmts ih =>
    exact (Stmt.pays_walk (Exec.pays_callWithin table rounds) stmt).weaken.bind fun _ => ih

def Exec.outcome : Answer σ Unit → Except RunError Unit × σ
  | .ok () machine => (.ok (), machine.sink)
  | .error fault machine => (.error fault, machine.sink)

theorem Exec.outcome_setSteps (steps : Nat) (answer : Answer σ Unit) :
    outcome (setSteps steps answer) = outcome answer := by
  cases answer <;> rfl

theorem Exec.settled_of_outcome {answer : Answer σ Unit}
    (own : ∀ fault, (outcome answer).1 = .error fault → fault.isLimit = false) :
    Settled answer := by
  cases answer with
  | ok value machine => trivial
  | error fault machine => exact own fault rfl

namespace Linked

theorem run_eq_outcome [Sink σ] (linked : Linked) (limits : Limits) (sink : σ) :
    linked.run limits sink =
      outcome (Stmt.execAll ⟨linked.table, limits⟩ limits.steps linked.program.statements
        { stepsLeft := limits.steps, sink }) := by
  rw [run]
  cases Stmt.execAll ⟨linked.table, limits⟩ limits.steps linked.program.statements
    { stepsLeft := limits.steps, sink } <;> rfl

def walk [Sink σ] (linked : Linked) (rounds : Nat) (sink : σ) : Except RunError Unit × σ :=
  match Stmt.walkAll (callWithin linked.table rounds) rounds linked.program.statements
      { stepsLeft := 0, sink } with
  | .ok () machine => (.ok (), machine.sink)
  | .error fault machine => (.error fault, machine.sink)

theorem walk_eq_outcome [Sink σ] (linked : Linked) (rounds : Nat) (sink : σ) :
    linked.walk rounds sink =
      outcome (Stmt.walkAll (callWithin linked.table rounds) rounds linked.program.statements
        { stepsLeft := 0, sink }) := by
  rw [walk]
  cases Stmt.walkAll (callWithin linked.table rounds) rounds linked.program.statements
    { stepsLeft := 0, sink } <;> rfl

/-- Some limits let a program come to an end of its own exactly if some number of rounds
does, and then both give the same answer and leave the same in the sink. -/
theorem run_iff_walk [Sink σ] (linked : Linked) (sink after : σ) (answer : Except RunError Unit)
    (own : ∀ fault, answer = .error fault → fault.isLimit = false) :
    (∃ limits, linked.run limits sink = (answer, after)) ↔
      ∃ rounds, linked.walk rounds sink = (answer, after) := by
  constructor
  · rintro ⟨limits, ran⟩
    refine ⟨limits.steps, ?_⟩
    rw [run_eq_outcome] at ran
    have same := Stmt.follows_execAll ⟨linked.table, limits⟩ limits.steps
      linked.program.statements { stepsLeft := limits.steps, sink }
      (settled_of_outcome (by rwa [ran]))
    rw [walk_eq_outcome, ← ran]
    exact (congrArg outcome same).trans (outcome_setSteps 0 _)
  · rintro ⟨rounds, walked⟩
    rw [walk_eq_outcome] at walked
    obtain ⟨-, cost, -, pay⟩ := Stmt.pays_walkAll linked.table rounds linked.program.statements
      { stepsLeft := 0, sink } (settled_of_outcome (by rwa [walked]))
    refine ⟨{ steps := cost, callDepth := rounds }, ?_⟩
    have same := pay { steps := cost, callDepth := rounds } 0 cost (by simp) (by simp)
    rw [run_eq_outcome, ← walked]
    exact (congrArg outcome same).trans (outcome_setSteps 0 _)

end Linked

end ImpToC
