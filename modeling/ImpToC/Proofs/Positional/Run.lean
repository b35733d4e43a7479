import ImpToC.Run
import ImpToC.Proofs.Positional.Lower
import ImpToC.Proofs.Spelling

/-! Running a tree by position. The machine goes over the nodes themselves, over bodies that it
finds in the table as well as over the statements of the program, and may be in any state when
it comes to one. Where the tree has been linked it does what it does for the program, step by
step, so no run is lost. -/
namespace ImpToC

abbrev MachineWalk (σ α : Type) := EStateM (WalkError RunError) (Machine σ) α

namespace Positional

variable {σ α β : Type}

def perform (done : Exec σ α) : MachineWalk σ α := EStateM.adaptExcept .fault done

def demand : Option α → MachineWalk σ α
  | some a => pure a
  | none => throw .lost

/-- The value of a numeral, if it is a run of digits and the value is in range. -/
def numeral? (digits : String) : Option Int64 :=
  if digits.toList ≠ [] ∧ digits.toList.all Char.isDigit ∧
      Decimal.value digits.toList ≤ Decimal.maxValue then
    some (Int64.ofNat (Decimal.value digits.toList))
  else none

mutual

def eval (call : String → List Int64 → MachineWalk σ Int64) : Tree → MachineWalk σ Int64
  | .node .num value? children => do
    demand (numeral? (← demand (Tree.node .num value? children).number?))
  | .node .ident value? children => do
    perform (Exec.load (← demand (Tree.node .ident value? children).name?))
  | .node .binary value? children =>
    match children with
    | left :: right :: _ => do
      let a ← eval call left
      let b ← eval call right
      let kind ← demand (Tree.node .binary value? children).operator?
      perform (Exec.operate (← demand kind.operator?) a b)
    | _ => throw .lost
  | .node .call _ children =>
    match children with
    | callee :: args => do
      let name ← demand callee.name?
      let values ← evalAll call args
      call name values
    | [] => throw .lost
  | _ => throw .lost

def evalAll (call : String → List Int64 → MachineWalk σ Int64) :
    List Tree → MachineWalk σ (List Int64)
  | [] => pure []
  | arg :: args => do
    let value ← eval call arg
    let values ← evalAll call args
    pure (value :: values)

end

def within (frame : Frame) (body : MachineWalk σ Unit) : MachineWalk σ Int64 := fun machine =>
  match body (machine.enter frame) with
  | .ok () machine => .ok machine.result machine.leave
  | .error stop machine => .error stop machine.leave

def call (table : Table Tree) (limits : Limits) (run : Tree → MachineWalk σ Unit) (callee : String)
    (args : List Int64) : MachineWalk σ Int64 := fun machine =>
  match table.resolve callee args.length with
  | .error fault => .error (.fault (.function fault)) machine
  | .ok declared =>
    if machine.frames.length < limits.callDepth then
      within { params := declared.params.zip args } (run declared.body) machine
    else
      .error (.fault (.callDepthExceeded limits.callDepth)) machine

def repeatWhile (limits : Limits) (cond : MachineWalk σ Int64) (body : MachineWalk σ Unit) :
    Nat → MachineWalk σ Unit
  | 0, machine => .error (.fault (.stepLimitExceeded limits.steps)) machine
  | bound + 1, machine =>
    match cond machine with
    | .error stop machine => .error stop machine
    | .ok value machine =>
      if value = 0 then .ok () machine
      else
        match body machine with
        | .error stop machine => .error stop machine
        | .ok () machine => repeatWhile limits cond body bound machine

/-- Executes a node on a machine with at most `bound` steps left. -/
def exec [Sink σ] (table : Table Tree) (limits : Limits) : Nat → Tree → MachineWalk σ Unit
  | 0, _ => throw (.fault (.stepLimitExceeded limits.steps))
  | bound + 1, tree => do
    perform (Exec.step limits)
    let eval := eval (call table limits (exec table limits bound))
    match tree.kind with
    | .assign =>
      let value ← eval (← demand tree.children[1]?)
      let target ← demand tree.children[0]?
      perform (Exec.store (← demand target.name?) value)
      perform (Exec.record value)
    | .print =>
      let value ← eval (← demand tree.children[0]?)
      perform (Exec.put value)
      perform (Exec.record value)
    | .ifElse =>
      let value ← eval (← demand tree.children[0]?)
      if value = 0 then
        match tree.children[2]? with
        | some other => exec table limits bound other
        | none => pure ()
      else exec table limits bound (← demand tree.children[1]?)
    | .loop =>
      repeatWhile limits (do eval (← demand tree.children[0]?))
        (do exec table limits bound (← demand tree.children[1]?)) (bound + 1)
    | .function => pure ()
    | _ => throw .lost

def execAll [Sink σ] (table : Table Tree) (limits : Limits) (bound : Nat) :
    List Tree → MachineWalk σ Unit
  | [] => pure ()
  | tree :: trees => do
    exec table limits bound tree
    execAll table limits bound trees

def run [Sink σ] (tree : Tree) (limits : Limits) (sink : σ) : Walk RunError Unit × σ :=
  match link tree with
  | .error stop => (.error (stop.map LinkError.toRunError), sink)
  | .ok table =>
    match execAll table limits limits.steps tree.children { stepsLeft := limits.steps, sink } with
    | .ok () machine => (.ok (), machine.sink)
    | .error stop machine => (.error stop, machine.sink)

def write (tree : Tree) (limits : Limits) (writer : Writer) : Walk RunError Unit × Writer :=
  match run tree limits writer with
  | (.ok (), writer) =>
    match writer.flush with
    | (writer, none) => (.ok (), writer)
    | (writer, some reason) => (.error (.fault (.output reason)), writer)
  | (.error stop, writer) => (.error stop, writer)

theorem perform_bind (first : Exec σ α) (next : α → Exec σ β) :
    perform (first >>= next) = perform first >>= fun a => perform (next a) := by
  funext machine
  simp only [perform, bind, EStateM.adaptExcept, EStateM.bind]
  cases first machine <;> rfl

theorem perform_within (frame : Frame) (body : Exec σ Unit) :
    perform (Exec.within frame body) = within frame (perform body) := by
  funext machine
  simp only [perform, EStateM.adaptExcept, Exec.within, within]
  cases body (machine.enter frame) <;> rfl

theorem perform_repeatWhile (limits : Limits) (cond : Exec σ Int64) (body : Exec σ Unit)
    (bound : Nat) :
    perform (Exec.repeatWhile limits cond body bound) =
      repeatWhile limits (perform cond) (perform body) bound := by
  funext machine
  induction bound generalizing machine with
  | zero => rfl
  | succ bound ih =>
    simp only [perform, EStateM.adaptExcept, Exec.repeatWhile, repeatWhile] at ih ⊢
    cases cond machine with
    | error fault machine => rfl
    | ok value machine =>
      by_cases ended : value = 0
      · simp only [if_pos ended]
      · simp only [if_neg ended]
        cases body machine with
        | error fault machine => rfl
        | ok done machine => exact ih machine

theorem numeral?_eq_some {digits : String} (canonical : Decimal.isCanonical digits) :
    numeral? digits = some (Int64.ofNat (Decimal.value digits.toList)) := by
  obtain ⟨n, fits, rfl⟩ := Decimal.isCanonical_iff.1 canonical
  rw [numeral?, if_pos]
  rw [Decimal.value_toString, Nat.toString_eq_repr, Nat.toList_repr]
  exact ⟨Nat.toDigits_ne_nil, List.all_eq_true.2 fun c =>
    Nat.isDigit_of_mem_toDigits (by omega) (by omega), fits⟩

section Eval

variable {inTree : String → List Int64 → MachineWalk σ Int64}
  {inProgram : String → List Int64 → Exec σ Int64}

mutual

theorem eval_toTree (same : ∀ callee args, inTree callee args = perform (inProgram callee args))
    (expr : Expr) (valid : expr.isValid) :
    eval inTree expr.toTree = perform (expr.eval inProgram) := by
  match expr with
  | .num digits =>
    rw [Expr.isValid] at valid
    change (demand (numeral? digits) : MachineWalk σ Int64) = _
    rw [numeral?_eq_some valid]
    rfl
  | .var name => rfl
  | .binary op left right =>
    rw [Expr.isValid, Bool.and_eq_true] at valid
    rw [Expr.toTree, Tree.binary, eval, Expr.eval, perform_bind, eval_toTree same left valid.1,
      eval_toTree same right valid.2]
    refine bind_congr fun a => ?_
    rw [perform_bind]
    refine bind_congr fun b => ?_
    change (demand op.kind.operator? >>= fun op => perform (Exec.operate op a b)) = _
    rw [Operator.operator?_kind]
    rfl
  | .call callee args =>
    rw [Expr.isValid, Bool.and_eq_true] at valid
    rw [Expr.toTree, Tree.call, eval, Expr.eval, perform_bind, evalAll_toTrees same args valid.2]
    exact bind_congr fun values => same callee values

theorem evalAll_toTrees (same : ∀ callee args, inTree callee args = perform (inProgram callee args))
    (args : List Expr) (valid : Expr.allValid args) :
    evalAll inTree (Expr.toTrees args) = perform (Expr.evalAll inProgram args) := by
  match args with
  | [] => rfl
  | arg :: args =>
    rw [Expr.allValid, Bool.and_eq_true] at valid
    rw [Expr.toTrees, evalAll, Expr.evalAll, perform_bind, eval_toTree same arg valid.1,
      evalAll_toTrees same args valid.2]
    refine bind_congr fun value => ?_
    rw [perform_bind]
    rfl

end

end Eval

theorem call_map {env : Env} {inTree : Tree → MachineWalk σ Unit} {inProgram : Stmt → Exec σ Unit}
    (same : ∀ declared ∈ env.table.declarations,
      inTree declared.body.toTree = perform (inProgram declared.body))
    (callee : String) (args : List Int64) :
    call (env.table.map Stmt.toTree) env.limits inTree callee args =
      perform (Exec.call env inProgram callee args) := by
  funext machine
  simp only [call, perform, EStateM.adaptExcept, Exec.call, Table.resolve_map]
  cases resolved : env.table.resolve callee args.length with
  | error fault => rfl
  | ok declared =>
    have listed := (Table.get?_eq_some (Table.resolve_eq_ok resolved).1).1
    simp only [Except.map, Declaration.map, same declared listed]
    split
    · exact (congrFun (perform_within _ _) machine).symm
    · rfl

/-- The declared functions are well spelled, with their bodies. -/
def Spelled (env : Env) : Prop := ∀ declared ∈ env.table.declarations, declared.body.isValid

variable [Sink σ]

theorem exec_toTree {env : Env} (spelled : Spelled env) (bound : Nat) (stmt : Stmt)
    (valid : stmt.isValid) :
    exec (env.table.map Stmt.toTree) env.limits bound stmt.toTree =
      perform (stmt.exec env bound : Exec σ Unit) := by
  induction bound generalizing stmt with
  | zero => rfl
  | succ bound ih =>
    -- A body that a call finds in the table is executed with a smaller bound.
    have calls : ∀ callee args, call (env.table.map Stmt.toTree) env.limits
        (exec (env.table.map Stmt.toTree) env.limits bound) callee args =
          perform (Exec.call env (Stmt.exec env bound) callee args : Exec σ Int64) :=
      call_map fun declared listed => ih declared.body (spelled declared listed)
    rw [exec, Stmt.exec, perform_bind]
    refine bind_congr fun _ => ?_
    cases stmt with
    | assign target value =>
      rw [Stmt.isValid, Bool.and_eq_true] at valid
      change (eval _ value.toTree >>= _) = _
      rw [eval_toTree calls value valid.2, perform_bind]
      refine bind_congr fun result => ?_
      rw [perform_bind]
      rfl
    | print value =>
      rw [Stmt.isValid] at valid
      change (eval _ value.toTree >>= _) = _
      rw [eval_toTree calls value valid, perform_bind]
      exact bind_congr fun result => (perform_bind ..).symm
    | ifThen cond body =>
      rw [Stmt.isValid, Bool.and_eq_true] at valid
      change (eval _ cond.toTree >>= _) = _
      rw [eval_toTree calls cond valid.1, perform_bind]
      refine bind_congr fun result => ?_
      by_cases zero : result = 0
      · rw [if_pos zero, if_pos zero]
        rfl
      · rw [if_neg zero, if_neg zero]
        exact ih body valid.2
    | ifElse cond body other =>
      rw [Stmt.isValid, Bool.and_eq_true, Bool.and_eq_true] at valid
      change (eval _ cond.toTree >>= _) = _
      rw [eval_toTree calls cond valid.1.1, perform_bind]
      refine bind_congr fun result => ?_
      by_cases zero : result = 0
      · rw [if_pos zero, if_pos zero]
        exact ih other valid.2
      · rw [if_neg zero, if_neg zero]
        exact ih body valid.1.2
    | loop cond body =>
      rw [Stmt.isValid, Bool.and_eq_true] at valid
      rw [perform_repeatWhile, ← eval_toTree calls cond valid.1, ← ih body valid.2]
      rfl
    | function name params body => rfl

theorem execAll_toTrees {env : Env} (spelled : Spelled env) (bound : Nat) (stmts : List Stmt)
    (valid : stmts.all Stmt.isValid) :
    execAll (env.table.map Stmt.toTree) env.limits bound (stmts.map Stmt.toTree) =
      perform (Stmt.execAll env bound stmts : Exec σ Unit) := by
  induction stmts with
  | nil => rfl
  | cons stmt stmts ih =>
    rw [List.all_cons, Bool.and_eq_true] at valid
    rw [List.map_cons, execAll, Stmt.execAll, perform_bind, exec_toTree spelled bound stmt valid.1,
      ih valid.2]

def answer (done : Except RunError Unit × σ) : Walk RunError Unit × σ := (lift done.1, done.2)

theorem run_eq (tree : Tree) (limits : Limits) (sink : σ) :
    run tree limits sink = answer (tree.run limits sink) := by
  rw [run, link_eq, Tree.run]
  cases link : Linked.ofTree tree with
  | error fault => rfl
  | ok linked =>
    obtain ⟨encoded, sound⟩ := Linked.ofTree_eq_ok link
    have spelled : Spelled ⟨linked.table, limits⟩ :=
      fun declared listed => (sound.valid_of_declared listed).body
    have walked : execAll (linked.table.map Stmt.toTree) limits limits.steps tree.children =
        perform (Stmt.execAll ⟨linked.table, limits⟩ limits.steps linked.program.statements :
          Exec σ Unit) := by
      rw [← encoded]
      exact execAll_toTrees spelled limits.steps linked.program.statements sound.valid
    simp only [Except.map, lift_ok, walked, Linked.run, perform, EStateM.adaptExcept]
    cases Stmt.execAll ⟨linked.table, limits⟩ limits.steps linked.program.statements
      ({ stepsLeft := limits.steps, sink } : Machine σ) <;> rfl

theorem write_eq (tree : Tree) (limits : Limits) (writer : Writer) :
    write tree limits writer = answer (tree.write limits writer) := by
  rw [write, run_eq, Tree.write]
  rcases tree.run limits writer with ⟨_ | _, kept, room?, whenFull, flushFault?, flushes⟩
  · rfl
  · cases flushFault? <;> rfl

theorem lift_ne_lost {ε α : Type} (done : Except ε α) : lift done ≠ .error .lost := by
  cases done <;> nofun

theorem judge_ne_lost {ε α : Type} (read : Except ε α) : judge read ≠ .error .lost := by
  cases read <;> nofun

/-- No walk over a tree is lost, whatever the tree. The walks that check its layout, generate
its code and run it, under any limits and into any sink, take what they need by position, in
the bodies of functions and in every state of the machine too; each gives what is given by the
program that the tree encodes, or the same fault, and never comes to a kind of node that does
not belong there, a child that is not there or a value that is missing. -/
theorem walks_not_lost (tree : Tree) (limits : Limits) :
    (check tree = judge (Program.ofTree tree) ∧ check tree ≠ .error .lost) ∧
      (generate tree = lift tree.generate ∧ generate tree ≠ .error .lost) ∧
      (∀ (σ : Type) [Sink σ] (sink : σ), run tree limits sink = answer (tree.run limits sink) ∧
        (run tree limits sink).1 ≠ .error .lost) ∧
      ∀ writer, write tree limits writer = answer (tree.write limits writer) ∧
        (write tree limits writer).1 ≠ .error .lost := by
  refine ⟨⟨check_eq tree, ?_⟩, ⟨generate_eq tree, ?_⟩,
    fun σ _ sink => ⟨run_eq tree limits sink, ?_⟩, fun writer => ⟨write_eq tree limits writer, ?_⟩⟩
  · rw [check_eq]
    exact judge_ne_lost _
  · rw [generate_eq]
    exact lift_ne_lost _
  · rw [run_eq]
    exact lift_ne_lost _
  · rw [write_eq]
    exact lift_ne_lost _

end Positional

end ImpToC
