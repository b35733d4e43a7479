import Mathlib.Order.UpperLower.Basic
import ImpToC.Proofs.Unbounded

/-! Limits only cut runs short. A run that is allowed more steps and deeper calls goes the way
of the first one, with the additional steps left over, until that one meets a limit; from
there on it can only add to what has been printed.

The two runs share everything but the steps they have left and the limits they are held to, so
they are compared computation by computation, from the same machine. -/
namespace ImpToC

variable {σ α β : Type}

structure Growth (σ : Type) [Sink σ] where
  Le : σ → σ → Prop
  refl (sink : σ) : Le sink sink
  trans {first second third : σ} (below : Le first second) (above : Le second third) :
    Le first third
  put (value : Int64) (sink : σ) : Le sink (Sink.put value sink).1

/-- A fault of a run under the first limits that need not come up under the second. -/
def RunError.Lifted (limits more : Limits) : RunError → Prop
  | stepLimitExceeded _ => True
  | callDepthExceeded _ => limits.callDepth < more.callDepth
  | _ => False

namespace RunError

variable {limits more : Limits} {fault : RunError}

theorem isLimit_of_lifted (lifted : fault.Lifted limits more) : fault.isLimit = true := by
  cases fault with
  | stepLimitExceeded limit => rfl
  | callDepthExceeded limit => rfl
  | _ => cases lifted

theorem eq_stepLimitExceeded_of_lifted (sameDepth : limits.callDepth = more.callDepth)
    (lifted : fault.Lifted limits more) : ∃ limit, fault = .stepLimitExceeded limit := by
  cases fault with
  | stepLimitExceeded limit => exact ⟨limit, rfl⟩
  | callDepthExceeded limit => exact absurd sameDepth (Nat.ne_of_lt lifted)
  | _ => cases lifted

end RunError

namespace Machine

def addSteps (extra : Nat) (machine : Machine σ) : Machine σ :=
  machine.withSteps (machine.stepsLeft + extra)

variable (extra : Nat) (machine : Machine σ)

@[simp] theorem addSteps_frames : (machine.addSteps extra).frames = machine.frames := rfl

@[simp] theorem addSteps_sink : (machine.addSteps extra).sink = machine.sink := rfl

@[simp] theorem store_sink (name : String) (value : Int64) :
    (machine.store name value).sink = machine.sink := by
  obtain ⟨globals, frames, stepsLeft, sink⟩ := machine
  cases frames with
  | nil => rfl
  | cons frame frames =>
    simp only [store]
    split <;> rfl

@[simp] theorem record_sink (value : Int64) : (machine.record value).sink = machine.sink := by
  obtain ⟨globals, frames, stepsLeft, sink⟩ := machine
  cases frames <;> rfl

theorem store_addSteps (name : String) (value : Int64) :
    (machine.addSteps extra).store name value = (machine.store name value).addSteps extra := by
  obtain ⟨globals, frames, stepsLeft, sink⟩ := machine
  cases frames with
  | nil => rfl
  | cons frame frames =>
    simp only [store, addSteps, withSteps]
    split <;> rfl

theorem record_addSteps (value : Int64) :
    (machine.addSteps extra).record value = (machine.record value).addSteps extra := by
  obtain ⟨globals, frames, stepsLeft, sink⟩ := machine
  cases frames <;> rfl

end Machine

namespace Exec

section

variable {table : Table Stmt} {limits : Limits} {run : Stmt → Exec σ Unit} {callee : String}
  {args : List Int64} {declaration : Declaration Stmt} {machine : Machine σ}

theorem call_of_unresolved {fault : FunctionError}
    (stray : table.resolve callee args.length = .error fault) :
    call ⟨table, limits⟩ run callee args machine = .error (.function fault) machine := by
  simp only [call, stray]

theorem call_of_shallow (found : table.resolve callee args.length = .ok declaration)
    (shallow : machine.frames.length < limits.callDepth) :
    call ⟨table, limits⟩ run callee args machine =
      within { params := declaration.params.zip args } (run declaration.body) machine := by
  simp only [call, found, if_pos shallow]

theorem call_of_deep (found : table.resolve callee args.length = .ok declaration)
    (deep : ¬machine.frames.length < limits.callDepth) :
    call ⟨table, limits⟩ run callee args machine =
      .error (.callDepthExceeded limits.callDepth) machine := by
  simp only [call, found, if_neg deep]

end

variable [Sink σ]

/-- The second answer is the first one with so many more steps left, or at least has grown
from it if a limit that is lifted was met. -/
inductive Outlasts (growth : Growth σ) (limits more : Limits) (extra : Nat) :
    Answer σ α → Answer σ α → Prop where
  | ok {a : α} {machine : Machine σ} :
    Outlasts growth limits more extra (.ok a machine) (.ok a (machine.addSteps extra))
  | error {fault : RunError} {machine : Machine σ} :
    Outlasts growth limits more extra (.error fault machine)
      (.error fault (machine.addSteps extra))
  | lifted {fault : RunError} {machine : Machine σ} {answer : Answer σ α}
    (isLifted : fault.Lifted limits more)
    (grown : growth.Le machine.sink (finalMachine answer).sink) :
    Outlasts growth limits more extra (.error fault machine) answer

/-- The second computation is the first one under the second limits. -/
structure Extends (growth : Growth σ) (limits more : Limits) (short long : Exec σ α) : Prop where
  grows : ∀ machine, growth.Le machine.sink (finalMachine (long machine)).sink
  outlasts : ∀ machine extra,
    Outlasts growth limits more extra (short machine) (long (machine.addSteps extra))

variable {growth : Growth σ} {limits more : Limits}

theorem Extends.bind {short long : Exec σ α} {shortNext longNext : α → Exec σ β}
    (first : Extends growth limits more short long)
    (second : ∀ a, Extends growth limits more (shortNext a) (longNext a)) :
    Extends growth limits more (short >>= shortNext) (long >>= longNext) := by
  constructor
  · intro machine
    have grown := first.grows machine
    rw [bind_apply]
    cases done : long machine with
    | ok a middle =>
      rw [done] at grown
      exact growth.trans grown ((second a).grows middle)
    | error fault middle =>
      rw [done] at grown
      exact grown
  · intro machine extra
    have outlasts := first.outlasts machine extra
    rw [bind_apply, bind_apply]
    generalize short machine = answer, long (machine.addSteps extra) = later at outlasts
    cases outlasts with
    | ok => exact (second _).outlasts _ extra
    | error => exact .error
    | lifted isLifted grown =>
      refine .lifted isLifted ?_
      cases later with
      | ok a middle => exact growth.trans grown ((second a).grows middle)
      | error fault middle => exact grown

theorem extends_pure (a : α) : Extends growth limits more (pure a) (pure a) :=
  ⟨fun _ => growth.refl _, fun _ _ => .ok⟩

theorem extends_load (name : String) : Extends growth limits more (load name) (load name) :=
  ⟨fun _ => growth.refl _, fun _ _ => .ok⟩

theorem extends_store (name : String) (value : Int64) :
    Extends growth limits more (store name value) (store name value) := by
  constructor
  · intro machine
    change growth.Le machine.sink (machine.store name value).sink
    rw [Machine.store_sink]
    exact growth.refl _
  · intro machine extra
    simp only [store, Machine.store_addSteps]
    exact .ok

theorem extends_record (value : Int64) :
    Extends growth limits more (record value) (record value) := by
  constructor
  · intro machine
    change growth.Le machine.sink (machine.record value).sink
    rw [Machine.record_sink]
    exact growth.refl _
  · intro machine extra
    simp only [record, Machine.record_addSteps]
    exact .ok

theorem extends_put (value : Int64) : Extends growth limits more (put value) (put value) := by
  constructor
  · rintro ⟨globals, frames, stepsLeft, sink⟩
    have grown := growth.put value sink
    simp only [put]
    cases taken : Sink.put value sink with
    | mk after reason? =>
      rw [taken] at grown
      cases reason? <;> exact grown
  · rintro ⟨globals, frames, stepsLeft, sink⟩ extra
    simp only [put, Machine.addSteps, Machine.withSteps]
    cases Sink.put value sink with
    | mk after reason? =>
      cases reason? with
      | none => exact .ok
      | some reason => exact .error

theorem extends_operate (op : Operator) (a b : Int64) :
    Extends growth limits more (operate op a b) (operate op a b) := by
  constructor
  · intro machine
    simp only [operate]
    cases op.result? a b <;> exact growth.refl _
  · intro machine extra
    simp only [operate]
    cases op.result? a b with
    | none => exact .error
    | some value => exact .ok

theorem extends_stopped {long : Exec σ α} (count : Nat)
    (grows : ∀ machine, growth.Le machine.sink (finalMachine (long machine)).sink) :
    Extends growth limits more (throw (.stepLimitExceeded count)) long :=
  ⟨grows, fun machine extra => .lifted trivial (grows (machine.addSteps extra))⟩

theorem Extends.afterStep {short long : Exec σ α} (begun : Extends growth limits more short long) :
    Extends growth limits more (do step limits; short) (do step more; long) := by
  have grows : ∀ machine,
      growth.Le machine.sink (finalMachine ((do step more; long : Exec σ α) machine)).sink := by
    rintro ⟨globals, frames, stepsLeft, sink⟩
    cases stepsLeft with
    | zero => exact growth.refl sink
    | succ stepsLeft => exact begun.grows ⟨globals, frames, stepsLeft, sink⟩
  refine ⟨grows, ?_⟩
  rintro ⟨globals, frames, stepsLeft, sink⟩ extra
  cases stepsLeft with
  | zero => exact .lifted trivial (grows (Machine.addSteps extra ⟨globals, frames, 0, sink⟩))
  | succ stepsLeft =>
    have taken : (step more : Exec σ Unit)
        (Machine.addSteps extra ⟨globals, frames, stepsLeft + 1, sink⟩) =
          .ok () (Machine.addSteps extra ⟨globals, frames, stepsLeft, sink⟩) := by
      simp only [Machine.addSteps, Machine.withSteps, Nat.succ_add, step]
    rw [bind_of_ok taken]
    exact begun.outlasts ⟨globals, frames, stepsLeft, sink⟩ extra

theorem Extends.within {short long : Exec σ Unit} (frame : Frame)
    (bodies : Extends growth limits more short long) :
    Extends growth limits more (within frame short) (within frame long) := by
  constructor
  · intro machine
    have grown := bodies.grows (machine.enter frame)
    simp only [Exec.within]
    cases done : long (machine.enter frame) <;> rw [done] at grown <;> exact grown
  · intro machine extra
    have outlasts := bodies.outlasts (machine.enter frame) extra
    have entered : (machine.addSteps extra).enter frame =
        (machine.enter frame).addSteps extra := rfl
    simp only [Exec.within, entered]
    generalize short (machine.enter frame) = answer,
      long ((machine.enter frame).addSteps extra) = later at outlasts
    cases outlasts with
    | ok => exact .ok
    | error => exact .error
    | lifted isLifted grown => cases later <;> exact .lifted isLifted grown

theorem Extends.call {table : Table Stmt} {short long : Stmt → Exec σ Unit} (callee : String)
    (args : List Int64) (deeper : limits.callDepth ≤ more.callDepth)
    (bodies : ∀ stmt, Extends growth limits more (short stmt) (long stmt)) :
    Extends growth limits more (call ⟨table, limits⟩ short callee args)
      (call ⟨table, more⟩ long callee args) := by
  have entered := fun declaration : Declaration Stmt =>
    (bodies declaration.body).within { params := declaration.params.zip args }
  have grows : ∀ machine, growth.Le machine.sink
      (finalMachine (Exec.call ⟨table, more⟩ long callee args machine)).sink := by
    intro machine
    cases found : table.resolve callee args.length with
    | error fault =>
      rw [call_of_unresolved found]
      exact growth.refl _
    | ok declaration =>
      by_cases shallow : machine.frames.length < more.callDepth
      · rw [call_of_shallow found shallow]
        exact (entered declaration).grows machine
      · rw [call_of_deep found shallow]
        exact growth.refl _
  refine ⟨grows, fun machine extra => ?_⟩
  cases found : table.resolve callee args.length with
  | error fault =>
    rw [call_of_unresolved found, call_of_unresolved found]
    exact .error
  | ok declaration =>
    by_cases shallow : machine.frames.length < limits.callDepth
    · have still : (machine.addSteps extra).frames.length < more.callDepth :=
        Nat.lt_of_lt_of_le shallow deeper
      rw [call_of_shallow found shallow, call_of_shallow found still]
      exact (entered declaration).outlasts machine extra
    · rw [call_of_deep found shallow]
      rcases Nat.lt_or_eq_of_le deeper with lifted | same
      · exact .lifted lifted (grows (machine.addSteps extra))
      · have still : ¬(machine.addSteps extra).frames.length < more.callDepth := same ▸ shallow
        rw [call_of_deep found still, ← same]
        exact .error

/-- The induction is on the rounds of the longer loop. The shorter one may be out of rounds
where the longer one is not, and how that one grows is then known from one round more. -/
theorem Extends.repeatWhile {cond longCond : Exec σ Int64} {body longBody : Exec σ Unit}
    (conds : Extends growth limits more cond longCond)
    (bodies : Extends growth limits more body longBody) {times longTimes : Nat}
    (enough : times ≤ longTimes) :
    Extends growth limits more (repeatWhile limits cond body times)
      (repeatWhile more longCond longBody longTimes) := by
  induction longTimes generalizing times with
  | zero =>
    obtain rfl := Nat.le_zero.1 enough
    exact extends_stopped limits.steps fun _ => growth.refl _
  | succ longTimes ih =>
    have round : ∀ count, count ≤ longTimes →
        Extends growth limits more (Exec.repeatWhile limits cond body (count + 1))
          (Exec.repeatWhile more longCond longBody (longTimes + 1)) := by
      intro count fewer
      rw [repeatWhile_eq_bind, repeatWhile_eq_bind]
      refine conds.bind fun value => ?_
      split
      · exact extends_pure ()
      · exact bodies.bind fun _ => ih fewer
    cases times with
    | zero => exact extends_stopped limits.steps (round 0 (Nat.zero_le _)).grows
    | succ times => exact round times (Nat.le_of_succ_le_succ enough)

end Exec

open Exec

section Runs

variable [Sink σ] {growth : Growth σ} {limits more : Limits}

def Exec.extendsEval (growth : Growth σ) (limits more : Limits) : EvalCongruence Unit σ σ where
  Rel short long := Extends growth limits more (short ()) long
  pure := extends_pure
  bind start rest := start.bind rest
  load := extends_load
  operate := extends_operate

theorem Expr.extends_eval {call longCall : String → List Int64 → Exec σ Int64}
    (calls : ∀ callee args, Extends growth limits more (call callee args) (longCall callee args))
    (expr : Expr) : Extends growth limits more (expr.eval call) (expr.eval longCall) :=
  (extendsEval growth limits more).eval (fun _ => call) calls expr

theorem Stmt.extends_exec (table : Table Stmt) (deeper : limits.callDepth ≤ more.callDepth)
    {bound longBound : Nat} (enough : bound ≤ longBound) (stmt : Stmt) :
    Extends growth limits more (Stmt.exec ⟨table, limits⟩ bound stmt)
      (Stmt.exec ⟨table, more⟩ longBound stmt) := by
  induction longBound generalizing bound stmt with
  | zero =>
    obtain rfl := Nat.le_zero.1 enough
    exact extends_stopped limits.steps fun _ => growth.refl _
  | succ longBound ih =>
    have begun : ∀ inner, inner ≤ longBound →
        Extends growth limits more (Stmt.exec ⟨table, limits⟩ (inner + 1) stmt)
          (Stmt.exec ⟨table, more⟩ (longBound + 1) stmt) := by
      intro inner fewer
      have calls : ∀ callee args, Extends growth limits more
          (Exec.call ⟨table, limits⟩ (Stmt.exec ⟨table, limits⟩ inner) callee args)
          (Exec.call ⟨table, more⟩ (Stmt.exec ⟨table, more⟩ longBound) callee args) :=
        fun callee args => Extends.call callee args deeper (ih fewer)
      have eval := Expr.extends_eval calls
      rw [Stmt.exec, Stmt.exec]
      apply Extends.afterStep
      cases stmt with
      | assign target value =>
        exact (eval value).bind fun v => (extends_store target v).bind fun _ => extends_record v
      | print value =>
        exact (eval value).bind fun v => (extends_put v).bind fun _ => extends_record v
      | ifThen cond body =>
        refine (eval cond).bind fun v => ?_
        split
        · exact extends_pure ()
        · exact ih fewer body
      | ifElse cond body other =>
        refine (eval cond).bind fun v => ?_
        split
        · exact ih fewer other
        · exact ih fewer body
      | loop cond body => exact (eval cond).repeatWhile (ih fewer body) (Nat.succ_le_succ fewer)
      | function name params body => exact extends_pure ()
    cases bound with
    | zero => exact extends_stopped limits.steps (begun 0 (Nat.zero_le _)).grows
    | succ bound => exact begun bound (Nat.le_of_succ_le_succ enough)

theorem Stmt.extends_execAll (table : Table Stmt) (deeper : limits.callDepth ≤ more.callDepth)
    {bound longBound : Nat} (enough : bound ≤ longBound) (stmts : List Stmt) :
    Extends growth limits more (Stmt.execAll ⟨table, limits⟩ bound stmts)
      (Stmt.execAll ⟨table, more⟩ longBound stmts) := by
  induction stmts with
  | nil => exact extends_pure ()
  | cons stmt stmts ih => exact (Stmt.extends_exec table deeper enough stmt).bind fun _ => ih

theorem Linked.run_extends (growth : Growth σ) (linked : Linked)
    (longer : limits.steps ≤ more.steps) (deeper : limits.callDepth ≤ more.callDepth) (sink : σ) :
    linked.run more sink = linked.run limits sink ∨
      (∃ fault, (linked.run limits sink).1 = .error fault ∧ fault.Lifted limits more) ∧
        growth.Le (linked.run limits sink).2 (linked.run more sink).2 := by
  obtain ⟨extra, total⟩ := Nat.le.dest longer
  have extended : Extends growth limits more _ _ :=
    Stmt.extends_execAll linked.table deeper longer linked.program.statements
  have outlasts := extended.outlasts { stepsLeft := limits.steps, sink } extra
  have start : Machine.addSteps extra ({ stepsLeft := limits.steps, sink } : Machine σ) =
      { stepsLeft := more.steps, sink } := by
    simp only [Machine.addSteps, Machine.withSteps, total]
  rw [start] at outlasts
  rw [run, run]
  generalize (Stmt.execAll ⟨linked.table, limits⟩ limits.steps linked.program.statements
      { stepsLeft := limits.steps, sink } : Answer σ Unit) = answer,
    (Stmt.execAll ⟨linked.table, more⟩ more.steps linked.program.statements
      { stepsLeft := more.steps, sink } : Answer σ Unit) = later at outlasts
  cases outlasts with
  | ok => exact .inl rfl
  | error => exact .inl rfl
  | lifted isLifted grown => cases later <;> exact .inr ⟨⟨_, rfl, isLifted⟩, grown⟩

theorem Tree.run_extends (growth : Growth σ) (tree : Tree) (longer : limits.steps ≤ more.steps)
    (deeper : limits.callDepth ≤ more.callDepth) (sink : σ) :
    tree.run more sink = tree.run limits sink ∨
      (∃ fault, (tree.run limits sink).1 = .error fault ∧ fault.Lifted limits more) ∧
        growth.Le (tree.run limits sink).2 (tree.run more sink).2 := by
  rw [run, run]
  cases Linked.ofTree tree with
  | error fault => exact .inl rfl
  | ok linked => exact linked.run_extends growth longer deeper sink

end Runs

def Writer.growth : Growth Writer where
  Le first second := ∃ added, second.kept = first.kept ++ added
  refl writer := ⟨"", String.append_empty.symm⟩
  trans := by
    rintro first second third ⟨a, below⟩ ⟨b, above⟩
    exact ⟨a ++ b, by rw [above, below, String.append_assoc]⟩
  put := by
    intro value writer
    change ∃ added, (Writer.put value writer).1.kept = writer.kept ++ added
    unfold Writer.put
    dsimp only
    split
    · exact ⟨_, rfl⟩
    · split <;> exact ⟨_, rfl⟩

namespace Tree

variable {limits more : Limits} {tree : Tree} {writer : Writer}

theorem write_kept (limits : Limits) :
    (tree.write limits writer).2.kept = (tree.run limits writer).2.kept := by
  rw [write]
  rcases tree.run limits writer with ⟨_ | ⟨⟩, kept, room?, whenFull, flushFault?, flushes⟩
  · rfl
  · cases flushFault? <;> rfl

theorem write_of_error {fault : RunError} (failed : (tree.run limits writer).1 = .error fault) :
    (tree.write limits writer).1 = .error fault := by
  rw [write]
  split
  · rename_i ran
    rw [ran] at failed
    cases failed
  · rename_i ran
    rw [ran] at failed
    exact failed

theorem write_extends (longer : limits.steps ≤ more.steps)
    (deeper : limits.callDepth ≤ more.callDepth) :
    tree.write more writer = tree.write limits writer ∨
      (∃ fault, (tree.write limits writer).1 = .error fault ∧ fault.Lifted limits more) ∧
        ∃ added, (tree.write more writer).2.kept = (tree.write limits writer).2.kept ++ added := by
  rcases tree.run_extends Writer.growth longer deeper writer with
    same | ⟨⟨fault, failed, lifted⟩, grown⟩
  · exact .inl (by rw [write, write, same])
  · rw [write_kept, write_kept]
    exact .inr ⟨⟨fault, write_of_error failed, lifted⟩, grown⟩

def enoughSteps (tree : Tree) (writer : Writer) (depth : Nat) : Set Nat :=
  { steps | ∀ n, (tree.write ⟨steps, depth⟩ writer).1 ≠ .error (.stepLimitExceeded n) }

/-- Limits only cut runs short. What a run does that ends for a reason of its own, it does
under all larger limits; and what a run has written that was cut short is the beginning of
what is written under larger limits. For a depth of calls, the numbers of steps that are enough
are all those from some number on, and they all give the same ending and the same text. -/
theorem write_under_larger_limits (tree : Tree) (writer : Writer) :
    (∀ limits more : Limits, limits.steps ≤ more.steps → limits.callDepth ≤ more.callDepth →
      ((∀ fault, (tree.write limits writer).1 = .error fault → fault.isLimit = false) →
        tree.write more writer = tree.write limits writer) ∧
      ∃ added, (tree.write more writer).2.kept = (tree.write limits writer).2.kept ++ added) ∧
    ∀ depth, IsUpperSet (tree.enoughSteps writer depth) ∧
      ∀ a ∈ tree.enoughSteps writer depth, ∀ b ∈ tree.enoughSteps writer depth,
        tree.write ⟨a, depth⟩ writer = tree.write ⟨b, depth⟩ writer := by
  refine ⟨fun limits more longer deeper => ⟨fun own => ?_, ?_⟩, fun depth => ?_⟩
  · rcases write_extends longer deeper with same | ⟨⟨fault, failed, lifted⟩, -⟩
    · exact same
    · have limit := RunError.isLimit_of_lifted lifted
      rw [own fault failed] at limit
      cases limit
  · rcases write_extends longer deeper with same | ⟨-, grown⟩
    · exact ⟨"", by rw [same, String.append_empty]⟩
    · exact grown
  · have stable : ∀ a b, a ≤ b → a ∈ tree.enoughSteps writer depth →
        tree.write ⟨b, depth⟩ writer = tree.write ⟨a, depth⟩ writer := by
      intro a b longer isEnough
      have extended : tree.write ⟨b, depth⟩ writer = tree.write ⟨a, depth⟩ writer ∨ _ :=
        write_extends longer (Nat.le_refl depth)
      rcases extended with same | ⟨⟨fault, failed, lifted⟩, -⟩
      · exact same
      · obtain ⟨limit, rfl⟩ := RunError.eq_stepLimitExceeded_of_lifted rfl lifted
        exact absurd failed (isEnough limit)
    refine ⟨fun a b longer isEnough n => ?_, fun a isEnough b alsoEnough => ?_⟩
    · rw [stable a b longer isEnough]
      exact isEnough n
    · rcases Nat.le_total a b with longer | longer
      · exact (stable a b longer isEnough).symm
      · exact stable b a longer alsoEnough

/-- A program that prints on and on is cut short after its first line or its second; one that
prints a single value is not cut short, and does the same under larger limits. -/
theorem write_under_larger_limits_printing :
    let endless : Tree := .program [.loop (.num "1") (.print (.num "1"))]
    let single : Tree := .program [.print (.num "1")]
    (endless.write ⟨2, 0⟩ {}).2.kept = "1\n" ∧
      (∃ added, (endless.write ⟨3, 5⟩ {}).2.kept = "1\n" ++ added) ∧
      single.write ⟨7, 1⟩ {} = single.write ⟨1, 0⟩ {} ∧
      single.write ⟨2, 0⟩ {} = single.write ⟨1, 0⟩ {} := by
  intro endless single
  have cut : (endless.write ⟨2, 0⟩ {}).2.kept = "1\n" := rfl
  have ended : ∀ fault, (single.write ⟨1, 0⟩ {}).1 = .error fault → fault.isLimit = false := by
    intro fault failed
    cases failed
  have enough : 1 ∈ single.enoughSteps {} 0 ∧ 2 ∈ single.enoughSteps {} 0 :=
    ⟨fun n failed => (by cases failed), fun n failed => (by cases failed)⟩
  refine ⟨cut, ?_, ?_, ?_⟩
  · have grown := ((write_under_larger_limits endless {}).1 ⟨2, 0⟩ ⟨3, 5⟩ (by decide) (by decide)).2
    rwa [cut] at grown
  · exact ((write_under_larger_limits single {}).1 ⟨1, 0⟩ ⟨7, 1⟩ (by decide) (by decide)).1 ended
  · exact ((write_under_larger_limits single {}).2 0).2 2 enough.2 1 enough.1

end Tree

end ImpToC
